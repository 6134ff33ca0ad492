import LiveService.Proofs.Json.RoundTrip
import LiveService.Proofs.Json.Torn

/-!
Torn documents of typed values.  Whoever reads one has nothing to say about it but that it ends too early,
except that the first digits of a number may pass for a number.
-/

namespace LiveService

open Json

theorem Json.Torn.ne_null {json : Json} {node : Node} (torn : Torn json node) : node ≠ .null := by
  rintro rfl
  cases torn

namespace Codec

variable {Value Other : Type} {codec : Codec Value} {nesting : Nat} {value : Value}

def MissesEnd (codec : Codec Value) (nesting : Nat) (value : Value) : Prop :=
  ∀ room node, nesting ≤ room → Torn (codec.write value) node →
    codec.read room node = .error .truncated

/-- A torn document of the value is either not taken for any value, or for another one. -/
def OnlyMissesEnd (codec : Codec Value) (nesting : Nat) (value : Value) : Prop :=
  ∀ room node, nesting ≤ room → Torn (codec.write value) node →
    codec.read room node = .error .truncated ∨ ∃ other, codec.read room node = .ok other

theorem MissesEnd.only (misses : codec.MissesEnd nesting value) : codec.OnlyMissesEnd nesting value :=
  fun room node enough torn => .inl (misses room node enough torn)

theorem MissesEnd.along {into : Value → Other} {back : Other → Value} {other : Other}
    (misses : codec.MissesEnd nesting (back other)) :
    (codec.along into back).MissesEnd nesting other := by
  intro room node enough torn
  simp only [Codec.along, misses room node enough torn, Except.map]

theorem missesEnd_text (value : String) : text.MissesEnd nesting value := by
  intro room node _ torn
  have torn : Torn (.text value) node := torn
  cases torn with
  | absent => rfl
  | text _ octets => exact text_tornLiteral octets

theorem missesEnd_flag (value : Bool) : flag.MissesEnd nesting value := by
  intro room node _ torn
  have torn : Torn (.bool value) node := torn
  cases torn with
  | absent => rfl
  | bool => rfl

theorem readRange_torn (expected : String) {greatest : Int} {value : Nat} {node : Node}
    (word : isWord value = true) (below : value ≤ greatest)
    (torn : Torn (.number (.integer value)) node) :
    readRange expected 0 greatest node = .error .truncated ∨
      ∃ other, readRange expected 0 greatest node = .ok other := by
  cases torn with
  | absent => exact .inl rfl
  | sign negative => exact .inl rfl
  | @number _ shorter between =>
    have natural : 0 ≤ shorter ∧ shorter ≤ value := by omega
    have shorterWord : isWord shorter = true := by
      simp only [isWord, Bool.and_eq_true, decide_eq_true_eq] at word ⊢
      omega
    exact .inr ⟨shorter, readRange_numeralOf expected shorterWord natural.1 (by omega)⟩

theorem onlyMissesEnd_word32 (value : UInt32) : word32.OnlyMissesEnd nesting value := by
  intro room node _ torn
  have bound : value.toNat < UInt32.size := value.toNat_lt
  have fits : UInt32.size ≤ UInt64.size := by decide
  have read := readRange_torn "u32" (isWord_natCast value.toNat (by omega))
    (by omega : (value.toNat : Int) ≤ UInt32.size - 1) torn
  rcases read with read | ⟨other, read⟩
  · exact .inl (by simp only [word32, read, Except.map])
  · exact .inr ⟨_, by simp only [word32, read, Except.map]; rfl⟩

theorem onlyMissesEnd_word64 (value : UInt64) : word64.OnlyMissesEnd nesting value := by
  intro room node _ torn
  have bound : value.toNat < UInt64.size := value.toNat_lt
  have read := readRange_torn "u64" (isWord_natCast value.toNat bound)
    (by omega : (value.toNat : Int) ≤ UInt64.size - 1) torn
  rcases read with read | ⟨other, read⟩
  · exact .inl (by simp only [word64, read, Except.map])
  · exact .inr ⟨_, by simp only [word64, read, Except.map]; rfl⟩

theorem missesEnd_choice (word : Value → String) (values : List Value) (value : Value) :
    (choice word values).MissesEnd nesting value := by
  intro room node _ torn
  have torn : Torn (.text (word value)) node := torn
  cases torn with
  | absent => rfl
  | text _ octets => simp only [choice, text_tornLiteral]

theorem MissesEnd.some (misses : codec.MissesEnd nesting value) :
    codec.optional.MissesEnd nesting (some value) := by
  intro room node enough torn
  have read := misses room node enough torn
  simp only [optional]
  split
  · exact absurd rfl torn.ne_null
  · rw [read]
    rfl

theorem missesEnd_none
    (blind : ∀ room, codec.read room .absent = .error .truncated ∧
      codec.read room (.broken .truncated) = .error .truncated) :
    codec.optional.MissesEnd nesting none := by
  intro room node _ torn
  have torn : Torn .null node := torn
  cases torn with
  | absent => simp only [optional, (blind room).1, Except.map]
  | null => simp only [optional, (blind room).2, Except.map]

end Codec

namespace Fields

variable {Value Values Held : Type} {nesting : Nat}

inductive OnlyMissEnd (nesting : Nat) :
    {Values Held : Type} → Fields Values Held → Values → Prop where
  | nil : OnlyMissEnd nesting .nil ()
  | cons {Value Values Held : Type} {field : Field Value} {rest : Fields Values Held} {value : Value}
      {values : Values} (whole : field.codec.Restores nesting value)
      (torn : field.codec.OnlyMissesEnd nesting value) (fresh : field.name ∉ rest.names)
      (tail : OnlyMissEnd nesting rest values) : OnlyMissEnd nesting (.cons field rest) (value, values)

theorem readMembers_torn_cons (field : Field Value) (rest : Fields Values Held) (room : Nat)
    (value : Option Value) {held : Held} {members : List (String × Json)} {read : Members}
    (others : ∀ key json, (key, json) ∈ members → field.name ≠ key) (torn : TornMembers members read)
    (early : rest.readMembers room held read = .error .truncated) :
    (Fields.cons field rest).readMembers room (value, held) read = .error .truncated := by
  induction members generalizing held read with
  | nil =>
    cases torn with
    | here => rfl
    | comma => rfl
  | cons member members ih =>
    obtain ⟨key, json⟩ := member
    have other : field.name ≠ key := others key json List.mem_cons_self
    have later : ∀ key json, (key, json) ∈ members → field.name ≠ key :=
      fun key json present => others key json (List.mem_cons_of_mem _ present)
    cases torn with
    | here => rfl
    | comma => rfl
    | key octets => simp only [readMembers, text_tornLiteral]
    | @inside _ _ _ node torn =>
      simp only [readMembers, text_literalOf, put, other, if_false] at early ⊢
      cases taken : rest.put room key node held with
      | error error =>
        rw [taken] at early
        cases early
        rfl
      | ok held => rfl
    | later torn =>
      simp only [readMembers, text_literalOf, put, other, if_false] at early ⊢
      cases taken : rest.put room key json.node held with
      | error error =>
        rw [taken] at early
        cases early
        rfl
      | ok held =>
        simp only [taken] at early
        exact ih later torn early

theorem OnlyMissEnd.readMembers {fields : Fields Values Held} {values : Values}
    (misses : fields.OnlyMissEnd nesting values) {room : Nat} (enough : nesting ≤ room)
    {read : Members} (torn : TornMembers (fields.write values) read) :
    fields.readMembers room fields.start read = .error .truncated := by
  induction misses generalizing read with
  | nil =>
    cases torn with
    | here => rfl
    | comma => rfl
  | @cons Value Values Held field rest value values whole cut fresh tail ih =>
    have others : ∀ key json, (key, json) ∈ rest.write values → field.name ≠ key := by
      intro key json member same
      exact fresh (same ▸ mem_names_of_mem_write rest values member)
    rw [write] at torn
    split at torn
    · cases torn with
      | here => rfl
      | comma => rfl
      | key octets => simp only [Fields.readMembers, text_tornLiteral]
      | @inside _ _ _ node torn =>
        simp only [Fields.readMembers, text_literalOf, start, put, if_true, Option.isSome_none,
          Bool.false_eq_true, if_false]
        rcases cut room node enough torn with early | ⟨other, read⟩
        · simp only [early, Except.map]
        · simp only [read, Except.map]
          rfl
      | later torn =>
        simp only [Fields.readMembers, text_literalOf, start, put, if_true, Option.isSome_none,
          Bool.false_eq_true, if_false, whole.read room enough, Except.map]
        exact readMembers_torn_cons field rest room _ others torn (ih torn)
    · exact readMembers_torn_cons field rest room none others torn (ih torn)

end Fields

namespace Codec

variable {Value Values Held : Type} {nesting : Nat}

theorem missesEnd_record (name : String) {fields : Fields Values Held} {values : Values}
    (misses : fields.OnlyMissEnd nesting values) :
    (record name fields).MissesEnd (nesting + 1) values := by
  intro room node enough torn
  have torn : Torn (.object (fields.write values)) node := torn
  cases torn with
  | absent => cases room <;> rfl
  | object members =>
    cases room with
    | zero => exact absurd enough (by omega)
    | succ room => exact misses.readMembers (Nat.le_of_succ_le_succ enough) members

/-- The file of a value, cut somewhere before its last line break. -/
structure IsTorn (codec : Codec Value) (value : Value) (content : Bytes) : Prop where
  front : content <+: codec.encode value
  notWhole : content ≠ codec.encode value
  notAllButLast : content ++ [0x0a] ≠ codec.encode value

variable {codec : Codec Value} {value : Value} {content : Bytes}

theorem IsTorn.short (torn : codec.IsTorn value content) :
    content <+: Json.write .indented 0 (codec.write value) ∧
      content.length < (Json.write .indented 0 (codec.write value)).length := by
  have front := torn.front
  rw [encode, fileText, List.prefix_concat_iff] at front
  rcases front with whole | front
  · exact absurd whole torn.notWhole
  · refine ⟨front, Nat.lt_of_le_of_ne front.length_le ?_⟩
    intro same
    apply torn.notAllButLast
    rw [front.eq_of_length same]
    rfl

theorem MissesEnd.decode_torn (misses : codec.MissesEnd nesting value)
    (shallow : nesting ≤ nestingLimit) (floatFree : (codec.write value).isFloatFree = true)
    (torn : codec.IsTorn value content) : codec.decode content = .error .truncated := by
  obtain ⟨front, short⟩ := torn.short
  have read := readNode_torn floatFree front short
  simp only [decode, misses nestingLimit _ shallow read.1]

end Codec

end LiveService
