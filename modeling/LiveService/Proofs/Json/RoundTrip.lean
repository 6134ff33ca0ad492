import LiveService.Json.Document
import LiveService.Json.Record
import LiveService.Proofs.Json.Document

/-!
Values that are read back from their own documents.  Codecs that restore what they write are put together
to records that do, whatever the order in which the members would come.
-/

namespace LiveService

open Json

namespace Json

def Members.ofEntries : List (Literal × Node) → Members
  | [] => .close
  | (key, node) :: rest => .member key node (ofEntries rest)

def entriesOf (members : List (String × Json)) : List (Literal × Node) :=
  members.map fun (key, value) => (literalOf key, value.node)

theorem membersOf_eq (members : List (String × Json)) : membersOf members = .ofEntries (entriesOf members) := by
  induction members with
  | nil => rfl
  | cons member members ih =>
    rw [membersOf, ih]
    rfl

end Json

namespace Codec

variable {Value Other : Type} {codec : Codec Value} {nesting : Nat} {value : Value}

/-- A value is read off the document that was written for it, where so many levels may be nested. -/
structure Restores (codec : Codec Value) (nesting : Nat) (value : Value) : Prop where
  floatFree : (codec.write value).isFloatFree = true
  read : ∀ room, nesting ≤ room → codec.read room (codec.write value).node = .ok value

theorem Restores.decode_encode (restores : codec.Restores nesting value)
    (shallow : nesting ≤ nestingLimit) : codec.decode (codec.encode value) = .ok value := by
  simp only [decode, encode, readNode_fileText restores.floatFree,
    restores.read nestingLimit shallow]
  rfl

theorem Restores.mono {more : Nat} (restores : codec.Restores nesting value) (le : nesting ≤ more) :
    codec.Restores more value where
  floatFree := restores.floatFree
  read room enough := restores.read room (Nat.le_trans le enough)

/-- What is read off a document does not depend on how it is spelled. -/
theorem decode_of_spells {node : Node} {octets after : Bytes} (spelled : Spells node octets)
    (closes : IsGap after) (read : codec.read nestingLimit node = .ok value) :
    codec.decode (octets ++ after) = .ok value := by
  have blank : skipSpace after = [] := by
    rw [← List.append_nil after, skipSpace_append closes]
    rfl
  simp only [decode, readNode_of_spells spelled closes, read, blank]
  rfl

theorem read_of_decode {octets : Bytes} (decoded : codec.decode octets = .ok value) :
    codec.read nestingLimit (readNode octets).1 = .ok value := by
  simp only [decode] at decoded
  split at decoded
  · cases decoded
  · rename_i read
    split at decoded
    · cases decoded
    · split at decoded
      · cases decoded
        exact read
      · cases decoded

theorem solid_of_decode {octets : Bytes} (decoded : codec.decode octets = .ok value) :
    octets.all Text.isAsciiBlank = false := by
  cases blank : octets.all Text.isAsciiBlank with
  | false => rfl
  | true =>
    obtain ⟨node, fault, read⟩ := readNode_blank blank
    simp only [decode, read] at decoded
    split at decoded <;> cases decoded

theorem restores_text (value : String) : text.Restores nesting value where
  floatFree := rfl
  read _ _ := text_literalOf value

theorem restores_flag (value : Bool) : flag.Restores nesting value where
  floatFree := rfl
  read _ _ := rfl

theorem readRange_numeralOf (expected : String) {least greatest value : Int}
    (word : isWord value = true) (above : least ≤ value) (below : value ≤ greatest) :
    readRange expected least greatest (.number (numeralOf value)) = .ok value := by
  simp [readRange, Numeral.read, number?_numeralOf word, above, below]

theorem isWord_natCast (value : Nat) (bound : value < UInt64.size) : isWord value = true := by
  simp only [isWord, Bool.and_eq_true, decide_eq_true_eq]
  omega

theorem restores_word32 (value : UInt32) : word32.Restores nesting value where
  floatFree := rfl
  read room _ := by
    have bound : value.toNat < UInt32.size := value.toNat_lt
    have fits : UInt32.size ≤ UInt64.size := by decide
    have read : readRange "u32" 0 (UInt32.size - 1) (.number (numeralOf value.toNat)) =
        .ok value.toNat :=
      readRange_numeralOf "u32" (isWord_natCast _ (by omega)) (by omega) (by omega)
    simp only [word32, Json.integer, node, numberNode, read, Except.map, Int.toNat_natCast,
      UInt32.ofNat_toNat, Nat.toUInt32_eq]

theorem restores_word64 (value : UInt64) : word64.Restores nesting value where
  floatFree := rfl
  read room _ := by
    have bound : value.toNat < UInt64.size := value.toNat_lt
    have read : readRange "u64" 0 (UInt64.size - 1) (.number (numeralOf value.toNat)) =
        .ok value.toNat :=
      readRange_numeralOf "u64" (isWord_natCast _ bound) (by omega) (by omega)
    simp only [word64, Json.integer, node, numberNode, read, Except.map, Int.toNat_natCast,
      UInt64.ofNat_toNat, Nat.toUInt64_eq]

theorem restores_signed64 (value : Int64) : signed64.Restores nesting value where
  floatFree := rfl
  read room _ := by
    have above := value.minValue_le_toInt
    have below := value.toInt_le
    have word : isWord value.toInt = true := by
      have least : Int64.minValue.toInt = -(UInt64.size / 2 : Nat) := by decide
      have greatest : Int64.maxValue.toInt < UInt64.size := by decide
      simp only [isWord, Bool.and_eq_true, decide_eq_true_eq]
      omega
    have read : readRange "i64" Int64.minValue.toInt Int64.maxValue.toInt
        (.number (numeralOf value.toInt)) = .ok value.toInt :=
      readRange_numeralOf "i64" word above below
    simp only [signed64, Json.integer, node, numberNode, read, Except.map, Int64.ofInt_toInt]

theorem restores_none : codec.optional.Restores nesting none where
  floatFree := rfl
  read _ _ := rfl

theorem node_ne_null {json : Json} (floatFree : json.isFloatFree = true)
    (present : json ≠ .null) : json.node ≠ .null := by
  cases json with
  | null => exact absurd rfl present
  | number number =>
    cases number with
    | integer value => exact fun equal => Node.noConfusion equal
    | float value => exact absurd floatFree (by simp [isFloatFree])
  | _ => exact fun equal => Node.noConfusion equal

theorem Restores.some (restores : codec.Restores nesting value)
    (present : codec.write value ≠ .null) : codec.optional.Restores nesting (some value) where
  floatFree := restores.floatFree
  read room enough := by
    have solid := node_ne_null restores.floatFree present
    simp only [optional]
    rw [restores.read room enough]
    rfl

theorem Restores.along {into : Value → Other} {back : Other → Value} {other : Other}
    (restores : codec.Restores nesting (back other)) (whole : into (back other) = other) :
    (codec.along into back).Restores nesting other where
  floatFree := restores.floatFree
  read room enough := by
    simp only [Codec.along, restores.read room enough, Except.map, whole]

theorem restores_choice {word : Value → String} {values : List Value}
    (found : values.find? (fun other => word other == word value) = Option.some value) :
    (choice word values).Restores nesting value where
  floatFree := rfl
  read room _ := by
    simp only [choice, node, text_literalOf, found]

end Codec

namespace Field

variable {Value : Type} {nesting : Nat} {value : Value}

structure Restores (field : Field Value) (nesting : Nat) (value : Value) : Prop where
  codec : field.codec.Restores nesting value
  hidden : field.shown value = false → field.whenMissing = some value

theorem restores_required (name : String) {codec : Codec Value}
    (restores : codec.Restores nesting value) : (required name codec).Restores nesting value where
  codec := restores
  hidden hidden := Bool.noConfusion hidden

theorem restores_withDefault (name : String) (standard : Value) {codec : Codec Value}
    (restores : codec.Restores nesting value) :
    (withDefault name codec standard).Restores nesting value where
  codec := restores
  hidden hidden := Bool.noConfusion hidden

theorem restores_optional (name : String) {codec : Codec Value} {value : Option Value}
    (restores : codec.optional.Restores nesting value) :
    (Field.optional name codec).Restores nesting value where
  codec := restores
  hidden hidden := Bool.noConfusion hidden

theorem restores_whenPresent (name : String) {codec : Codec Value} {value : Option Value}
    (restores : codec.optional.Restores nesting value) :
    (whenPresent name codec).Restores nesting value where
  codec := restores
  hidden hidden := by
    cases value with
    | none => rfl
    | some value => cases hidden

end Field

namespace Fields

variable {Value Values Held : Type} {nesting : Nat}

def names {Values Held : Type} : Fields Values Held → List String
  | .nil => []
  | .cons field rest => field.name :: rest.names

inductive Restores (nesting : Nat) : {Values Held : Type} → Fields Values Held → Values → Prop where
  | nil : Restores nesting .nil ()
  | cons {Value Values Held : Type} {field : Field Value} {rest : Fields Values Held} {value : Value}
      {values : Values} (head : field.Restores nesting value) (fresh : field.name ∉ rest.names)
      (tail : Restores nesting rest values) : Restores nesting (.cons field rest) (value, values)

theorem mem_names_of_mem_write {Values Held : Type} {key : String} {json : Json} :
    ∀ (fields : Fields Values Held) (values : Values), (key, json) ∈ fields.write values →
      key ∈ fields.names
  | .nil, _, member => absurd member List.not_mem_nil
  | .cons field rest, (value, values), member => by
    rw [write] at member
    split at member
    · rcases List.mem_cons.mp member with head | tail
      · rw [(Prod.mk.inj head).1]
        exact List.mem_cons_self
      · exact List.mem_cons_of_mem _ (mem_names_of_mem_write rest values tail)
    · exact List.mem_cons_of_mem _ (mem_names_of_mem_write rest values member)

theorem readMembers_past (field : Field Value) (rest : Fields Values Held) (room : Nat)
    {value : Option Value} {got : Value} {later remaining : List (Literal × Node)}
    (after : ∀ held, (Fields.cons field rest).readMembers room (value, held) (.ofEntries later) =
      (rest.readMembers room held (.ofEntries remaining)).map fun values => (got, values))
    {front : List (Literal × Node)} (others : ∀ entry ∈ front, entry.1.text ≠ .ok field.name)
    (held : Held) :
    (Fields.cons field rest).readMembers room (value, held) (.ofEntries (front ++ later)) =
      (rest.readMembers room held (.ofEntries (front ++ remaining))).map fun values => (got, values) := by
  induction front generalizing held with
  | nil => exact after held
  | cons entry front ih =>
    obtain ⟨key, node⟩ := entry
    obtain ⟨other, others⟩ := List.forall_mem_cons.mp others
    simp only [List.cons_append, Members.ofEntries, readMembers]
    cases spelled : key.text with
    | error error => rfl
    | ok name =>
      have different : field.name ≠ name := by
        rintro rfl
        exact other spelled
      simp only [put, different, if_false]
      cases rest.put room name node held with
      | error error => rfl
      | ok held => exact ih others held

theorem readMembers_cons (field : Field Value) (rest : Fields Values Held) (room : Nat)
    {value : Option Value} {held : Held} {got : Value}
    (given : value.or field.whenMissing = some got) {entries : List (Literal × Node)}
    (others : ∀ entry ∈ entries, entry.1.text ≠ .ok field.name) :
    (Fields.cons field rest).readMembers room (value, held) (.ofEntries entries) =
      (rest.readMembers room held (.ofEntries entries)).map fun values => (got, values) := by
  have closed (held : Held) : (Fields.cons field rest).readMembers room (value, held) (.ofEntries []) =
      (rest.readMembers room held (.ofEntries [])).map fun values => (got, values) := by
    simp only [Members.ofEntries, readMembers, finish, given]
  simpa only [List.append_nil] using readMembers_past field rest room closed others held

/-- The members of a written record are read into the fields that they were written from. -/
theorem Restores.readMembers {fields : Fields Values Held} {values : Values}
    (restores : fields.Restores nesting values) {room : Nat} (enough : nesting ≤ room) :
    fields.readMembers room fields.start (membersOf (fields.write values)) = .ok values := by
  induction restores with
  | nil => rfl
  | @cons Value Values Held field rest value values head fresh tail ih =>
    have others : ∀ entry ∈ entriesOf (rest.write values), entry.1.text ≠ .ok field.name := by
      intro entry member same
      obtain ⟨⟨key, json⟩, written, rfl⟩ := List.mem_map.mp member
      rw [text_literalOf] at same
      cases same
      exact fresh (mem_names_of_mem_write rest values written)
    cases shown : field.shown value with
    | false =>
      have missing : none.or field.whenMissing = some value := head.hidden shown
      simp only [write, shown, start]
      rw [if_neg Bool.false_ne_true, membersOf_eq, readMembers_cons field rest room missing others,
        ← membersOf_eq, ih]
      rfl
    | true =>
      have read := head.codec.read room enough
      simp only [write, shown, start, if_true, membersOf, Fields.readMembers, text_literalOf, put,
        Option.isSome_none, Bool.false_eq_true, if_false, read, Except.map]
      rw [membersOf_eq, readMembers_cons field rest room rfl others, ← membersOf_eq, ih]
      rfl

theorem Restores.haveFloatFree {fields : Fields Values Held} {values : Values}
    (restores : fields.Restores nesting values) :
    haveFloatFree (fields.write values) = true := by
  induction restores with
  | nil => rfl
  | @cons Value Values Held field rest value values head fresh tail ih =>
    rw [write]
    split
    · rw [Json.haveFloatFree, head.codec.floatFree, ih]
      rfl
    · exact ih

end Fields

namespace Codec

variable {Values Held : Type} {nesting : Nat}

theorem restores_record (name : String) {fields : Fields Values Held} {values : Values}
    (restores : fields.Restores nesting values) :
    (record name fields).Restores (nesting + 1) values where
  floatFree := restores.haveFloatFree
  read room enough := by
    cases room with
    | zero => exact absurd enough (by omega)
    | succ room => exact restores.readMembers (Nat.le_of_succ_le_succ enough)

end Codec

end LiveService
