import LiveService.Proofs.Json.Document

/-!
Documents that break off.  Wherever the text of a document without numbers of double precision is cut, its
tokens are read up to the cut, and nothing is wrong with them but that they end.
-/

namespace LiveService.Json

theorem prefix_append_cases {part first second : Bytes} (front : part <+: first ++ second) :
    (part <+: first ∧ part.length < first.length) ∨
      ∃ later, part = first ++ later ∧ later <+: second := by
  by_cases short : part.length < first.length
  · have within := List.prefix_of_prefix_length_le front (List.prefix_append first second)
      (Nat.le_of_lt short)
    exact .inl ⟨within, short⟩
  · have covered := List.prefix_of_prefix_length_le (List.prefix_append first second) front
      (Nat.le_of_not_lt short)
    obtain ⟨later, rfl⟩ := covered
    exact .inr ⟨later, rfl, (List.prefix_append_right_inj first).mp front⟩

def tornLiteral (octets : Bytes) : Literal := ⟨octets.map pieceOf, some .truncated⟩

theorem text_tornLiteral (octets : Bytes) : (tornLiteral octets).text = .error .truncated := by
  simp only [tornLiteral, Literal.text, spell_map_pieceOf, DocumentError.ofFault]

theorem scanLiteral_torn_unit {part : Bytes} (short : part.length < 4) :
    scanLiteral (0x5c :: 0x75 :: part) = (tornLiteral [], .error .truncated) := by
  match part, short with
  | [], _ => rfl
  | [_], _ => rfl
  | [_, _], _ => rfl
  | [_, _, _], _ => rfl
  | _ :: _ :: _ :: _ :: _, short =>
    simp only [List.length_cons] at short
    omega

theorem scanLiteral_torn_escape {octet : UInt8} {part : Bytes} (front : part <+: escaped octet)
    (short : part.length < (escaped octet).length) :
    scanLiteral part = (tornLiteral [], .error .truncated) := by
  rcases escaped_cases octet with ⟨plain, _⟩ | ⟨letter, pair, _⟩ | ⟨_, _, _, _, numbered, _⟩
  · rw [plain, List.length_singleton, Nat.lt_one_iff] at short
    rw [List.eq_nil_of_length_eq_zero short]
    rfl
  · rw [pair] at front short
    rcases List.prefix_cons_iff.mp front with rfl | ⟨later, rfl, _⟩
    · rfl
    · have nothing : later = [] := by
        apply List.eq_nil_of_length_eq_zero
        simp only [List.length_cons, List.length_nil] at short
        omega
      rw [nothing]
      rfl
  · rw [numbered] at front short
    rcases List.prefix_cons_iff.mp front with rfl | ⟨later, rfl, further⟩
    · rfl
    · rcases List.prefix_cons_iff.mp further with rfl | ⟨digits, rfl, _⟩
      · rfl
      · apply scanLiteral_torn_unit
        simp only [List.length_cons, List.length_nil] at short
        omega

theorem scanLiteral_torn {octets part : Bytes} (front : part <+: octets.flatMap escaped) :
    ∃ read, scanLiteral part = (tornLiteral read, .error .truncated) := by
  induction octets generalizing part with
  | nil =>
    rw [List.prefix_nil.mp front]
    exact ⟨[], rfl⟩
  | cons octet octets ih =>
    rw [List.flatMap_cons] at front
    rcases prefix_append_cases front with ⟨within, short⟩ | ⟨later, rfl, further⟩
    · exact ⟨[], scanLiteral_torn_escape within short⟩
    · obtain ⟨read, scanned⟩ := ih further
      refine ⟨octet :: read, ?_⟩
      rw [scanLiteral_escaped, scanned]
      rfl

theorem exists_digits_of_isPrefix {value : Nat} {part : Bytes} (front : part <+: digits value)
    (nonempty : part ≠ []) :
    ∃ shorter, part = digits shorter ∧ shorter ≤ value ∧ (0 < value → 0 < shorter) := by
  induction value using Nat.strongRecOn with
  | ind value ih =>
    by_cases small : value < 10
    · have whole : part = digits value := by
        apply front.eq_of_length_le
        rw [digits, Nat.toDigits_of_lt_base small]
        exact List.length_pos_iff.mpr nonempty
      exact ⟨value, whole, Nat.le_refl value, id⟩
    · rw [digits_append (Nat.not_lt.mp small), List.prefix_concat_iff] at front
      rcases front with whole | front
      · exact ⟨value, whole.trans (digits_append (Nat.not_lt.mp small)).symm, Nat.le_refl value, id⟩
      · obtain ⟨shorter, same, below, positive⟩ := ih (value / 10) (by omega) front
        exact ⟨shorter, same, by omega, fun _ => positive (by omega)⟩

mutual

inductive Torn : Json → Node → Prop
  | absent (json : Json) : Torn json .absent
  | null : Torn .null (.broken .truncated)
  | bool (value : Bool) : Torn (.bool value) (.broken .truncated)
  | sign {value : Int} (negative : value < 0) : Torn (.number (.integer value)) .unfinished
  | number {value shorter : Int}
      (between : 0 ≤ shorter ∧ shorter ≤ value ∨ value ≤ shorter ∧ shorter < 0) :
      Torn (.number (.integer value)) (.number (numeralOf shorter))
  | text (value : String) (octets : Bytes) : Torn (.text value) (.text (tornLiteral octets))
  | array {items : List Json} {read : Items} (torn : TornItems items read) :
      Torn (.array items) (.array read)
  | object {members : List (String × Json)} {read : Members} (torn : TornMembers members read) :
      Torn (.object members) (.object read)

inductive TornItems : List Json → Items → Prop
  | here (items : List Json) : TornItems items (.stop .truncated)
  | inside {item : Json} {items : List Json} {node : Node} (torn : Torn item node) :
      TornItems (item :: items) (.item node (.stop .truncated))
  | later {item : Json} {items : List Json} {read : Items} (torn : TornItems items read) :
      TornItems (item :: items) (.item item.node read)

inductive TornMembers : List (String × Json) → Members → Prop
  | here (members : List (String × Json)) : TornMembers members (.stop .truncated)
  | comma (members : List (String × Json)) : TornMembers members (.dangling .truncated)
  | key {key : String} {value : Json} {members : List (String × Json)} (octets : Bytes) :
      TornMembers ((key, value) :: members) (.member (tornLiteral octets) .absent (.stop .truncated))
  | inside {key : String} {value : Json} {members : List (String × Json)} {node : Node}
      (torn : Torn value node) :
      TornMembers ((key, value) :: members) (.member (literalOf key) node (.stop .truncated))
  | later {key : String} {value : Json} {members : List (String × Json)} {read : Members}
      (torn : TornMembers members read) :
      TornMembers ((key, value) :: members) (.member (literalOf key) value.node read)

end

def IsSpent (rest : Rest) : Prop := rest = .error .truncated ∨ rest = .ok []

/-- What is read of a text that breaks off inside a value, inside the items of an array or inside the
members of an object. -/
def ReadsTorn (json : Json) (read : Node × Rest) : Prop := Torn json read.1 ∧ IsSpent read.2

def ReadsTornItems (items : List Json) (read : Items × Rest) : Prop :=
  TornItems items read.1 ∧ read.2 = .error .truncated

def ReadsTornMembers (members : List (String × Json)) (read : Members × Rest) : Prop :=
  TornMembers members read.1 ∧ read.2 = .error .truncated

theorem skipSpace_blank {part : Bytes} (spaces : part.all isSpace = true) : skipSpace part = [] := by
  have skipped := skipSpace_append spaces []
  rwa [List.append_nil] at skipped

theorem all_isSpace_of_isPrefix {part whole : Bytes} (front : part <+: whole)
    (spaces : whole.all isSpace = true) : part.all isSpace = true := by
  obtain ⟨later, rfl⟩ := front
  rw [List.all_append, Bool.and_eq_true] at spaces
  exact spaces.1

theorem Ends.of_isPrefix {part whole : Bytes} (front : part <+: whole) (ends : Ends whole) :
    Ends part := by
  obtain ⟨later, rfl⟩ := front
  intro octet first
  cases part with
  | nil => cases first
  | cons other part => exact ends octet first

theorem ends_blank {part : Bytes} (spaces : part.all isSpace = true) : Ends part := by
  have ends := ends_append spaces (fun octet first => absurd first (by simp) : Ends [])
  rwa [List.append_nil] at ends

theorem readValue_blank {part : Bytes} (spaces : part.all isSpace = true) (fuel : Nat) :
    readValue (fuel + 1) part = (.absent, .error .truncated) := by
  rw [readValue, skipSpace_blank spaces]

theorem readsTorn_blank (json : Json) {part : Bytes} (spaces : part.all isSpace = true) (fuel : Nat) :
    ReadsTorn json (readValue (fuel + 1) part) := by
  rw [readValue_blank spaces]
  exact ⟨.absent json, .inl rfl⟩

theorem expect_torn {word part : Bytes} (front : part <+: word) (short : part.length < word.length) :
    expect word part = .error .truncated := by
  induction word generalizing part with
  | nil => exact absurd short (Nat.not_lt_zero _)
  | cons octet word ih =>
    rcases List.prefix_cons_iff.mp front with rfl | ⟨later, rfl, further⟩
    · rfl
    · simp only [expect, beq_self_eq_true, if_true]
      exact ih further (Nat.lt_of_succ_lt_succ short)

theorem readWord_torn (node : Node) {word part : Bytes} (front : part <+: word)
    (short : part.length < word.length) :
    readWord node word part = (.broken .truncated, .error .truncated) := by
  rw [readWord, expect_torn front short]

theorem readsTorn_word {json : Json} {node : Node} {letter : UInt8} {word part : Bytes} {fuel : Nat}
    (named : ∀ later, readValue (fuel + 1) (letter :: later) = readWord node word later)
    (torn : Torn json (.broken .truncated)) (front : part <+: letter :: word)
    (short : part.length < word.length + 1) : ReadsTorn json (readValue (fuel + 1) part) := by
  rcases List.prefix_cons_iff.mp front with rfl | ⟨later, rfl, further⟩
  · exact readsTorn_blank json rfl fuel
  · rw [named, readWord_torn node further (Nat.lt_of_succ_lt_succ short)]
    exact ⟨torn, .inl rfl⟩

theorem readsTorn_integer {value : Int} {part : Bytes} (front : part <+: writeInteger value)
    (fuel : Nat) : ReadsTorn (.number (.integer value)) (readValue (fuel + 1) part) := by
  have ends : Ends [] := fun octet first => absurd first (by simp)
  have spent : IsSpent (.ok []) := .inr rfl
  by_cases nonempty : part = []
  · rw [nonempty]
    exact readsTorn_blank _ rfl fuel
  by_cases negative : value < 0
  · rw [writeInteger, if_pos negative] at front
    rcases List.prefix_cons_iff.mp front with empty | ⟨later, rfl, further⟩
    · exact absurd empty nonempty
    · by_cases signOnly : later = []
      · rw [signOnly]
        exact ⟨.sign negative, .inl rfl⟩
      · obtain ⟨shorter, rfl, below, positive⟩ := exists_digits_of_isPrefix further signOnly
        have least : 0 < shorter := positive (by omega)
        have written : 0x2d :: digits shorter = writeInteger (-shorter) := by
          rw [writeInteger, if_pos (by omega), Int.natAbs_neg, Int.natAbs_natCast]
        have read := readValue_integer fuel (-shorter) ends
        rw [List.append_nil, ← written] at read
        rw [read]
        exact ⟨.number (.inr (by omega)), spent⟩
  · rw [writeInteger, if_neg negative] at front
    obtain ⟨shorter, rfl, below, _⟩ := exists_digits_of_isPrefix front nonempty
    have written : digits shorter = writeInteger shorter := by
      rw [writeInteger, if_neg (by omega), Int.natAbs_natCast]
    have read := readValue_integer fuel shorter ends
    rw [List.append_nil, ← written] at read
    rw [read]
    exact ⟨.number (.inl (by omega)), spent⟩

theorem readsTorn_text {value : String} {part : Bytes} (front : part <+: writeText value)
    (short : part.length < (writeText value).length) (fuel : Nat) :
    ReadsTorn (.text value) (readValue (fuel + 1) part) := by
  rw [writeText] at front short
  rcases List.prefix_concat_iff.mp front with whole | front
  · rw [whole] at short
    exact absurd short (Nat.lt_irrefl _)
  · rcases List.prefix_cons_iff.mp front with rfl | ⟨later, rfl, further⟩
    · exact readsTorn_blank _ rfl fuel
    · obtain ⟨octets, scanned⟩ := scanLiteral_torn further
      rw [readValue, skipSpace_of_notSpace _ (by decide)]
      simp only [scanned]
      exact ⟨.text value octets, .inl rfl⟩

theorem readsTorn_array {items : List Json} {fuel : Nat} {inner : Bytes}
    (read : ReadsTornItems items (readItems fuel inner)) :
    ReadsTorn (.array items) (readValue (fuel + 1) (0x5b :: inner)) := by
  rw [readValue, skipSpace_of_notSpace _ (by decide)]
  exact ⟨.array read.1, .inl read.2⟩

theorem readsTorn_object {members : List (String × Json)} {fuel : Nat} {inner : Bytes}
    (read : ReadsTornMembers members (readMembers fuel inner)) :
    ReadsTorn (.object members) (readValue (fuel + 1) (0x7b :: inner)) := by
  rw [readValue, skipSpace_of_notSpace _ (by decide)]
  exact ⟨.object read.1, .inl read.2⟩

theorem readsTornItems_inside {item : Json} (items : List Json) {fuel : Nat} {part : Bytes}
    (value : ReadsTorn item (readValue fuel part)) :
    ReadsTornItems (item :: items) (readItem (fuel + 1) part) := by
  rw [readItem]
  generalize readValue fuel part = read at value
  obtain ⟨node, rest⟩ := read
  obtain ⟨torn, spent⟩ := value
  rcases spent with spent | spent
  · cases spent
    exact ⟨.inside torn, rfl⟩
  · cases spent
    exact ⟨.inside torn, rfl⟩

theorem readsTornItems_blank (items : List Json) {part : Bytes} (spaces : part.all isSpace = true)
    (fuel : Nat) : ReadsTornItems items (readItems (fuel + 1) part) := by
  rw [readItems, skipSpace_blank spaces]
  exact ⟨.here items, rfl⟩

theorem readsTornItems_of_readItem {items : List Json} {fuel : Nat} {part : Bytes}
    (read : ReadsTornItems items (readItem (fuel + 1) part)) :
    ReadsTornItems items (readItems (fuel + 2) part) := by
  rw [← readItem_skipSpace] at read
  rw [readItems]
  split
  · exact ⟨.here items, rfl⟩
  · rename_i closed
    rw [closed] at read
    have malformed := read.2
    cases fuel <;> simp [readItem, readValue, skipSpace, isSpace, isDigit] at malformed
  · rename_i first later _ front
    rw [← front]
    exact read

theorem readsTornMembers_blank (members : List (String × Json)) {part : Bytes}
    (spaces : part.all isSpace = true) (fuel : Nat) :
    ReadsTornMembers members (readMembers (fuel + 1) part) := by
  rw [readMembers, skipSpace_blank spaces]
  exact ⟨.here members, rfl⟩

theorem readsTornMembers_key {key : String} (value : Json) (members : List (String × Json))
    {part : Bytes} (front : part <+: (Text.bytes key).flatMap escaped) (fuel : Nat) :
    ReadsTornMembers ((key, value) :: members) (readMember (fuel + 1) part) := by
  obtain ⟨octets, scanned⟩ := scanLiteral_torn front
  rw [readMember, readKey, scanned]
  exact ⟨.key octets, rfl⟩

theorem readsTornMembers_colon (key : String) (value : Json) (members : List (String × Json))
    (fuel : Nat) :
    ReadsTornMembers ((key, value) :: members)
      (readMember (fuel + 1) ((Text.bytes key).flatMap escaped ++ [0x22])) := by
  rw [readMember, readKey, scanLiteral_text]
  exact ⟨.inside (.absent value), rfl⟩

theorem readsTornMembers_inside {key : String} {value : Json} (members : List (String × Json))
    {fuel : Nat} {part after : Bytes} (named : readKey part = (literalOf key, .ok after))
    (read : ReadsTorn value (readValue fuel after)) :
    ReadsTornMembers ((key, value) :: members) (readMember (fuel + 1) part) := by
  rw [readMember, named]
  dsimp only
  generalize readValue fuel after = found at read
  obtain ⟨node, rest⟩ := found
  obtain ⟨torn, spent⟩ := read
  rcases spent with spent | spent
  · cases spent
    exact ⟨.inside torn, rfl⟩
  · cases spent
    exact ⟨.inside torn, rfl⟩

theorem prefix_member_cases {lead part later : Bytes} {key : String} (spaces : lead.all isSpace = true)
    (front : part <+: lead ++ 0x22 :: ((Text.bytes key).flatMap escaped ++ 0x22 :: 0x3a :: later)) :
    skipSpace part = [] ∨ ∃ tail, skipSpace part = 0x22 :: tail ∧
      ((∀ value members fuel,
          ReadsTornMembers ((key, value) :: members) (readMember (fuel + 1) tail)) ∨
        ∃ after, after <+: later ∧ after.length + 3 ≤ part.length ∧
          readKey tail = (literalOf key, .ok after)) := by
  rcases prefix_append_cases front with ⟨within, _⟩ | ⟨quoted, rfl, opened⟩
  · exact .inl (skipSpace_blank (all_isSpace_of_isPrefix within spaces))
  rw [skipSpace_append spaces]
  rcases List.prefix_cons_iff.mp opened with rfl | ⟨tail, rfl, inside⟩
  · exact .inl rfl
  refine .inr ⟨tail, skipSpace_of_notSpace _ (by decide), ?_⟩
  rcases prefix_append_cases inside with ⟨within, _⟩ | ⟨closed, rfl, closing⟩
  · exact .inl fun value members fuel => readsTornMembers_key value members within fuel
  rcases List.prefix_cons_iff.mp closing with rfl | ⟨named, rfl, colon⟩
  · left
    intro value members fuel
    exact readsTornMembers_key value members (by simp) fuel
  rcases List.prefix_cons_iff.mp colon with rfl | ⟨after, rfl, further⟩
  · exact .inl fun value members fuel => readsTornMembers_colon key value members fuel
  · refine .inr ⟨after, further, ?_, readKey_text key after⟩
    simp only [List.length_append, List.length_cons]
    omega

theorem prefix_enclosed_cases {layout : Layout} {depth : Nat} {first last : UInt8}
    {entries : List Bytes} {part : Bytes} (front : part <+: layout.enclosed depth first last entries)
    (short : part.length < (layout.enclosed depth first last entries).length) :
    part = [] ∨ ∃ inner, part = first :: inner ∧
      inner <+: layout.entries (depth + 1) entries ++ layout.lead depth := by
  have butLast : part <+: first :: (layout.entries (depth + 1) entries ++ layout.lead depth) := by
    cases entries with
    | nil =>
      have pair : part <+: [first] ++ [last] := front
      rcases List.prefix_concat_iff.mp pair with whole | front
      · exact absurd (congrArg List.length whole) (Nat.ne_of_lt short)
      · exact front.trans (List.prefix_append [first] (layout.lead depth))
    | cons entry entries =>
      simp only [Layout.enclosed, List.isEmpty_cons, Bool.false_eq_true, if_false] at front short
      rcases List.prefix_concat_iff.mp front with whole | front
      · exact absurd (congrArg List.length whole) (Nat.ne_of_lt short)
      · exact front
  exact List.prefix_cons_iff.mp butLast

section

variable {layout : Layout} (blank : layout.IsBlank)

include blank

theorem readsTorn_or_reads {json : Json} (floatFree : json.isFloatFree = true) {depth fuel : Nat}
    (inside : ∀ part, part <+: write layout depth json →
      part.length < (write layout depth json).length → 3 * part.length < fuel + 1 →
      ReadsTorn json (readValue (fuel + 1) part))
    {gap part later : Bytes} (spaces : gap.all isSpace = true) (ends : Ends later)
    (front : part <+: gap ++ (write layout depth json ++ later)) (enough : 3 * part.length < fuel + 1) :
    ReadsTorn json (readValue (fuel + 1) part) ∨
      ∃ outer, outer <+: later ∧ outer.length ≤ part.length ∧
        readValue (fuel + 1) part = (json.node, .ok outer) := by
  rcases prefix_append_cases front with ⟨within, _⟩ | ⟨inner, rfl, further⟩
  · exact .inl (readsTorn_blank json (all_isSpace_of_isPrefix within spaces) fuel)
  · rw [List.length_append] at enough ⊢
    rw [readValue_append spaces]
    rcases prefix_append_cases further with ⟨within, short⟩ | ⟨outer, rfl, after⟩
    · exact .inl (inside inner within short (by omega))
    · rw [List.length_append] at enough ⊢
      have value := readValue_write blank json floatFree depth (fuel + 1) outer (.of_isPrefix after ends)
        (by omega)
      exact .inr ⟨outer, after, by omega, value⟩

-- As for whole documents, every byte that is there pays for three calls.
mutual

theorem readsTorn_of_isPrefix : ∀ (json : Json), json.isFloatFree = true →
    ∀ (depth fuel : Nat) (part : Bytes), part <+: write layout depth json →
      part.length < (write layout depth json).length → 3 * part.length < fuel →
      ReadsTorn json (readValue fuel part)
  | .null, _, depth, fuel + 1, part, front, short, _ =>
    readsTorn_word (fun _ => rfl) .null front short
  | .bool true, _, depth, fuel + 1, part, front, short, _ =>
    readsTorn_word (fun _ => rfl) (.bool true) front short
  | .bool false, _, depth, fuel + 1, part, front, short, _ =>
    readsTorn_word (fun _ => rfl) (.bool false) front short
  | .number (.integer value), _, depth, fuel + 1, part, front, _, _ => readsTorn_integer front fuel
  | .text value, _, depth, fuel + 1, part, front, short, _ => readsTorn_text front short fuel
  | .array [], _, depth, fuel + 1, part, front, short, enough => by
    rcases prefix_enclosed_cases front short with rfl | ⟨inner, rfl, within⟩
    · exact readsTorn_blank _ rfl fuel
    · rw [List.length_cons] at enough
      obtain ⟨less, rfl⟩ : ∃ less, fuel = less + 1 := ⟨fuel - 1, by omega⟩
      exact readsTorn_array (readsTornItems_blank []
        (all_isSpace_of_isPrefix within (blank.lead depth)) less)
  | .array (item :: items), floatFree, depth, fuel + 1, part, front, short, enough => by
    rcases prefix_enclosed_cases front short with rfl | ⟨inner, rfl, within⟩
    · exact readsTorn_blank _ rfl fuel
    · rw [List.length_cons] at enough
      obtain ⟨less, rfl⟩ : ∃ less, fuel = less + 2 := ⟨fuel - 2, by omega⟩
      exact readsTorn_array (readsTornItems_of_readItem
        (readsTornItems_of_isPrefix item items floatFree (depth + 1) (less + 1) (layout.lead depth) inner
          (blank.lead depth) within (by omega)))
  | .object [], _, depth, fuel + 1, part, front, short, enough => by
    rcases prefix_enclosed_cases front short with rfl | ⟨inner, rfl, within⟩
    · exact readsTorn_blank _ rfl fuel
    · rw [List.length_cons] at enough
      obtain ⟨less, rfl⟩ : ∃ less, fuel = less + 1 := ⟨fuel - 1, by omega⟩
      exact readsTorn_object (readsTornMembers_blank []
        (all_isSpace_of_isPrefix within (blank.lead depth)) less)
  | .object ((key, value) :: members), floatFree, depth, fuel + 1, part, front, short, enough => by
    rcases prefix_enclosed_cases front short with rfl | ⟨inner, rfl, within⟩
    · exact readsTorn_blank _ rfl fuel
    · rw [List.length_cons] at enough
      obtain ⟨less, rfl⟩ : ∃ less, fuel = less + 1 := ⟨fuel - 1, by omega⟩
      apply readsTorn_object
      rcases readsTornMembers_of_isPrefix key value members floatFree (depth + 1) less
          (layout.lead depth) inner (blank.lead depth) within (by omega) with
        nothing | ⟨tail, opened, torn⟩
      · rw [readMembers, nothing]
        exact ⟨.here _, rfl⟩
      · rw [readMembers, opened]
        exact torn
termination_by _ _ _ fuel => fuel

theorem readsTornItems_of_isPrefix : ∀ (item : Json) (items : List Json),
    areFloatFree (item :: items) = true → ∀ (depth fuel : Nat) (closing part : Bytes),
      closing.all isSpace = true →
      part <+: layout.entries depth (writeItems layout depth (item :: items)) ++ closing →
      3 * part.length + 1 < fuel → ReadsTornItems (item :: items) (readItem fuel part)
  | item, [], floatFree, depth, fuel + 2, closing, part, spaces, front, enough => by
    simp only [areFloatFree, Bool.and_true] at floatFree
    simp only [writeItems, Layout.entries, List.append_assoc] at front
    rcases readsTorn_or_reads blank floatFree (readsTorn_of_isPrefix item floatFree depth (fuel + 1))
      (blank.lead depth) (ends_blank spaces) front (by omega) with torn | ⟨outer, after, _, value⟩
    · exact readsTornItems_inside [] torn
    · rw [readItem, value]
      simp only [skipSpace_blank (all_isSpace_of_isPrefix after spaces)]
      exact ⟨.later (.here []), rfl⟩
  | item, next :: items, floatFree, depth, fuel + 2, closing, part, spaces, front, enough => by
    rw [areFloatFree, Bool.and_eq_true] at floatFree
    simp only [writeItems, Layout.entries, List.append_assoc, List.cons_append] at front
    rcases readsTorn_or_reads blank floatFree.1 (readsTorn_of_isPrefix item floatFree.1 depth (fuel + 1))
      (blank.lead depth) (ends_of_token _ (by decide)) front (by omega) with
      torn | ⟨outer, after, size, value⟩
    · exact readsTornItems_inside _ torn
    · rw [readItem, value]
      rcases List.prefix_cons_iff.mp after with rfl | ⟨others, rfl, rest⟩
      · exact ⟨.later (.here _), rfl⟩
      · rw [List.length_cons] at size
        have later := readsTornItems_of_isPrefix next items floatFree.2 depth (fuel + 1) closing others
          spaces rest (by omega)
        simp only [skipSpace_of_notSpace _ (by decide : isSpace 0x2c = false)]
        exact ⟨.later later.1, later.2⟩
termination_by _ _ _ _ fuel => fuel

theorem readsTornMembers_of_isPrefix : ∀ (key : String) (value : Json) (members : List (String × Json)),
    haveFloatFree ((key, value) :: members) = true → ∀ (depth fuel : Nat) (closing part : Bytes),
      closing.all isSpace = true →
      part <+: layout.entries depth (writeMembers layout depth ((key, value) :: members)) ++ closing →
      3 * part.length < fuel →
      skipSpace part = [] ∨ ∃ tail, skipSpace part = 0x22 :: tail ∧
        ReadsTornMembers ((key, value) :: members) (readMember fuel tail)
  | key, value, [], floatFree, depth, fuel + 1, closing, part, spaces, front, enough => by
    obtain ⟨gap, gapSpaces, colon⟩ := blank.colon
    simp only [haveFloatFree, Bool.and_true] at floatFree
    simp only [writeMembers, Layout.entries, writeText, colon, List.append_assoc, List.cons_append,
      List.nil_append] at front
    rcases prefix_member_cases (blank.lead depth) front with
      nothing | ⟨tail, opened, torn | ⟨after, further, size, named⟩⟩
    · exact .inl nothing
    · exact .inr ⟨tail, opened, torn value [] fuel⟩
    · obtain ⟨less, rfl⟩ : ∃ less, fuel = less + 1 := ⟨fuel - 1, by omega⟩
      refine .inr ⟨tail, opened, ?_⟩
      rcases readsTorn_or_reads blank floatFree (readsTorn_of_isPrefix value floatFree depth (less + 1))
        gapSpaces (ends_blank spaces) further (by omega) with torn | ⟨outer, last, _, read⟩
      · exact readsTornMembers_inside [] named torn
      · rw [readMember, named]
        simp only [read, skipSpace_blank (all_isSpace_of_isPrefix last spaces)]
        exact ⟨.later (.here []), rfl⟩
  | key, value, (nextKey, next) :: members, floatFree, depth, fuel + 1, closing, part, spaces, front,
      enough => by
    obtain ⟨gap, gapSpaces, colon⟩ := blank.colon
    rw [haveFloatFree, Bool.and_eq_true] at floatFree
    have front : part <+: layout.lead depth ++ 0x22 :: ((Text.bytes key).flatMap escaped ++
        0x22 :: 0x3a :: (gap ++ (write layout depth value ++ 0x2c ::
          (layout.entries depth (writeMembers layout depth ((nextKey, next) :: members)) ++
            closing)))) := by
      simpa only [writeMembers, Layout.entries, writeText, colon, List.append_assoc, List.cons_append,
        List.nil_append] using front
    rcases prefix_member_cases (blank.lead depth) front with
      nothing | ⟨tail, opened, torn | ⟨after, further, size, named⟩⟩
    · exact .inl nothing
    · exact .inr ⟨tail, opened, torn value _ fuel⟩
    · obtain ⟨less, rfl⟩ : ∃ less, fuel = less + 1 := ⟨fuel - 1, by omega⟩
      refine .inr ⟨tail, opened, ?_⟩
      rcases readsTorn_or_reads blank floatFree.1
        (readsTorn_of_isPrefix value floatFree.1 depth (less + 1)) gapSpaces
        (ends_of_token _ (by decide)) further (by omega) with torn | ⟨outer, comma, shorter, read⟩
      · exact readsTornMembers_inside _ named torn
      · rw [readMember, named]
        simp only [read]
        rcases List.prefix_cons_iff.mp comma with rfl | ⟨others, rfl, rest⟩
        · exact ⟨.later (.here _), rfl⟩
        · rw [List.length_cons] at shorter
          simp only [skipSpace_of_notSpace _ (by decide : isSpace 0x2c = false)]
          rcases readsTornMembers_of_isPrefix nextKey next members floatFree.2 depth (less + 1) closing
              others spaces rest (by omega) with nothing | ⟨others, opened, later⟩
          · rw [nothing]
            exact ⟨.later (.comma _), rfl⟩
          · rw [opened]
            exact ⟨.later later.1, later.2⟩
termination_by _ _ _ _ _ fuel => fuel

end

end

/-- A configuration file that lacks more than its last line break is read as a torn document. -/
theorem readNode_torn {document : Json} (floatFree : document.isFloatFree = true) {part : Bytes}
    (front : part <+: write .indented 0 document)
    (short : part.length < (write .indented 0 document).length) :
    ReadsTorn document (readNode part) :=
  readsTorn_of_isPrefix Layout.indented_isBlank document floatFree 0 _ part front short (by omega)

end LiveService.Json
