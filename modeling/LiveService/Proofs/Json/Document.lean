import LiveService.Proofs.Json.Spelling

/-!
Documents as they are written.  Whatever blanks the layout puts between the tokens, a written document is
read to its end as the tokens that it was written from, as long as it has no numbers of double precision.
-/

namespace LiveService.Json

mutual

def isFloatFree : Json → Bool
  | .null => true
  | .bool _ => true
  | .number (.integer _) => true
  | .number (.float _) => false
  | .text _ => true
  | .array items => areFloatFree items
  | .object members => haveFloatFree members

def areFloatFree : List Json → Bool
  | [] => true
  | item :: rest => item.isFloatFree && areFloatFree rest

def haveFloatFree : List (String × Json) → Bool
  | [] => true
  | (_, value) :: rest => value.isFloatFree && haveFloatFree rest

end

def numberNode : Number → Node
  | .integer value => .number (numeralOf value)
  | .float value => (readNode (writeNumber (.float value))).1

mutual

def node : Json → Node
  | .null => .null
  | .bool value => .bool value
  | .number value => numberNode value
  | .text value => .text (literalOf value)
  | .array items => .array (itemsOf items)
  | .object members => .object (membersOf members)

def itemsOf : List Json → Items
  | [] => .close
  | item :: rest => .item item.node (itemsOf rest)

def membersOf : List (String × Json) → Members
  | [] => .close
  | (key, value) :: rest => .member (literalOf key) value.node (membersOf rest)

end

structure Layout.IsBlank (layout : Layout) : Prop where
  lead : ∀ depth, (layout.lead depth).all isSpace = true
  colon : ∃ gap : Bytes, gap.all isSpace = true ∧ layout.colon = 0x3a :: gap

theorem Layout.indented_isBlank : indented.IsBlank where
  lead depth := by
    have tabs : (List.replicate depth (0x09 : UInt8)).all isSpace = true := by
      rw [List.all_eq_true]
      intro octet member
      rw [List.eq_of_mem_replicate member]
      rfl
    rw [indented, List.all_cons, tabs]
    rfl
  colon := ⟨[0x20], rfl, rfl⟩

theorem spells_escaped {pieces : List Piece} {octets : Bytes} (octet : UInt8) (spelled : SpellsPieces pieces octets) :
    SpellsPieces (pieceOf octet :: pieces) (escaped octet ++ octets) := by
  rcases escaped_cases octet with ⟨written, piece, printed, noQuote, noEscape⟩ |
    ⟨letter, written, piece, escapes⟩ | ⟨first, second, third, fourth, written, piece, escapes⟩
  · rw [written, piece]
    exact .plain printed noQuote noEscape spelled
  · rw [written, piece]
    exact .short escapes spelled
  · rw [written, piece]
    exact .unit escapes spelled

theorem spells_pieces (octets : Bytes) : SpellsPieces (octets.map pieceOf) (octets.flatMap escaped) := by
  induction octets with
  | nil => exact .nil
  | cons octet octets ih => exact spells_escaped octet ih

theorem spells_magnitude (negative : Bool) (value : Nat) :
    SpellsMagnitude ⟨negative, digits value, none, none⟩ (digits value) := by
  have spelled : SpellsMagnitude ⟨negative, digits value, none, none⟩ (digits value ++ ([] ++ [])) :=
    .mk (areDigits_digits value) zero_alone .none .none
  simpa using spelled

theorem spells_integer (value : Int) : Spells (.number (numeralOf value)) (writeInteger value) := by
  by_cases negative : value < 0
  · rw [writeInteger, if_pos negative]
    exact .minus (decide_eq_true negative) (spells_magnitude _ _)
  · rw [writeInteger, if_neg negative]
    exact .number (decide_eq_false negative) (spells_magnitude _ _)

theorem readValue_integer (fuel : Nat) (value : Int) {rest : Bytes} (ends : Ends rest) :
    readValue (fuel + 1) (writeInteger value ++ rest) = (.number (numeralOf value), .ok rest) := by
  have read := readNumber_of_spells (spells_magnitude (decide (value < 0)) value.natAbs) ends
  by_cases negative : value < 0
  · rw [writeInteger, if_pos negative, numeralOf, ← read, decide_eq_true negative]
    rfl
  · rw [writeInteger, if_neg negative]
    exact readValue_of_magnitude fuel (decide_eq_false negative) (spells_magnitude _ _) ends

theorem spells_text (value : String) : Spells (.text (literalOf value)) (writeText value) :=
  .text (spells_pieces (Text.bytes value))

theorem readKey_text (key : String) (rest : Bytes) :
    readKey ((Text.bytes key).flatMap escaped ++ 0x22 :: 0x3a :: rest) =
      (literalOf key, .ok rest) := by
  simp only [readKey, scanLiteral_text,
    skipSpace_of_notSpace rest (by decide : isSpace 0x3a = false)]

theorem enclosed_cons (layout : Layout) (depth : Nat) (first last : UInt8) (entry : Bytes)
    (rest : List Bytes) :
    layout.enclosed depth first last (entry :: rest) =
      first :: (layout.entries (depth + 1) (entry :: rest) ++ (layout.lead depth ++ [last])) := by
  simp [Layout.enclosed, List.append_assoc]

section

variable {layout : Layout} (blank : layout.IsBlank)

include blank

theorem spells_key (depth : Nat) (key : String) {node : Node} {octets : Bytes} (spelled : Spells node octets) :
    ∃ name value, SpellsKey (literalOf key) name ∧ Spells node value ∧
      layout.lead depth ++ (writeText key ++ layout.colon ++ octets) = name ++ value := by
  obtain ⟨gap, spaces, colon⟩ := blank.colon
  refine ⟨_, _, .mk (blank.lead depth) (spells_pieces (Text.bytes key)) (rfl : IsGap []), .spaced spaces spelled, ?_⟩
  simp [writeText, colon]

mutual

theorem spells_write : ∀ (json : Json), json.isFloatFree = true → ∀ depth,
    Spells json.node (write layout depth json)
  | .null, _, _ => .null
  | .bool true, _, _ => .true
  | .bool false, _, _ => .false
  | .number (.integer value), _, _ => spells_integer value
  | .text value, _, _ => spells_text value
  | .array [], _, _ => .noItems (rfl : IsGap [])
  | .array (item :: items), floatFree, depth => by
    rw [isFloatFree, areFloatFree, Bool.and_eq_true] at floatFree
    obtain ⟨later, others, split⟩ := spells_items items floatFree.2 (depth + 1)
      (write layout (depth + 1) item) (layout.lead depth) (blank.lead depth)
    rw [write, writeItems, enclosed_cons, split, ← List.append_assoc]
    exact .array (.spaced (blank.lead _) (spells_write item floatFree.1 (depth + 1))) others
  | .object [], _, _ => .noMembers (rfl : IsGap [])
  | .object ((key, value) :: members), floatFree, depth => by
    rw [isFloatFree, haveFloatFree, Bool.and_eq_true] at floatFree
    obtain ⟨name, octets, named, first, entry⟩ :=
      spells_key blank (depth + 1) key (spells_write value floatFree.1 (depth + 1))
    obtain ⟨later, others, split⟩ := spells_members members floatFree.2 (depth + 1)
      (writeText key ++ layout.colon ++ write layout (depth + 1) value) (layout.lead depth) (blank.lead depth)
    rw [write, writeMembers, enclosed_cons, split, ← List.append_assoc, entry, List.append_assoc]
    exact .object named first others

theorem spells_items : ∀ (items : List Json), areFloatFree items = true →
    ∀ (depth : Nat) (entry closing : Bytes), IsGap closing → ∃ later, SpellsItems (itemsOf items) later ∧
      layout.entries depth (entry :: writeItems layout depth items) ++ (closing ++ [0x5d]) =
        layout.lead depth ++ (entry ++ later)
  | [], _, depth, entry, closing, spaces => by
    refine ⟨_, .close spaces, ?_⟩
    simp [writeItems, Layout.entries]
  | item :: items, floatFree, depth, entry, closing, spaces => by
    rw [areFloatFree, Bool.and_eq_true] at floatFree
    obtain ⟨later, others, split⟩ := spells_items items floatFree.2 depth (write layout depth item) closing spaces
    have next := Spells.spaced (blank.lead depth) (spells_write item floatFree.1 depth)
    refine ⟨_, .item (rfl : IsGap []) next others, ?_⟩
    simp only [writeItems, Layout.entries, List.append_assoc, List.cons_append, List.nil_append]
    rw [split]

theorem spells_members : ∀ (members : List (String × Json)), haveFloatFree members = true →
    ∀ (depth : Nat) (entry closing : Bytes), IsGap closing → ∃ later, SpellsMembers (membersOf members) later ∧
      layout.entries depth (entry :: writeMembers layout depth members) ++ (closing ++ [0x7d]) =
        layout.lead depth ++ (entry ++ later)
  | [], _, depth, entry, closing, spaces => by
    refine ⟨_, .close spaces, ?_⟩
    simp [writeMembers, Layout.entries]
  | (key, value) :: members, floatFree, depth, entry, closing, spaces => by
    rw [haveFloatFree, Bool.and_eq_true] at floatFree
    obtain ⟨name, octets, named, next, written⟩ :=
      spells_key blank depth key (spells_write value floatFree.1 depth)
    obtain ⟨later, others, split⟩ := spells_members members floatFree.2 depth
      (writeText key ++ layout.colon ++ write layout depth value) closing spaces
    refine ⟨_, .member (rfl : IsGap []) named next others, ?_⟩
    rw [← List.append_assoc (layout.lead depth), written, List.append_assoc] at split
    simp only [writeMembers, Layout.entries, List.append_assoc, List.cons_append, List.nil_append] at split ⊢
    rw [split]

end

theorem readValue_write (json : Json) (floatFree : json.isFloatFree = true) (depth fuel : Nat) (rest : Bytes)
    (ends : Ends rest) (enough : 3 * (write layout depth json).length < fuel) :
    readValue fuel (write layout depth json ++ rest) = (json.node, .ok rest) :=
  readValue_of_spells (spells_write blank json floatFree depth) fuel rest ends enough

end

/-- A configuration file is read as the tokens of its document, up to its last line break. -/
theorem readNode_fileText {document : Json} (floatFree : document.isFloatFree = true) :
    readNode (fileText document) = (document.node, .ok [0x0a]) := by
  have ends : Ends [0x0a] := ends_of_token [] (by decide)
  have size : 3 * (write .indented 0 document).length < 3 * (fileText document).length + 3 := by
    simp only [fileText, List.length_append]
    omega
  exact readValue_write Layout.indented_isBlank document floatFree 0 _ [0x0a] ends size

theorem skipSpace_asciiBlank {octets : Bytes} (blank : octets.all Text.isAsciiBlank = true) :
    skipSpace octets = [] ∨ ∃ rest, skipSpace octets = 0x0c :: rest := by
  induction octets with
  | nil => exact .inl rfl
  | cons octet rest ih =>
    simp only [List.all_cons, Bool.and_eq_true] at blank
    cases space : isSpace octet with
    | true =>
      rw [show skipSpace (octet :: rest) = skipSpace rest from List.dropWhile_cons_of_pos space]
      exact ih blank.2
    | false =>
      have feed : octet = 0x0c := by
        simp_all [isSpace, Text.isAsciiBlank]
      rw [skipSpace_of_notSpace rest space, feed]
      exact .inr ⟨rest, rfl⟩

/-- There is no value in blank bytes; the form feed is blank, but stands between no tokens. -/
theorem readNode_blank {octets : Bytes} (blank : octets.all Text.isAsciiBlank = true) :
    ∃ node fault, readNode octets = (node, .error fault) := by
  rw [readNode, readValue]
  rcases skipSpace_asciiBlank blank with nothing | ⟨rest, feed⟩
  · rw [nothing]
    exact ⟨_, _, rfl⟩
  · rw [feed]
    exact ⟨_, _, rfl⟩

theorem fileText_object_solid (members : List (String × Json)) :
    (fileText (.object members)).all Text.isAsciiBlank = false := by
  have opening : ∃ rest, write .indented 0 (.object members) = 0x7b :: rest := by
    rw [write, Layout.enclosed]
    split
    · exact ⟨_, rfl⟩
    · exact ⟨_, rfl⟩
  obtain ⟨rest, front⟩ := opening
  rw [fileText, front]
  rfl

end LiveService.Json
