import LiveService.Json.Codec

/-!
Texts as they are written: however their bytes are escaped, a literal scans to its closing quote and spells
the text again.
-/

namespace LiveService.Json

def isShortEscaped (octet : UInt8) : Bool :=
  octet == 0x08 || octet == 0x09 || octet == 0x0a || octet == 0x0c || octet == 0x0d

/-- How a byte of a text is read back: as a code unit if it was escaped by its number. -/
def pieceOf (octet : UInt8) : Piece :=
  if octet < 0x20 && !isShortEscaped octet then .unit octet.toNat else .plain octet

def literalOf (text : String) : Literal := ⟨(Text.bytes text).map pieceOf, none⟩

theorem hexValue?_hexDigit : ∀ value < 16, hexValue? (hexDigit value) = some value := by
  decide

theorem scanUnit_hexDigits {octet : UInt8} (control : octet < 0x20) :
    scanUnit 0x30 0x30 (hexDigit (octet.toNat / 16)) (hexDigit (octet.toNat % 16)) =
      some octet.toNat := by
  have bound : octet.toNat < 32 := UInt8.lt_iff_toNat_lt.mp control
  have high := hexValue?_hexDigit (octet.toNat / 16) (by omega)
  have low := hexValue?_hexDigit (octet.toNat % 16) (by omega)
  have zero : hexValue? 0x30 = some 0 := by decide
  simp only [scanUnit, zero, high, low, Option.bind_eq_bind, Option.bind_some, Option.pure_def,
    Option.some.injEq]
  omega

theorem escaped_cases (octet : UInt8) :
    (escaped octet = [octet] ∧ pieceOf octet = .plain octet ∧ 0x20 ≤ octet ∧ octet ≠ 0x22 ∧ octet ≠ 0x5c) ∨
      (∃ letter, escaped octet = [0x5c, letter] ∧ pieceOf octet = .plain octet ∧
        unescaped? letter = some octet) ∨
      ∃ first second third fourth, escaped octet = [0x5c, 0x75, first, second, third, fourth] ∧
        pieceOf octet = .unit octet.toNat ∧ scanUnit first second third fourth = some octet.toNat := by
  unfold escaped
  by_cases quote : octet = 0x22
  · subst quote
    exact .inr (.inl ⟨_, rfl, rfl, rfl⟩)
  by_cases backslash : octet = 0x5c
  · subst backslash
    exact .inr (.inl ⟨_, rfl, rfl, rfl⟩)
  by_cases short : isShortEscaped octet = true
  · simp only [isShortEscaped, Bool.or_eq_true, beq_iff_eq] at short
    rcases short with (((rfl | rfl) | rfl) | rfl) | rfl <;> exact .inr (.inl ⟨_, rfl, rfl, rfl⟩)
  have notShort := short
  simp only [isShortEscaped, Bool.or_eq_true, beq_iff_eq, not_or] at notShort
  obtain ⟨⟨⟨⟨noBackspace, noTab⟩, noLine⟩, noForm⟩, noReturn⟩ := notShort
  by_cases control : octet < 0x20
  · refine .inr (.inr ⟨_, _, _, _, ?_, ?_, scanUnit_hexDigits control⟩)
    · simp [quote, backslash, noBackspace, noTab, noLine, noForm, noReturn, control]
    · simp [pieceOf, short, control]
  · refine .inl ⟨?_, ?_, UInt8.not_lt.mp control, quote, backslash⟩
    · simp [quote, backslash, noBackspace, noTab, noLine, noForm, noReturn, control]
    · simp [pieceOf, control]

theorem scanLiteral_plain {octet : UInt8} (printed : 0x20 ≤ octet) (noQuote : octet ≠ 0x22)
    (noEscape : octet ≠ 0x5c) (rest : Bytes) :
    scanLiteral (octet :: rest) = Literal.cons (.plain octet) (scanLiteral rest) := by
  simp [scanLiteral, noEscape, UInt8.not_lt.mpr printed]

theorem scanLiteral_short {letter meant : UInt8} (escapes : unescaped? letter = some meant) (rest : Bytes) :
    scanLiteral (0x5c :: letter :: rest) = Literal.cons (.plain meant) (scanLiteral rest) := by
  have noUnit : letter ≠ 0x75 := by
    rintro rfl
    cases escapes
  simp [scanLiteral, noUnit, escapes]

theorem scanLiteral_unit {first second third fourth : UInt8} {code : Nat}
    (escapes : scanUnit first second third fourth = some code) (rest : Bytes) :
    scanLiteral (0x5c :: 0x75 :: first :: second :: third :: fourth :: rest) =
      Literal.cons (.unit code) (scanLiteral rest) := by
  simp only [scanLiteral, escapes]

theorem scanLiteral_escaped (octet : UInt8) (rest : Bytes) :
    scanLiteral (escaped octet ++ rest) = Literal.cons (pieceOf octet) (scanLiteral rest) := by
  rcases escaped_cases octet with ⟨written, piece, printed, noQuote, noEscape⟩ |
    ⟨letter, written, piece, escapes⟩ | ⟨first, second, third, fourth, written, piece, escapes⟩
  · rw [written, piece]
    exact scanLiteral_plain printed noQuote noEscape rest
  · rw [written, piece]
    exact scanLiteral_short escapes rest
  · rw [written, piece]
    exact scanLiteral_unit escapes rest

theorem scanLiteral_closed (octets rest : Bytes) :
    scanLiteral (octets.flatMap escaped ++ 0x22 :: rest) =
      (⟨octets.map pieceOf, none⟩, .ok rest) := by
  induction octets with
  | nil => rfl
  | cons octet octets ih =>
    rw [List.flatMap_cons, List.append_assoc, scanLiteral_escaped, ih]
    rfl

/-- What stands after the opening quote of a written text is its literal. -/
theorem scanLiteral_text (text : String) (rest : Bytes) :
    scanLiteral ((Text.bytes text).flatMap escaped ++ 0x22 :: rest) = (literalOf text, .ok rest) :=
  scanLiteral_closed _ rest

theorem spellCode_of_control {octet : UInt8} (control : octet < 0x20) :
    spellCode octet.toNat = [octet] := by
  have bound : octet.toNat < 32 := UInt8.lt_iff_toNat_lt.mp control
  have valid : octet.toNat.isValidChar := .inl (by omega)
  have char : Char.ofNat octet.toNat = Char.ofNatAux octet.toNat valid := dif_pos valid
  have value : (Char.ofNat octet.toNat).val.toNat = octet.toNat := by
    rw [char]
    rfl
  simp only [spellCode, String.utf8EncodeChar, value]
  have small : octet.toNat ≤ 127 := by omega
  simp [small]

theorem spell_unit (atEnd : DocumentError) {code : Nat} (rest : List Piece)
    (notTrailing : isTrailing code = false) (notLeading : isLeading code = false) :
    spell atEnd (.unit code :: rest) = (spell atEnd rest).map (spellCode code ++ ·) := by
  rw [spell.eq_def]
  simp [notTrailing, notLeading]

theorem spell_map_pieceOf (atEnd : DocumentError) (octets : Bytes) :
    spell atEnd (octets.map pieceOf) = .ok octets := by
  induction octets with
  | nil => rfl
  | cons octet octets ih =>
    rw [List.map_cons, pieceOf]
    split
    · rename_i numbered
      simp only [Bool.and_eq_true, decide_eq_true_eq] at numbered
      have bound : octet.toNat < 32 := UInt8.lt_iff_toNat_lt.mp numbered.1
      have notTrailing : isTrailing octet.toNat = false := by
        simp only [isTrailing, Bool.and_eq_false_iff, decide_eq_false_iff_not]
        omega
      have notLeading : isLeading octet.toNat = false := by
        simp only [isLeading, Bool.and_eq_false_iff, decide_eq_false_iff_not]
        omega
      rw [spell_unit atEnd _ notTrailing notLeading, ih, spellCode_of_control numbered.1]
      rfl
    · rw [spell, ih]
      rfl

theorem text_literalOf (text : String) : (literalOf text).text = .ok text := by
  simp only [literalOf, Literal.text, spell_map_pieceOf, Text.ofBytes?_bytes]

end LiveService.Json
