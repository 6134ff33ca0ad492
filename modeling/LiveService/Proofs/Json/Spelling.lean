import LiveService.Json.Document
import LiveService.Proofs.Json.Literal
import LiveService.Proofs.Json.Numeral

/-!
The grammar of documents, beside the reader: which bytes spell a tree of tokens, whatever white space stands
between the tokens and whatever escapes are used.  The reader finds the tree that was spelled.
-/

namespace LiveService.Json

theorem skipSpace_append {blank : Bytes} (spaces : blank.all isSpace = true) (rest : Bytes) :
    skipSpace (blank ++ rest) = skipSpace rest :=
  List.dropWhile_append_of_pos (List.all_eq_true.mp spaces)

theorem skipSpace_of_notSpace {octet : UInt8} (rest : Bytes) (token : isSpace octet = false) :
    skipSpace (octet :: rest) = octet :: rest := by
  rw [skipSpace, List.dropWhile_cons_of_neg (by simp [token])]

theorem ends_of_token {octet : UInt8} (rest : Bytes)
    (token : isDigit octet = false ∧ octet ≠ 0x2e ∧ octet ≠ 0x65 ∧ octet ≠ 0x45) :
    Ends (octet :: rest) := by
  intro first isFirst
  cases isFirst
  exact token

theorem ends_append {blank rest : Bytes} (spaces : blank.all isSpace = true) (ends : Ends rest) :
    Ends (blank ++ rest) := by
  cases blank with
  | nil => exact ends
  | cons octet blank =>
    have space := List.all_eq_true.mp spaces octet List.mem_cons_self
    simp only [isSpace, Bool.or_eq_true, beq_iff_eq] at space
    rcases space with ((rfl | rfl) | rfl) | rfl <;> exact ends_of_token _ (by decide)

theorem readValue_append {blank : Bytes} (spaces : blank.all isSpace = true) (fuel : Nat)
    (rest : Bytes) : readValue fuel (blank ++ rest) = readValue fuel rest := by
  cases fuel with
  | zero => rfl
  | succ fuel => simp only [readValue, skipSpace_append spaces]

theorem readValue_digit {octet : UInt8} (fuel : Nat) (rest : Bytes) (digit : isDigit octet = true) :
    readValue (fuel + 1) (octet :: rest) = readNumber false (octet :: rest) := by
  obtain ⟨least, greatest⟩ := isDigit_iff_toNat.mp digit
  have notSpace : isSpace octet = false := by
    simp only [isSpace, Bool.or_eq_false_iff, beq_eq_false_iff_ne]
    refine ⟨⟨⟨?_, ?_⟩, ?_⟩, ?_⟩ <;> (rintro rfl; exact absurd least (by decide))
  rw [readValue, skipSpace_of_notSpace rest notSpace]
  split <;> simp_all

theorem skipSpace_token {blank : Bytes} {octet : UInt8} (rest : Bytes)
    (spaces : blank.all isSpace = true) (token : isSpace octet = false) :
    skipSpace (blank ++ octet :: rest) = octet :: rest := by
  rw [skipSpace_append spaces, skipSpace_of_notSpace rest token]

theorem skipSpace_skipSpace (octets : Bytes) : skipSpace (skipSpace octets) = skipSpace octets := by
  induction octets with
  | nil => rfl
  | cons octet rest ih =>
    cases space : isSpace octet with
    | true =>
      have skipped : skipSpace (octet :: rest) = skipSpace rest := by
        simp only [skipSpace, List.dropWhile_cons, space, if_true]
      rw [skipped, ih]
    | false => rw [skipSpace_of_notSpace rest space, skipSpace_of_notSpace rest space]

theorem readItem_skipSpace (fuel : Nat) (octets : Bytes) :
    readItem fuel (skipSpace octets) = readItem fuel octets := by
  cases fuel with
  | zero => rfl
  | succ fuel =>
    have value : readValue fuel (skipSpace octets) = readValue fuel octets := by
      cases fuel with
      | zero => rfl
      | succ fuel => simp only [readValue, skipSpace_skipSpace]
    simp only [readItem, value]

theorem readItems_of_readItem {fuel : Nat} {octets rest : Bytes} {items : Items}
    (read : readItem (fuel + 1) octets = (items, .ok rest)) :
    readItems (fuel + 2) octets = (items, .ok rest) := by
  rw [← readItem_skipSpace] at read
  rw [readItems]
  split
  · rename_i nothing
    rw [nothing] at read
    cases fuel <;> simp [readItem, readValue, skipSpace] at read
  · rename_i closed
    rw [closed] at read
    cases fuel <;> simp [readItem, readValue, skipSpace, isSpace, isDigit] at read
  · rename_i first later _ front
    rw [← front]
    exact read

def IsGap (gap : Bytes) : Prop := gap.all isSpace = true

inductive SpellsPieces : List Piece → Bytes → Prop where
  | nil : SpellsPieces [] []
  | plain {octet : UInt8} {pieces : List Piece} {octets : Bytes} (printed : 0x20 ≤ octet)
      (noQuote : octet ≠ 0x22) (noEscape : octet ≠ 0x5c) (rest : SpellsPieces pieces octets) :
      SpellsPieces (.plain octet :: pieces) (octet :: octets)
  | short {letter meant : UInt8} {pieces : List Piece} {octets : Bytes}
      (escapes : unescaped? letter = some meant) (rest : SpellsPieces pieces octets) :
      SpellsPieces (.plain meant :: pieces) (0x5c :: letter :: octets)
  | unit {first second third fourth : UInt8} {code : Nat} {pieces : List Piece} {octets : Bytes}
      (escapes : scanUnit first second third fourth = some code) (rest : SpellsPieces pieces octets) :
      SpellsPieces (.unit code :: pieces) (0x5c :: 0x75 :: first :: second :: third :: fourth :: octets)

inductive SpellsFraction : Option Bytes → Bytes → Prop where
  | none : SpellsFraction none []
  | some {digits : Bytes} (areDigits : AreDigits digits) : SpellsFraction (some digits) (0x2e :: digits)

inductive SpellsExponent : Option (Bool × Bytes) → Bytes → Prop where
  | none : SpellsExponent none []
  | unsigned {mark : UInt8} {digits : Bytes} (marks : mark = 0x65 ∨ mark = 0x45) (areDigits : AreDigits digits) :
      SpellsExponent (some (false, digits)) (mark :: digits)
  | positive {mark : UInt8} {digits : Bytes} (marks : mark = 0x65 ∨ mark = 0x45) (areDigits : AreDigits digits) :
      SpellsExponent (some (false, digits)) (mark :: 0x2b :: digits)
  | negative {mark : UInt8} {digits : Bytes} (marks : mark = 0x65 ∨ mark = 0x45) (areDigits : AreDigits digits) :
      SpellsExponent (some (true, digits)) (mark :: 0x2d :: digits)

inductive SpellsMagnitude : Numeral → Bytes → Prop where
  | mk {negative : Bool} {whole point power : Bytes} {fraction : Option Bytes}
      {exponent : Option (Bool × Bytes)} (areDigits : AreDigits whole)
      (zeroAlone : whole.head? = some 0x30 → whole = [0x30]) (pointed : SpellsFraction fraction point)
      (raised : SpellsExponent exponent power) :
      SpellsMagnitude ⟨negative, whole, fraction, exponent⟩ (whole ++ (point ++ power))

inductive SpellsKey : Literal → Bytes → Prop where
  | mk {pieces : List Piece} {before octets between : Bytes} (opens : IsGap before)
      (spelled : SpellsPieces pieces octets) (closes : IsGap between) :
      SpellsKey ⟨pieces, none⟩ (before ++ 0x22 :: (octets ++ 0x22 :: (between ++ [0x3a])))

mutual

/-- The bytes of a value, which white space may precede. -/
inductive Spells : Node → Bytes → Prop where
  | spaced {node : Node} {gap octets : Bytes} (spaces : IsGap gap) (spelled : Spells node octets) :
      Spells node (gap ++ octets)
  | null : Spells .null [0x6e, 0x75, 0x6c, 0x6c]
  | true : Spells (.bool true) [0x74, 0x72, 0x75, 0x65]
  | false : Spells (.bool false) [0x66, 0x61, 0x6c, 0x73, 0x65]
  | number {numeral : Numeral} {octets : Bytes} (unsigned : numeral.negative = false)
      (spelled : SpellsMagnitude numeral octets) : Spells (.number numeral) octets
  | minus {numeral : Numeral} {octets : Bytes} (signed : numeral.negative = true)
      (spelled : SpellsMagnitude numeral octets) : Spells (.number numeral) (0x2d :: octets)
  | text {pieces : List Piece} {octets : Bytes} (spelled : SpellsPieces pieces octets) :
      Spells (.text ⟨pieces, none⟩) (0x22 :: (octets ++ [0x22]))
  | noItems {gap : Bytes} (spaces : IsGap gap) : Spells (.array .close) (0x5b :: (gap ++ [0x5d]))
  | array {node : Node} {items : Items} {octets later : Bytes} (first : Spells node octets)
      (others : SpellsItems items later) : Spells (.array (.item node items)) (0x5b :: (octets ++ later))
  | noMembers {gap : Bytes} (spaces : IsGap gap) : Spells (.object .close) (0x7b :: (gap ++ [0x7d]))
  | object {key : Literal} {node : Node} {members : Members} {name octets later : Bytes}
      (named : SpellsKey key name) (first : Spells node octets) (others : SpellsMembers members later) :
      Spells (.object (.member key node members)) (0x7b :: (name ++ (octets ++ later)))

inductive SpellsItems : Items → Bytes → Prop where
  | close {gap : Bytes} (spaces : IsGap gap) : SpellsItems .close (gap ++ [0x5d])
  | item {node : Node} {items : Items} {gap octets later : Bytes} (spaces : IsGap gap)
      (next : Spells node octets) (others : SpellsItems items later) :
      SpellsItems (.item node items) (gap ++ 0x2c :: (octets ++ later))

inductive SpellsMembers : Members → Bytes → Prop where
  | close {gap : Bytes} (spaces : IsGap gap) : SpellsMembers .close (gap ++ [0x7d])
  | member {key : Literal} {node : Node} {members : Members} {gap name octets later : Bytes}
      (spaces : IsGap gap) (named : SpellsKey key name) (next : Spells node octets)
      (others : SpellsMembers members later) :
      SpellsMembers (.member key node members) (gap ++ 0x2c :: (name ++ (octets ++ later)))

end

theorem scanLiteral_of_spells {pieces : List Piece} {octets : Bytes} (spelled : SpellsPieces pieces octets)
    (rest : Bytes) : scanLiteral (octets ++ 0x22 :: rest) = (⟨pieces, none⟩, .ok rest) := by
  induction spelled with
  | nil => rfl
  | plain printed noQuote noEscape _ ih =>
    rw [List.cons_append, scanLiteral_plain printed noQuote noEscape, ih]
    rfl
  | short escapes _ ih =>
    rw [List.cons_append, List.cons_append, scanLiteral_short escapes, ih]
    rfl
  | unit escapes _ ih =>
    simp only [List.cons_append, scanLiteral_unit escapes, ih]
    rfl

theorem scanFraction_of_spells {fraction : Option Bytes} {point rest : Bytes}
    (spelled : SpellsFraction fraction point)
    (stops : ∀ octet, rest.head? = some octet → isDigit octet = false ∧ octet ≠ 0x2e) :
    scanFraction (point ++ rest) = .ok (fraction, rest) := by
  cases spelled with
  | none =>
    rw [List.nil_append, scanFraction]
    intro other equal
    exact (stops 0x2e (by rw [equal]; rfl)).2 rfl
  | some areDigits =>
    have noDigit : (rest.head?.map isDigit).getD false = false := by
      cases rest with
      | nil => rfl
      | cons octet rest => exact (stops octet rfl).1
    rw [List.cons_append, scanFraction, scanDigits_append areDigits noDigit]
    rfl

theorem scanExponent_of_spells {exponent : Option (Bool × Bytes)} {power rest : Bytes}
    (spelled : SpellsExponent exponent power) (ends : Ends rest) :
    scanExponent (power ++ rest) = .ok (exponent, rest) := by
  cases spelled with
  | none =>
    cases rest with
    | nil => rfl
    | cons octet rest =>
      obtain ⟨_, _, small, capital⟩ := ends octet rfl
      simp [scanExponent, small, capital]
  | @unsigned mark digits marks areDigits =>
    have scanned := scanDigits_append areDigits ends.head_isDigit
    obtain ⟨first, later, rfl⟩ := List.exists_cons_of_ne_nil areDigits.nonempty
    have digit := areDigits.all first List.mem_cons_self
    have noMinus : first ≠ 0x2d := by
      rintro rfl
      cases digit
    have noPlus : first ≠ 0x2b := by
      rintro rfl
      cases digit
    rcases marks with rfl | rfl <;> simp_all [scanExponent, Except.map]
  | positive marks areDigits =>
    have scanned := scanDigits_append areDigits ends.head_isDigit
    rcases marks with rfl | rfl <;> simp [scanExponent, Except.map, scanned]
  | negative marks areDigits =>
    have scanned := scanDigits_append areDigits ends.head_isDigit
    rcases marks with rfl | rfl <;> simp [scanExponent, Except.map, scanned]

theorem stops_of_spells {exponent : Option (Bool × Bytes)} {power rest : Bytes}
    (spelled : SpellsExponent exponent power) (ends : Ends rest) (octet : UInt8)
    (first : (power ++ rest).head? = some octet) : isDigit octet = false ∧ octet ≠ 0x2e := by
  cases spelled with
  | none => exact ⟨(ends octet first).1, (ends octet first).2.1⟩
  | unsigned marks | positive marks | negative marks =>
    cases first
    rcases marks with rfl | rfl <;> decide

theorem scanNumeral_of_spells {numeral : Numeral} {octets rest : Bytes}
    (spelled : SpellsMagnitude numeral octets) (ends : Ends rest) :
    scanNumeral numeral.negative (octets ++ rest) = .ok (numeral, rest) := by
  cases spelled with
  | @mk negative whole point power fraction exponent areDigits zeroAlone pointed raised =>
    have afterPoint := stops_of_spells raised ends
    have afterWhole : ((point ++ (power ++ rest)).head?.map isDigit).getD false = false := by
      cases pointed with
      | none =>
        rw [List.nil_append]
        cases front : power ++ rest with
        | nil => rfl
        | cons octet later => exact (afterPoint octet (by rw [front]; rfl)).1
      | some _ => rfl
    rw [List.append_assoc, List.append_assoc]
    simp only [scanNumeral, scanWhole_append areDigits zeroAlone afterWhole,
      scanFraction_of_spells pointed afterPoint, scanExponent_of_spells raised ends, bind, Except.bind, pure,
      Except.pure]

theorem readKey_of_spells {key : Literal} {octets : Bytes} (spelled : SpellsKey key octets) (rest : Bytes) :
    ∃ tail, skipSpace (octets ++ rest) = 0x22 :: tail ∧ readKey tail = (key, .ok rest) := by
  cases spelled with
  | @mk pieces before octets between opens spelled closes =>
    refine ⟨octets ++ 0x22 :: (between ++ 0x3a :: rest), ?_, ?_⟩
    · simp only [List.append_assoc, List.cons_append, List.nil_append]
      exact skipSpace_token _ opens (by decide)
    · simp only [readKey, scanLiteral_of_spells spelled, skipSpace_token rest closes (by decide : isSpace 0x3a = false)]

theorem readNumber_of_spells {numeral : Numeral} {octets rest : Bytes} (spelled : SpellsMagnitude numeral octets)
    (ends : Ends rest) : readNumber numeral.negative (octets ++ rest) = (.number numeral, .ok rest) := by
  rw [readNumber, scanNumeral_of_spells spelled ends]

theorem readValue_of_magnitude {numeral : Numeral} {octets rest : Bytes} (fuel : Nat)
    (unsigned : numeral.negative = false) (spelled : SpellsMagnitude numeral octets) (ends : Ends rest) :
    readValue (fuel + 1) (octets ++ rest) = (.number numeral, .ok rest) := by
  have read := readNumber_of_spells spelled ends
  cases spelled with
  | mk areDigits =>
    obtain ⟨first, later, rfl⟩ := List.exists_cons_of_ne_nil areDigits.nonempty
    rw [← read, unsigned]
    exact readValue_digit fuel _ (areDigits.all first List.mem_cons_self)

theorem SpellsItems.ends {items : Items} {later : Bytes} (spelled : SpellsItems items later) (rest : Bytes) :
    Ends (later ++ rest) := by
  cases spelled with
  | close spaces =>
    rw [List.append_assoc]
    exact ends_append spaces (ends_of_token _ (by decide))
  | item spaces =>
    rw [List.append_assoc]
    exact ends_append spaces (ends_of_token _ (by decide))

theorem SpellsMembers.ends {members : Members} {later : Bytes} (spelled : SpellsMembers members later)
    (rest : Bytes) : Ends (later ++ rest) := by
  cases spelled with
  | close spaces =>
    rw [List.append_assoc]
    exact ends_append spaces (ends_of_token _ (by decide))
  | member spaces =>
    rw [List.append_assoc]
    exact ends_append spaces (ends_of_token _ (by decide))

-- Every byte pays for the calls that it can take to read it, at most three.
mutual

/-- The reader finds the value that was spelled, up to what follows it. -/
theorem readValue_of_spells : ∀ {node : Node} {octets : Bytes}, Spells node octets →
    ∀ (fuel : Nat) (rest : Bytes), Ends rest → 3 * octets.length < fuel →
      readValue fuel (octets ++ rest) = (node, .ok rest)
  | _, _, .spaced spaces spelled, fuel, rest, ends, enough => by
    rw [List.length_append] at enough
    rw [List.append_assoc, readValue_append spaces]
    exact readValue_of_spells spelled fuel rest ends (by omega)
  | _, _, .null, fuel + 1, rest, _, _ => rfl
  | _, _, .true, fuel + 1, rest, _, _ => rfl
  | _, _, .false, fuel + 1, rest, _, _ => rfl
  | _, _, .number unsigned spelled, fuel + 1, rest, ends, _ => readValue_of_magnitude fuel unsigned spelled ends
  | _, _, .minus signed spelled, fuel + 1, rest, ends, _ => by
    rw [← readNumber_of_spells spelled ends, signed]
    rfl
  | _, _, .text spelled, fuel + 1, rest, _, _ => by
    simp only [List.cons_append, List.append_assoc, List.nil_append]
    rw [readValue, skipSpace_of_notSpace _ (by decide)]
    simp only [scanLiteral_of_spells spelled]
  | _, _, .noItems spaces, fuel + 2, rest, _, _ => by
    simp only [List.cons_append, List.append_assoc, List.nil_append]
    rw [readValue, skipSpace_of_notSpace _ (by decide)]
    simp only [readItems, skipSpace_token rest spaces (by decide : isSpace 0x5d = false)]
  | _, _, .array first others, fuel + 3, rest, _, enough => by
    simp only [List.length_cons, List.length_append] at enough
    have read := readItem_of_spells others fuel rest (by omega)
      (readValue_of_spells first fuel _ (others.ends rest) (by omega))
    simp only [List.cons_append, List.append_assoc]
    rw [readValue, skipSpace_of_notSpace _ (by decide)]
    simp only [readItems_of_readItem read]
  | _, _, .noMembers spaces, fuel + 2, rest, _, _ => by
    simp only [List.cons_append, List.append_assoc, List.nil_append]
    rw [readValue, skipSpace_of_notSpace _ (by decide)]
    simp only [readMembers, skipSpace_token rest spaces (by decide : isSpace 0x7d = false)]
  | _, _, .object named first others, fuel + 3, rest, _, enough => by
    simp only [List.length_cons, List.length_append] at enough
    obtain ⟨tail, front, key⟩ := readKey_of_spells named _
    have read := readMember_of_spells others fuel rest (by omega) key
      (readValue_of_spells first fuel _ (others.ends rest) (by omega))
    simp only [List.cons_append, List.append_assoc]
    rw [readValue, skipSpace_of_notSpace _ (by decide)]
    simp only [readMembers, front, read]

theorem readItem_of_spells : ∀ {items : Items} {later : Bytes}, SpellsItems items later →
    ∀ (fuel : Nat) (rest : Bytes) {node : Node} {octets : Bytes}, 3 * later.length < fuel + 1 →
      readValue fuel octets = (node, .ok (later ++ rest)) →
      readItem (fuel + 1) octets = (.item node items, .ok rest)
  | _, _, .close spaces, fuel, rest, node, octets, _, read => by
    rw [List.append_assoc] at read
    rw [readItem, read]
    simp only [List.cons_append, List.nil_append, skipSpace_token rest spaces (by decide : isSpace 0x5d = false)]
  | _, _, .item spaces next others, fuel + 1, rest, node, octets, enough, read => by
    simp only [List.length_cons, List.length_append] at enough
    have further := readItem_of_spells others fuel rest (by omega)
      (readValue_of_spells next fuel _ (others.ends rest) (by omega))
    simp only [List.append_assoc, List.cons_append] at read
    rw [readItem, read]
    simp only [skipSpace_token _ spaces (by decide : isSpace 0x2c = false), further]

theorem readMember_of_spells : ∀ {members : Members} {later : Bytes}, SpellsMembers members later →
    ∀ (fuel : Nat) (rest : Bytes) {key : Literal} {node : Node} {tail octets : Bytes},
      3 * later.length < fuel + 1 → readKey tail = (key, .ok octets) →
      readValue fuel octets = (node, .ok (later ++ rest)) →
      readMember (fuel + 1) tail = (.member key node members, .ok rest)
  | _, _, .close spaces, fuel, rest, key, node, tail, octets, _, named, read => by
    rw [List.append_assoc] at read
    rw [readMember, named]
    simp only [read, List.cons_append, List.nil_append,
      skipSpace_token rest spaces (by decide : isSpace 0x7d = false)]
  | _, _, .member spaces name next others, fuel + 1, rest, key, node, tail, octets, enough, named, read => by
    simp only [List.length_cons, List.length_append] at enough
    obtain ⟨begin, front, nextKey⟩ := readKey_of_spells name _
    have further := readMember_of_spells others fuel rest (by omega) nextKey
      (readValue_of_spells next fuel _ (others.ends rest) (by omega))
    simp only [List.append_assoc, List.cons_append] at read
    rw [readMember, named]
    simp only [read, skipSpace_token _ spaces (by decide : isSpace 0x2c = false), front, further]

end

theorem readNode_of_spells {node : Node} {octets gap : Bytes} (spelled : Spells node octets)
    (closes : IsGap gap) : readNode (octets ++ gap) = (node, .ok gap) := by
  have ends : Ends gap := by
    have nothing : Ends [] := fun octet first => absurd first (by simp)
    simpa using ends_append closes nothing
  refine readValue_of_spells spelled _ gap ends ?_
  rw [List.length_append]
  omega

mutual

theorem Spells.skip : ∀ {node : Node} {octets : Bytes}, Spells node octets → node.skip = .ok ()
  | _, _, .spaced _ spelled => spelled.skip
  | _, _, .null | _, _, .true | _, _, .false | _, _, .number _ _ | _, _, .minus _ _ | _, _, .text _ => rfl
  | _, _, .noItems _ | _, _, .noMembers _ => rfl
  | _, _, .array first others => by
    simp only [Node.skip, Items.skip, first.skip, others.skip]
  | _, _, .object (.mk _ _ _) first others => by
    simp only [Node.skip, Members.skip, first.skip, others.skip]

theorem SpellsItems.skip : ∀ {items : Items} {later : Bytes}, SpellsItems items later → items.skip = .ok ()
  | _, _, .close _ => rfl
  | _, _, .item _ next others => by
    simp only [Items.skip, next.skip, others.skip]

theorem SpellsMembers.skip : ∀ {members : Members} {later : Bytes}, SpellsMembers members later →
    members.skip = .ok ()
  | _, _, .close _ => rfl
  | _, _, .member _ (.mk _ _ _) next others => by
    simp only [Members.skip, next.skip, others.skip]

end

end LiveService.Json
