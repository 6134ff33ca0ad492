import LiveService.Net.Address

/-!
The shape of a literal address.  Whatever stands before it, the port comes last: after a colon that follows a
digit or a closing bracket, and in digits alone.
-/

namespace LiveService.SocketAddress

variable {chars rest : List Char} {radix bound value : Nat} {width : Option Nat} {leadingZero isFirst : Bool}

theorem isDigit_of_digitOf? {char : Char} (decimal : (digitOf? 10 char).isSome = true) :
    char.isDigit = true := by
  unfold digitOf? at decimal
  simp only [Char.isDigit, Bool.and_eq_true, decide_eq_true_eq, ge_iff_le, UInt32.le_iff_toNat_le]
  change 48 ≤ char.toNat ∧ char.toNat ≤ 57
  grind

theorem scanChar_eq_some {wanted : Char} {taken : Unit × List Char}
    (scanned : scanChar wanted chars = some taken) : chars = wanted :: taken.2 := by
  unfold scanChar at scanned
  split at scanned
  · split at scanned
    · rename_i same
      cases scanned
      rw [beq_iff_eq.mp same]
    · cases scanned
  · cases scanned

theorem scanNumber_eq_some (scanned : scanNumber radix bound width leadingZero chars = some (value, rest)) :
    ∃ digits, chars = digits ++ rest ∧ digits ≠ [] ∧
      (∀ digit ∈ digits, (digitOf? radix digit).isSome = true) ∧
      numberOf radix digits = value ∧ value ≤ bound := by
  unfold scanNumber at scanned
  dsimp only at scanned
  split at scanned
  · rename_i fits
    cases scanned
    simp only [Bool.and_eq_true, Bool.not_eq_true', List.isEmpty_eq_false_iff, decide_eq_true_eq] at fits
    obtain ⟨⟨⟨nonempty, _⟩, _⟩, small⟩ := fits
    refine ⟨_, ?_, nonempty, List.all_eq_true.mp List.all_takeWhile, rfl, small⟩
    exact (List.prefix_iff_eq_append.mp (List.takeWhile_prefix _)).symm
  · cases scanned

def LeavesEnd {Value : Type} (scan : Scanner Value) : Prop :=
  ∀ chars value rest, scan chars = some (value, rest) → rest <:+ chars

def TakesUpTo {Value : Type} (last : Char → Prop) (scan : Scanner Value) : Prop :=
  ∀ chars value rest, scan chars = some (value, rest) → ∃ front char, chars = front ++ char :: rest ∧ last char

section

variable {Value : Type} {scan : Scanner Value} {last : Char → Prop}

theorem TakesUpTo.leavesEnd (takes : TakesUpTo last scan) : LeavesEnd scan := by
  intro chars value rest scanned
  obtain ⟨front, char, rfl, _⟩ := takes chars value rest scanned
  exact (List.suffix_cons char rest).trans (List.suffix_append front _)

theorem separated_takesUpTo {separator : Char} (takes : TakesUpTo last scan) :
    TakesUpTo last (separated separator isFirst scan) := by
  intro chars value rest scanned
  unfold separated at scanned
  split at scanned
  · exact takes chars value rest scanned
  · obtain ⟨taken, first, second⟩ := Option.bind_eq_some_iff.mp scanned
    obtain ⟨front, char, split, ends⟩ := takes taken.2 value rest second
    refine ⟨separator :: front, char, ?_, ends⟩
    rw [scanChar_eq_some first, split, List.cons_append]

end

theorem scanNumber_takesUpTo (width : Option Nat) (leadingZero : Bool) :
    TakesUpTo (fun char => (digitOf? radix char).isSome = true) (scanNumber radix bound width leadingZero) := by
  intro chars value rest scanned
  obtain ⟨digits, rfl, nonempty, decimal, _⟩ := scanNumber_eq_some scanned
  refine ⟨digits.dropLast, digits.getLast nonempty, ?_, decimal _ (List.getLast_mem nonempty)⟩
  rw [List.append_cons, List.dropLast_concat_getLast]

theorem scanOctet_takesUpTo : TakesUpTo (fun char => (digitOf? 10 char).isSome = true) scanOctet := by
  intro chars value rest scanned
  obtain ⟨⟨number, left⟩, counted, same⟩ := Option.map_eq_some_iff.mp scanned
  cases same
  exact scanNumber_takesUpTo _ _ chars number _ counted

theorem scanGroup_takesUpTo : TakesUpTo (fun char => (digitOf? 16 char).isSome = true) scanGroup := by
  intro chars value rest scanned
  obtain ⟨⟨number, left⟩, counted, same⟩ := Option.map_eq_some_iff.mp scanned
  cases same
  exact scanNumber_takesUpTo _ _ chars number _ counted

theorem scanOctets_takesUpTo (count : Nat) : ∀ isFirst,
    TakesUpTo (fun char => (digitOf? 10 char).isSome = true) (scanOctets (count + 1) isFirst) := by
  induction count with
  | zero =>
    intro isFirst chars octets rest scanned
    obtain ⟨⟨octet, left⟩, first, none⟩ := Option.bind_eq_some_iff.mp scanned
    cases none
    exact separated_takesUpTo scanOctet_takesUpTo chars octet _ first
  | succ count ih =>
    intro isFirst chars octets rest scanned
    obtain ⟨⟨octet, left⟩, first, more⟩ := Option.bind_eq_some_iff.mp scanned
    obtain ⟨⟨others, least⟩, further, same⟩ := Option.map_eq_some_iff.mp more
    cases same
    obtain ⟨front, char, split, _⟩ := separated_takesUpTo scanOctet_takesUpTo chars octet _ first
    obtain ⟨behind, final, splitMore, decimal⟩ := ih false left others _ further
    refine ⟨front ++ char :: behind, final, ?_, decimal⟩
    rw [split, splitMore, List.append_assoc, List.cons_append]

theorem scanV4_takesUpTo : TakesUpTo (fun char => (digitOf? 10 char).isSome = true) scanV4 :=
  scanOctets_takesUpTo 3 true

theorem scanGroups_leavesEnd (limit : Nat) : ∀ isFirst chars, (scanGroups limit isFirst chars).2.2 <:+ chars := by
  induction limit with
  | zero =>
    intro isFirst chars
    exact List.suffix_refl chars
  | succ limit ih =>
    intro isFirst chars
    unfold scanGroups
    split
    · rename_i octets rest scanned
      split at scanned
      · cases scanned
      · exact (separated_takesUpTo scanV4_takesUpTo).leavesEnd chars octets rest scanned
    · split
      · rename_i group rest scanned
        exact (ih false rest).trans
          ((separated_takesUpTo scanGroup_takesUpTo).leavesEnd chars group rest scanned)
      · exact List.suffix_refl chars

theorem scanV6_leavesEnd : LeavesEnd scanV6 := by
  intro chars groups rest scanned
  unfold scanV6 at scanned
  have front := scanGroups_leavesEnd 8 true chars
  dsimp only at scanned
  split at scanned
  · cases scanned
    exact front
  · split at scanned
    · cases scanned
    · obtain ⟨⟨_, left⟩, first, more⟩ := Option.bind_eq_some_iff.mp scanned
      obtain ⟨⟨_, least⟩, second, same⟩ := Option.map_eq_some_iff.mp more
      cases same
      have colons := scanChar_eq_some first
      rw [scanChar_eq_some second] at colons
      rw [colons] at front
      refine (scanGroups_leavesEnd _ true least).trans (List.IsSuffix.trans ?_ front)
      exact (List.suffix_cons _ _).trans (List.suffix_cons _ _)

theorem scanZone_leavesEnd : LeavesEnd scanZone := by
  intro chars zone rest scanned
  obtain ⟨⟨_, left⟩, first, more⟩ := Option.bind_eq_some_iff.mp scanned
  obtain ⟨⟨number, least⟩, counted, same⟩ := Option.map_eq_some_iff.mp more
  cases same
  rw [scanChar_eq_some first]
  exact ((scanNumber_takesUpTo _ _).leavesEnd left number _ counted).trans (List.suffix_cons _ _)

structure IsPort (digits : List Char) : Prop where
  nonempty : digits ≠ []
  decimal : ∀ digit ∈ digits, digit.isDigit = true
  small : numberOf 10 digits ≤ 65535

theorem scanPort_eq_some {port : UInt16} (scanned : scanPort chars = some (port, rest)) :
    ∃ digits, chars = ':' :: digits ++ rest ∧ IsPort digits ∧ port = (numberOf 10 digits).toUInt16 := by
  obtain ⟨⟨_, left⟩, first, more⟩ := Option.bind_eq_some_iff.mp scanned
  obtain ⟨⟨number, least⟩, counted, same⟩ := Option.map_eq_some_iff.mp more
  cases same
  obtain ⟨digits, rfl, nonempty, decimal, rfl, small⟩ := scanNumber_eq_some counted
  exact ⟨digits, scanChar_eq_some first,
    ⟨nonempty, fun digit member => isDigit_of_digitOf? (decimal digit member), small⟩, rfl⟩

/-- Up to what is left, a text ends in a port, behind a colon that does not follow another one. -/
def EndsInPort (chars rest : List Char) (port : UInt16) : Prop :=
  ∃ front last digits, chars = front ++ last :: ':' :: digits ++ rest ∧ last ≠ ':' ∧ IsPort digits ∧
    port = (numberOf 10 digits).toUInt16

theorem scanSocketV4_eq_some {address : SocketAddress} (scanned : scanSocketV4 chars = some (address, rest)) :
    EndsInPort chars rest address.port := by
  obtain ⟨⟨octets, left⟩, first, more⟩ := Option.bind_eq_some_iff.mp scanned
  obtain ⟨⟨port, least⟩, second, same⟩ := Option.map_eq_some_iff.mp more
  cases same
  obtain ⟨front, last, rfl, decimal⟩ := scanV4_takesUpTo _ octets left first
  obtain ⟨digits, rfl, isPort, rfl⟩ := scanPort_eq_some second
  refine ⟨front, last, digits, by simp, ?_, isPort, rfl⟩
  rintro rfl
  cases decimal

theorem scanSocketV6_eq_some {address : SocketAddress} (scanned : scanSocketV6 chars = some (address, rest)) :
    EndsInPort chars rest address.port := by
  obtain ⟨⟨_, inside⟩, opening, more⟩ := Option.bind_eq_some_iff.mp scanned
  obtain ⟨⟨groups, left⟩, first, more⟩ := Option.bind_eq_some_iff.mp more
  dsimp only at more
  obtain ⟨⟨_, outside⟩, closing, more⟩ := Option.bind_eq_some_iff.mp more
  obtain ⟨⟨port, least⟩, last, same⟩ := Option.map_eq_some_iff.mp more
  cases same
  obtain ⟨digits, split, isPort, rfl⟩ := scanPort_eq_some last
  have ends : ']' :: outside <:+ chars := by
    rw [scanChar_eq_some opening]
    refine List.IsSuffix.trans ?_ (List.suffix_cons '[' inside)
    refine List.IsSuffix.trans ?_ (scanV6_leavesEnd inside groups left first)
    rw [← scanChar_eq_some closing]
    cases zoned : scanZone left with
    | none => exact List.suffix_refl left
    | some taken => exact scanZone_leavesEnd left taken.1 taken.2 zoned
  obtain ⟨front, whole⟩ := ends
  dsimp only at split
  refine ⟨front, ']', digits, ?_, by decide, isPort, rfl⟩
  rw [← whole, split]
  simp

theorem ofLiteral?_eq_some {text : String} {address : SocketAddress} (literal : ofLiteral? text = some address) :
    EndsInPort text.toList [] address.port := by
  unfold ofLiteral? at literal
  split at literal
  · rename_i scanned
    cases literal
    rcases Option.or_eq_some_iff.mp scanned with four | ⟨_, six⟩
    · exact scanSocketV4_eq_some four
    · exact scanSocketV6_eq_some six
  · cases literal

end LiveService.SocketAddress
