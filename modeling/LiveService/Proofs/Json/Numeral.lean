import Mathlib.Data.List.TakeDrop
import LiveService.Json.Codec

/-!
Whole numbers as they are written: their digits are scanned to the last one, and give the number back.
-/

namespace LiveService.Json

theorem toNat_toUInt8_of_isDigit {char : Char} (digit : char.isDigit = true) :
    48 ≤ char.toUInt8.toNat ∧ char.toUInt8.toNat ≤ 57 ∧ char.toUInt8.toNat = char.toNat := by
  obtain ⟨least, greatest⟩ := Char.isDigit_iff_toNat.mp digit
  have zero : '0'.toNat = 48 := rfl
  have nine : '9'.toNat = 57 := rfl
  have octet : char.toUInt8.toNat = char.toNat % 256 := UInt32.toNat_toUInt8 char.val
  omega

theorem isDigit_iff_toNat {octet : UInt8} :
    isDigit octet = true ↔ 48 ≤ octet.toNat ∧ octet.toNat ≤ 57 := by
  simp [isDigit, UInt8.le_iff_toNat_le]

theorem isDigit_of_mem_digits {value : Nat} {octet : UInt8} (member : octet ∈ digits value) :
    isDigit octet = true := by
  obtain ⟨char, present, rfl⟩ := List.mem_map.mp member
  have digit := Nat.isDigit_of_mem_toDigits (by decide) (by decide) present
  obtain ⟨least, greatest, _⟩ := toNat_toUInt8_of_isDigit digit
  exact isDigit_iff_toNat.mpr ⟨least, greatest⟩

theorem digits_ne_nil (value : Nat) : digits value ≠ [] := by
  simp [digits, Nat.toDigits_ne_nil]

structure AreDigits (octets : Bytes) : Prop where
  nonempty : octets ≠ []
  all : ∀ octet ∈ octets, isDigit octet = true

theorem areDigits_digits (value : Nat) : AreDigits (digits value) :=
  ⟨digits_ne_nil value, fun _ => isDigit_of_mem_digits⟩

theorem foldl_digits {chars : List Char} (allDigits : ∀ char ∈ chars, char.isDigit = true) :
    ∀ start : Nat, (chars.map Char.toUInt8).foldl
        (fun value digit => 10 * value + digitValue digit) start =
      Nat.ofDigitChars 10 chars start := by
  induction chars with
  | nil =>
    intro start
    rfl
  | cons char rest ih =>
    intro start
    obtain ⟨_, _, octet⟩ := toNat_toUInt8_of_isDigit (allDigits char List.mem_cons_self)
    have value : digitValue char.toUInt8 = char.toNat - '0'.toNat := by
      rw [digitValue, octet]
      rfl
    rw [List.map_cons, List.foldl_cons, Nat.ofDigitChars_cons, value]
    exact ih (fun other later => allDigits other (List.mem_cons_of_mem _ later)) _

theorem naturalOf_digits (value : Nat) : naturalOf (digits value) = value := by
  have allDigits : ∀ char ∈ Nat.toDigits 10 value, char.isDigit = true := fun char present =>
    Nat.isDigit_of_mem_toDigits (by decide) (by decide) present
  rw [naturalOf, digits, foldl_digits allDigits]
  exact Nat.ofDigitChars_toDigits (by decide) (by decide)

theorem digits_append {value : Nat} (large : 10 ≤ value) :
    digits value = digits (value / 10) ++ [(Nat.digitChar (value % 10)).toUInt8] := by
  rw [digits, Nat.toDigits_of_base_le (by decide) large, List.map_append]
  rfl

theorem digits_zero_head {value : Nat} {rest : Bytes} (zeroFirst : digits value = 0x30 :: rest) :
    rest = [] := by
  induction value using Nat.strongRecOn generalizing rest with
  | ind value ih =>
    by_cases small : value < 10
    · rw [digits, Nat.toDigits_of_lt_base small] at zeroFirst
      exact (List.cons.inj zeroFirst).2.symm
    · obtain ⟨first, later, front⟩ := List.exists_cons_of_ne_nil (digits_ne_nil (value / 10))
      rw [digits_append (Nat.not_lt.mp small), front, List.cons_append, List.cons.injEq] at zeroFirst
      rw [zeroFirst.1] at front
      -- The front is that of `value / 10`, which then is zero although `value` has two digits.
      have short := ih (value / 10) (by omega) front
      rw [short] at front
      have quotient := naturalOf_digits (value / 10)
      rw [front] at quotient
      have zero : naturalOf [0x30] = 0 := rfl
      omega

/-- What follows a number in a document does not lengthen it. -/
def Ends (rest : Bytes) : Prop :=
  ∀ octet, rest.head? = some octet →
    isDigit octet = false ∧ octet ≠ 0x2e ∧ octet ≠ 0x65 ∧ octet ≠ 0x45

theorem Ends.head_isDigit {rest : Bytes} (ends : Ends rest) :
    (rest.head?.map isDigit).getD false = false := by
  cases rest with
  | nil => rfl
  | cons octet rest => exact (ends octet rfl).1

theorem scanDigits_append {octets rest : Bytes} (areDigits : AreDigits octets)
    (stops : (rest.head?.map isDigit).getD false = false) :
    scanDigits (octets ++ rest) = .ok (octets, rest) := by
  have taken : (octets ++ rest).span isDigit = (octets, rest) := by
    rw [List.span_eq_takeWhile_dropWhile, List.takeWhile_append_of_pos areDigits.all,
      List.dropWhile_append_of_pos areDigits.all]
    cases rest with
    | nil => simp
    | cons octet rest => simp_all
  obtain ⟨first, later, rfl⟩ := List.exists_cons_of_ne_nil areDigits.nonempty
  rw [List.cons_append] at taken ⊢
  simp only [scanDigits, areDigits.all first List.mem_cons_self, taken, if_true]

theorem scanWhole_append {octets rest : Bytes} (areDigits : AreDigits octets)
    (zeroAlone : octets.head? = some 0x30 → octets = [0x30])
    (stops : (rest.head?.map isDigit).getD false = false) :
    scanWhole (octets ++ rest) = .ok (octets, rest) := by
  have scanned := scanDigits_append areDigits stops
  obtain ⟨first, later, rfl⟩ := List.exists_cons_of_ne_nil areDigits.nonempty
  by_cases zero : first = 0x30
  · rw [zeroAlone (congrArg some zero), List.cons_append, List.nil_append]
    simp only [scanWhole, stops]
    rfl
  · rw [List.cons_append] at scanned ⊢
    rw [scanWhole]
    · exact scanned
    · exact List.cons_ne_nil _ _
    · exact fun other equal => zero (List.cons.inj equal).1

theorem zero_alone {value : Nat} (zeroFirst : (digits value).head? = some 0x30) : digits value = [0x30] := by
  obtain ⟨first, later, front⟩ := List.exists_cons_of_ne_nil (digits_ne_nil value)
  rw [front] at zeroFirst
  cases zeroFirst
  rw [front, digits_zero_head front]

/-- The whole numbers that a document can hold: those of 64 bits, with a sign or without. -/
def isWord (value : Int) : Bool := -(UInt64.size / 2 : Nat) ≤ value && value < UInt64.size

def numeralOf (value : Int) : Numeral := ⟨value < 0, digits value.natAbs, none, none⟩

theorem number?_numeralOf {value : Int} (word : isWord value = true) :
    (numeralOf value).number? = some (.integer value) := by
  simp only [isWord, Bool.and_eq_true, decide_eq_true_eq] at word
  have size : UInt64.size = 2 ^ 64 := rfl
  have natural := naturalOf_digits value.natAbs
  have inside : value.natAbs < UInt64.size := by omega
  by_cases negative : value < 0
  · have least : 0 < value.natAbs ∧ value.natAbs ≤ UInt64.size / 2 := by omega
    have whole : -(value.natAbs : Int) = value := by omega
    simp only [numeralOf, Numeral.number?, negative, natural, inside, least, whole]
    rfl
  · have whole : (value.natAbs : Int) = value := by omega
    simp only [numeralOf, Numeral.number?, negative, natural, inside, whole]
    rfl

end LiveService.Json
