/-!
White space of the whole character set, and texts without it at either end.
-/

namespace LiveService.Text

/-- The characters that the standard gives the property `White_Space`. -/
def isBlankChar (char : Char) : Bool :=
  let code := char.toNat
  (0x09 ≤ code && code ≤ 0x0d) || code == 0x20 || code == 0x85 || code == 0xa0 || code == 0x1680 ||
    (0x2000 ≤ code && code ≤ 0x200a) || code == 0x2028 || code == 0x2029 || code == 0x202f ||
    code == 0x205f || code == 0x3000

def trimStart (chars : List Char) : List Char := chars.dropWhile isBlankChar

def trimEnd (chars : List Char) : List Char := (trimStart chars.reverse).reverse

def trim (text : String) : String := String.ofList (trimEnd (trimStart text.toList))

def isBlank (text : String) : Bool := text.toList.all isBlankChar

theorem all_trimStart (chars : List Char) :
    (trimStart chars).all isBlankChar = chars.all isBlankChar := by
  induction chars with
  | nil => rfl
  | cons char rest ih =>
    cases blank : isBlankChar char with
    | true => simpa [trimStart, blank] using ih
    | false => simp [trimStart, blank]

theorem trimStart_eq_nil_iff (chars : List Char) :
    trimStart chars = [] ↔ chars.all isBlankChar = true := by
  induction chars with
  | nil => simp [trimStart]
  | cons char rest ih => cases blank : isBlankChar char <;> simp_all [trimStart]

theorem trim_eq_empty_iff (text : String) : trim text = "" ↔ isBlank text = true := by
  have ends : trim text = "" ↔ trimEnd (trimStart text.toList) = [] := by
    rw [trim, ← String.ofList_nil, String.ofList_inj]
  rw [ends, trimEnd, List.reverse_eq_nil_iff, trimStart_eq_nil_iff, List.all_reverse, all_trimStart,
    isBlank]

end LiveService.Text
