import LiveService.Log.Pattern.Flags

/-!
The smallest parts of a pattern: characters, kinds of characters, and places.  There are no tables of
letter case or of kinds at hand, so under the standard flags nothing that would need one can be asked for;
and no pattern may ask for bytes that belong to no character.
-/

namespace LiveService.Pattern

/-- A character may be written by the code of a byte.  A kind is that of digits, of spaces or of word
characters, a place lies between characters. -/
inductive Atom where
  | single (char : Char) (isByte : Bool)
  | kind (isNegated : Bool)
  | place (isWordEdge : Bool)

namespace Atom

def isAllowed (flags : Flags) : Atom → Bool
  | .single char isByte =>
    if flags.isUnicode then !flags.ignoresCase else !isByte || char.toNat < 0x80
  | .kind isNegated => !flags.isUnicode && !isNegated
  | .place isWordEdge => !flags.isUnicode || !isWordEdge

def isMember (flags : Flags) : Atom → Bool
  | .single char _ => if flags.isUnicode then !flags.ignoresCase else char.toNat < 0x80
  | .kind isNegated => !flags.isUnicode && !isNegated
  | .place _ => false

def isRange (flags : Flags) : Atom → Atom → Bool
  | .single first isFirstByte, .single last isLastByte =>
    first ≤ last && isMember flags (.single first isFirstByte) && isMember flags (.single last isLastByte)
  | _, _ => false

end Atom

def hexValue? (digit : Char) : Option Nat := "0123456789abcdef".toList.idxOf? digit.toLower

def readCode (flags : Flags) : Nat → Nat → List Char → Option (Nat × List Char)
  | 0, code, text => some (code, text)
  | count + 1, code, text =>
    match flags.skip text with
    | [] => none
    | digit :: rest =>
      (hexValue? digit).bind fun value => readCode flags count (16 * code + value) rest

def readCoded (flags : Flags) (count : Nat) (text : List Char) : Option (Atom × List Char) :=
  (readCode flags count 0 text).bind fun (code, rest) =>
    if code.isValidChar then some (.single (Char.ofNat code) (count == 2), rest) else none

def escaped? (mark : Char) : Option Atom :=
  match mark with
  | 'a' => some (.single '\x07' false)
  | 't' => some (.single '\t' false)
  | 'n' => some (.single '\n' false)
  | 'v' => some (.single '\x0b' false)
  | 'f' => some (.single '\x0c' false)
  | 'r' => some (.single '\r' false)
  | 'd' | 's' | 'w' => some (.kind false)
  | 'D' | 'S' | 'W' => some (.kind true)
  | 'A' | 'z' => some (.place false)
  | 'b' | 'B' | '<' | '>' => some (.place true)
  | _ => if mark.toNat < 0x80 && !mark.isAlphanum then some (.single mark false) else none

def readAtom (flags : Flags) : List Char → Option (Atom × List Char)
  | [] => none
  | '\\' :: 'x' :: rest => readCoded flags 2 rest
  | '\\' :: 'u' :: rest => readCoded flags 4 rest
  | '\\' :: 'U' :: rest => readCoded flags 8 rest
  | ['\\'] => none
  | '\\' :: mark :: rest => (escaped? mark).map fun atom => (atom, rest)
  | char :: rest => some (.single char false, rest)

end LiveService.Pattern
