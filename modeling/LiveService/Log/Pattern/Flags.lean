import LiveService.Text.Blank

/-!
The flags of a pattern, which it may change on the way, and the text that they let a reader pass over.
-/

namespace LiveService.Pattern

/-- Without `isUnicode` a pattern is about bytes; under `isSpaced` white space and comments in it mean
nothing. -/
structure Flags where
  ignoresCase : Bool
  isUnicode : Bool
  isSpaced : Bool

namespace Flags

def standard : Flags := ⟨false, true, false⟩

def marks : List Char := "imsRUux-".toList

def isList (list : List Char) : Bool :=
  list.all marks.contains && list.eraseDups.length == list.length && list.getLast? != some '-'

def changed (list : List Char) (letter : Char) (held : Bool) : Bool :=
  if list.contains letter then (list.takeWhile (· != '-')).contains letter else held

def change (flags : Flags) (list : List Char) : Flags :=
  ⟨changed list 'i' flags.ignoresCase, changed list 'u' flags.isUnicode,
    changed list 'x' flags.isSpaced⟩

def dropSpace (inComment : Bool) : List Char → List Char
  | [] => []
  | char :: rest =>
    if inComment then dropSpace (char != '\n') rest
    else if Text.isBlankChar char then dropSpace false rest
    else if char == '#' then dropSpace true rest
    else char :: rest

def skip (flags : Flags) (text : List Char) : List Char :=
  if flags.isSpaced then dropSpace false text else text

/-- The character that seems to come next: of a comment only its sign is passed over, and what is all
white space is taken as it stands. -/
def next? (flags : Flags) (text : List Char) : Option Char :=
  if flags.isSpaced then
    let ahead :=
      match text.dropWhile Text.isBlankChar with
      | '#' :: comment => comment.dropWhile Text.isBlankChar
      | ahead => ahead
    ahead.head?.or text.head?
  else text.head?

end Flags

end LiveService.Pattern
