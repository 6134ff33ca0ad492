import LiveService.Log.Pattern.CharSet
import LiveService.Text.Alphanumeric

/-!
Patterns that the value of a field is compared with.  No value is ever compared here; all that matters is
whether a text is a number or a pattern that can be compared with something.  A count of repetitions is
never complete, since the first closing brace ends the field.
-/

namespace LiveService.Pattern

/-- A part of a pattern, by its nesting.  Flags are a part as well, but cannot be repeated. -/
structure Part where
  nesting : Nat
  isRepeatable : Bool

/-- A group whose closing parenthesis is still to come: its alternatives so far, by their nesting, and the
parts of the last one, from the latest. -/
structure OpenGroup where
  alternatives : List Nat := []
  parts : List Part := []

namespace OpenGroup

def add (group : OpenGroup) (part : Part) : OpenGroup := { group with parts := part :: group.parts }

def alternate (group : OpenGroup) : OpenGroup :=
  ⟨nest (group.parts.map Part.nesting) :: group.alternatives, []⟩

def nesting (group : OpenGroup) : Nat := nest group.alternate.alternatives

def repeated? (group : OpenGroup) : Option OpenGroup :=
  match group.parts with
  | [] => none
  | part :: parts =>
    if part.isRepeatable then some { group with parts := ⟨part.nesting + 1, true⟩ :: parts } else none

end OpenGroup

structure Reading where
  group : OpenGroup := {}
  outer : List (OpenGroup × Flags) := []
  flags : Flags := .standard
  names : List (List Char) := []

namespace Reading

def add (reading : Reading) (part : Part) : Reading := { reading with group := reading.group.add part }

def enter (reading : Reading) (flags : Flags) : Reading :=
  { reading with group := {}, outer := (reading.group, reading.flags) :: reading.outer, flags := flags }

def leave? (reading : Reading) : Option Reading :=
  match reading.outer with
  | [] => none
  | (around, flags) :: outer =>
    some { reading with
      group := around.add ⟨reading.group.nesting + 1, true⟩, outer := outer, flags := flags }

def isName (name : List Char) : Bool :=
  (name.head?.any fun first => first == '_' || Text.isLetter first) &&
    name.all fun char => ['_', '.', '[', ']'].contains char || Text.isAlphanumeric char

def readNamed (reading : Reading) (text : List Char) : Option (Reading × List Char) :=
  match text.span (· != '>') with
  | (name, '>' :: rest) =>
    if isName name && !reading.names.contains name then
      some ({ reading.enter reading.flags with names := name :: reading.names }, rest)
    else none
  | _ => none

def readFlags (reading : Reading) (text : List Char) : Option (Reading × List Char) :=
  match text.span fun char => char != ':' && char != ')' with
  | (list, ':' :: rest) =>
    if Flags.isList list then some (reading.enter (reading.flags.change list), rest) else none
  | (list, ')' :: rest) =>
    if Flags.isList list && !list.isEmpty then
      some ({ reading.add ⟨0, false⟩ with flags := reading.flags.change list }, rest)
    else none
  | _ => none

def readGroup (reading : Reading) (text : List Char) : Option (Reading × List Char) :=
  match text with
  | '?' :: '<' :: rest => reading.readNamed rest
  | '?' :: 'P' :: '<' :: rest => reading.readNamed rest
  | '?' :: rest => reading.readFlags rest
  | text => some (reading.enter reading.flags, text)

def next? (reading : Reading) (text : List Char) : Option (Reading × List Char) :=
  match text with
  | '(' :: rest => reading.readGroup (reading.flags.skip rest)
  | ')' :: rest => reading.leave?.map fun reading => (reading, rest)
  | '|' :: rest => some ({ reading with group := reading.group.alternate }, rest)
  | '[' :: rest =>
    ((enterSet reading.flags rest).bind (readSet reading.flags rest.length {} [])).map
      fun (nesting, rest) => (reading.add ⟨nesting, true⟩, rest)
  | '{' :: _ => none
  | '.' :: rest => if reading.flags.isUnicode then some (reading.add ⟨0, true⟩, rest) else none
  | '^' :: rest => some (reading.add ⟨0, true⟩, rest)
  | '$' :: rest => some (reading.add ⟨0, true⟩, rest)
  | mark :: rest =>
    if ['?', '*', '+'].contains mark then
      reading.group.repeated?.map fun group =>
        ({ reading with group := group }, if rest.head? == some '?' then rest.drop 1 else rest)
    else
      (readAtom reading.flags text).bind fun (atom, rest) =>
        if atom.isAllowed reading.flags then some (reading.add ⟨0, true⟩, rest) else none
  | [] => none

def run : Nat → Reading → List Char → Option Reading
  | 0, reading, text => if (reading.flags.skip text).isEmpty then some reading else none
  | fuel + 1, reading, text =>
    match reading.flags.skip text with
    | [] => some reading
    | text => (reading.next? text).bind fun (reading, rest) => run fuel reading rest

end Reading

def nestingLimit : Nat := 250

def isWellFormed (text : String) : Bool :=
  (Reading.run text.length {} text.toList).any fun reading =>
    reading.outer.isEmpty && reading.group.nesting ≤ nestingLimit

def isDecimal (chars : List Char) : Bool :=
  let (whole, rest) := chars.span Char.isDigit
  let (fraction, rest) :=
    match rest with
    | '.' :: rest => rest.span Char.isDigit
    | rest => ([], rest)
  let exponentFits :=
    match rest with
    | [] => true
    | mark :: '+' :: digits => mark.toLower == 'e' && !digits.isEmpty && digits.all Char.isDigit
    | mark :: '-' :: digits => mark.toLower == 'e' && !digits.isEmpty && digits.all Char.isDigit
    | mark :: digits => mark.toLower == 'e' && !digits.isEmpty && digits.all Char.isDigit
  !(whole ++ fraction).isEmpty && exponentFits

def isRaised (text : String) : Bool :=
  match text.toLower.toList with
  | '+' :: rest => isDecimal rest || ["inf", "infinity", "nan"].contains (String.ofList rest)
  | _ => false

def isValue (text : String) : Bool := isRaised text || isWellFormed text

end LiveService.Pattern
