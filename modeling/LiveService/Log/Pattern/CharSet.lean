import LiveService.Log.Pattern.Atom

/-!
Sets of characters in brackets, which may hold other sets and combine them.  Of a set that has been read
there is only left how deep it is nested.
-/

namespace LiveService.Pattern

def nest : List Nat → Nat
  | [] => 0
  | [part] => part
  | parts => parts.foldl max 0 + 1

/-- A set whose closing bracket is still to come: the nesting of its members since the last operator, and
of what stands before that.  At its front there are hyphens only. -/
structure OpenSet where
  isFront : Bool := true
  members : List Nat := []
  operand : Option Nat := none

namespace OpenSet

def add (set : OpenSet) (member : Nat) : OpenSet :=
  { set with isFront := false, members := member :: set.members }

def nesting (set : OpenSet) : Nat :=
  match set.operand with
  | none => nest set.members
  | some operand => max operand (nest set.members) + 1

def combine (set : OpenSet) : OpenSet := ⟨false, [], some set.nesting⟩

end OpenSet

def kindNames : List String :=
  ["alnum", "alpha", "ascii", "blank", "cntrl", "digit", "graph", "lower", "print", "punct", "space",
    "upper", "word", "xdigit"]

def readKind : List Char → Option (Bool × List Char)
  | ':' :: text =>
    let isNegated := text.head? == some '^'
    match (if isNegated then text.drop 1 else text).span (· != ':') with
    | (name, ':' :: ']' :: rest) =>
      if kindNames.contains (String.ofList name) then some (isNegated, rest) else none
    | _ => none
  | _ => none

def readMember (flags : Flags) (text : List Char) : Option (List Char) :=
  (readAtom flags text).bind fun (first, rest) =>
    let alone (rest : List Char) := if first.isMember flags then some rest else none
    match flags.skip rest with
    | '-' :: after =>
      if [some ']', some '-'].contains (flags.next? after) then alone ('-' :: after)
      else
        (readAtom flags (flags.skip after)).bind fun (last, rest) =>
          if first.isRange flags last then some rest else none
    | rest => alone rest

def enterSet (flags : Flags) (text : List Char) : Option (List Char) :=
  match flags.skip text with
  | '^' :: rest => if flags.isUnicode then some rest else none
  | text => some text

def isOperator (first second : Char) : Bool := first == second && ['&', '-', '~'].contains first

def readSet (flags : Flags) : Nat → OpenSet → List OpenSet → List Char → Option (Nat × List Char)
  | 0, _, _, _ => none
  | fuel + 1, set, outer, text =>
    let hasCase := flags.isUnicode && flags.ignoresCase
    match flags.skip text with
    | [] => none
    | '[' :: rest =>
      match readKind rest with
      | some (isNegated, rest) =>
        if hasCase || (isNegated && !flags.isUnicode) then none
        else readSet flags fuel (set.add 0) outer rest
      | none => (enterSet flags rest).bind fun rest => readSet flags fuel {} (set :: outer) rest
    | ']' :: rest =>
      if set.isFront && set.members.isEmpty then
        if hasCase then none else readSet flags fuel (set.add 0) outer rest
      else
        match outer with
        | [] => some (set.nesting + 1, rest)
        | around :: outer => readSet flags fuel (around.add (set.nesting + 1)) outer rest
    | first :: rest =>
      if set.isFront && first == '-' then
        if hasCase then none else readSet flags fuel { set.add 0 with isFront := true } outer rest
      else if rest.head?.any (isOperator first) then
        readSet flags fuel set.combine outer (rest.drop 1)
      else
        (readMember flags (first :: rest)).bind fun rest => readSet flags fuel (set.add 0) outer rest

end LiveService.Pattern
