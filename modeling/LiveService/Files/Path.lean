/-!
Paths as they are written: steps between slashes, where slashes next to each other count as one.  A step is
a name, a single dot that stays where it is, or two dots that lead upwards.
-/

namespace LiveService

structure Path where
  text : String
  deriving DecidableEq

namespace Path

def isAbsolute (path : Path) : Bool := path.text.toList.head? == some '/'

def endsWithSlash (path : Path) : Bool := path.text.toList.getLast? == some '/'

def hasNul (path : Path) : Bool := path.text.toList.contains '\x00'

def splitSlashes : List Char → List (List Char)
  | [] => [[]]
  | '/' :: rest => [] :: splitSlashes rest
  | char :: rest =>
    match splitSlashes rest with
    | [] => [[char]]
    | piece :: pieces => (char :: piece) :: pieces

def pieces (path : Path) : List String := (splitSlashes path.text.toList).map String.ofList

def ofPieces (pieces : List String) : Path := ⟨String.intercalate "/" pieces⟩

def steps (path : Path) : List String := path.pieces.filter (· != "")

def leadsOn (piece : String) : Bool := piece != "" && piece != "."

def names (path : Path) : List String := path.pieces.filter leadsOn

def ofNames (absolute : Bool) (names : List String) : Path :=
  ⟨(if absolute then "/" else "") ++ String.intercalate "/" names⟩

/-- The beginnings of a path up to each of its names, the longest first, and the root of an absolute
path. -/
def beginnings (path : Path) : List Path :=
  let start : List Path := if path.isAbsolute then [⟨"/"⟩] else []
  (path.pieces.foldl (fun (before, found) piece =>
    let before := before ++ [piece]
    (before, if leadsOn piece then ofPieces before :: found else found)) ([], start)).2

def folders (path : Path) : List Path := path.beginnings.drop 1

def fileName? (path : Path) : Option String :=
  match path.names.getLast? with
  | some ".." => none
  | last => last

def splitExtension (name : String) : String × Option String :=
  let chars := name.toList
  let extension := (chars.reverse.takeWhile (· != '.')).reverse
  let stem := chars.take (chars.length - extension.length - 1)
  if stem.isEmpty then (name, none) else (String.ofList stem, some (String.ofList extension))

def withName (path : Path) (name : String) : Path :=
  ofPieces ((path.pieces.reverse.dropWhile fun piece => !leadsOn piece).tail.reverse ++ [name])

def dropEnd (path : Path) (count : Nat) : Path :=
  ⟨String.ofList (path.text.toList.take (path.text.length - count))⟩

/-- The path with another extension of its last name.  The old one is cut off first, and what is left by
then may lead upwards and so have no name to extend. -/
def withExtension (path : Path) (extension : String) : Path :=
  let old := (path.fileName?.bind fun name => (splitExtension name).2).getD ""
  let bare := path.dropEnd old.length
  match bare.fileName? with
  | none => bare
  | some name => bare.withName ((splitExtension name).1 ++ "." ++ extension)

def append (path : Path) (tail : String) : Path := ⟨path.text ++ tail⟩

end Path

end LiveService
