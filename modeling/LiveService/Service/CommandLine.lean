import LiveService.Files.Path

/-!
The arguments of the program.
-/

namespace LiveService

inductive Invocation where
  | run (path : Path) (watch : Bool)
  | help
  | version
  | misuse

namespace CommandLine

def programName : String := "live-listener"

def versionText : String := programName ++ " 0.1.0\n"

def standardPath : Path := ⟨"live-listener.json"⟩

def helpText : String :=
  "Configuration-driven listener with restart and rollback\n\n" ++
  "Usage: live-listener [OPTIONS]\n\n" ++
  "Options:\n" ++
  "  -c, --config <CONFIG>  Configuration file; created from defaults when missing " ++
    "[default: live-listener.json]\n" ++
  "      --no-watch         Do not watch the file; re-read it only on SIGHUP\n" ++
  "  -h, --help             Print help\n" ++
  "  -V, --version          Print version\n"

structure Seen where
  path : Option Path
  noWatch : Bool

def Seen.withPath (seen : Seen) (text : String) : Option Seen :=
  if seen.path.isSome || text == "" then none else some { seen with path := some ⟨text⟩ }

def Seen.withNoWatch (seen : Seen) : Option Seen :=
  if seen.noWatch then none else some { seen with noWatch := true }

def Seen.finish (seen : Seen) : Invocation :=
  .run (seen.path.getD standardPath) (!seen.noWatch)

def isValue (text : String) : Bool := text == "-" || text.toList.head? != some '-'

/-- What short options in one word ask for: nothing more, an answer at once, or a value from the next
word. -/
inductive Cluster where
  | done (seen : Seen)
  | answer (invocation : Invocation)
  | pending (seen : Seen)

def readCluster (seen : Seen) : List Char → Cluster
  | 'h' :: _ => .answer .help
  | 'V' :: _ => .answer .version
  | ['c'] => .pending seen
  | 'c' :: '=' :: value => named value
  | 'c' :: value => named value
  | _ => .answer .misuse
where
  named (value : List Char) : Cluster :=
    match seen.withPath (String.ofList value) with
    | some seen => .done seen
    | none => .answer .misuse

mutual

def readWords (seen : Seen) : List String → Invocation
  | [] => seen.finish
  | word :: rest =>
    if word == "--" then if rest.isEmpty then seen.finish else .misuse
    else if word == "--help" then .help
    else if word == "--version" then .version
    else if word == "--no-watch" then
      match seen.withNoWatch with
      | some seen => readWords seen rest
      | none => .misuse
    else if word == "--config" then readValue seen rest
    else
      match word.toList with
      | '-' :: '-' :: 'c' :: 'o' :: 'n' :: 'f' :: 'i' :: 'g' :: '=' :: value =>
        match seen.withPath (String.ofList value) with
        | some seen => readWords seen rest
        | none => .misuse
      | '-' :: '-' :: _ => .misuse
      | '-' :: first :: cluster =>
        match readCluster seen (first :: cluster) with
        | .done seen => readWords seen rest
        | .answer invocation => invocation
        | .pending seen => readValue seen rest
      | _ => .misuse

def readValue (seen : Seen) : List String → Invocation
  | [] => .misuse
  | value :: rest =>
    if isValue value then
      match seen.withPath value with
      | some seen => readWords seen rest
      | none => .misuse
    else .misuse

end

def read (arguments : List String) : Invocation := readWords ⟨none, false⟩ arguments

def exitSuccess : UInt8 := 0

def exitFailure : UInt8 := 1

def exitMisuse : UInt8 := 2

def exitAbandoned : UInt8 := 101

end CommandLine

def Invocation.answer? : Invocation → Option (String × UInt8)
  | .run _ _ => none
  | .help => some (CommandLine.helpText, CommandLine.exitSuccess)
  | .version => some (CommandLine.versionText, CommandLine.exitSuccess)
  | .misuse => some ("", CommandLine.exitMisuse)

end LiveService
