import LiveService.Log.Directive

/-!
Which remarks are kept.  A filter is a list of directives between commas; the closest one that concerns a
remark decides, and a remark that concerns none is left out.
-/

namespace LiveService

abbrev Filter := List Directive

namespace Filter

def ofDirectives (fallback : Option Level) (directives : List Directive) : Filter :=
  if directives.isEmpty then [⟨none, none, none, fallback⟩] else directives.filter Directive.isStatic

def pieces (text : String) : List String :=
  ((text.toList.splitOn ',').map String.ofList).filter (· != "")

def readable : List String → Except DirectiveFault (List Directive)
  | [] => .ok []
  | piece :: rest =>
    match Directive.ofText piece with
    | .ok directive => (readable rest).map (directive :: ·)
    | .error .malformed => readable rest
    | .error .torn => .error .torn

/-- The filter of a list with what can be read of it.  Errors are kept if there is nothing. -/
def ofReadable (text : String) : Except DirectiveFault Filter :=
  (readable (pieces text)).map (ofDirectives (some .error))

def ofText (text : String) : Except DirectiveFault Filter :=
  ((pieces text).mapM Directive.ofText).map (ofDirectives none)

/-- The filter of a configured level, unless a directive that hides in it is torn. -/
def ofLevel (level : String) : Except DirectiveFault Filter :=
  ofReadable ("live_listener=" ++ level ++ ",tower_http=" ++ level)

def closest (remark : Remark) (filter : Filter) : Option Directive :=
  filter.foldl (fun best directive =>
    if directive.concerns remark && best.all directive.isAsClose then some directive else best) none

def allows (filter : Filter) (remark : Remark) : Bool :=
  (filter.closest remark).any fun directive => directive.allows remark

end Filter

end LiveService
