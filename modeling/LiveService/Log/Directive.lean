import LiveService.Log.Pattern
import LiveService.Log.Remark
import LiveService.Text.Alphanumeric
import LiveService.Text.Blank
import LiveService.Text.Bytes

/-!
One directive of a filter, such as `debug`, `live_listener=debug` or `live_listener[span{field}]=debug`.
Its marks are looked for in the text without white space around it, but the parts between them are taken
from the same places of the text as it stands.  So a blank in front shifts what is taken, and one behind
belongs to the last part.
-/

namespace LiveService

/-- `field` is a name, with an equals sign and a value behind it if a value is asked for. -/
structure Directive where
  target : Option String
  span : Option String
  field : Option String
  bound : Option Level

inductive DirectiveFault where
  | malformed
  | torn
  deriving DecidableEq

structure DirectiveText where
  whole : Bytes
  trimmed : Bytes

namespace DirectiveText

def ofText (text : String) : DirectiveText := ⟨Text.bytes text, Text.bytes (Text.trim text)⟩

def mark? (text : DirectiveText) (place : Nat) : Option Char :=
  text.trimmed[place]?.map fun octet => Char.ofNat octet.toNat

def next (text : DirectiveText) (marks : List Char) (start : Nat) : Nat :=
  let passed := (text.trimmed.drop start).takeWhile fun octet =>
    !marks.contains (Char.ofNat octet.toNat)
  start + passed.length

def isBoundary (text : DirectiveText) (place : Nat) : Bool :=
  text.whole[place]?.all fun octet => octet < 0x80 || 0xc0 ≤ octet

def part (text : DirectiveText) (start stop : Nat) : Except DirectiveFault String :=
  match text.isBoundary start && text.isBoundary stop, Text.ofBytes? ((text.whole.take stop).drop start) with
  | true, some part => .ok part
  | _, _ => .error .torn

def rest (text : DirectiveText) (start : Nat) : Except DirectiveFault String :=
  text.part start text.whole.length

def bound (text : DirectiveText) (start : Nat) : Except DirectiveFault (Option Level) := do
  let word ← text.rest start
  if word = "" then return some .trace
  match Level.bound? word with
  | some bound => return bound
  | none => throw .malformed

def boundAfter (text : DirectiveText) (place : Nat) : Except DirectiveFault (Option Level) :=
  match text.mark? place with
  | none => .ok (some .trace)
  | some '=' => text.bound (place + 1)
  | some _ => .error .malformed

def valueOf? (field : String) : Option String :=
  match field.toList.dropWhile (· != '=') with
  | [] => none
  | _ :: value => some (String.ofList (value.takeWhile (· != '=')))

def isField (field : String) : Bool := field != "" && (valueOf? field).all Pattern.isValue

def bracketed (text : DirectiveText) (target : Option String) (start : Nat) :
    Except DirectiveFault Directive := do
  let stop := text.next [']', '{'] start
  match text.mark? stop with
  | none => throw .malformed
  | some ']' =>
    let span ← text.part start stop
    return ⟨target, some span, none, ← text.boundAfter (stop + 1)⟩
  | some _ =>
    let span ← text.part start stop
    let close := text.next ['}'] (stop + 1)
    if text.mark? close = none then throw .malformed
    let field ← text.part (stop + 1) close
    if !isField field || text.mark? (close + 1) != some ']' then throw .malformed
    return ⟨target, if span = "" then none else some span, some field, ← text.boundAfter (close + 2)⟩

def single (text : DirectiveText) : Except DirectiveFault Directive := do
  let word ← text.rest 0
  match Level.bound? word with
  | some bound => return ⟨none, none, none, bound⟩
  | none => return ⟨some word, none, none, some .trace⟩

def worded (text : DirectiveText) : Except DirectiveFault Directive := do
  let stop := text.next ['=', '['] 0
  match text.mark? stop with
  | none => text.single
  | some '=' =>
    let target ← text.part 0 stop
    return ⟨some target, none, none, ← text.bound (stop + 1)⟩
  | some _ =>
    let target ← text.part 0 stop
    text.bracketed (some target) (stop + 1)

end DirectiveText

namespace Directive

def ofText (text : String) : Except DirectiveFault Directive :=
  match (Text.trim text).toList.head? with
  | none => .error .malformed
  | some '[' => (DirectiveText.ofText text).bracketed none 1
  | some first =>
    if Text.isAlphanumeric first || ['-', ':', '_'].contains first then
      (DirectiveText.ofText text).worded
    else .error .malformed

def fieldName (directive : Directive) : Option String :=
  directive.field.map fun field => String.ofList (field.toList.takeWhile (· != '='))

/-- Whether a directive can be judged by the remark alone.  Others wait for a span, and there are none. -/
def isStatic (directive : Directive) : Bool :=
  directive.span.isNone && !directive.field.any fun field => field.toList.contains '='

def concerns (directive : Directive) (remark : Remark) : Bool :=
  (directive.target.all fun target => target.toList.isPrefixOf remark.target.toList) &&
    directive.fieldName.all remark.carries

def allows (directive : Directive) (remark : Remark) : Bool :=
  directive.bound.any fun bound => remark.level.rank ≤ bound.rank

def weight (directive : Directive) : Nat :=
  directive.target.elim 0 fun target => target.utf8ByteSize + 1

/-- Whether a directive looks at least as closely as another: the longer target counts first, then that
a field is asked for, then the later name of the field. -/
def isAsClose (directive other : Directive) : Bool :=
  ((compare directive.weight other.weight).then
    (compare (directive.fieldName.getD "") (other.fieldName.getD ""))).isGE

end Directive

end LiveService
