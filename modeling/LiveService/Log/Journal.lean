import LiveService.Log.Filter

/-!
A log with its filter.
-/

namespace LiveService

/-- A filter that the environment sets stays; `kept` are the remarks that got through, the latest first. -/
structure Journal where
  isFixed : Bool
  filter : Filter
  kept : List Remark

namespace Journal

def standardLevel : String := "info"

def silent : Journal := ⟨true, [], []⟩

def start? (fixed : Option String) : Option Journal :=
  match fixed.map Filter.ofText with
  | some (.ok filter) => some ⟨true, filter, []⟩
  | some (.error .torn) => none
  | _ => (Filter.ofLevel standardLevel).toOption.map fun filter => ⟨false, filter, []⟩

def note (journal : Journal) (remark : Remark) : Journal :=
  if journal.filter.allows remark then { journal with kept := remark :: journal.kept } else journal

def noteWhen (journal : Journal) (condition : Bool) (remark : Remark) : Journal :=
  if condition then journal.note remark else journal

def setLevel (journal : Journal) (level : String) : Journal :=
  match Filter.ofLevel level with
  | .ok filter => ({ journal with filter := filter }).note (.levelChanged level)
  | .error _ => journal

def has (journal : Journal) (level : Level) : Bool :=
  journal.kept.any fun remark => 1 < (remark.line.splitOn level.word).length

end Journal

end LiveService
