import LiveService.Proofs.Files.Frame

/-!
What becomes of every single place in a tree while some paths are written to, and the folders on the way to them are
made.  Here an entry counts as a whole, not just its content: nothing else comes, changes or goes.
-/

namespace LiveService

namespace FileSystem

def IsVacant (files : FileSystem) (location : Location) : Prop :=
  files.lookup location = none ∨ ∃ former, files.lookup location = some (.file former)

/-- What becomes of a place if only paths in `own` are written to and only folders on paths in `above` are made.  A path
is followed in `after`: before, folders on its way may be missing. -/
inductive Fate (own above : List Path) (before after : FileSystem) (location : Location) : Prop where
  | kept (same : after.lookup location = before.lookup location)
  | written (path : Path) (content : Bytes) (mine : path ∈ own)
      (there : after.locate path = .ok location)
      (vacant : before.IsVacant location)
      (now : after.lookup location = some (.file content))
  | made (path : Path) (onWay : path ∈ above) (there : after.locate path = .ok location)
      (missing : before.lookup location = none) (now : after.lookup location = some .folder)

structure Confined (own above : List Path) (before after : FileSystem) : Prop where
  current : after.current = before.current
  refusal : after.refusal = before.refusal
  fate : ∀ location, Fate own above before after location

variable {own above : List Path} {files before between after : FileSystem} {location : Location}
  {path : Path} {content : Bytes}

theorem IsVacant.not_folder (vacant : files.IsVacant location) :
    files.lookup location ≠ some .folder := by
  intro folder
  rcases vacant with missing | ⟨_, file⟩
  · cases missing.symm.trans folder
  · cases file.symm.trans folder

theorem isVacant_congr (same : after.lookup location = before.lookup location)
    (vacant : after.IsVacant location) : before.IsVacant location := by
  rw [IsVacant, ← same]
  exact vacant

theorem Fate.trans (first : Fate own above before between location)
    (second : Fate own above between after location)
    (stays : ∀ path, between.locate path = .ok location → after.locate path = .ok location) :
    Fate own above before after location := by
  cases second with
  | kept same =>
    cases first with
    | kept sameBefore => exact .kept (same.trans sameBefore)
    | written path content mine there vacant now =>
      exact .written path content mine (stays path there) vacant (same.trans now)
    | made path onWay there missing now =>
      exact .made path onWay (stays path there) missing (same.trans now)
  | written path content mine there vacant now =>
    cases first with
    | kept sameBefore =>
      exact .written path content mine there (isVacant_congr sameBefore vacant) now
    | written _ _ _ _ vacantBefore _ => exact .written path content mine there vacantBefore now
    | made _ _ _ _ folder => exact absurd folder vacant.not_folder
  | made path onWay there missing now =>
    cases first with
    | kept sameBefore => exact .made path onWay there (sameBefore.symm.trans missing) now
    | written _ _ _ _ _ file => cases missing.symm.trans file
    | made _ _ _ _ folder => cases missing.symm.trans folder

namespace Confined

theorem refl (own above : List Path) (files : FileSystem) : Confined own above files files :=
  ⟨rfl, rfl, fun _ => .kept rfl⟩

theorem of_eq {Result : Type} {step : FileSystem × Result} {result : Result}
    (confined : Confined own above before step.1) (taken : step = (after, result)) :
    Confined own above before after := by
  rw [taken] at confined
  exact confined

theorem spares (confined : Confined own above before after) :
    Spares (fun location => ∃ path ∈ own, after.locate path = .ok location) before after where
  current := confined.current
  refusal := confined.refusal
  folders location folder := by
    cases confined.fate location with
    | kept same => exact same.trans folder
    | written _ _ _ _ vacant _ => exact absurd folder vacant.not_folder
    | made _ _ _ missing _ => cases missing.symm.trans folder
  contents location untouched := by
    cases confined.fate location with
    | kept same => exact contentAt_congr same
    | written path _ mine there _ _ => exact absurd ⟨path, mine, there⟩ untouched
    | made _ _ _ missing now => simp only [contentAt, missing, now]

theorem trans (first : Confined own above before between)
    (second : Confined own above between after) : Confined own above before after where
  current := second.current.trans first.current
  refusal := second.refusal.trans first.refusal
  fate location :=
    (first.fate location).trans (second.fate location) fun _ there => second.spares.locate there

end Confined

theorem createFolder_confined (onWay : path ∈ above) (created : files.createFolder path = .ok after) :
    Confined own above files after := by
  have spares := createFolder_spares created
  obtain ⟨folder, name, approached, missing, rfl⟩ := createFolder_cases created
  have located : files.locate path = .ok (folder ++ [name]) := locate_of_named approached
  refine ⟨rfl, rfl, fun location => ?_⟩
  by_cases here : location = folder ++ [name]
  · subst here
    exact .made path onWay (spares.locate located) missing (lookup_put_self files folder name _)
  · exact .kept (lookup_put_of_ne here)

theorem createAll_confined (folders : List Path) (files : FileSystem) :
    Confined own folders files (files.createAll folders).1 :=
  createAll_induction (.refl own folders) .trans
    (fun onWay created => createFolder_confined onWay created) files

theorem write_confined (mine : path ∈ own) (written : files.write path content = .ok after) :
    Confined own above files after := by
  have spares := write_spares written
  obtain ⟨folder, name, approached, _, _, _, noFolder, place⟩ := write_cases written
  have located : files.locate path = .ok (folder ++ [name]) := locate_of_named approached
  rcases place with ⟨_, rfl⟩ | ⟨noSink, rfl⟩
  · exact .refl own above after
  · refine ⟨rfl, rfl, fun location => ?_⟩
    by_cases here : location = folder ++ [name]
    · subst here
      have vacant : files.IsVacant (folder ++ [name]) := by
        cases found : files.lookup (folder ++ [name]) with
        | none => exact .inl found
        | some entry =>
          cases entry with
          | file former => exact .inr ⟨former, found⟩
          | folder => exact absurd found noFolder
          | sink => exact absurd found noSink
      exact .written path content mine (spares.locate located) vacant
        (lookup_put_self files folder name _)
    · exact .kept (lookup_put_of_ne here)

end FileSystem

/-- Whether or not the configuration file can be written, nothing but the file and missing folders on its path come or
change. -/
theorem ConfigFile.write_confined {own : List Path} {path : Path} (mine : path ∈ own)
    (files : FileSystem) (content : Bytes) :
    FileSystem.Confined own path.folders files (write files path content).1 := by
  have made : FileSystem.Confined own path.folders files (files.createParents path).1 :=
    FileSystem.createAll_confined path.folders files
  unfold write
  split
  · rename_i created
    exact made.of_eq created
  · rename_i created
    have folders := made.of_eq created
    split
    · rename_i wrote
      exact folders.trans (FileSystem.write_confined mine wrote)
    · exact folders

end LiveService
