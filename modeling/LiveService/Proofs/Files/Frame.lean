import LiveService.Store.ConfigFile

/-!
What operations on files leave as it was.  Folders stay, new ones may come, and the content of a file
changes only where it is written.
-/

namespace LiveService.FileSystem

def contentAt (files : FileSystem) (location : Location) : Option Bytes :=
  match files.lookup location with
  | some (.file content) => some content
  | some .sink => some []
  | _ => none

theorem contentAt_congr {before after : FileSystem} {location : Location}
    (same : after.lookup location = before.lookup location) :
    after.contentAt location = before.contentAt location := by
  simp only [contentAt, same]

theorem lookup_put_of_ne {files : FileSystem} {place location : Location} {entry : Option Entry}
    (different : location ≠ place) : (files.put place entry).lookup location = files.lookup location := by
  simp [lookup, put, different]

theorem lookup_put_self (files : FileSystem) (folder : Location) (name : String)
    (entry : Option Entry) :
    (files.put (folder ++ [name]) entry).lookup (folder ++ [name]) = entry := by
  simp [lookup, put]

theorem approach_eq_ok_iff {files : FileSystem} {path : Path} {folder : Location}
    {ending : Ending} :
    files.approach path = .ok (folder, ending) ↔
      path.hasNul = false ∧ path.text ≠ "" ∧ files.lookup (files.startOf path) = some .folder ∧
        path.text.utf8ByteSize ≤ longestPath ∧
        files.walk (files.startOf path) path.steps.dropLast = .ok folder ∧
        (path.steps.getLast?.map Ending.ofStep).getD .here = ending := by
  simp only [approach]
  by_cases nul : path.hasNul
  · simp [nul]
  by_cases empty : path.text = ""
  · simp [nul, empty]
  by_cases started : files.lookup (files.startOf path) = some .folder
  · by_cases long : longestPath < path.text.utf8ByteSize
    · simp only [nul, empty, started, long]
      simp [Nat.not_le.mpr long]
    · simp only [nul, empty, started, long, Nat.not_lt.mp long]
      cases files.walk (files.startOf path) path.steps.dropLast <;> simp [empty]
  · simp [nul, empty, started]

theorem locate_eq_ok_iff {files : FileSystem} {path : Path} {location : Location} :
    files.locate path = .ok location ↔
      ∃ folder ending, files.approach path = .ok (folder, ending) ∧
        ending.place folder = location := by
  unfold locate
  cases approached : files.approach path with
  | error error => simp [Except.map]
  | ok place =>
    obtain ⟨folder, ending⟩ := place
    simp [Except.map, and_assoc]

theorem locate_of_named {files : FileSystem} {path : Path} {folder : Location} {name : String}
    (approached : files.approach path = .ok (folder, .named name)) :
    files.locate path = .ok (folder ++ [name]) :=
  locate_eq_ok_iff.mpr ⟨folder, .named name, approached, rfl⟩

theorem read_eq_ok_iff {files : FileSystem} {path : Path} {content : Bytes} :
    files.read path = .ok content ↔
      ∃ folder name, files.approach path = .ok (folder, .named name) ∧
        name.utf8ByteSize ≤ longestName ∧ path.endsWithSlash = false ∧
        files.refusal .read (folder ++ [name]) = none ∧
        files.contentAt (folder ++ [name]) = some content := by
  unfold read entry locate
  cases approached : files.approach path with
  | error error => simp
  | ok place =>
    obtain ⟨folder, ending⟩ := place
    cases ending with
    | here => cases refused : files.refusal .read (Ending.place folder .here) <;> simp [Except.map, refused]
    | up => cases refused : files.refusal .read (Ending.place folder .up) <;> simp [Except.map, refused]
    | named name =>
      by_cases long : longestName < name.utf8ByteSize
      · simp [find, long, Nat.not_le.mpr long]
      · have short : name.utf8ByteSize ≤ longestName := Nat.not_lt.mp long
        cases refused : files.refusal .read (folder ++ [name]) <;>
          cases found : files.lookup (folder ++ [name]) with
          | none => simp [find, long, found, contentAt]
          | some entry =>
            cases entry <;> by_cases slash : path.endsWithSlash <;>
              simp [find, long, short, found, contentAt, slash, Except.map, Ending.place, refused, and_assoc]

/-- `after` still has the folders of `before`, and its files except those at `touched` locations. -/
structure Spares (touched : Location → Prop) (before after : FileSystem) : Prop where
  current : after.current = before.current
  refusal : after.refusal = before.refusal
  folders : ∀ location, before.lookup location = some .folder →
    after.lookup location = some .folder
  contents : ∀ location, ¬ touched location →
    after.contentAt location = before.contentAt location

def nowhere : Location → Prop := fun _ => False

namespace Spares

variable {touched : Location → Prop} {before between after : FileSystem} {path : Path}

theorem refl (touched : Location → Prop) (files : FileSystem) : Spares touched files files :=
  ⟨rfl, rfl, fun _ there => there, fun _ _ => rfl⟩

theorem trans (first : Spares touched before between) (second : Spares touched between after) :
    Spares touched before after where
  current := second.current.trans first.current
  refusal := second.refusal.trans first.refusal
  folders location there := second.folders location (first.folders location there)
  contents location untouched :=
    (second.contents location untouched).trans (first.contents location untouched)

theorem widen (spares : Spares nowhere before after) : Spares touched before after :=
  { spares with contents := fun location _ => spares.contents location id }

theorem enter {folder place : Location} {step : String} (spares : Spares touched before after)
    (entered : before.enter folder step = .ok place) : after.enter folder step = .ok place := by
  unfold FileSystem.enter FileSystem.find at entered ⊢
  split at entered
  · rename_i name _
    by_cases long : longestName < name.utf8ByteSize
    · simp [long] at entered
    · simp only [long, if_false] at entered ⊢
      cases found : before.lookup (folder ++ [name]) with
      | none => simp [found] at entered
      | some entry =>
        cases entry with
        | folder =>
          simp only [found] at entered
          simp only [spares.folders _ found]
          exact entered
        | file content => simp [found] at entered
        | sink => simp [found] at entered
  · exact entered

theorem walk {steps : List String} (spares : Spares touched before after) :
    ∀ {folder place : Location}, before.walk folder steps = .ok place →
      after.walk folder steps = .ok place := by
  induction steps with
  | nil =>
    intro folder place walked
    exact walked
  | cons step rest ih =>
    intro folder place walked
    simp only [FileSystem.walk] at walked ⊢
    cases entered : before.enter folder step with
    | error error => simp [entered] at walked
    | ok next =>
      simp only [entered] at walked
      simp only [spares.enter entered]
      exact ih walked

theorem approach {place : Location × Ending} (spares : Spares touched before after)
    (approached : before.approach path = .ok place) : after.approach path = .ok place := by
  obtain ⟨folder, ending⟩ := place
  rw [approach_eq_ok_iff] at approached ⊢
  obtain ⟨noNul, present, started, short, walked, last⟩ := approached
  have sameStart : after.startOf path = before.startOf path := by
    simp only [startOf, spares.current]
  rw [sameStart]
  exact ⟨noNul, present, spares.folders _ started, short, spares.walk walked, last⟩

theorem locate {location : Location} (spares : Spares touched before after)
    (located : before.locate path = .ok location) : after.locate path = .ok location := by
  rw [locate_eq_ok_iff] at located ⊢
  obtain ⟨folder, ending, approached, place⟩ := located
  exact ⟨folder, ending, spares.approach approached, place⟩

theorem read {content : Bytes} (spares : Spares touched before after)
    (untouched : ∀ location, before.locate path = .ok location → ¬ touched location)
    (readable : before.read path = .ok content) : after.read path = .ok content := by
  rw [read_eq_ok_iff] at readable ⊢
  obtain ⟨folder, name, approached, short, noSlash, allowed, there⟩ := readable
  have located : before.locate path = .ok (folder ++ [name]) := locate_of_named approached
  refine ⟨folder, name, spares.approach approached, short, noSlash, ?_, ?_⟩
  · rw [spares.refusal]
    exact allowed
  · rw [spares.contents _ (untouched _ located)]
    exact there

end Spares

section

variable {files after : FileSystem} {path : Path}

theorem spares_put_folder {folder : Location} {name : String}
    (free : files.lookup (folder ++ [name]) = none) :
    Spares nowhere files (files.put (folder ++ [name]) (some .folder)) where
  current := rfl
  refusal := rfl
  folders location there := by
    have elsewhere : location ≠ folder ++ [name] := by
      rintro rfl
      simp [free] at there
    rw [lookup_put_of_ne elsewhere]
    exact there
  contents location _ := by
    by_cases here : location = folder ++ [name]
    · subst here
      simp [contentAt, lookup_put_self, free]
    · exact contentAt_congr (lookup_put_of_ne here)

theorem spares_put_file {folder : Location} {name : String} {content : Bytes}
    (noFolder : files.lookup (folder ++ [name]) ≠ some .folder) :
    Spares (· = folder ++ [name]) files (files.put (folder ++ [name]) (some (.file content))) where
  current := rfl
  refusal := rfl
  folders location there := by
    have elsewhere : location ≠ folder ++ [name] := by
      rintro rfl
      exact noFolder there
    rw [lookup_put_of_ne elsewhere]
    exact there
  contents location elsewhere := contentAt_congr (lookup_put_of_ne elsewhere)

theorem createFolder_cases (created : files.createFolder path = .ok after) :
    ∃ folder name, files.approach path = .ok (folder, .named name) ∧
      files.lookup (folder ++ [name]) = none ∧
      after = files.put (folder ++ [name]) (some .folder) := by
  unfold createFolder at created
  split at created
  · cases created
  · rename_i folder name approached
    split at created <;> try cases created
    rename_i found _
    refine ⟨folder, name, approached, ?_, rfl⟩
    unfold find at found
    split at found
    · cases found
    · exact Except.ok.inj found
  · cases created

theorem createFolder_spares (created : files.createFolder path = .ok after) :
    Spares nowhere files after := by
  obtain ⟨folder, name, _, free, rfl⟩ := createFolder_cases created
  exact spares_put_folder free

/-- However far the making of folders gets, it relates the trees before and after as each folder does that is made. -/
theorem createAll_induction {related : FileSystem → FileSystem → Prop} {folders : List Path}
    (refl : ∀ files, related files files)
    (trans : ∀ {before between after}, related before between → related between after →
      related before after)
    (step : ∀ {path files after}, path ∈ folders → files.createFolder path = .ok after →
      related files after)
    (files : FileSystem) : related files (files.createAll folders).1 := by
  induction folders generalizing files with
  | nil => exact refl files
  | cons path above ih =>
    simp only [createAll]
    split
    · rename_i created
      exact step List.mem_cons_self created
    · have before := ih (fun member => step (List.mem_cons_of_mem _ member)) files
      cases made : files.createAll above with
      | mk between result =>
        rw [made] at before
        cases result with
        | error error => exact before
        | ok _ =>
          dsimp only
          split
          · rename_i created
            exact trans before (step List.mem_cons_self created)
          · exact before
    · exact refl files

theorem createAll_spares (folders : List Path) (files : FileSystem) :
    Spares nowhere files (files.createAll folders).1 :=
  createAll_induction (.refl nowhere) .trans (fun _ created => createFolder_spares created) files

theorem createParents_spares (files : FileSystem) (path : Path) :
    Spares nowhere files (files.createParents path).1 :=
  createAll_spares path.folders files

theorem write_cases {content : Bytes} (written : files.write path content = .ok after) :
    ∃ folder name, files.approach path = .ok (folder, .named name) ∧
      path.endsWithSlash = false ∧ name.utf8ByteSize ≤ longestName ∧
      files.refusal .write (folder ++ [name]) = none ∧
      files.lookup (folder ++ [name]) ≠ some .folder ∧
      (files.lookup (folder ++ [name]) = some .sink ∧ after = files ∨
        files.lookup (folder ++ [name]) ≠ some .sink ∧
          after = files.put (folder ++ [name]) (some (.file content))) := by
  unfold FileSystem.write at written
  split at written
  · simp at written
  · rename_i folder name approached
    refine ⟨folder, name, approached, ?_⟩
    by_cases slash : path.endsWithSlash
    · simp [slash] at written
    by_cases long : longestName < name.utf8ByteSize
    · simp [slash, find, long] at written
    cases refused : files.refusal .write (folder ++ [name]) with
    | some error =>
      cases found : files.lookup (folder ++ [name]) with
      | none => simp [slash, find, long, refused, found] at written
      | some entry => cases entry <;> simp [slash, find, long, refused, found] at written
    | none =>
      refine ⟨by simpa using slash, Nat.not_lt.mp long, rfl, ?_⟩
      cases found : files.lookup (folder ++ [name]) with
      | none => simp_all [find]
      | some entry => cases entry <;> simp_all [find]
  · simp at written

theorem write_spares {content : Bytes} (written : files.write path content = .ok after) :
    Spares (fun location => files.locate path = .ok location) files after := by
  obtain ⟨folder, name, approached, _, _, _, noFolder, place⟩ := write_cases written
  have located : files.locate path = .ok (folder ++ [name]) := locate_of_named approached
  rcases place with ⟨_, rfl⟩ | ⟨_, rfl⟩
  · exact .refl _ _
  · have put : Spares (· = folder ++ [name]) files
        (files.put (folder ++ [name]) (some (.file content))) :=
      spares_put_file noFolder
    exact
      { put with
        contents := fun location untouched =>
          put.contents location fun here => untouched (here ▸ located) }

end

end LiveService.FileSystem
