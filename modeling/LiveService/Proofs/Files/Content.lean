import LiveService.Proofs.Files.Frame

/-!
What a file holds once it has been written, and that reading it gives that back.
-/

namespace LiveService

namespace FileSystem

/-- A path leads to a file with this content, or to a sink, which keeps no content. -/
def Holds (files : FileSystem) (path : Path) (content : Bytes) : Prop :=
  ∃ location, files.locate path = .ok location ∧
    (files.lookup location = some (.file content) ∨ files.lookup location = some .sink)

/-- What a path leads to is no sink, and it may be read. -/
def IsPlain (files : FileSystem) (path : Path) : Prop :=
  ∀ location, files.locate path = .ok location →
    files.lookup location ≠ some .sink ∧ files.refusal .read location = none

variable {files after : FileSystem} {path : Path} {content : Bytes}

theorem isPlain_of_locate (location : Location) (located : files.locate path = .ok location)
    (noSink : files.lookup location ≠ some .sink) (allowed : files.refusal .read location = none) :
    files.IsPlain path := by
  intro other there
  rw [located] at there
  cases there
  exact ⟨noSink, allowed⟩

theorem write_place (written : files.write path content = .ok after) :
    ∃ folder name, after.approach path = .ok (folder, .named name) ∧
      path.endsWithSlash = false ∧ name.utf8ByteSize ≤ longestName ∧
      (after.lookup (folder ++ [name]) = some (.file content) ∨
        after.lookup (folder ++ [name]) = some .sink) := by
  have spares := write_spares written
  obtain ⟨folder, name, approached, noSlash, short, _, _, place⟩ := write_cases written
  refine ⟨folder, name, spares.approach approached, noSlash, short, ?_⟩
  rcases place with ⟨sink, rfl⟩ | ⟨_, rfl⟩
  · exact .inr sink
  · exact .inl (lookup_put_self files folder name _)

theorem write_holds (written : files.write path content = .ok after) :
    after.Holds path content := by
  obtain ⟨folder, name, approached, _, _, there⟩ := write_place written
  exact ⟨folder ++ [name], locate_of_named approached, there⟩

theorem read_of_write (written : files.write path content = .ok after)
    (plain : after.IsPlain path) : after.read path = .ok content := by
  obtain ⟨folder, name, approached, noSlash, short, there⟩ := write_place written
  have located : after.locate path = .ok (folder ++ [name]) := locate_of_named approached
  obtain ⟨noSink, allowed⟩ := plain _ located
  have kept : after.lookup (folder ++ [name]) = some (.file content) :=
    there.resolve_right noSink
  have held : after.contentAt (folder ++ [name]) = some content := by
    simp only [contentAt, kept]
  exact read_eq_ok_iff.mpr ⟨folder, name, approached, short, noSlash, allowed, held⟩

theorem read_of_rewrite (there : files.read path = .ok content)
    (written : files.write path content = .ok after) : after.read path = .ok content := by
  have spares := write_spares written
  obtain ⟨folder, name, approached, short, noSlash, allowed, _⟩ := read_eq_ok_iff.mp there
  obtain ⟨_, _, approachedAgain, _, _, _, _, place⟩ := write_cases written
  cases approached.symm.trans approachedAgain
  rcases place with ⟨_, rfl⟩ | ⟨_, rfl⟩
  · exact there
  · refine read_eq_ok_iff.mpr ⟨folder, name, spares.approach approached, short, noSlash, allowed, ?_⟩
    simp only [contentAt, lookup_put_self files folder name _]

end FileSystem

namespace ConfigFile

variable {files after : FileSystem} {path : Path} {content : Bytes}

theorem write_last (written : write files path content = (after, .ok ())) :
    ∃ between : FileSystem, between.write path content = .ok after := by
  unfold write at written
  split at written
  · simp at written
  · rename_i between made
    split at written
    · rename_i wrote
      simp only [Prod.mk.injEq, and_true] at written
      subst written
      exact ⟨between, wrote⟩
    · simp at written

theorem write_holds (written : write files path content = (after, .ok ())) :
    after.Holds path content := by
  obtain ⟨between, wrote⟩ := write_last written
  exact FileSystem.write_holds wrote

theorem read_of_write (written : write files path content = (after, .ok ()))
    (plain : after.IsPlain path) : after.read path = .ok content := by
  obtain ⟨between, wrote⟩ := write_last written
  exact FileSystem.read_of_write wrote plain

theorem read_of_rewrite (there : files.read path = .ok content)
    (written : write files path content = (after, .ok ())) : after.read path = .ok content := by
  have made := FileSystem.createParents_spares files path
  unfold write at written
  split at written
  · simp at written
  · rename_i between created
    rw [created] at made
    have readable := made.read (fun _ _ => id) there
    split at written
    · rename_i wrote
      simp only [Prod.mk.injEq, and_true] at written
      subst written
      exact FileSystem.read_of_rewrite readable wrote
    · simp at written

end ConfigFile

end LiveService
