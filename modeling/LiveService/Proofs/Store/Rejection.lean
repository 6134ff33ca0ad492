import LiveService.Config.App
import LiveService.Proofs.Files.Content
import LiveService.Proofs.Store.Failure
import LiveService.Proofs.Store.Values

/-!
Content that a reload rejects.  As long as the reload fails it stays where it is.  Once the file is written
anew, the content is beside it, but for content that is blank: that counts as no content at all.
-/

namespace LiveService

variable {Config : Type}

def Format.Rejects (format : Format Config) (content : Bytes) : Prop :=
  content.all Text.isAsciiBlank = true ∨ ∃ error, format.decode content = .error error

namespace FileSystem

variable {files after : FileSystem} {path : Path} {content : Bytes} {error : IoError}

theorem write_error_congr (refused : files.write path content = .error error) (other : Bytes) :
    files.write path other = .error error := by
  cases approached : files.approach path with
  | error reason => simpa [FileSystem.write, approached] using refused
  | ok place =>
    obtain ⟨folder, ending⟩ := place
    cases ending with
    | here | up => simpa [FileSystem.write, approached] using refused
    | named name =>
      by_cases slash : path.endsWithSlash = true
      · simpa [FileSystem.write, approached, slash] using refused
      · cases found : files.find folder name with
        | error reason => simpa [FileSystem.write, approached, slash, found] using refused
        | ok entry =>
          cases refusal : files.refusal .write (folder ++ [name]) <;> rcases entry with _ | _ | _ | _ <;>
            simp_all [FileSystem.write]

theorem IsPlain.read_of_write (plain : files.IsPlain path)
    (written : files.write path content = .ok after) : after.read path = .ok content := by
  refine FileSystem.read_of_write written ?_
  have spares := write_spares written
  obtain ⟨folder, name, approached, _, _, _, _, place⟩ := write_cases written
  have located : files.locate path = .ok (folder ++ [name]) := locate_of_named approached
  obtain ⟨noSink, allowed⟩ := plain _ located
  refine isPlain_of_locate (folder ++ [name]) (spares.locate located) ?_ (spares.refusal ▸ allowed)
  rcases place with ⟨sink, _⟩ | ⟨_, rfl⟩
  · exact absurd sink noSink
  · rw [lookup_put_self]
    nofun

end FileSystem

namespace ConfigFile

variable {files after : FileSystem} {path : Path} {content : Bytes}

def salvage (content : Bytes) : Bytes := if content.all Text.isAsciiBlank then [] else content

theorem salvage_eq_iff :
    salvage content = content ↔ (content.all Text.isAsciiBlank = true → content = []) := by
  unfold salvage
  split
  · rename_i blank
    constructor
    · intro empty _
      exact empty.symm
    · intro empty
      exact (empty blank).symm
  · rename_i solid
    exact ⟨fun _ blank => absurd blank solid, fun _ => rfl⟩

theorem write_ok_spares (written : write files path content = (after, .ok ())) :
    FileSystem.Spares (fun location => after.locate path = .ok location) files after := by
  have made := FileSystem.createParents_spares files path
  unfold write at written
  split at written
  · cases written
  · rename_i between created
    rw [created] at made
    split at written
    · rename_i wrote
      cases written
      have spares := FileSystem.write_spares wrote
      exact made.widen.trans
        { spares with
          contents := fun location untouched =>
            spares.contents location fun located => untouched (spares.locate located) }
    · cases written

theorem read_rejectedPath_of_write {kept : Bytes} (there : files.read (rejectedPath path) = .ok kept)
    (written : write files path content = (after, .ok ())) :
    after.read (rejectedPath path) = .ok kept := by
  have spares := write_ok_spares written
  refine spares.read ?_ there
  intro location aside located
  exact locate_rejectedPath_ne located (spares.locate aside) rfl

end ConfigFile

namespace Backing

variable {backing : Backing Config} {slots : Slots Config} {files : FileSystem} {content : Bytes}

theorem reload_of_rejects [BEq Config] (there : files.read backing.path = .ok content)
    (rejects : backing.format.Rejects content) :
    backing.reload slots files = backing.discard slots files (ConfigFile.salvage content) := by
  rw [reload, ConfigFile.read_eq there, ConfigFile.salvage]
  cases blank : content.all Text.isAsciiBlank with
  | true => rfl
  | false =>
    rcases rejects with impossible | ⟨error, undecodable⟩
    · cases blank.symm.trans impossible
    · rw [undecodable]
      rfl

theorem discard_of_refused {error : IoError}
    (refused : ConfigFile.quarantine files backing.path content = .error error) :
    backing.discard slots files content =
      .quiet (.error (.persist (ConfigFile.rejectedPath backing.path) error)) slots files := by
  simp only [discard, refused]

theorem quarantine_of_discard {answer : Answer}
    (done : (backing.discard slots files content).result = .ok answer) :
    answer = .reloaded .quarantined ∧
      ∃ aside, ConfigFile.quarantine files backing.path content = .ok aside ∧
        backing.Saves slots.current aside (backing.discard slots files content).files := by
  unfold discard at done ⊢
  cases quarantined : ConfigFile.quarantine files backing.path content with
  | error error =>
    rw [quarantined] at done
    cases done
  | ok aside =>
    simp only [quarantined] at done ⊢
    rcases backing.persist_cases slots aside slots.current with
      ⟨error, after, refused, _⟩ | ⟨written, saves, persisted⟩
    · rw [refused] at done
      cases done
    · rw [persisted] at done ⊢
      cases done
      exact ⟨rfl, aside, rfl, saves⟩

/-- A reload that finds content it rejects writes the file anew only after the content was set aside, and then
exactly that content is there unless it was blank: of blank content nothing is kept.  If the content cannot be
set aside the reload fails and nothing happens, and if it fails later the content is still in the file. -/
theorem rejected_content_is_kept_iff [BEq Config] (backing : Backing Config) (slots : Slots Config)
    (files : FileSystem) (content : Bytes) (there : files.read backing.path = .ok content)
    (rejects : backing.format.Rejects content)
    (plain : files.IsPlain (ConfigFile.rejectedPath backing.path)) :
    let outcome := backing.reload slots files
    let beside := ConfigFile.rejectedPath backing.path
    (∀ answer, outcome.result = .ok answer →
      answer = .reloaded .quarantined ∧
      (∃ aside, backing.Saves slots.current aside outcome.files) ∧
      outcome.files.read beside = .ok (ConfigFile.salvage content) ∧
      (outcome.files.read beside = .ok content ↔
        (content.all Text.isAsciiBlank = true → content = []))) ∧
    (∀ error, files.write beside content = .error error →
      outcome = .quiet (.error (.persist beside error)) slots files) ∧
    (∀ error, outcome.result = .error error →
      outcome.slots = slots ∧ outcome.files.read backing.path = .ok content) := by
  intro outcome beside
  have discards : outcome = backing.discard slots files (ConfigFile.salvage content) :=
    reload_of_rejects there rejects
  refine ⟨?_, ?_, ?_⟩
  · intro answer done
    rw [discards] at done ⊢
    obtain ⟨answered, aside, quarantined, saves⟩ := quarantine_of_discard done
    have ⟨_, _, wrote⟩ := saves
    have kept := ConfigFile.read_rejectedPath_of_write (plain.read_of_write quarantined) wrote
    refine ⟨answered, ⟨aside, saves⟩, kept, ?_⟩
    rw [← ConfigFile.salvage_eq_iff, kept, Except.ok.injEq]
  · intro error refused
    rw [discards]
    exact discard_of_refused (FileSystem.write_error_congr refused _)
  · intro error failed
    have void : outcome.IsVoid backing slots files :=
      (backing.perform_turn slots files .reload).void failed
    exact ⟨void.slots, void.read_eq there⟩

theorem rejected_content_is_kept_iff_after_first_line :
    let backing : Backing AppConfig := ⟨AppConfig.codec.format, ⟨"a"⟩⟩
    let content := Text.bytes "\x7b\n"
    let files := (FileSystem.fresh []).put ["a"] (some (.file content))
    let slots : Slots AppConfig := ⟨3, ⟨"b:2", 2⟩, none, some ⟨"c:3", 1⟩, some ⟨"c:3", 1⟩, true⟩
    let outcome := backing.reload slots files
    backing.format.Rejects content ∧ outcome.result = .ok (.reloaded .quarantined) ∧
      outcome.files.read ⟨"a"⟩ = .ok (AppConfig.codec.encode ⟨"b:2", 2⟩) ∧
      outcome.files.read ⟨"a.badconfig"⟩ = .ok content := by
  intro backing content files slots outcome
  have there : files.read backing.path = .ok content := by
    simp only [files, backing, content]
    rfl
  have rejects : backing.format.Rejects content := .inr ⟨.truncated, rfl⟩
  have plain : files.IsPlain (ConfigFile.rejectedPath backing.path) := by
    refine FileSystem.isPlain_of_locate ["a.badconfig"] ?_ nofun rfl
    simp only [files, backing]
    rfl
  have answered : outcome.result = .ok (.reloaded .quarantined) := by
    simp only [outcome, backing, slots, files]
    rfl
  obtain ⟨_, _, _, kept⟩ :=
    (rejected_content_is_kept_iff backing slots files content there rejects plain).1 _ answered
  refine ⟨rejects, answered, ?_, kept.mpr fun blank => absurd blank (by decide +kernel)⟩
  simp only [outcome, backing, slots, files]
  rfl

/-- A blank line is written over, and the file beside it is empty. -/
theorem blank_content_is_not_kept :
    let backing : Backing AppConfig := ⟨AppConfig.codec.format, ⟨"a"⟩⟩
    let content := Text.bytes " \n"
    let files := (FileSystem.fresh []).put ["a"] (some (.file content))
    let outcome := backing.reload (.initial ⟨":9999", 1⟩) files
    files.read ⟨"a"⟩ = .ok content ∧ AppConfig.codec.decode content = .error .truncated ∧
      outcome.result = .ok (.reloaded .quarantined) ∧
      outcome.files.read ⟨"a"⟩ = .ok (AppConfig.codec.encode ⟨":9999", 1⟩) ∧
      outcome.files.read ⟨"a.badconfig"⟩ = .ok [] :=
  ⟨rfl, rfl, rfl, rfl, rfl⟩

end Backing

end LiveService
