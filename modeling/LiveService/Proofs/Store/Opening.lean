import LiveService.Config.App
import LiveService.Proofs.Store.Agreement

/-!
What a store finds in its file right after it was opened.  A file that was there is read back; one that was made
from the defaults need not be, because the defaults are written without having passed a round trip.
-/

namespace LiveService

variable {Config : Type}

namespace Backing

variable {backing : Backing Config} {defaults : Config} {files : FileSystem}
  {notifier : Except NotifierError Unit} {slots : Slots Config}

theorem load_of_present (present : files.isPresent backing.path = true)
    (loaded : (backing.load defaults files notifier).2 = .ok slots) :
    (backing.load defaults files notifier).1 = files ∧
      ∃ content, files.read backing.path = .ok content ∧
        content.all Text.isAsciiBlank = false ∧ backing.format.decode content = .ok slots.current := by
  simp only [load, present, if_true] at loaded ⊢
  split at loaded
  · cases loaded
  · cases loaded
  · cases loaded
  · rename_i value parsed
    refine ⟨rfl, ?_⟩
    split at loaded
    · cases loaded
    · cases loaded
      obtain ⟨_, found⟩ := ConfigFile.content_of_parsed parsed
      exact found

theorem load_of_missing (missing : files.isPresent backing.path = false)
    (loaded : (backing.load defaults files notifier).2 = .ok slots) :
    slots.current = defaults ∧
      backing.Saves defaults files (backing.load defaults files notifier).1 := by
  simp only [load, missing, Bool.false_eq_true, if_false] at loaded ⊢
  split at loaded
  · cases loaded
  · rename_i content encoded
    split at loaded
    · cases loaded
    · rename_i written wrote
      split at loaded
      · cases loaded
      · cases loaded
        refine ⟨rfl, content, encoded, ?_⟩
        simp only [wrote]

variable [BEq Config]

theorem unusable_of_quarantined {content : Bytes} (there : files.read backing.path = .ok content)
    (answered : (backing.reload slots files).result = .ok (.reloaded .quarantined)) :
    content.all Text.isAsciiBlank = true ∨ ∃ error, backing.format.decode content = .error error := by
  cases blank : content.all Text.isAsciiBlank with
  | true => exact .inl rfl
  | false =>
    cases decoded : backing.format.decode content with
    | error error => exact .inr ⟨error, rfl⟩
    | ok value =>
      rw [reload, ConfigFile.read_of_solid there blank decoded, respond, absorb] at answered
      split at answered
      · cases answered
      · split at answered
        · cases answered
        · cases answered

end Backing

def Backing.CanRead [BEq Config] (backing : Backing Config) (slots : Slots Config)
    (files : FileSystem) : Prop :=
  ∃ content value, files.read backing.path = .ok content ∧
    backing.format.decode content = .ok value ∧ (value == slots.current) = true

/-- After a store was opened, its file can be read just if it was there before or the defaults are read back
from what is written for them.  In the first case a reload finds nothing to do.  Only in the second case can a
reload set the file aside, and only if the defaults were written as something that does not decode. -/
theorem Backing.opened_file_is_readable_iff [BEq Config] (backing : Backing Config) (defaults : Config)
    (files : FileSystem) (notifier : Except NotifierError Unit) (slots : Slots Config)
    (loaded : (backing.load defaults files notifier).2 = .ok slots)
    (itself : ∀ content value, backing.format.decode content = .ok value → (value == value) = true)
    (plain : files.isPresent backing.path = false →
      (backing.load defaults files notifier).1.IsPlain backing.path) :
    let opened := (backing.load defaults files notifier).1
    (backing.CanRead slots opened ↔
      files.isPresent backing.path = true ∨ backing.format.Keeps defaults) ∧
    (files.isPresent backing.path = true → opened = files ∧ backing.Agrees slots opened) ∧
    ((backing.reload slots opened).result = .ok (.reloaded .quarantined) →
      files.isPresent backing.path = false ∧ slots.current = defaults ∧
        ∃ content, backing.format.encode defaults = .ok content ∧
          opened.read backing.path = .ok content ∧
          (content.all Text.isAsciiBlank = true ∨
            ∃ error, backing.format.decode content = .error error)) := by
  intro opened
  cases present : files.isPresent backing.path with
  | true =>
    obtain ⟨same, content, there, solid, decoded⟩ := load_of_present present loaded
    have thereStill : opened.read backing.path = .ok content := by
      rw [← there]
      exact congrArg (FileSystem.read · backing.path) same
    have agrees : backing.Agrees slots opened :=
      .of_read thereStill solid decoded (itself content _ decoded)
    refine ⟨?_, fun _ => ⟨same, agrees⟩, ?_⟩
    · constructor
      · intro _
        exact .inl rfl
      · intro _
        exact ⟨content, slots.current, thereStill, decoded, itself content _ decoded⟩
    · intro answered
      cases answered.symm.trans agrees.answer
  | false =>
    obtain ⟨inEffect, content, encoded, wrote⟩ := load_of_missing present loaded
    have there : opened.read backing.path = .ok content :=
      ConfigFile.read_of_write wrote (plain present)
    refine ⟨?_, nofun, ?_⟩
    · constructor
      · rintro ⟨other, value, found, decoded, same⟩
        cases there.symm.trans found
        exact .inr ⟨content, value, encoded, decoded, inEffect ▸ same⟩
      · rintro (impossible | ⟨other, again, encodedAgain, decoded, same⟩)
        · cases impossible
        · cases encoded.symm.trans encodedAgain
          exact ⟨content, again, there, decoded, inEffect ▸ same⟩
    · intro answered
      exact ⟨rfl, inEffect, content, encoded, there, unusable_of_quarantined there answered⟩

theorem Backing.opened_file_is_readable_iff_in_new_folder :
    let backing : Backing AppConfig := ⟨AppConfig.codec.format, ⟨"etc/service/app.json"⟩⟩
    let files := FileSystem.fresh []
    let opened := (backing.load ⟨":9999", 1⟩ files (.ok ())).1
    files.isPresent backing.path = false ∧ opened.IsPlain backing.path ∧
      backing.CanRead (.initial ⟨":9999", 1⟩) opened := by
  intro backing files opened
  have loaded : (backing.load ⟨":9999", 1⟩ files (.ok ())).2 = .ok (.initial ⟨":9999", 1⟩) := by
    simp only [backing, files]
    rfl
  have plain : opened.IsPlain backing.path :=
    FileSystem.isPlain_of_locate ["etc", "service", "app.json"] (by decide +kernel) (by decide +kernel)
      (by decide +kernel)
  have lossless : AppConfig.codec.IsLossless := .of_restores (by decide) AppConfig.restores
  have keeps : backing.format.Keeps ⟨":9999", 1⟩ :=
    ⟨_, ⟨":9999", 1⟩, rfl, lossless.decode_encode ⟨":9999", 1⟩, BEq.rfl⟩
  have readable := opened_file_is_readable_iff backing ⟨":9999", 1⟩ files (.ok ()) _ loaded
    (fun _ _ _ => BEq.rfl) fun _ => plain
  exact ⟨by decide +kernel, plain, readable.1.mpr (.inr keeps)⟩

/-- A number that is none is written as `null`, which is no number any more.  As a default it is taken, and the
first reload sets the file aside; as a value to commit it is refused. -/
theorem Backing.unreadable_defaults_are_taken :
    let codec : Codec (Float × Option String × Unit) :=
      .record "Metric" (.cons (.required "ratio" .double) <| .cons (.optional "label" .text) .nil)
    let backing : Backing (Float × Option String × Unit) := ⟨codec.format, ⟨"a"⟩⟩
    let defaults : Float × Option String × Unit := (0.0 / 0.0, none, ())
    let slots := Slots.initial defaults
    let loaded := backing.load defaults (.fresh []) (.ok ())
    let reason : Json.DocumentError := .mismatch (.invalidType .null "f64")
    loaded.2 = .ok slots ∧
      loaded.1.read backing.path = .ok (codec.encode defaults) ∧
      codec.decode (codec.encode defaults) = .error reason ∧
      ¬backing.CanRead slots loaded.1 ∧
      (backing.reload slots loaded.1).result = .ok (.reloaded .quarantined) ∧
      (backing.set slots loaded.1 defaults).result = .error (.serialization reason) := by
  intro codec backing defaults slots loaded reason
  have there : loaded.1.read backing.path = .ok (codec.encode defaults) := by decide +kernel
  have undecodable : codec.decode (codec.encode defaults) = .error reason := by
    simp only [codec, defaults, reason]
    rfl
  have opened : loaded.2 = .ok slots := by
    simp only [loaded, backing, defaults, slots, codec]
    rfl
  have setAside : (backing.reload slots loaded.1).result = .ok (.reloaded .quarantined) := by
    simp only [loaded, backing, defaults, slots, codec]
    rfl
  have refused : (backing.set slots loaded.1 defaults).result = .error (.serialization reason) := by
    simp only [loaded, backing, defaults, slots, codec, reason]
    rfl
  refine ⟨opened, there, undecodable, ?_, setAside, refused⟩
  rintro ⟨content, value, found, decoded, _⟩
  cases there.symm.trans found
  cases undecodable.symm.trans decoded

end LiveService
