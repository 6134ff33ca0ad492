import LiveService.Proofs.Config.Torn
import LiveService.Proofs.Store.Values

/-!
Writes that break off.  A look at the file in the middle of a write finds either nothing or content that ends
too early.  Neither is taken for a configuration, and what the store holds stays as it is.
-/

namespace LiveService

variable {Config : Type}

namespace Codec

def SeesTorn (codec : Codec Config) (looks : List (Except IoError Bytes)) : Prop :=
  ∀ look ∈ looks, ∃ value content, codec.IsTorn value content ∧ look = .ok content

/-- What comes of a configuration file that broke off while it was written.  `reloadSeeing` is about a writer
that is still at work, so that each look finds the file broken off at another place. -/
structure RejectsTorn [BEq Config] (codec : Codec Config) : Prop where
  decode : ∀ value content, codec.IsTorn value content → content ≠ [] →
    codec.decode content = .error .truncated
  read : ∀ value content files path, codec.IsTorn value content → files.read path = .ok content →
    ConfigFile.read codec.format files path =
      .ok (if content = [] then .empty else .invalid content .truncated)
  reload : ∀ value content files path slots, codec.IsTorn value content →
    files.read path = .ok content →
    (Backing.reload ⟨codec.format, path⟩ slots files).KeepsValues slots
  reloadSeeing : ∀ files path slots seen,
    codec.SeesTorn ((List.range ConfigFile.readAttempts).map seen) →
    (Backing.reloadSeeing ⟨codec.format, path⟩ slots files seen).KeepsValues slots

section

variable {codec : Codec Config} {nesting : Nat} (misses : ∀ value, codec.MissesEnd nesting value)
  (shallow : nesting ≤ Json.nestingLimit)
  (floatFree : ∀ value, (codec.write value).isFloatFree = true)
  (objects : ∀ value, ∃ members, codec.write value = .object members)

include objects in
theorem IsTorn.solid {value : Config} {content : Bytes} (torn : codec.IsTorn value content)
    (nonempty : content ≠ []) : content.all Text.isAsciiBlank = false := by
  obtain ⟨members, written⟩ := objects value
  obtain ⟨octet, rest, rfl⟩ := List.exists_cons_of_ne_nil nonempty
  have front := torn.short.1
  rw [written, Json.write, Json.Layout.enclosed] at front
  have opening : octet = 0x7b := by
    split at front
    · exact (List.cons_prefix_cons.mp front).1
    · exact (List.cons_prefix_cons.mp front).1
  rw [opening]
  rfl

include misses shallow floatFree

theorem readChanging_torn {seen : Nat → Except IoError Bytes}
    (torn : codec.SeesTorn ((List.range ConfigFile.readAttempts).map seen)) :
    ConfigFile.readChanging codec.format seen = .ok .empty ∨
      ∃ content, ConfigFile.readChanging codec.format seen = .ok (.invalid content .truncated) := by
  rcases ConfigFile.readChanging_cases codec.format seen with
    ⟨turn, ends, reads, _⟩ | ⟨_, nothing, _⟩
  · have looked : seen turn ∈ (List.range ConfigFile.readAttempts).map seen :=
      List.mem_map_of_mem (List.mem_range.mpr ends.inTime)
    obtain ⟨value, content, broken, shown⟩ := torn (seen turn) looked
    have decoded : codec.format.decode content = .error .truncated :=
      (misses value).decode_torn shallow (floatFree value) broken
    rw [reads]
    exact .inr ⟨content, ConfigFile.verdict_eq_invalid_iff.mpr ⟨shown, decoded⟩⟩
  · exact .inl nothing

include objects

theorem RejectsTorn.of_missesEnd [BEq Config] : codec.RejectsTorn := by
  have seeing (files : FileSystem) (path : Path) (slots : Slots Config)
      (seen : Nat → Except IoError Bytes)
      (torn : codec.SeesTorn ((List.range ConfigFile.readAttempts).map seen)) :
      (Backing.reloadSeeing ⟨codec.format, path⟩ slots files seen).KeepsValues slots := by
    rw [Backing.reloadSeeing]
    rcases readChanging_torn misses shallow floatFree torn with nothing | ⟨content, invalid⟩
    · rw [nothing]
      exact Backing.discard_keepsValues _ slots files []
    · rw [invalid]
      exact Backing.discard_keepsValues _ slots files content
  have decode (value : Config) (content : Bytes) (torn : codec.IsTorn value content) :
      codec.decode content = .error .truncated :=
    (misses value).decode_torn shallow (floatFree value) torn
  refine ⟨fun value content torn _ => decode value content torn, ?_, ?_, seeing⟩
  · intro value content files path torn there
    rw [ConfigFile.read_eq there]
    by_cases empty : content = []
    · rw [if_pos empty, empty]
      rfl
    · have decoded : codec.format.decode content = .error .truncated := decode value content torn
      simp only [empty, torn.solid objects empty, decoded, Bool.false_eq_true, if_false]
  · intro value content files path slots torn there
    apply seeing files path slots fun _ => files.read path
    intro look present
    obtain ⟨_, _, rfl⟩ := List.mem_map.mp present
    exact ⟨value, content, torn, there⟩

end

end Codec

/-- A configuration file that breaks off anywhere before its last line break is found empty, or invalid for
no other reason than its end, and the store goes on with what it holds. -/
theorem torn_write_is_never_taken : ServiceConfig.codec.RejectsTorn ∧ AppConfig.codec.RejectsTorn := by
  constructor
  · exact .of_missesEnd ServiceConfig.missesEnd (by decide)
      (fun config => config.restores.floatFree) fun _ => ⟨_, rfl⟩
  · exact .of_missesEnd AppConfig.missesEnd (by decide)
      (fun config => config.restores.floatFree) fun _ => ⟨_, rfl⟩

theorem torn_write_is_never_taken_inside_letter :
    let content := (AppConfig.codec.encode ⟨"é", 12⟩).take 13
    let backing : Backing AppConfig := ⟨AppConfig.codec.format, ⟨"a"⟩⟩
    let files := (FileSystem.fresh []).put ["a"] (some (.file content))
    let slots : Slots AppConfig := ⟨3, ⟨"b", 2⟩, some ⟨"c", 1⟩, some ⟨"d", 4⟩, some ⟨"d", 4⟩, true⟩
    let outcome := backing.reload slots files
    AppConfig.codec.IsTorn ⟨"é", 12⟩ content ∧ content.getLast? = some 0xc3 ∧
      AppConfig.codec.decode content = .error .truncated ∧
      outcome.KeepsValues slots ∧ outcome.counts = [.quarantine] ∧
      outcome.files.read ⟨"a"⟩ = .ok (AppConfig.codec.encode ⟨"b", 2⟩) := by
  intro content backing files slots outcome
  have torn : AppConfig.codec.IsTorn ⟨"é", 12⟩ content :=
    ⟨List.take_prefix 13 _, by decide +kernel, by decide +kernel⟩
  have rejects := torn_write_is_never_taken.2
  exact ⟨torn, by decide +kernel, rejects.decode _ content torn (by decide +kernel),
    rejects.reload _ content files ⟨"a"⟩ slots torn (by decide +kernel), by decide +kernel,
    by decide +kernel⟩

end LiveService
