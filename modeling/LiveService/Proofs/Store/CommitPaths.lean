import LiveService.Proofs.Config.RoundTrip
import LiveService.Proofs.Files.Content
import LiveService.Proofs.Store.Frozen

/-!
The ways into effect.  A value can be set, be proposed, be found in the file, or be found there while the store is
frozen and brought into effect by force.  All of them end alike, but for the source that they are announced with.
-/

namespace LiveService

variable {Config : Type}

/-- A value has come into effect since then: nothing is held any more, its content is in the file, and everybody
was told of it once. -/
structure History.HasCommitted (history : History Config) (path : Path) (value : Config) (content : Bytes)
    (source : Source) (reached : History Config) : Prop where
  slots : reached.slots =
    ⟨history.slots.version + 1, value, some history.slots.current, some value, none, false⟩
  file : reached.files.read path = .ok content
  announced : reached.announced =
    history.announced ++ [.modified (history.slots.version + 1) history.slots.current value source]
  counts : reached.counts = history.counts ++ [.commit source]

namespace Backing

variable {backing : Backing Config} {slots : Slots Config} {files written : FileSystem}
  {value checked : Config} {content : Bytes}

theorem commitChecked_of_write
    (wrote : ConfigFile.write files backing.path content = (written, .ok ())) :
    backing.commitChecked slots files value content =
      .committed .done { slots with seen := some value, held := none } written value .api := by
  simp only [commitChecked, writeContent, wrote]

theorem set_of_write (tripped : backing.format.roundTrip value = .ok (checked, content))
    (wrote : ConfigFile.write files backing.path content = (written, .ok ())) :
    backing.set slots files value =
      .committed .done { slots with seen := some checked, held := none } written checked .api := by
  simp only [set, tripped, commitChecked_of_write wrote]

theorem propose_of_write {objectors : List (Nat × Objector Config)}
    (tripped : backing.format.roundTrip value = .ok (checked, content))
    (unopposed : ((Proposal.of checked slots.current).putTo objectors).1.reason = none)
    (wrote : ConfigFile.write files backing.path content = (written, .ok ())) :
    (backing.propose objectors slots files value).1 =
      .committed .done { slots with seen := some checked, held := none } written checked .api := by
  simp only [propose, tripped, unopposed, commitChecked_of_write wrote]

variable [BEq Config]

theorem absorb_of_free (free : slots.frozen = false) (different : (value == slots.current) = false) :
    absorb slots files value =
      .committed (.reloaded .applied) { slots with seen := some value, held := none } files value
        .file := by
  simp only [absorb, free, different, Bool.false_eq_true, if_false]

theorem forceRefresh_of_write (held : slots.held = some value)
    (different : (value == slots.current) = false) (encoded : backing.format.encode value = .ok content)
    (wrote : ConfigFile.write files backing.path content = (written, .ok ())) :
    backing.forceRefresh slots files =
      .committed (.refreshed true) { slots with seen := some value, held := none } written value
        .refresh := by
  simp only [forceRefresh, held, different, persist_of_write encoded wrote, Bool.false_eq_true,
    if_false]

end Backing

theorem Codec.roundTrip_of_decode {codec : Codec Config} {value : Config}
    (decoded : codec.decode (codec.encode value) = .ok value) :
    codec.format.roundTrip value = .ok (value, codec.encode value) := by
  simp only [Format.roundTrip, format, decoded]

namespace History

variable [BEq Config] {history between : History Config} {backing : Backing Config}
  {value : Config} {content : Bytes} {files written : FileSystem}

theorem HasCommitted.of_committed {command : Command Config} {answer : Answer} {source : Source}
    (unmoved : history.IsUnmovedSince between) (counts : between.counts = history.counts)
    (free : between.slots.frozen = false) (there : files.read backing.path = .ok content)
    (committed : backing.perform between.slots between.files command =
      .committed answer { between.slots with seen := some value, held := none } files value source) :
    history.HasCommitted backing.path value content source
      (between.after backing (.operate command)) := by
  refine ⟨?_, ?_, ?_, ?_⟩
  · simp only [after, record, committed, Outcome.committed, Slots.commit, unmoved.version,
      unmoved.current, free]
  · rw [after, record, committed]
    exact there
  · simp only [after, record, committed, Outcome.committed, Outcome.announced, Slots.commit,
      unmoved.version, unmoved.current, unmoved.announced, List.append_nil]
  · simp only [after, record, committed, Outcome.committed, counts]

variable (backing) (free : history.slots.frozen = false)

include free

theorem set_commits (tripped : backing.format.roundTrip value = .ok (value, content))
    (wrote : ConfigFile.write history.files backing.path content = (written, .ok ()))
    (readable : written.read backing.path = .ok content) :
    history.HasCommitted backing.path value content .api
      (history.after backing (.operate (.set value))) := by
  have committed : backing.perform history.slots history.files (.set value) =
      .committed .done { history.slots with seen := some value, held := none } written value .api :=
    Backing.set_of_write tripped wrote
  exact .of_committed ⟨rfl, rfl, rfl, rfl⟩ rfl free readable committed

theorem propose_commits {objectors : List (Nat × Objector Config)}
    (tripped : backing.format.roundTrip value = .ok (value, content))
    (unopposed : ((Proposal.of value history.slots.current).putTo objectors).1.reason = none)
    (wrote : ConfigFile.write history.files backing.path content = (written, .ok ()))
    (readable : written.read backing.path = .ok content) :
    history.HasCommitted backing.path value content .api
      (history.after backing (.operate (.propose objectors value))) := by
  have committed : backing.perform history.slots history.files (.propose objectors value) =
      .committed .done { history.slots with seen := some value, held := none } written value .api :=
    Backing.propose_of_write tripped unopposed wrote
  exact .of_committed ⟨rfl, rfl, rfl, rfl⟩ rfl free readable committed

theorem reload_commits (different : (value == history.slots.current) = false)
    (there : files.read backing.path = .ok content)
    (found : ConfigFile.read backing.format files backing.path = .ok (.parsed value)) :
    history.HasCommitted backing.path value content .file
      (history.run backing [.changeFiles files, .operate .reload]) := by
  have committed : backing.perform history.slots files .reload =
      .committed (.reloaded .applied) { history.slots with seen := some value, held := none } files
        value .file := by
    rw [Backing.perform, Backing.reload, found]
    exact Backing.absorb_of_free free different
  have unmoved : history.IsUnmovedSince (history.after backing (.changeFiles files)) :=
    ⟨rfl, rfl, rfl, rfl⟩
  exact .of_committed unmoved rfl free there committed

omit free

theorem run_held (different : (value == history.slots.current) = false)
    (found : ConfigFile.read backing.format files backing.path = .ok (.parsed value)) :
    let reached := history.run backing
      [.operate .freeze, .changeFiles files, .operate .reload, .operate .unfreeze]
    history.IsUnmovedSince reached ∧ reached.counts = history.counts ∧
      reached.slots.frozen = false ∧ reached.slots.held = some value ∧ reached.files = files := by
  have deferred : backing.reload { history.slots with frozen := true } files =
      .quiet (.ok (.reloaded .deferred))
        { history.slots with seen := some value, held := some value, frozen := true } files := by
    rw [Backing.reload, found]
    exact Backing.absorb_of_frozen rfl different
  refine ⟨⟨?_, ?_, ?_, ?_⟩, ?_⟩ <;>
    simp only [run, List.foldl_cons, List.foldl_nil, after, record, Backing.perform, Backing.freeze,
      Backing.unfreeze, Outcome.quiet, deferred, Outcome.announced, List.append_nil, and_self]

theorem forceRefresh_commits (different : (value == history.slots.current) = false)
    (there : files.read backing.path = .ok content)
    (found : ConfigFile.read backing.format files backing.path = .ok (.parsed value))
    (encoded : backing.format.encode value = .ok content)
    (wrote : ConfigFile.write files backing.path content = (written, .ok ())) :
    history.HasCommitted backing.path value content .refresh
      (history.run backing
        [.operate .freeze, .changeFiles files, .operate .reload, .operate .unfreeze,
          .operate .forceRefresh]) := by
  obtain ⟨unmoved, counts, free, held, sameFiles⟩ := run_held backing different found
  rw [← unmoved.current] at different
  rw [← sameFiles] at wrote
  exact .of_committed unmoved counts free (ConfigFile.read_of_rewrite there (sameFiles ▸ wrote))
    (Backing.forceRefresh_of_write held different encoded wrote)

end History

/-- However a value comes into effect, the store ends in the same state, with the same content in its file and one
announcement that differs in its source alone: if it is set, if nobody objects to it as a proposal, if the file is
made to hold it and looked at, and if that happens while the store is frozen and the change is forced afterwards. -/
theorem History.commit_paths_agree [BEq Config] (codec : Codec Config) (path : Path)
    (history : History Config) (value : Config) (objectors : List (Nat × Objector Config))
    (written edited rewritten : FileSystem) (free : history.slots.frozen = false)
    (different : (value == history.slots.current) = false)
    (decoded : codec.decode (codec.encode value) = .ok value)
    (unopposed : ((Proposal.of value history.slots.current).putTo objectors).1.reason = none)
    (wrote : ConfigFile.write history.files path (codec.encode value) = (written, .ok ()))
    (plain : written.IsPlain path) (there : edited.read path = .ok (codec.encode value))
    (rewrote : ConfigFile.write edited path (codec.encode value) = (rewritten, .ok ())) :
    let backing : Backing Config := ⟨codec.format, path⟩
    let commits := history.HasCommitted path value (codec.encode value)
    commits .api (history.after backing (.operate (.set value))) ∧
      commits .api (history.after backing (.operate (.propose objectors value))) ∧
      commits .file (history.run backing [.changeFiles edited, .operate .reload]) ∧
      commits .refresh (history.run backing
        [.operate .freeze, .changeFiles edited, .operate .reload, .operate .unfreeze,
          .operate .forceRefresh]) := by
  intro backing commits
  have tripped := Codec.roundTrip_of_decode decoded
  have readable := ConfigFile.read_of_write wrote plain
  have found : ConfigFile.read backing.format edited path = .ok (.parsed value) :=
    ConfigFile.read_of_solid there (Codec.solid_of_decode decoded) decoded
  exact ⟨set_commits backing free tripped wrote readable,
    propose_commits backing free tripped unopposed wrote readable,
    reload_commits backing free different there found,
    forceRefresh_commits backing different there found rfl rewrote⟩

theorem History.commit_paths_agree_over_held_change :
    let backing : Backing AppConfig := ⟨AppConfig.codec.format, ⟨"a"⟩⟩
    let holding (value : AppConfig) : FileSystem :=
      (FileSystem.fresh []).put ["a"] (some (.file (AppConfig.codec.encode value)))
    let history := (History.opened (.initial ⟨":9999", 1⟩) (holding ⟨":9999", 1⟩)).run backing
      [.operate .freeze, .changeFiles (holding ⟨"b:2", 2⟩), .operate .reload, .operate .unfreeze]
    let value : AppConfig := ⟨"c:3", 3⟩
    let proposed := history.after backing (.operate (.propose [(1, ⟨id, fun _ => false⟩)] value))
    let refreshed := history.run backing
      [.operate .freeze, .changeFiles (holding value), .operate .reload, .operate .unfreeze,
        .operate .forceRefresh]
    history.slots.held = some ⟨"b:2", 2⟩ ∧ proposed.slots = refreshed.slots ∧
      history.HasCommitted ⟨"a"⟩ value (AppConfig.codec.encode value) .api proposed ∧
      history.HasCommitted ⟨"a"⟩ value (AppConfig.codec.encode value) .refresh refreshed := by
  intro backing holding history value proposed refreshed
  let content := AppConfig.codec.encode value
  have lossless : AppConfig.codec.IsLossless := .of_restores (by decide) AppConfig.restores
  have written (files : FileSystem) (done : (ConfigFile.write files ⟨"a"⟩ content).2 = .ok ()) :
      ConfigFile.write files ⟨"a"⟩ content = ((ConfigFile.write files ⟨"a"⟩ content).1, .ok ()) :=
    Prod.ext rfl done
  have plain : (ConfigFile.write history.files ⟨"a"⟩ content).1.IsPlain ⟨"a"⟩ :=
    FileSystem.isPlain_of_locate ["a"] (by decide +kernel) (by decide +kernel) (by decide +kernel)
  obtain ⟨_, proposal, _, refresh⟩ := commit_paths_agree AppConfig.codec ⟨"a"⟩ history value
    [(1, ⟨id, fun _ => false⟩)] _ (holding value) _ (by decide +kernel) (by decide +kernel)
    (lossless.decode_encode value) rfl (written history.files (by decide +kernel)) plain
    (by decide +kernel) (written (holding value) (by decide +kernel))
  exact ⟨by decide +kernel, proposal.slots.trans refresh.slots.symm, proposal, refresh⟩

end LiveService
