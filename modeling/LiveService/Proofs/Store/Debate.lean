import LiveService.Proofs.Store.Turn

/-!
Proposals among others who work with the same store.  While a proposal is put to the objectors, one after the
other, it has the store: others may change the files and subscribe, but nobody else commits.  The first
objector decides; if there is none, then what was proposed is committed, whatever they have made of it.
-/

namespace LiveService

variable {Config Callback : Type}

def Objector.reason? (objector : Objector Config) (proposal : Proposal Config) : Option String :=
  if objector.panics proposal then some panicReason else (objector.act proposal).reason

namespace Proposal

def passed (proposal : Proposal Config) (heard : List (Nat × Objector Config)) : Proposal Config :=
  heard.foldl (fun proposal entry => entry.2.act proposal) proposal

def answers (proposal : Proposal Config) : List (Nat × Objector Config) → List (Nat × Proposal Config)
  | [] => []
  | (id, objector) :: rest =>
    (id, objector.act proposal) :: answers (objector.act proposal) rest

def Passes (proposal : Proposal Config) : List (Nat × Objector Config) → Prop
  | [] => True
  | (_, objector) :: rest =>
    objector.reason? proposal = none ∧ (objector.act proposal).Passes rest

def IsStoppedBy (proposal : Proposal Config) (heard : List (Nat × Objector Config)) (reason : String) :
    Prop :=
  ∃ earlier id objector, heard = earlier ++ [(id, objector)] ∧ proposal.Passes earlier ∧
    objector.reason? (proposal.passed earlier) = some reason

variable {proposal : Proposal Config} {heard rest : List (Nat × Objector Config)} {id : Nat}
  {objector : Objector Config} {reason : String}

theorem passes_append :
    proposal.Passes (heard ++ rest) ↔ proposal.Passes heard ∧ (proposal.passed heard).Passes rest := by
  induction heard generalizing proposal with
  | nil => simp [Passes, passed]
  | cons entry heard ih =>
    simp only [List.cons_append, Passes, ih, and_assoc]
    rfl

theorem answers_append :
    proposal.answers (heard ++ rest) =
      proposal.answers heard ++ (proposal.passed heard).answers rest := by
  induction heard generalizing proposal with
  | nil => rfl
  | cons entry heard ih =>
    simp only [List.cons_append, answers, ih]
    rfl

theorem passed_append : proposal.passed (heard ++ rest) = (proposal.passed heard).passed rest :=
  List.foldl_append

theorem silent_iff : objector.reason? proposal = none ↔
    objector.panics proposal = false ∧ (objector.act proposal).reason = none := by
  unfold Objector.reason?
  split
  · rename_i panics
    simp [panics]
  · rename_i calm
    simp [calm]

def judgedBy (proposal : Proposal Config) (objector : Objector Config) : Proposal Config :=
  if objector.panics proposal then (objector.act proposal).cancel panicReason else objector.act proposal

theorem reason_judgedBy : (proposal.judgedBy objector).reason = objector.reason? proposal := by
  unfold judgedBy Objector.reason?
  split <;> rfl

theorem judgedBy_of_silent (silent : objector.reason? proposal = none) :
    proposal.judgedBy objector = objector.act proposal := by
  simp [judgedBy, (silent_iff.mp silent).1]

theorem putTo_cons : proposal.putTo ((id, objector) :: rest) =
    if (objector.reason? proposal).isSome then
      (proposal.judgedBy objector, [(id, objector.act proposal)])
    else
      let (final, asked) := (proposal.judgedBy objector).putTo rest
      (final, (id, objector.act proposal) :: asked) := by
  rw [← reason_judgedBy]
  rfl

theorem putTo_append (silent : proposal.Passes heard) :
    proposal.putTo (heard ++ rest) =
      (((proposal.passed heard).putTo rest).1,
        proposal.answers heard ++ ((proposal.passed heard).putTo rest).2) := by
  induction heard generalizing proposal with
  | nil => rfl
  | cons entry heard ih =>
    obtain ⟨id, objector⟩ := entry
    obtain ⟨first, others⟩ := silent
    rw [List.cons_append, putTo_cons, first, judgedBy_of_silent first, ih others]
    rfl

theorem putTo_of_passes (silent : proposal.Passes heard) :
    proposal.putTo heard = (proposal.passed heard, proposal.answers heard) := by
  have whole : proposal.putTo (heard ++ []) =
      (((proposal.passed heard).putTo []).1,
        proposal.answers heard ++ ((proposal.passed heard).putTo []).2) := putTo_append silent
  simpa [putTo] using whole

theorem putTo_of_stopped (stopped : proposal.IsStoppedBy heard reason)
    (rest : List (Nat × Objector Config)) :
    (proposal.putTo (heard ++ rest)).1.reason = some reason ∧
      (proposal.putTo (heard ++ rest)).2 = proposal.answers heard := by
  obtain ⟨earlier, id, objector, rfl, silent, objects⟩ := stopped
  rw [List.append_assoc, putTo_append silent, List.singleton_append, putTo_cons, objects]
  refine ⟨reason_judgedBy.trans objects, ?_⟩
  rw [answers_append]
  rfl

end Proposal

theorem Backing.set_displaces {backing : Backing Config} {slots : Slots Config} {files : FileSystem}
    {given value : Config} {content : Bytes} {answer : Answer}
    (tripped : backing.format.roundTrip given = .ok (value, content))
    (succeeded : (backing.set slots files given).result = .ok answer) :
    (backing.set slots files given).slots.previous = some slots.current ∧
      (backing.set slots files given).announced =
        [.modified (slots.version + 1) slots.current value .api] := by
  simp only [set, tripped, commitChecked] at succeeded ⊢
  rcases backing.writeContent_cases slots files value content with
    ⟨error, after, refused, _⟩ | ⟨written, _, done⟩
  · rw [refused] at succeeded
    cases succeeded
  · rw [done]
    exact ⟨rfl, rfl⟩

/-- A proposal that has the store.  It is for `value`, which has passed its round trip, and `content`; `waiting` are
to be asked yet, and `asked` have been. -/
structure Debate (Config : Type) where
  value : Config
  content : Bytes
  proposal : Proposal Config
  waiting : List (Nat × Objector Config)
  asked : List (Nat × Proposal Config)

namespace Debate

def ask? (debate : Debate Config) : Option (Debate Config) :=
  if debate.proposal.isCanceled then none
  else
    match debate.waiting with
    | [] => none
    | (id, objector) :: rest =>
      some
        { debate with
          proposal := debate.proposal.judgedBy objector
          waiting := rest
          asked := debate.asked ++ [(id, objector.act debate.proposal)] }

def outcome? (debate : Debate Config) (backing : Backing Config) (slots : Slots Config)
    (files : FileSystem) : Option (Outcome Config) :=
  match debate.proposal.reason with
  | some reason => some ⟨.error (.canceled reason), slots, files, [.canceled reason], [], []⟩
  | none =>
    if debate.waiting.isEmpty then
      some (backing.commitChecked slots files debate.value debate.content)
    else none

structure HasHeard (debate : Debate Config) (first : Proposal Config)
    (objectors heard : List (Nat × Objector Config)) : Prop where
  rest : objectors = heard ++ debate.waiting
  asked : debate.asked = first.answers heard
  verdict : first.Passes heard ∧ debate.proposal = first.passed heard ∧ debate.proposal.reason = none ∨
    ∃ reason, first.IsStoppedBy heard reason ∧ debate.proposal.reason = some reason

variable {debate next : Debate Config} {first : Proposal Config}
  {objectors heard : List (Nat × Objector Config)}

theorem HasHeard.ask (far : debate.HasHeard first objectors heard) (asks : debate.ask? = some next) :
    next.value = debate.value ∧ next.content = debate.content ∧
      ∃ entry, next.HasHeard first objectors (heard ++ [entry]) := by
  unfold ask? at asks
  split at asks
  · cases asks
  · rename_i going
    split at asks
    · cases asks
    · rename_i id objector rest waiting
      cases asks
      obtain ⟨whole, asked, verdict⟩ := far
      rcases verdict with ⟨silent, proposal, _⟩ | ⟨reason, _, stopped⟩
      · refine ⟨rfl, rfl, (id, objector), ⟨?_, ?_, ?_⟩⟩
        · simp [whole, waiting]
        · simp only [asked, Proposal.answers_append, proposal]
          rfl
        · rw [proposal]
          cases objects : objector.reason? (first.passed heard) with
          | none =>
            refine .inl ⟨Proposal.passes_append.mpr ⟨silent, objects, trivial⟩, ?_, ?_⟩
            · rw [Proposal.judgedBy_of_silent objects, Proposal.passed_append]
              rfl
            · rw [Proposal.reason_judgedBy, objects]
          | some reason =>
            refine .inr ⟨reason, ⟨heard, id, objector, rfl, silent, objects⟩, ?_⟩
            rw [Proposal.reason_judgedBy, objects]
      · exact absurd (by simp [Proposal.isCanceled, stopped]) going

theorem exists_ask_or_outcome (debate : Debate Config) (backing : Backing Config) (slots : Slots Config)
    (files : FileSystem) :
    (∃ next, debate.ask? = some next) ∨ ∃ outcome, debate.outcome? backing slots files = some outcome := by
  cases reason : debate.proposal.reason with
  | some reason =>
    right
    simp only [outcome?, reason]
    exact ⟨_, rfl⟩
  | none =>
    cases waiting : debate.waiting with
    | nil =>
      right
      simp only [outcome?, reason, waiting, List.isEmpty_nil, if_true]
      exact ⟨_, rfl⟩
    | cons entry rest =>
      left
      simp only [ask?, Proposal.isCanceled, reason, waiting]
      exact ⟨_, rfl⟩

theorem HasHeard.outcome {value given : Config} {content : Bytes} {backing : Backing Config}
    {slots : Slots Config} {files : FileSystem} {outcome : Outcome Config}
    (far : debate.HasHeard (.of value slots.current) objectors heard)
    (tripped : backing.format.roundTrip given = .ok (value, content))
    (sameValue : debate.value = value) (sameContent : debate.content = content)
    (decided : debate.outcome? backing slots files = some outcome) :
    (outcome, debate.asked) = backing.propose objectors slots files given ∧
      ((∃ reason, Proposal.IsStoppedBy (.of value slots.current) heard reason ∧
          outcome = ⟨.error (.canceled reason), slots, files, [.canceled reason], [], []⟩) ∨
        heard = objectors ∧ Proposal.Passes (.of value slots.current) objectors ∧
          outcome = backing.set slots files given) := by
  obtain ⟨whole, asked, verdict⟩ := far
  unfold outcome? at decided
  rcases verdict with ⟨silent, proposal, nobody⟩ | ⟨reason, stopped, objected⟩
  · rw [nobody] at decided
    simp only [Option.ite_none_right_eq_some, List.isEmpty_iff] at decided
    obtain ⟨heardAll, done⟩ := decided
    rw [heardAll, List.append_nil] at whole
    subst whole
    have round := Proposal.putTo_of_passes silent
    rw [proposal] at nobody
    rw [sameValue, sameContent, Option.some.injEq] at done
    refine ⟨?_, .inr ⟨rfl, silent, ?_⟩⟩
    · simp only [Backing.propose, tripped, round, nobody, asked, done]
    · simp only [Backing.set, tripped, done]
  · rw [objected, Option.some.injEq] at decided
    obtain ⟨reasonGiven, round⟩ := Proposal.putTo_of_stopped stopped debate.waiting
    rw [← whole] at reasonGiven round
    refine ⟨?_, .inl ⟨reason, stopped, decided.symm⟩⟩
    simp only [Backing.propose, tripped, reasonGiven, round, asked, decided]

end Debate

/-- A store that many work with.  While there is a debate, that has the store; `decided` is what came of the
proposals, with the answers of those who were asked. -/
structure Forum (Config Callback : Type) where
  slots : Slots Config
  files : FileSystem
  subscriptions : Subscriptions Config Callback
  debate : Option (Debate Config)
  decided : List (Outcome Config × List (Nat × Proposal Config))

inductive Contribution (Config Callback : Type) where
  | propose (value : Config)
  | ask
  | conclude
  | operate (command : Command Config)
  | subscribe (subscriptions : Subscriptions Config Callback)
  | changeFiles (files : FileSystem)

def Contribution.isAsk : Contribution Config Callback → Bool
  | .ask => true
  | _ => false

def Contribution.isConclusion : Contribution Config Callback → Bool
  | .conclude => true
  | _ => false

namespace Forum

variable [BEq Config]

def after? (backing : Backing Config) (forum : Forum Config Callback) :
    Contribution Config Callback → Option (Forum Config Callback)
  | .propose value =>
    match forum.debate, backing.format.roundTrip value with
    | none, .ok (value, content) =>
      some
        { forum with
          debate :=
            some ⟨value, content, .of value forum.slots.current, forum.subscriptions.modifying, []⟩ }
    | _, _ => none
  | .ask => (forum.debate.bind Debate.ask?).map fun debate => { forum with debate := some debate }
  | .conclude =>
    forum.debate.bind fun debate =>
      (debate.outcome? backing forum.slots forum.files).map fun outcome =>
        { forum with
          slots := outcome.slots
          files := outcome.files
          debate := none
          decided := forum.decided ++ [(outcome, debate.asked)] }
  | .operate command =>
    match forum.debate with
    | none =>
      let outcome := backing.perform forum.slots forum.files command
      some { forum with slots := outcome.slots, files := outcome.files }
    | some _ => none
  | .subscribe subscriptions => some { forum with subscriptions := subscriptions }
  | .changeFiles files => some { forum with files := files }

def run? (backing : Backing Config) (forum : Forum Config Callback)
    (contributions : List (Contribution Config Callback)) : Option (Forum Config Callback) :=
  contributions.foldlM (after? backing) forum

structure IsDebating (forum start : Forum Config Callback) (value : Config) (content : Bytes)
    (asked : Nat) : Prop where
  slots : forum.slots = start.slots
  decided : forum.decided = start.decided
  debate : ∃ debate heard, forum.debate = some debate ∧ debate.value = value ∧
    debate.content = content ∧
    debate.HasHeard (.of value start.slots.current) start.subscriptions.modifying heard ∧
    heard.length = asked

variable {backing : Backing Config} {start forum next : Forum Config Callback} {value : Config}
  {content : Bytes} {asked : Nat} {contribution : Contribution Config Callback}
  {contributions : List (Contribution Config Callback)}

theorem isDebating_of_propose {given : Config}
    (tripped : backing.format.roundTrip given = .ok (value, content))
    (proposed : start.after? backing (.propose given) = some forum) :
    forum.IsDebating start value content 0 := by
  simp only [after?, tripped] at proposed
  split at proposed
  · rename_i free same
    cases same
    cases proposed
    exact ⟨rfl, rfl, _, [], rfl, rfl, rfl, ⟨rfl, rfl, .inl ⟨trivial, rfl, rfl⟩⟩, rfl⟩
  · cases proposed

theorem IsDebating.after (debating : forum.IsDebating start value content asked)
    (step : forum.after? backing contribution = some next)
    (going : contribution.isConclusion = false) :
    next.IsDebating start value content (asked + [contribution].countP Contribution.isAsk) := by
  obtain ⟨slots, decided, debate, heard, under, sameValue, sameContent, far, count⟩ := debating
  cases contribution with
  | propose | operate =>
    simp only [after?, under] at step
    cases step
  | ask =>
    simp only [after?, under, Option.bind_some, Option.map_eq_some_iff] at step
    obtain ⟨later, asks, rfl⟩ := step
    obtain ⟨valueKept, contentKept, entry, further⟩ := far.ask asks
    refine ⟨slots, decided, later, heard ++ [entry], rfl, valueKept.trans sameValue,
      contentKept.trans sameContent, further, ?_⟩
    rw [List.length_append, count]
    rfl
  | conclude => cases going
  | subscribe | changeFiles =>
    cases step
    exact ⟨slots, decided, debate, heard, under, sameValue, sameContent, far, count⟩

theorem IsDebating.run (debating : forum.IsDebating start value content asked)
    (run : forum.run? backing contributions = some next)
    (going : ∀ contribution ∈ contributions, contribution.isConclusion = false) :
    next.IsDebating start value content (asked + contributions.countP Contribution.isAsk) := by
  induction contributions generalizing forum asked with
  | nil =>
    cases Option.some.inj run
    exact debating
  | cons contribution rest ih =>
    obtain ⟨between, step, run⟩ := Option.bind_eq_some_iff.mp run
    have further := ih (debating.after step (going contribution List.mem_cons_self)) run
      fun later member => going later (List.mem_cons_of_mem _ member)
    rw [Nat.add_assoc, ← List.countP_append, List.singleton_append] at further
    exact further

/-- A proposal is put to the objectors of the moment, one after the other, until one of them objects.  If one
does, then it fails with his reason, which is told, and nothing else changes; if none does, then it does what
setting the value would have done, and displaces the value that the objectors were shown.  It always comes to
one of the two, whatever others do meanwhile. -/
theorem first_objector_decides (backing : Backing Config) (start : Forum Config Callback)
    (given value : Config) (content : Bytes)
    (tripped : backing.format.roundTrip given = .ok (value, content)) (free : start.debate = none) :
    let objectors := start.subscriptions.modifying
    let first := Proposal.of value start.slots.current
    ∃ opened, start.after? backing (.propose given) = some opened ∧
      ∀ contributions before, opened.run? backing contributions = some before →
        (∀ contribution ∈ contributions, contribution.isConclusion = false) →
        before.slots = start.slots ∧
          contributions.countP Contribution.isAsk ≤ objectors.length ∧
          ((∃ next, before.after? backing .ask = some next) ∨
            ∃ after, before.after? backing .conclude = some after) ∧
          ∀ after, before.after? backing .conclude = some after →
            ∃ outcome heard, heard <+: objectors ∧ after.debate = none ∧
              after.decided = start.decided ++ [(outcome, first.answers heard)] ∧
              after.slots = outcome.slots ∧ after.files = outcome.files ∧
              (outcome, first.answers heard) =
                backing.propose objectors start.slots before.files given ∧
              ((∃ reason, first.IsStoppedBy heard reason ∧
                  outcome = ⟨.error (.canceled reason), start.slots, before.files, [.canceled reason],
                    [], []⟩) ∨
                heard = objectors ∧ first.Passes objectors ∧
                  outcome = backing.set start.slots before.files given ∧
                  ∀ answer, outcome.result = .ok answer →
                    outcome.slots.previous = some first.current ∧
                      outcome.announced =
                        [.modified (start.slots.version + 1) first.current value .api]) := by
  intro objectors first
  have opens : ∃ opened, start.after? backing (.propose given) = some opened := by
    simp only [after?, free, tripped]
    exact ⟨_, rfl⟩
  obtain ⟨opened, proposed⟩ := opens
  refine ⟨opened, proposed, fun contributions before run going => ?_⟩
  obtain ⟨slots, decided, debate, heard, under, sameValue, sameContent, far, count⟩ :=
    (isDebating_of_propose tripped proposed).run run going
  have within : heard <+: objectors := ⟨debate.waiting, far.rest.symm⟩
  refine ⟨slots, ?_, ?_, ?_⟩
  · rw [Nat.zero_add] at count
    exact count ▸ within.length_le
  · rcases debate.exists_ask_or_outcome backing before.slots before.files with
      ⟨later, asks⟩ | ⟨outcome, settles⟩
    · left
      simp only [after?, under, Option.bind_some, asks, Option.map_some]
      exact ⟨_, rfl⟩
    · right
      simp only [after?, under, Option.bind_some, settles, Option.map_some]
      exact ⟨_, rfl⟩
  · intro after concluded
    simp only [after?, under, Option.bind_some, Option.map_eq_some_iff] at concluded
    obtain ⟨outcome, settles, rfl⟩ := concluded
    rw [slots] at settles
    obtain ⟨alone, cases⟩ := far.outcome tripped sameValue sameContent settles
    rw [far.asked] at alone
    refine ⟨outcome, heard, within, rfl, ?_, rfl, rfl, alone, ?_⟩
    · rw [decided, far.asked]
    · rcases cases with ⟨reason, stopped, vetoed⟩ | ⟨all, silent, set⟩
      · exact .inl ⟨reason, stopped, vetoed⟩
      · refine .inr ⟨all, silent, set, fun answer succeeded => ?_⟩
        rw [set] at succeeded ⊢
        exact Backing.set_displaces tripped succeeded

theorem first_objector_decides_by_failing :
    let backing : Backing Bytes := ⟨⟨.ok, .ok⟩, ⟨"a"⟩⟩
    let swaps : Objector Bytes := ⟨fun _ => .of [7] [8], fun _ => false⟩
    let fails : Objector Bytes := ⟨fun proposal => proposal.cancel "no", fun _ => true⟩
    let agrees : Objector Bytes := ⟨id, fun _ => false⟩
    let objectors := [(1, swaps), (4, fails), (5, agrees)]
    let start : Forum Bytes Unit :=
      ⟨⟨3, [1], some [0], some [1], none, true⟩, .fresh [], ⟨6, objectors, [], [], []⟩, none, []⟩
    let files := (FileSystem.fresh []).put ["a"] (some (.file [9]))
    let contributions : List (Contribution Bytes Unit) :=
      [.ask, .changeFiles files, .subscribe .empty, .ask]
    ∃ opened before after, start.after? backing (.propose [2]) = some opened ∧
      opened.run? backing contributions = some before ∧
      before.after? backing .conclude = some after ∧
      after.slots = start.slots ∧ after.files = files ∧
      after.decided =
        [(⟨.error (.canceled "subscriber panicked"), start.slots, files,
            [.canceled "subscriber panicked"], [], []⟩,
          [(1, .of [7] [8]), (4, (Proposal.of [7] [8]).cancel "no")])] := by
  intro backing swaps fails agrees objectors start files contributions
  obtain ⟨opened, proposed, decides⟩ := first_objector_decides backing start [2] [2] [2] rfl rfl
  obtain ⟨before, run⟩ : ∃ before, opened.run? backing contributions = some before := by
    cases proposed
    exact ⟨_, rfl⟩
  have going : ∀ contribution ∈ contributions, contribution.isConclusion = false := by
    simp [contributions, Contribution.isConclusion]
  obtain ⟨after, concluded⟩ : ∃ after, before.after? backing .conclude = some after := by
    cases proposed
    cases run
    exact ⟨_, rfl⟩
  obtain ⟨outcome, heard, within, _, decided, slots, kept, alone, _⟩ :=
    (decides contributions before run going).2.2.2 after concluded
  have meanwhile : before.files = files := by
    cases proposed
    cases run
    rfl
  have vetoed : (outcome, (Proposal.of [2] [1]).answers heard) =
      (⟨.error (.canceled "subscriber panicked"), start.slots, files,
          [.canceled "subscriber panicked"], [], []⟩,
        [(1, .of [7] [8]), (4, (Proposal.of [7] [8]).cancel "no")]) := by
    rw [meanwhile] at alone
    exact alone
  rw [Prod.mk.injEq] at vetoed
  refine ⟨opened, before, after, proposed, run, concluded, ?_, ?_, ?_⟩
  · rw [slots, vetoed.1]
  · rw [kept, vetoed.1]
  · rw [decided, vetoed.1, ← vetoed.2]
    rfl

end Forum

end LiveService
