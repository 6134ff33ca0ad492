import LiveService.Config.App
import LiveService.Store.ConfigFile

/-!
Reading while somebody else writes.  A reader looks at the file until a look fails or shows content, and no more than
five times.  That look alone decides what is read, and none is taken after it.
-/

namespace LiveService.ConfigFile

variable {Config : Type} {format : Format Config} {seen other : Nat → Except IoError Bytes} {turn : Nat}

def ShowsBlank (look : Except IoError Bytes) : Prop :=
  ∃ content, look = .ok content ∧ content.all Text.isAsciiBlank = true

/-- The look that ends a reading: the first one that tells anything, if it comes in time. -/
structure EndsAt (seen : Nat → Except IoError Bytes) (turn : Nat) : Prop where
  inTime : turn < readAttempts
  tells : ¬ShowsBlank (seen turn)
  blank : ∀ earlier, earlier < turn → ShowsBlank (seen earlier)

def verdict (format : Format Config) : Except IoError Bytes → Except IoError (Reading Config)
  | .error error => .error error
  | .ok content =>
    match format.decode content with
    | .ok value => .ok (.parsed value)
    | .error error => .ok (.invalid content error)

def readBy {Effect : Type → Type} [Monad Effect] (format : Format Config)
    (look : Effect (Except IoError Bytes)) : Nat → Effect (Except IoError (Reading Config))
  | 0 => pure (.ok .empty)
  | attempts + 1 => do
    match ← look with
    | .error error => pure (.error error)
    | .ok content =>
      if content.all Text.isAsciiBlank then readBy format look attempts
      else pure (verdict format (.ok content))

def nextLook (seen : Nat → Except IoError Bytes) : StateM Nat (Except IoError Bytes) :=
  fun turn => (seen turn, turn + 1)

theorem not_showsBlank {content : Bytes} (solid : content.all Text.isAsciiBlank = false) :
    ¬ShowsBlank (.ok content) := by
  rintro ⟨_, same, blank⟩
  cases same
  cases solid.symm.trans blank

theorem solid_of_tells {content : Bytes} (tells : ¬ShowsBlank (.ok content)) :
    content.all Text.isAsciiBlank = false :=
  eq_false_of_ne_true fun blank => tells ⟨content, rfl, blank⟩

theorem EndsAt.first (tells : ¬ShowsBlank (seen 0)) : EndsAt seen 0 :=
  ⟨by decide, tells, nofun⟩

theorem EndsAt.unique {first second : Nat} (one : EndsAt seen first) (another : EndsAt seen second) :
    first = second := by
  rcases Nat.lt_trichotomy first second with earlier | same | later
  · exact absurd (another.blank first earlier) one.tells
  · exact same
  · exact absurd (one.blank second later) another.tells

theorem EndsAt.congr (ends : EndsAt seen turn)
    (same : ∀ earlier, earlier ≤ turn → other earlier = seen earlier) : EndsAt other turn where
  inTime := ends.inTime
  tells := by
    rw [same turn (Nat.le_refl turn)]
    exact ends.tells
  blank earlier before := by
    rw [same earlier (Nat.le_of_lt before)]
    exact ends.blank earlier before

theorem verdict_ne_empty (format : Format Config) (look : Except IoError Bytes) :
    verdict format look ≠ .ok .empty := by
  cases look with
  | error error => nofun
  | ok content =>
    rw [verdict]
    cases format.decode content <;> nofun

theorem verdict_eq_error_iff {look : Except IoError Bytes} {error : IoError} :
    verdict format look = .error error ↔ look = .error error := by
  cases look with
  | error reason => simp [verdict]
  | ok content => cases decoded : format.decode content <;> simp [verdict, decoded]

theorem verdict_eq_parsed_iff {look : Except IoError Bytes} {value : Config} :
    verdict format look = .ok (.parsed value) ↔
      ∃ content, look = .ok content ∧ format.decode content = .ok value := by
  cases look with
  | error error => simp [verdict]
  | ok content => cases decoded : format.decode content <;> simp [verdict, decoded]

theorem verdict_eq_invalid_iff {look : Except IoError Bytes} {raw : Bytes}
    {error : Json.DocumentError} :
    verdict format look = .ok (.invalid raw error) ↔
      look = .ok raw ∧ format.decode raw = .error error := by
  cases look with
  | error reason => simp [verdict]
  | ok content =>
    cases decoded : format.decode content with
    | ok value =>
      simp only [verdict, decoded, Except.ok.injEq, reduceCtorEq, false_iff, not_and]
      rintro rfl undecodable
      cases decoded.symm.trans undecodable
    | error reason =>
      simp only [verdict, decoded, Except.ok.injEq, Reading.invalid.injEq]
      constructor
      · rintro ⟨rfl, rfl⟩
        exact ⟨rfl, decoded⟩
      · rintro ⟨rfl, undecodable⟩
        exact ⟨rfl, Except.error.inj (decoded.symm.trans undecodable)⟩

section

variable {look : Except IoError Bytes} {later : List (Except IoError Bytes)} {attempts start : Nat}

theorem readSeen_of_blank (nothing : ShowsBlank look) :
    readSeen format (look :: later) = readSeen format later := by
  obtain ⟨content, rfl, blank⟩ := nothing
  rw [readSeen, if_pos blank]

theorem readSeen_of_tells (tells : ¬ShowsBlank look) :
    readSeen format (look :: later) = verdict format look := by
  cases look with
  | error error => rfl
  | ok content =>
    simp only [readSeen, solid_of_tells tells]
    rfl

theorem run_readBy (attempts start : Nat) :
    (readBy format (nextLook seen) (attempts + 1)).run start =
      (match seen start with
      | .error error => pure (.error error)
      | .ok content =>
        if content.all Text.isAsciiBlank then readBy format (nextLook seen) attempts
        else pure (verdict format (.ok content)) : StateM Nat _).run (start + 1) := by
  rfl

theorem run_readBy_of_blank (nothing : ShowsBlank (seen start)) :
    (readBy format (nextLook seen) (attempts + 1)).run start =
      (readBy format (nextLook seen) attempts).run (start + 1) := by
  obtain ⟨content, shown, blank⟩ := nothing
  rw [run_readBy, shown]
  simp only [blank, if_true]

theorem run_readBy_of_tells (tells : ¬ShowsBlank (seen start)) :
    (readBy format (nextLook seen) (attempts + 1)).run start =
      (verdict format (seen start), start + 1) := by
  rw [run_readBy]
  cases shown : seen start with
  | error error => rfl
  | ok content =>
    rw [shown] at tells
    simp only [solid_of_tells tells]
    rfl

end

section

variable (format seen)

/-- Counting the looks changes nothing in what is read. -/
theorem readBy_eq_readSeen (attempts start : Nat) :
    ((readBy format (nextLook seen) attempts).run start).1 =
      readSeen format ((List.range' start attempts).map seen) := by
  induction attempts generalizing start with
  | zero => rfl
  | succ attempts ih =>
    rw [List.range'_succ, List.map_cons]
    by_cases nothing : ShowsBlank (seen start)
    · rw [run_readBy_of_blank nothing, readSeen_of_blank nothing, ih]
    · rw [run_readBy_of_tells nothing, readSeen_of_tells nothing]

theorem readBy_cases (attempts start : Nat) :
    (∃ turn, start ≤ turn ∧ turn < start + attempts ∧ ¬ShowsBlank (seen turn) ∧
      (∀ earlier, start ≤ earlier → earlier < turn → ShowsBlank (seen earlier)) ∧
      (readBy format (nextLook seen) attempts).run start = (verdict format (seen turn), turn + 1)) ∨
    (∀ turn, start ≤ turn → turn < start + attempts → ShowsBlank (seen turn)) ∧
      (readBy format (nextLook seen) attempts).run start = (.ok .empty, start + attempts) := by
  induction attempts generalizing start with
  | zero => exact .inr ⟨fun turn lower upper => by omega, rfl⟩
  | succ attempts ih =>
    by_cases nothing : ShowsBlank (seen start)
    · -- The look at `start` is blank, so what holds from `start + 1` on holds from `start` on.
      have extend {last : Nat}
          (blank : ∀ earlier, start + 1 ≤ earlier → earlier < last → ShowsBlank (seen earlier)) :
          ∀ earlier, start ≤ earlier → earlier < last → ShowsBlank (seen earlier) := by
        intro earlier lower upper
        by_cases first : earlier = start
        · rw [first]
          exact nothing
        · exact blank earlier (by omega) upper
      rw [run_readBy_of_blank nothing]
      rcases ih (start + 1) with ⟨turn, lower, upper, tells, blank, reads⟩ | ⟨blank, reads⟩
      · exact .inl ⟨turn, by omega, by omega, tells, extend blank, reads⟩
      · have whole : start + 1 + attempts = start + (attempts + 1) := by omega
        rw [whole] at blank reads
        exact .inr ⟨extend blank, reads⟩
    · refine .inl ⟨start, Nat.le_refl start, by omega, nothing, ?_, run_readBy_of_tells nothing⟩
      intro earlier lower upper
      omega

theorem readBy_eq_readChanging :
    ((readBy format (nextLook seen) readAttempts).run 0).1 = readChanging format seen := by
  rw [readBy_eq_readSeen, ← List.range_eq_range', readChanging]

theorem readChanging_cases :
    (∃ turn, EndsAt seen turn ∧ readChanging format seen = verdict format (seen turn) ∧
      ((readBy format (nextLook seen) readAttempts).run 0).2 = turn + 1) ∨
    (∀ turn, turn < readAttempts → ShowsBlank (seen turn)) ∧
      readChanging format seen = .ok .empty ∧
      ((readBy format (nextLook seen) readAttempts).run 0).2 = readAttempts := by
  rw [← readBy_eq_readChanging]
  rcases readBy_cases format seen readAttempts 0 with ⟨turn, _, inTime, tells, blank, reads⟩ | ⟨blank, reads⟩
  · rw [Nat.zero_add] at inTime
    have ends : EndsAt seen turn := ⟨inTime, tells, fun earlier => blank earlier (Nat.zero_le earlier)⟩
    rw [reads]
    exact .inl ⟨turn, ends, rfl, rfl⟩
  · rw [Nat.zero_add] at blank reads
    rw [reads]
    exact .inr ⟨fun turn => blank turn (Nat.zero_le turn), rfl, rfl⟩

end

theorem EndsAt.reads (format : Format Config) (ends : EndsAt seen turn) :
    readChanging format seen = verdict format (seen turn) ∧
      ((readBy format (nextLook seen) readAttempts).run 0).2 = turn + 1 := by
  rcases readChanging_cases format seen with ⟨last, endsLast, reads, taken⟩ | ⟨blank, _⟩
  · rw [ends.unique endsLast]
    exact ⟨reads, taken⟩
  · exact absurd (blank turn ends.inTime) ends.tells

theorem readChanging_eq_iff {reading : Except IoError (Reading Config)} (solid : reading ≠ .ok .empty) :
    readChanging format seen = reading ↔
      ∃ turn, EndsAt seen turn ∧ verdict format (seen turn) = reading := by
  constructor
  · rintro rfl
    rcases readChanging_cases format seen with ⟨turn, ends, reads, _⟩ | ⟨_, nothing, _⟩
    · exact ⟨turn, ends, reads.symm⟩
    · exact absurd nothing solid
  · rintro ⟨turn, ends, rfl⟩
    exact (ends.reads format).1

theorem readChanging_eq_empty_iff :
    readChanging format seen = .ok .empty ↔
      ∀ turn, turn < readAttempts → ShowsBlank (seen turn) := by
  constructor
  · intro nothing
    rcases readChanging_cases format seen with ⟨turn, _, reads, _⟩ | ⟨blank, _⟩
    · exact absurd (reads.symm.trans nothing) (verdict_ne_empty format _)
    · exact blank
  · intro blank
    rcases readChanging_cases format seen with ⟨turn, ends, _⟩ | ⟨_, nothing, _⟩
    · exact absurd (blank turn ends.inTime) ends.tells
    · exact nothing

theorem content_of_parsed {value : Config} (parsed : readChanging format seen = .ok (.parsed value)) :
    ∃ turn content, seen turn = .ok content ∧ content.all Text.isAsciiBlank = false ∧
      format.decode content = .ok value := by
  obtain ⟨turn, ends, decides⟩ := (readChanging_eq_iff (by nofun)).mp parsed
  obtain ⟨content, shown, decoded⟩ := verdict_eq_parsed_iff.mp decides
  have tells := ends.tells
  rw [shown] at tells
  exact ⟨turn, content, shown, solid_of_tells tells, decoded⟩

theorem decode_of_invalid {raw : Bytes} {error : Json.DocumentError}
    (invalid : readChanging format seen = .ok (.invalid raw error)) :
    format.decode raw = .error error := by
  obtain ⟨_, _, decides⟩ := (readChanging_eq_iff (by nofun)).mp invalid
  exact (verdict_eq_invalid_iff.mp decides).2

/-- Whatever a reader sees at its looks, at most five: the first that is not blank decides.  If it failed, reading fails
like it; if its content decodes, that value is read; if not, the content is kept as it is.  Only if all five are blank
is nothing read.  Neither is any look taken after the one that decides, nor does it matter what it would show. -/
theorem reading_ends_with_first_content (format : Format Config) (seen : Nat → Except IoError Bytes) :
    let reading := readChanging format seen
    let counted := (readBy format (nextLook seen) readAttempts).run 0
    readAttempts = 5 ∧ counted.1 = reading ∧
    (∀ error, reading = .error error ↔ ∃ turn, EndsAt seen turn ∧ seen turn = .error error) ∧
    (∀ value, reading = .ok (.parsed value) ↔
      ∃ turn content, EndsAt seen turn ∧ seen turn = .ok content ∧ format.decode content = .ok value) ∧
    (∀ raw error, reading = .ok (.invalid raw error) ↔
      ∃ turn, EndsAt seen turn ∧ seen turn = .ok raw ∧ format.decode raw = .error error) ∧
    (reading = .ok .empty ↔ ∀ turn, turn < readAttempts → ShowsBlank (seen turn)) ∧
    (reading = .ok .empty → counted.2 = readAttempts) ∧
    ∀ turn, EndsAt seen turn → counted.2 = turn + 1 ∧
      ∀ other, (∀ earlier, earlier ≤ turn → other earlier = seen earlier) →
        readChanging format other = reading := by
  intro reading counted
  refine ⟨rfl, readBy_eq_readChanging format seen, ?_, ?_, ?_, readChanging_eq_empty_iff, ?_, ?_⟩
  · intro error
    refine (readChanging_eq_iff (by nofun)).trans ?_
    simp only [verdict_eq_error_iff]
  · intro value
    refine (readChanging_eq_iff (by nofun)).trans ?_
    simp only [verdict_eq_parsed_iff, exists_and_left]
  · intro raw error
    refine (readChanging_eq_iff (by nofun)).trans ?_
    simp only [verdict_eq_invalid_iff]
  · intro nothing
    rcases readChanging_cases format seen with ⟨turn, _, reads, _⟩ | ⟨_, _, taken⟩
    · exact absurd (reads.symm.trans nothing) (verdict_ne_empty format _)
    · exact taken
  · intro turn ends
    refine ⟨(ends.reads format).2, ?_⟩
    intro other same
    have endsOther : EndsAt other turn := ends.congr same
    rw [(endsOther.reads format).1, same turn (Nat.le_refl turn)]
    exact (ends.reads format).1.symm

theorem reading_ends_with_first_content_of_torn_write :
    let seen : Nat → Except IoError Bytes
      | 0 => .ok [0x20, 0x0a]
      | 1 => .ok []
      | 2 => .ok [0x7b]
      | _ => .error .notFound
    EndsAt seen 2 ∧
      readChanging AppConfig.codec.format seen = .ok (.invalid [0x7b] .truncated) ∧
      ((readBy AppConfig.codec.format (nextLook seen) readAttempts).run 0).2 = 3 := by
  intro seen
  have ends : EndsAt seen 2 := by
    refine ⟨by decide, ?_, ?_⟩
    · rintro ⟨content, shown, blank⟩
      cases shown
      cases blank
    · intro earlier before
      match earlier, before with
      | 0, _ => exact ⟨[0x20, 0x0a], rfl, rfl⟩
      | 1, _ => exact ⟨[], rfl, rfl⟩
  obtain ⟨_, _, _, _, invalid, _, _, taken⟩ :=
    reading_ends_with_first_content AppConfig.codec.format seen
  exact ⟨ends, (invalid [0x7b] .truncated).mpr ⟨2, ends, rfl, rfl⟩, (taken 2 ends).1⟩

end LiveService.ConfigFile
