import LiveService.Proofs.Files.Frame

/-!
The place where unusable content goes is never that of the configuration file itself.
-/

namespace LiveService

namespace Path

theorem splitSlashes_eq_singleton {chars : List Char} (noSlash : '/' ∉ chars) :
    splitSlashes chars = [chars] := by
  induction chars with
  | nil => rfl
  | cons char rest ih =>
    simp only [List.mem_cons, not_or] at noSlash
    rw [splitSlashes, ih noSlash.2]
    exact fun slash => noSlash.1 slash.symm

theorem splitSlashes_cons {char : Char} {rest piece : List Char} {pieces : List (List Char)}
    (noSlash : char ≠ '/') (split : splitSlashes rest = piece :: pieces) :
    splitSlashes (char :: rest) = (char :: piece) :: pieces := by
  rw [splitSlashes, split]
  exact noSlash

theorem splitSlashes_append {back : List Char} (noSlash : '/' ∉ back) (chars : List Char) :
    ∃ pieces last, splitSlashes chars = pieces ++ [last] ∧
      splitSlashes (chars ++ back) = pieces ++ [last ++ back] := by
  induction chars with
  | nil => exact ⟨[], [], rfl, by simpa using splitSlashes_eq_singleton noSlash⟩
  | cons char rest ih =>
    obtain ⟨pieces, last, split, splitLonger⟩ := ih
    by_cases slash : char = '/'
    · subst slash
      exact ⟨[] :: pieces, last, by simp [splitSlashes, split],
        by simp [splitSlashes, splitLonger]⟩
    · cases pieces with
      | nil =>
        exact ⟨[], char :: last, splitSlashes_cons slash split, splitSlashes_cons slash splitLonger⟩
      | cons piece pieces =>
        exact ⟨(char :: piece) :: pieces, last, splitSlashes_cons slash split,
          splitSlashes_cons slash splitLonger⟩

theorem steps_append {tail : String} (noSlash : '/' ∉ tail.toList) (nonempty : tail ≠ "")
    (path : Path) :
    ∃ front last, path.steps = front ++ (if last = "" then [] else [last]) ∧
      (path.append tail).steps = front ++ [last ++ tail] := by
  obtain ⟨pieces, last, split, splitLonger⟩ := splitSlashes_append noSlash path.text.toList
  refine ⟨(pieces.map String.ofList).filter (· != ""), String.ofList last, ?_, ?_⟩
  · simp only [steps, Path.pieces, split, List.map_append, List.filter_append]
    by_cases empty : String.ofList last = "" <;> simp [empty]
  · have longer : String.ofList (last ++ tail.toList) = String.ofList last ++ tail := by
      simp [String.ofList_append]
    have kept : String.ofList last ++ tail ≠ "" := by
      simp [nonempty]
    simp only [steps, Path.pieces, append, String.toList_append, splitLonger, List.map_append,
      List.filter_append, List.map_cons, List.map_nil, longer]
    simp [kept]

end Path

theorem Ending.ofStep_of_long {step : String} (long : 2 < step.length) :
    Ending.ofStep step = .named step := by
  have notHere : step ≠ "." := by
    rintro rfl
    exact absurd long (by decide)
  have notUp : step ≠ ".." := by
    rintro rfl
    exact absurd long (by decide)
  simp [Ending.ofStep, notHere, notUp]

theorem Ending.ofStep_ne_named {step name : String} (different : step ≠ name) :
    Ending.ofStep step ≠ .named name := by
  unfold Ending.ofStep
  split
  · simp
  · split <;> simp [different]

theorem Ending.place_ne_place_named {folder : Location} {ending : Ending} {name : String}
    (different : ending ≠ .named name) :
    (Ending.named name).place folder ≠ ending.place folder := by
  cases ending with
  | here => simp [place]
  | up =>
    intro equal
    have lengths := congrArg List.length equal
    simp [place] at lengths
    omega
  | named other =>
    intro equal
    have same : name = other := by simpa [place] using equal
    exact different (by rw [same])

namespace FileSystem

variable {files : FileSystem}

theorem enter_eq_place {folder place : Location} {step : String}
    (entered : files.enter folder step = .ok place) :
    place = (Ending.ofStep step).place folder := by
  unfold enter at entered
  split at entered
  · rename_i name named
    rw [named]
    split at entered <;> simp_all [Ending.place]
  · simpa using entered.symm

theorem walk_append {last : List String} :
    ∀ {steps : List String} {folder place : Location}, files.walk folder (steps ++ last) = .ok place →
      ∃ between, files.walk folder steps = .ok between ∧ files.walk between last = .ok place := by
  intro steps
  induction steps with
  | nil =>
    intro folder place walked
    exact ⟨folder, rfl, walked⟩
  | cons step rest ih =>
    intro folder place walked
    simp only [List.cons_append, walk] at walked ⊢
    cases entered : files.enter folder step with
    | error error => simp [entered] at walked
    | ok next =>
      simp only [entered] at walked
      exact ih walked

theorem walk_eq_place {steps : List String} {start folder place : Location}
    (whole : files.walk start steps = .ok place)
    (butLast : files.walk start steps.dropLast = .ok folder) :
    place = ((steps.getLast?.map Ending.ofStep).getD .here).place folder := by
  rcases List.eq_nil_or_concat steps with rfl | ⟨front, last, rfl⟩
  · simp_all [walk, Ending.place]
  · simp only [List.concat_eq_append, List.dropLast_concat, List.getLast?_concat] at whole butLast ⊢
    obtain ⟨between, walked, entered⟩ := walk_append whole
    have same : between = folder := by simpa [butLast] using walked.symm
    subst same
    simp only [walk] at entered
    split at entered
    · simp at entered
    · rename_i next found
      simp only [Except.ok.injEq] at entered
      subst entered
      exact enter_eq_place found

end FileSystem

namespace ConfigFile

variable {files after : FileSystem} {path : Path}

theorem ofStep_rejected (last : String) :
    Ending.ofStep (last ++ ".badconfig") = .named (last ++ ".badconfig") := by
  apply Ending.ofStep_of_long
  have tail : ".badconfig".length = 10 := by decide
  rw [String.length_append, tail]
  omega

/-- Unusable content never goes where the configuration file stands. -/
theorem locate_rejectedPath_ne {location rejected : Location}
    (located : files.locate path = .ok location)
    (locatedRejected : files.locate (rejectedPath path) = .ok rejected) : rejected ≠ location := by
  rw [FileSystem.locate_eq_ok_iff] at located locatedRejected
  obtain ⟨folder, ending, approached, rfl⟩ := located
  obtain ⟨folder', ending', approached', rfl⟩ := locatedRejected
  rw [FileSystem.approach_eq_ok_iff] at approached approached'
  obtain ⟨_, present, _, _, walked, rfl⟩ := approached
  obtain ⟨_, _, _, _, walked', rfl⟩ := approached'
  have sameStart : files.startOf (rejectedPath path) = files.startOf path := by
    have absolute : (rejectedPath path).isAbsolute = path.isAbsolute := by
      have nonempty : path.text.toList ≠ [] := by simpa using present
      obtain ⟨char, rest, chars⟩ := List.exists_cons_of_ne_nil nonempty
      simp [rejectedPath, Path.append, Path.isAbsolute, chars]
    simp only [FileSystem.startOf, absolute]
  rw [sameStart] at walked'
  have noSlash : '/' ∉ ".badconfig".toList := by decide
  obtain ⟨front, last, steps, stepsRejected⟩ := Path.steps_append noSlash (by decide) path
  simp only [rejectedPath, stepsRejected, List.dropLast_concat, List.getLast?_concat,
    Option.map_some, Option.getD_some, ofStep_rejected] at walked' ⊢
  by_cases empty : last = ""
  · simp only [steps, empty, if_true, List.append_nil] at walked ⊢
    rw [← FileSystem.walk_eq_place walked' walked]
    simp [Ending.place]
  · simp only [steps, empty, if_false, List.dropLast_concat, List.getLast?_concat,
      Option.map_some, Option.getD_some] at walked ⊢
    have same : folder' = folder := by simpa [walked] using walked'.symm
    subst same
    have longer : last ≠ last ++ ".badconfig" := by
      intro equal
      have lengths := congrArg String.length equal
      simp [String.length_append] at lengths
    exact Ending.place_ne_place_named (Ending.ofStep_ne_named longer)

theorem write_error_spares {content : Bytes} {error : IoError}
    (failed : write files path content = (after, .error error)) :
    FileSystem.Spares FileSystem.nowhere files after := by
  have made := FileSystem.createParents_spares files path
  unfold write at failed
  split at failed
  · rename_i created
    rw [created] at made
    simp only [Prod.mk.injEq] at failed
    rw [← failed.1]
    exact made
  · rename_i created
    rw [created] at made
    split at failed
    · simp at failed
    · simp only [Prod.mk.injEq] at failed
      rw [← failed.1]
      exact made

end ConfigFile

end LiveService
