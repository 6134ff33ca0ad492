import LiveService.Config.Validation
import LiveService.Net.Launch
import LiveService.Proofs.Net.Literal

/-!
Validation reads an address in its own way: it splits the text at its last colon and looks at both parts.  It comes
to the same result as whoever listens there, who tries a literal first, expands a leading colon and asks a resolver
for the host.
-/

namespace LiveService

namespace Target

variable {chars host digits : List Char} {text : String} {port : UInt16}

theorem takeWhile_reverse (noColon : ':' ∉ digits) (behind : List Char) :
    (digits.reverse ++ behind).takeWhile (· != ':') = digits.reverse ++ behind.takeWhile (· != ':') := by
  refine List.takeWhile_append_of_pos fun char member => ?_
  rw [bne_iff_ne]
  rintro rfl
  exact noColon (List.mem_reverse.mp member)

theorem splitLast?_append (host : List Char) (noColon : ':' ∉ digits) :
    splitLast? (host ++ ':' :: digits) = some (host, digits) := by
  have back : (host ++ ':' :: digits).reverse.takeWhile (· != ':') = digits.reverse := by
    rw [List.reverse_append, List.reverse_cons, List.append_assoc, takeWhile_reverse noColon]
    simp
  have longer : digits.reverse.length < (host ++ ':' :: digits).length := by
    simp only [List.length_reverse, List.length_append, List.length_cons]
    omega
  have front : (host ++ ':' :: digits).length - digits.reverse.length - 1 = host.length := by
    simp only [List.length_reverse, List.length_append, List.length_cons]
    omega
  unfold splitLast?
  dsimp only
  rw [back, if_pos longer, front, List.take_left, List.reverse_reverse]

theorem splitLast?_of_noColon (noColon : ':' ∉ chars) : splitLast? chars = none := by
  have back : chars.reverse.takeWhile (· != ':') = chars.reverse := by
    simpa using takeWhile_reverse noColon []
  unfold splitLast?
  dsimp only
  rw [back, List.length_reverse, if_neg (Nat.lt_irrefl _)]

theorem exists_split (colon : ':' ∈ chars) :
    ∃ host digits, chars = host ++ ':' :: digits ∧ ':' ∉ digits := by
  obtain ⟨back, front, reversed, noColon⟩ := List.eq_append_cons_of_mem (List.mem_reverse.mpr colon)
  refine ⟨front.reverse, back.reverse, ?_, by simpa using noColon⟩
  rw [← List.reverse_reverse chars, reversed]
  simp

theorem splitLast?_eq_some_iff :
    splitLast? chars = some (host, digits) ↔ chars = host ++ ':' :: digits ∧ ':' ∉ digits := by
  constructor
  · intro split
    by_cases colon : ':' ∈ chars
    · obtain ⟨front, back, rfl, noColon⟩ := exists_split colon
      rw [splitLast?_append front noColon] at split
      cases split
      exact ⟨rfl, noColon⟩
    · rw [splitLast?_of_noColon colon] at split
      cases split
  · rintro ⟨rfl, noColon⟩
    exact splitLast?_append host noColon

theorem looksLikeHostPort_iff :
    looksLikeHostPort text = true ↔
      ∃ host digits, text.toList = host ++ ':' :: digits ∧ ':' ∉ digits ∧
        (∃ port, port? digits = some port) ∧ host.getLast? ≠ some ':' := by
  unfold looksLikeHostPort
  constructor
  · intro looks
    split at looks
    · cases looks
    · rename_i host digits split
      obtain ⟨whole, noColon⟩ := splitLast?_eq_some_iff.mp split
      simp only [Bool.and_eq_true, bne_iff_ne, Option.isSome_iff_exists] at looks
      exact ⟨host, digits, whole, noColon, looks.2, looks.1⟩
  · rintro ⟨host, digits, whole, noColon, readable, fits⟩
    rw [splitLast?_eq_some_iff.mpr ⟨whole, noColon⟩]
    simp only [Bool.and_eq_true, bne_iff_ne, Option.isSome_iff_exists]
    exact ⟨fits, readable⟩

theorem looksLikeHostPort_expanded (trimmed : String) :
    looksLikeHostPort (expanded trimmed) = looksLikeHostPort trimmed := by
  unfold expanded
  split
  · rename_i leads
    obtain ⟨host, digits, whole, noColon⟩ :=
      exists_split (List.mem_of_head? (beq_iff_eq.mp leads))
    unfold looksLikeHostPort
    rw [String.toList_append, whole, ← List.append_assoc, splitLast?_append _ noColon,
      splitLast?_append _ noColon]
    dsimp only
    rw [List.getLast?_append]
    cases host.getLast? <;> rfl
  · rfl

theorem port?_of_isPort (isPort : SocketAddress.IsPort digits) :
    port? digits = some (SocketAddress.numberOf 10 digits).toUInt16 := by
  obtain ⟨nonempty, decimal, small⟩ := isPort
  obtain ⟨first, others, rfl⟩ := List.exists_cons_of_ne_nil nonempty
  have unsigned : first ≠ '+' := by
    rintro rfl
    cases decimal '+' List.mem_cons_self
  have all : (first :: others).all Char.isDigit = true := List.all_eq_true.mpr decimal
  unfold port?
  simp only [List.head?_cons, beq_iff_eq, Option.some.injEq, unsigned, if_false, List.isEmpty_cons, all,
    Bool.not_true, Bool.or_self, Bool.false_eq_true]
  rw [if_pos (Nat.lt_succ_of_le small)]

theorem looksLikeHostPort_of_literal {address : SocketAddress}
    (literal : SocketAddress.ofLiteral? text = some address) : looksLikeHostPort text = true := by
  obtain ⟨front, last, digits, whole, other, isPort, _⟩ := SocketAddress.ofLiteral?_eq_some literal
  refine looksLikeHostPort_iff.mpr ⟨front ++ [last], digits, ?_, ?_, ⟨_, port?_of_isPort isPort⟩, ?_⟩
  · simpa using whole
  · intro colon
    cases isPort.decimal ':' colon
  · simpa using other

/-- The text is no literal, and a resolver is asked for the host in front of its last colon. -/
structure Queries (text : String) (host : List Char) (port : UInt16) : Prop where
  noLiteral : SocketAddress.ofLiteral? text = none
  split : ∃ digits, text.toList = host ++ ':' :: digits ∧ ':' ∉ digits ∧ port? digits = some port

theorem ofText_eq_literal_iff {address : SocketAddress} :
    ofText text = .ok (.literal address) ↔ SocketAddress.ofLiteral? text = some address := by
  unfold ofText
  constructor
  · intro meant
    split at meant
    · rename_i literal
      cases meant
      exact literal
    · split at meant
      · cases meant
      · split at meant
        · cases meant
        · split at meant <;> cases meant
  · intro literal
    simp only [literal]

theorem Queries.ofText_eq (queries : Queries text host port) :
    ofText text =
      if '\x00' ∈ host then .error .nulInHost else .ok (.named (String.ofList host) port) := by
  obtain ⟨noLiteral, digits, whole, noColon, readable⟩ := queries
  unfold ofText
  simp only [noLiteral, whole, splitLast?_append host noColon, readable, List.contains_iff_mem]

theorem queries_of_ofText {name : String} (meant : ofText text = .ok (.named name port)) :
    Queries text name.toList port := by
  unfold ofText at meant
  split at meant
  · cases meant
  · rename_i noLiteral
    split at meant
    · cases meant
    · rename_i host digits split
      obtain ⟨whole, noColon⟩ := splitLast?_eq_some_iff.mp split
      split at meant
      · cases meant
      · rename_i readable
        split at meant
        · cases meant
        · cases meant
          exact ⟨noLiteral, digits, by rw [String.toList_ofList, whole], noColon, readable⟩

theorem looksLikeHostPort_iff_meant :
    looksLikeHostPort text = true ↔
      (∃ address, SocketAddress.ofLiteral? text = some address) ∨
        ∃ host port, Queries text host port ∧ host.getLast? ≠ some ':' := by
  constructor
  · intro looks
    cases literal : SocketAddress.ofLiteral? text with
    | some address => exact .inl ⟨address, rfl⟩
    | none =>
      obtain ⟨host, digits, whole, noColon, ⟨port, readable⟩, fits⟩ := looksLikeHostPort_iff.mp looks
      exact .inr ⟨host, port, ⟨literal, digits, whole, noColon, readable⟩, fits⟩
  · rintro (⟨address, literal⟩ | ⟨host, port, ⟨_, digits, whole, noColon, readable⟩, fits⟩)
    · exact looksLikeHostPort_of_literal literal
    · exact looksLikeHostPort_iff.mpr ⟨host, digits, whole, noColon, ⟨port, readable⟩, fits⟩

theorem ofText_of_looks {error : TargetError} (looks : looksLikeHostPort text = true)
    (failed : ofText text = .error error) : error = .nulInHost := by
  rcases looksLikeHostPort_iff_meant.mp looks with ⟨address, literal⟩ | ⟨host, port, queries, _⟩
  · cases failed.symm.trans (ofText_eq_literal_iff.mpr literal)
  · rw [queries.ofText_eq] at failed
    split at failed <;> cases failed
    rfl

end Target

theorem Violation.mem_when {condition : Bool} {violation other : Violation} :
    violation ∈ Violation.when condition other ↔ condition = true ∧ violation = other := by
  cases condition <;> simp [Violation.when]

theorem ServiceConfig.mem_violations_bindAddress {config : ServiceConfig} {address : String} :
    .bindAddress address ∈ config.violations ↔
      address = Text.trim config.listener.bindAddress ∧ address ≠ "" ∧
        Target.looksLikeHostPort address = false := by
  have paths : .bindAddress address ∉ (config.listener.tls.map TlsConfig.violations).getD [] := by
    cases config.listener.tls <;> simp [TlsConfig.violations, Violation.mem_when]
  simp only [violations, ListenerConfig.violations, ObservabilityConfig.violations, List.mem_append,
    Violation.mem_when, paths, reduceCtorEq, and_false, false_or, or_false, Violation.bindAddress.injEq,
    Bool.and_eq_true, bne_iff_ne, Bool.not_eq_true']
  constructor
  · rintro ⟨⟨present, unfit⟩, rfl⟩
    exact ⟨rfl, present, unfit⟩
  · rintro ⟨rfl, present, unfit⟩
    exact ⟨⟨present, unfit⟩, rfl⟩

def ServiceConfig.AcceptsAddress (config : ServiceConfig) : Prop :=
  ∀ address, .bindAddress address ∉ config.violations

theorem ServiceConfig.acceptsAddress_iff {config : ServiceConfig}
    (solid : Text.isBlank config.listener.bindAddress = false) :
    config.AcceptsAddress ↔
      Target.looksLikeHostPort (Target.expanded (Text.trim config.listener.bindAddress)) = true := by
  have present : Text.trim config.listener.bindAddress ≠ "" := by
    rw [Ne, Text.trim_eq_empty_iff, solid]
    decide
  simp only [AcceptsAddress, mem_violations_bindAddress, Target.looksLikeHostPort_expanded]
  grind

namespace ServerPlan

variable {App : Type} {plan : ServerPlan App}

theorem target_of_solid (solid : Text.isBlank plan.address = false) :
    plan.target =
      match Target.ofText (Target.expanded (Text.trim plan.address)) with
      | .ok target => .ok target
      | .error error => .error (.serve plan.displayName (.target error)) := by
  have present : Text.trim plan.address ≠ "" := by
    rw [Ne, Text.trim_eq_empty_iff, solid]
    decide
  rw [target]
  cases Target.ofText (Target.expanded (Text.trim plan.address)) <;> simp [present]

theorem target_eq_ok_iff (solid : Text.isBlank plan.address = false) {target : Target} :
    plan.target = .ok target ↔ Target.ofText (Target.expanded (Text.trim plan.address)) = .ok target := by
  rw [target_of_solid solid]
  cases Target.ofText (Target.expanded (Text.trim plan.address)) <;> simp

theorem resolve_eq_target_error {surroundings : Surroundings} {error : TargetError}
    (solid : Text.isBlank plan.address = false)
    (failed : plan.resolve surroundings = .error (.serve plan.displayName (.target error))) :
    Target.ofText (Target.expanded (Text.trim plan.address)) = .error error := by
  rw [resolve, target_of_solid solid] at failed
  cases meant : Target.ofText (Target.expanded (Text.trim plan.address)) with
  | error other =>
    rw [meant] at failed
    cases failed
    rfl
  | ok target =>
    rw [meant] at failed
    dsimp only at failed
    split at failed <;> cases failed

/-- Validation accepts an address just if whoever listens there reads it as a literal, or asks a resolver for a
host that does not end in a colon; a host with a NUL character is refused before it is looked up.  So the
resolution of an accepted address never fails because of its form or its port, and every literal is accepted. -/
theorem validation_agrees_with_resolution (plan : ServerPlan App) (config : ServiceConfig)
    (same : plan.address = config.listener.bindAddress)
    (solid : Text.isBlank config.listener.bindAddress = false) :
    let wanted := Target.expanded (Text.trim plan.address)
    (config.AcceptsAddress ↔
      (∃ address, plan.target = .ok (.literal address)) ∨
        ∃ host port, Target.Queries wanted host port ∧ host.getLast? ≠ some ':') ∧
    (∀ host port, Target.Queries wanted host port →
      plan.target =
        if '\x00' ∈ host then .error (.serve plan.displayName (.target .nulInHost))
        else .ok (.named (String.ofList host) port)) ∧
    (∀ host port, plan.target = .ok (.named host port) → Target.Queries wanted host.toList port) ∧
    (config.AcceptsAddress → ∀ surroundings,
      plan.resolve surroundings ≠ .error (.serve plan.displayName (.target .noPort)) ∧
        plan.resolve surroundings ≠ .error (.serve plan.displayName (.target .invalidPort))) ∧
    ∀ address, SocketAddress.ofLiteral? wanted = some address →
      config.AcceptsAddress ∧ plan.target = .ok (.literal address) := by
  intro wanted
  have accepts : config.AcceptsAddress ↔ Target.looksLikeHostPort wanted = true := by
    rw [ServiceConfig.acceptsAddress_iff solid, ← same]
  rw [← same] at solid
  have literal (address : SocketAddress) :
      plan.target = .ok (.literal address) ↔ SocketAddress.ofLiteral? wanted = some address := by
    rw [target_eq_ok_iff solid, Target.ofText_eq_literal_iff]
  have formed (accepted : config.AcceptsAddress) (surroundings : Surroundings) {error : TargetError}
      (failed : plan.resolve surroundings = .error (.serve plan.displayName (.target error))) :
      error = .nulInHost :=
    Target.ofText_of_looks (accepts.mp accepted) (resolve_eq_target_error solid failed)
  refine ⟨?_, ?_, ?_, ?_, ?_⟩
  · simp only [accepts, literal]
    exact Target.looksLikeHostPort_iff_meant
  · intro host port queries
    rw [target_of_solid solid, queries.ofText_eq]
    by_cases nul : '\x00' ∈ host
    · rw [if_pos nul, if_pos nul]
    · rw [if_neg nul, if_neg nul]
  · intro host port named
    exact Target.queries_of_ofText ((target_eq_ok_iff solid).mp named)
  · intro accepted surroundings
    refine ⟨fun failed => ?_, fun failed => ?_⟩
    · cases formed accepted surroundings failed
    · cases formed accepted surroundings failed
  · intro address there
    exact ⟨accepts.mpr (Target.looksLikeHostPort_of_literal there), (literal address).mpr there⟩

theorem validation_agrees_with_resolution_at_signed_port :
    let config : ServiceConfig := { listener := { bindAddress := "\u00a0:+080 " } }
    let plan : ServerPlan Unit := { address := "\u00a0:+080 " }
    config.AcceptsAddress ∧ plan.target = .ok (.named "0.0.0.0" 80) := by
  intro config plan
  have queries : Target.Queries "0.0.0.0:+080" "0.0.0.0".toList 80 :=
    ⟨by decide +kernel, "+080".toList, by decide +kernel, by decide +kernel, by decide +kernel⟩
  have wanted : Target.expanded (Text.trim plan.address) = "0.0.0.0:+080" := by decide +kernel
  obtain ⟨accepts, target, _⟩ := validation_agrees_with_resolution plan config rfl (by decide +kernel)
  rw [wanted] at accepts target
  exact ⟨accepts.mpr (.inr ⟨_, _, queries, by decide +kernel⟩), target _ _ queries⟩

end ServerPlan

end LiveService
