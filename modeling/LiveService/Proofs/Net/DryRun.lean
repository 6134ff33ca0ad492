import LiveService.Proofs.Net.Target
import LiveService.Service.Site

/-!
A dry run asks everything of a configuration that does not depend on the world outside.  A listener that could be
built is therefore kept from serving that configuration by nothing but names that are not found, keys that do not
load and addresses that cannot be bound.
-/

namespace LiveService

namespace ServerPlan

variable {App : Type} {plan : ServerPlan App} {definitions : Option (Definitions App)}
  {surroundings : Surroundings} {address : SocketAddress} {error : ListenerError}

inductive IsUnresolved (plan : ServerPlan App) (surroundings : Surroundings) : ServeError → Prop where
  | meaningless (error : TargetError)
      (unread : Target.ofText (Target.expanded (Text.trim plan.address)) = .error error) :
      IsUnresolved plan surroundings (.target error)
  | unknown (host : String) (port : UInt16) (reason : String)
      (named : Target.ofText (Target.expanded (Text.trim plan.address)) = .ok (.named host port))
      (unknown : surroundings.lookUp host = .error reason) :
      IsUnresolved plan surroundings (.unknownHost reason)
  | nowhere (host : String) (port : UInt16)
      (named : Target.ofText (Target.expanded (Text.trim plan.address)) = .ok (.named host port))
      (nowhere : surroundings.lookUp host = .ok []) :
      IsUnresolved plan surroundings (.noAddress (Text.trim plan.address))

inductive IsUnbound (plan : ServerPlan App) (surroundings : Surroundings) (address : SocketAddress) :
    ServeError → Prop where
  | keys (tls : TlsConfig) (cause : ServeError) (secured : plan.tls = some tls)
      (unloaded : surroundings.loadKeys tls = .error cause) : IsUnbound plan surroundings address cause
  | taken (error : IoError) (loaded : ∀ tls, plan.tls = some tls → surroundings.loadKeys tls = .ok ())
      (taken : surroundings.bind address = .error error) :
      IsUnbound plan surroundings address (.refused error)

/-- What outside a plan keeps its server from coming up. -/
def IsRefused (plan : ServerPlan App) (surroundings : Surroundings) (cause : ServeError) : Prop :=
  plan.IsUnresolved surroundings cause ∨
    ∃ address, plan.resolve surroundings = .ok address ∧ plan.IsUnbound surroundings address cause

theorem check_eq_ok_iff {hasDefinitions : Bool} :
    plan.check hasDefinitions = .ok () ↔
      Text.isBlank plan.address = false ∧
        match plan.protocol with
        | .rpc => hasDefinitions = true
        | .http => plan.app.isSome = true := by
  unfold check
  cases Text.isBlank plan.address <;> cases plan.protocol <;> cases hasDefinitions <;>
    cases plan.app <;> simp

theorem served_of_check (checked : plan.check definitions.isSome = .ok ()) :
    ∃ app, plan.served definitions = .ok app := by
  have serves := (check_eq_ok_iff.mp checked).2
  cases spoken : plan.protocol with
  | http =>
    rw [spoken] at serves
    obtain ⟨app, there⟩ := Option.isSome_iff_exists.mp serves
    exact ⟨app, by simp [served, spoken, there]⟩
  | rpc =>
    rw [spoken] at serves
    obtain ⟨mount, there⟩ := Option.isSome_iff_exists.mp serves
    exact ⟨mount plan.app, by simp [served, spoken, there]⟩

theorem resolve_eq_error_iff {hasDefinitions : Bool} (checked : plan.check hasDefinitions = .ok ()) :
    plan.resolve surroundings = .error error ↔
      ∃ cause, error = .serve plan.displayName cause ∧ plan.IsUnresolved surroundings cause := by
  rw [resolve, target_of_solid (check_eq_ok_iff.mp checked).1]
  constructor
  · intro unresolved
    cases read : Target.ofText (Target.expanded (Text.trim plan.address)) with
    | error fault =>
      rw [read] at unresolved
      cases unresolved
      exact ⟨_, rfl, .meaningless fault read⟩
    | ok target =>
      cases target with
      | literal address =>
        rw [read] at unresolved
        cases unresolved
      | named host port =>
        cases found : surroundings.lookUp host with
        | error reason =>
          simp only [read, Surroundings.addresses, found, Except.map] at unresolved
          cases unresolved
          exact ⟨_, rfl, .unknown host port reason read found⟩
        | ok addresses =>
          simp only [read, Surroundings.addresses, found, Except.map] at unresolved
          cases addresses with
          | nil =>
            cases unresolved
            exact ⟨_, rfl, .nowhere host port read found⟩
          | cons first rest => cases unresolved
  · rintro ⟨cause, rfl, unresolved⟩
    cases unresolved with
    | meaningless fault read => simp only [read]
    | unknown host port reason read found =>
      simp only [read, Surroundings.addresses, found, Except.map]
    | nowhere host port read found =>
      simp only [read, Surroundings.addresses, found, Except.map, List.map_nil]

theorem listen_eq_error_iff :
    plan.listen surroundings address = .error error ↔
      ∃ cause, error = .serve plan.displayName cause ∧ plan.IsUnbound surroundings address cause := by
  constructor
  · intro unbound
    rw [listen] at unbound
    split at unbound
    · rename_i cause unloaded
      cases unbound
      cases secured : plan.tls with
      | none => simp [secured] at unloaded
      | some tls =>
        simp only [secured] at unloaded
        exact ⟨_, rfl, .keys tls cause secured unloaded⟩
    · rename_i loaded
      split at unbound
      · rename_i fault taken
        cases unbound
        refine ⟨_, rfl, .taken fault ?_ taken⟩
        intro tls secured
        simpa only [secured] using loaded
      · cases unbound
  · rintro ⟨cause, rfl, unbound⟩
    cases unbound with
    | keys tls _ secured unloaded => simp only [listen, secured, unloaded]
    | taken fault loaded taken =>
      cases secured : plan.tls with
      | none => simp only [listen, secured, taken]
      | some tls => simp only [listen, secured, loaded tls secured, taken]

theorem launch_eq_error_iff (checked : plan.check definitions.isSome = .ok ()) :
    plan.launch definitions surroundings = .error error ↔
      ∃ cause, error = .serve plan.displayName cause ∧ plan.IsRefused surroundings cause := by
  obtain ⟨app, served⟩ := served_of_check checked
  constructor
  · intro refused
    cases found : plan.resolve surroundings with
    | error unresolved =>
      simp only [launch, checked, found] at refused
      cases refused
      obtain ⟨cause, rfl, why⟩ := (resolve_eq_error_iff checked).mp found
      exact ⟨cause, rfl, .inl why⟩
    | ok address =>
      cases heard : plan.listen surroundings address with
      | error unbound =>
        simp only [launch, checked, found, served, heard, Except.map] at refused
        cases refused
        obtain ⟨cause, rfl, why⟩ := listen_eq_error_iff.mp heard
        exact ⟨cause, rfl, .inr ⟨address, found, why⟩⟩
      | ok bound =>
        simp only [launch, checked, found, served, heard, Except.map] at refused
        cases refused
  · rintro ⟨cause, rfl, unresolved | ⟨address, found, unbound⟩⟩
    · have found := (resolve_eq_error_iff checked).mpr ⟨cause, rfl, unresolved⟩
      simp only [launch, checked, found]
    · have heard := listen_eq_error_iff.mpr ⟨cause, rfl, unbound⟩
      simp only [launch, checked, found, served, heard, Except.map]

end ServerPlan

namespace Blueprint

variable {Config App : Type} {blueprint : Blueprint Config App} {config : Config}
  {plan : ServerPlan App} {name listener : String} {surroundings : Surroundings}

def Plans (blueprint : Blueprint Config App) (config : Config) (plan : ServerPlan App) : Prop :=
  ∃ bootstrap, blueprint.bootstrap = some bootstrap ∧ bootstrap config = .ok plan

theorem dryRun_eq_ok_iff :
    blueprint.dryRun config = .ok name ↔
      ∃ plan, blueprint.Plans config plan ∧ plan.check blueprint.definitions.isSome = .ok () ∧
        plan.displayName = name := by
  constructor
  · intro passed
    cases given : blueprint.bootstrap with
    | none =>
      simp only [dryRun, given] at passed
      cases passed
    | some bootstrap =>
      cases planned : bootstrap config with
      | error reason =>
        simp only [dryRun, given, planned] at passed
        cases passed
      | ok plan =>
        cases checked : plan.check blueprint.definitions.isSome with
        | error error =>
          simp only [dryRun, given, planned, checked, Except.map] at passed
          cases passed
        | ok _ =>
          simp only [dryRun, given, planned, checked, Except.map] at passed
          cases passed
          exact ⟨plan, ⟨bootstrap, given, planned⟩, checked, rfl⟩
  · rintro ⟨plan, ⟨bootstrap, given, planned⟩, checked, rfl⟩
    simp only [dryRun, given, planned, checked, Except.map]

theorem launch_of_plans (planned : blueprint.Plans config plan) :
    blueprint.launch listener surroundings config = plan.launch blueprint.definitions surroundings := by
  obtain ⟨bootstrap, given, planned⟩ := planned
  simp only [launch, given, planned]

end Blueprint

namespace Deployment

variable {Config Settings App : Type} {deployment : Deployment Config Settings}
  {environment : Environment Config Settings App}

theorem build_eq_ok_iff :
    (deployment.build environment).2 = .ok () ↔
      ∃ plan, environment.blueprint.Plans deployment.store.slots.current plan ∧
        plan.check environment.blueprint.definitions.isSome = .ok () ∧
        (deployment.build environment).1.listener = .built plan.displayName := by
  constructor
  · intro built
    cases passed : environment.blueprint.dryRun deployment.store.slots.current with
    | error error =>
      simp only [build, passed] at built
      cases built
    | ok name =>
      obtain ⟨plan, planned, checked, rfl⟩ := Blueprint.dryRun_eq_ok_iff.mp passed
      exact ⟨plan, planned, checked, by simp only [build, passed]⟩
  · rintro ⟨plan, planned, checked, _⟩
    have passed := Blueprint.dryRun_eq_ok_iff.mpr ⟨plan, planned, checked, rfl⟩
    simp only [build, passed]

end Deployment

namespace Http

variable {config : ServiceConfig} {plan : ServerPlan Router}

theorem servicePlan_eq_ok_iff :
    servicePlan config = .ok plan ↔
      config.violations = [] ∧
        plan = ⟨config.listener.name, config.listener.bindAddress, config.listener.protocol,
          some (serviceRouter config), config.listener.tls⟩ := by
  cases wrong : config.violations with
  | nil =>
    simp only [servicePlan, wrong, Except.ok.injEq, true_and]
    exact eq_comm
  | cons first rest => simp only [servicePlan, wrong, reduceCtorEq, false_and]

theorem serviceBlueprint_plans_iff :
    serviceBlueprint.Plans config plan ↔ servicePlan config = .ok plan := by
  simp [serviceBlueprint, Blueprint.Plans]

theorem servicePlan_check_iff (planned : servicePlan config = .ok plan) :
    plan.check serviceBlueprint.definitions.isSome = .ok () ↔
      Text.trim config.listener.bindAddress ≠ "" := by
  obtain ⟨_, rfl⟩ := servicePlan_eq_ok_iff.mp planned
  rw [ServerPlan.check_eq_ok_iff, Ne, Text.trim_eq_empty_iff, Bool.not_eq_true]
  cases config.listener.protocol <;> simp [serviceBlueprint]

end Http

theorem Site.build_eq_ok_iff {site : Site} {outside : FileSystem → Surroundings} :
    (site.build (Site.environment outside)).2 = .ok () ↔
      site.store.slots.current.violations = [] ∧
        Text.trim site.store.slots.current.listener.bindAddress ≠ "" := by
  rw [Deployment.build_eq_ok_iff]
  constructor
  · rintro ⟨plan, planned, checked, _⟩
    have planned := Http.serviceBlueprint_plans_iff.mp planned
    exact ⟨(Http.servicePlan_eq_ok_iff.mp planned).1, (Http.servicePlan_check_iff planned).mp checked⟩
  · rintro ⟨valid, there⟩
    have planned := Http.servicePlan_eq_ok_iff.mpr ⟨valid, rfl⟩
    have checked := (Http.servicePlan_check_iff planned).mpr there
    have planned := Http.serviceBlueprint_plans_iff.mpr planned
    have passed := Blueprint.dryRun_eq_ok_iff.mpr ⟨_, planned, checked, rfl⟩
    exact ⟨_, planned, checked, by simp only [Deployment.build, Site.environment, passed]⟩

/-- A dry run that passes leaves nothing but the world outside to fail: every launch of the same configuration finds
something to serve, and fails exactly if its address is not found, its keys do not load or the address cannot be
bound.  The service passes its dry run with every valid configuration that has an address. -/
theorem built_listener_fails_only_outside :
    (∀ {Config Settings App : Type} (deployment : Deployment Config Settings)
        (environment : Environment Config Settings App),
      (deployment.build environment).2 = .ok () →
        ∃ plan, environment.blueprint.Plans deployment.store.slots.current plan ∧
          (∃ app, plan.served environment.blueprint.definitions = .ok app) ∧
          ∀ listener surroundings error,
            environment.blueprint.launch listener surroundings deployment.store.slots.current =
                .error error ↔
              ∃ cause, error = .serve (deployment.build environment).1.listener.name cause ∧
                plan.IsRefused surroundings cause) ∧
      ∀ (site : Site) (outside : FileSystem → Surroundings),
        (site.build (Site.environment outside)).2 = .ok () ↔
          site.store.slots.current.violations = [] ∧
            Text.trim site.store.slots.current.listener.bindAddress ≠ "" := by
  refine ⟨?_, fun site outside => Site.build_eq_ok_iff⟩
  intro Config Settings App deployment environment built
  obtain ⟨plan, planned, checked, named⟩ := Deployment.build_eq_ok_iff.mp built
  refine ⟨plan, planned, ServerPlan.served_of_check checked, ?_⟩
  intro listener surroundings error
  rw [Blueprint.launch_of_plans planned, named]
  exact ServerPlan.launch_eq_error_iff checked

theorem built_listener_fails_only_outside_at_taken_address :
    let config : ServiceConfig := { listener := { bindAddress := " :8080", protocol := .rpc } }
    let site : Site :=
      ⟨⟨⟨ServiceConfig.codec.format, ⟨"a"⟩⟩, .initial config, .empty, []⟩, .fresh [], .built "",
        ⟨false, none, none, []⟩, [], [], []⟩
    let surroundings : Surroundings :=
      ⟨.fresh [], fun _ => .error "unknown", fun _ => .error .addressInUse, fun _ _ => .ok ()⟩
    (site.build (Site.environment fun _ => surroundings)).2 = .ok () ∧
      ∃ plan cause,
        Http.serviceBlueprint.launch "main" surroundings config = .error (.serve "main" cause) ∧
          Http.serviceBlueprint.Plans config plan ∧ plan.IsRefused surroundings cause := by
  intro config site surroundings
  have built := (built_listener_fails_only_outside.2 site fun _ => surroundings).mpr
    ⟨by decide +kernel, by decide +kernel⟩
  refine ⟨built, ?_⟩
  obtain ⟨plan, planned, _, fails⟩ :=
    built_listener_fails_only_outside.1 site (Site.environment fun _ => surroundings) built
  have named : (site.build (Site.environment fun _ => surroundings)).1.listener.name = "main" := by
    decide +kernel
  cases launched : Http.serviceBlueprint.launch "main" surroundings config with
  | ok server =>
    have fails : (Http.serviceBlueprint.launch "main" surroundings config).toBool = false := by
      decide +kernel
    rw [launched] at fails
    cases fails
  | error error =>
    obtain ⟨cause, rfl, refused⟩ := (fails "main" surroundings error).mp launched
    exact ⟨plan, cause, by rw [named], planned, refused⟩

end LiveService
