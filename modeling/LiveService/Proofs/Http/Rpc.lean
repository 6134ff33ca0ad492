import LiveService.Http.Rpc
import LiveService.Proofs.Json.Free

/-!
Responses to remote calls, as they arrive.  A result that there is not is left out, and one that is `null` is
written as such; who reads the response takes both for a result that there is not.
-/

namespace LiveService

open Json

namespace Json

theorem Layout.compact_isBlank : compact.IsBlank where
  lead _ := rfl
  colon := ⟨[], rfl, rfl⟩

end Json

namespace Fields

variable {Values Held : Type}

theorem readMembers_congr (one other : Fields Values Held)
    (put : ∀ room name node held, one.put room name node held = other.put room name node held)
    (finish : ∀ held, one.finish held = other.finish held) (room : Nat) :
    ∀ (members : Members) (held : Held), one.readMembers room held members = other.readMembers room held members
  | .close, held => finish held
  | .stop _, _ => rfl
  | .dangling _, _ => rfl
  | .member key node rest, held => by
    simp only [readMembers, put]
    split
    · rfl
    · split
      · rfl
      · exact readMembers_congr one other put finish room rest _

end Fields

namespace Rpc

open LiveService.Codec LiveService.Field

structure FitsInside (json : Json) : Prop where
  floatFree : json.isFloatFree = true
  canonical : json.isCanonical = true
  shallow : json.depth < nestingLimit

theorem FitsInside.restores {json : Json} (fits : FitsInside json) :
    Codec.any.Restores (nestingLimit - 1) json :=
  (restores_any fits.floatFree fits.canonical).mono (Nat.le_sub_one_of_lt fits.shallow)

theorem FitsInside.restores_optional {result : Option Json} (fits : ∀ json, result = some json → FitsInside json)
    (solid : result ≠ some .null) : Codec.any.optional.Restores (nestingLimit - 1) result := by
  cases result with
  | none => exact restores_none
  | some json =>
    refine (fits json rfl).restores.some ?_
    intro null
    exact solid (congrArg some null)

theorem Error.restores (error : Error) : codec.Restores (nestingLimit - 1) error := by
  refine (restores_record "RpcError" ?_).along rfl
  refine .cons (restores_required _ (restores_signed64 _)) (by decide) ?_
  exact .cons (restores_required _ (restores_text _)) (by decide) .nil

theorem Error.restores_optional (error : Option Error) : codec.optional.Restores (nestingLimit - 1) error := by
  cases error with
  | none => exact restores_none
  | some error => exact error.restores.some (fun equal => Json.noConfusion equal)

namespace Response

def arrived (response : Response) : Response :=
  match response.result with
  | some .null => { response with result := none }
  | _ => response

theorem arrived_of_solid {response : Response} (solid : response.result ≠ some .null) :
    response.arrived = response := by
  unfold arrived
  split
  · contradiction
  · rfl

theorem arrived_of_null {response : Response} (null : response.result = some .null) :
    response.arrived = { response with result := none } := by
  simp only [arrived, null]

def fieldsWith (result : Field (Option Json)) :
    Fields (String × Json × Option Json × Option Error × Unit)
      (Option String × Option Json × Option (Option Json) × Option (Option Error) × Unit) :=
  .cons (.required "jsonrpc" .text) <|
  .cons (.required "id" .any) <|
  .cons result <|
  .cons (.whenPresent "error" Error.codec) .nil

def openFields : Fields (String × Json × Option Json × Option Error × Unit)
    (Option String × Option Json × Option (Option Json) × Option (Option Error) × Unit) :=
  fieldsWith (.optional "result" .any)

theorem restores_solid {response : Response} (id : FitsInside response.id)
    (result : ∀ json, response.result = some json → FitsInside json) (solid : response.result ≠ some .null) :
    codec.Restores nestingLimit response := by
  change codec.Restores (nestingLimit - 1 + 1) response
  refine (restores_record "RpcResponse" ?_).along rfl
  refine .cons (restores_required _ (restores_text _)) (by decide) ?_
  refine .cons (restores_required _ id.restores) (by decide) ?_
  refine .cons (restores_whenPresent _ (FitsInside.restores_optional result solid)) (by decide) ?_
  exact .cons (restores_whenPresent _ (Error.restores_optional _)) (by decide) .nil

theorem openFields_restores {response : Response} (id : FitsInside response.id) :
    openFields.Restores (nestingLimit - 1) (response.version, response.id, none, response.error, ()) := by
  refine .cons (restores_required _ (restores_text _)) (by decide) ?_
  refine .cons (restores_required _ id.restores) (by decide) ?_
  refine .cons (restores_optional _ restores_none) (by decide) ?_
  exact .cons (restores_whenPresent _ (Error.restores_optional _)) (by decide) .nil

theorem write_null {response : Response} (null : response.result = some .null) :
    codec.write response =
      .object (openFields.write (response.version, response.id, none, response.error, ())) := by
  obtain ⟨version, id, result, error⟩ := response
  cases null
  rfl

theorem read_object (room : Nat) (members : Members) :
    codec.read (room + 1) (.object members) =
      (openFields.readMembers room openFields.start members).map
        fun (version, id, result, error, ()) => ⟨version, id, result, error⟩ := by
  have same := Fields.readMembers_congr (fieldsWith (.whenPresent "result" .any)) openFields
    (fun _ _ _ _ => rfl) (fun _ => rfl) room members openFields.start
  exact congrArg (Except.map _) same

theorem read_write {response : Response} (id : FitsInside response.id)
    (result : ∀ json, response.result = some json → FitsInside json) :
    (codec.write response).isFloatFree = true ∧
      codec.read nestingLimit (codec.write response).node = .ok response.arrived := by
  by_cases null : response.result = some .null
  · have restores := openFields_restores id
    have read := restores.readMembers (Nat.le_refl _)
    rw [write_null null, arrived_of_null null]
    refine ⟨restores.haveFloatFree, ?_⟩
    rw [node, show nestingLimit = nestingLimit - 1 + 1 from rfl, read_object, read]
    rfl
  · have restores := restores_solid id result null
    rw [arrived_of_solid null]
    exact ⟨restores.floatFree, restores.read nestingLimit (Nat.le_refl _)⟩

end Response

def Request.EchoesNull (request : Request) : Prop := request.method = "echo" ∧ request.params = .null

theorem dispatch_version (request : Request) : (dispatch request).version = protocolVersion := by
  unfold dispatch
  split <;> rfl

theorem dispatch_id (request : Request) : (dispatch request).id = request.id := by
  unfold dispatch
  split <;> rfl

theorem dispatch_echo {request : Request} (echo : request.method = "echo") :
    dispatch request = ⟨protocolVersion, request.id, some request.params, none⟩ := by
  simp only [dispatch, echo]

theorem dispatch_either (request : Request) :
    (dispatch request).result.isSome = !(dispatch request).error.isSome := by
  unfold dispatch
  split <;> rfl

theorem dispatch_result_cases {request : Request} {result : Json}
    (given : (dispatch request).result = some result) :
    request.method = "echo" ∧ result = request.params ∨
      request.method ≠ "echo" ∧ FitsInside result ∧ result ≠ .null := by
  unfold dispatch at given
  split at given
  · rename_i ping
    cases given
    exact .inr ⟨by simp [ping], ⟨rfl, rfl, by decide⟩, nofun⟩
  · rename_i echo
    cases given
    exact .inl ⟨echo, rfl⟩
  · rename_i listing
    cases given
    exact .inr ⟨by simp [listing], ⟨rfl, rfl, by decide⟩, nofun⟩
  · cases given

theorem dispatch_result_eq_null_iff {request : Request} :
    (dispatch request).result = some .null ↔ request.EchoesNull := by
  constructor
  · intro null
    rcases dispatch_result_cases null with ⟨echo, params⟩ | ⟨_, _, solid⟩
    · exact ⟨echo, params.symm⟩
    · exact absurd rfl solid
  · rintro ⟨echo, params⟩
    rw [dispatch_echo echo, params]

theorem dispatch_fitsInside {request : Request} (params : FitsInside request.params) {result : Json}
    (given : (dispatch request).result = some result) : FitsInside result := by
  rcases dispatch_result_cases given with ⟨_, rfl⟩ | ⟨_, fits, _⟩
  · exact params
  · exact fits

/-- However the response to a call is laid out, it arrives with the id of the call.  It arrives as it was, with a
result or an error and not with both, and an echo with the parameters, just if it is not the echo of `null`: that
arrives with neither. -/
theorem responses_survive_iff (request : Request) (params : FitsInside request.params)
    (id : FitsInside request.id) (layout : Layout) (blank : layout.IsBlank) (after : Bytes)
    (closes : IsGap after) :
    let response := dispatch request
    ∃ received, Response.codec.decode (write layout 0 (Response.codec.write response) ++ after) =
        .ok received ∧
      received.version = protocolVersion ∧ received.id = request.id ∧ received.error = response.error ∧
      (received = response ↔ ¬request.EchoesNull) ∧
      (received.result.isSome = !received.error.isSome ↔ ¬request.EchoesNull) ∧
      (request.method = "echo" →
        received.error = none ∧ (received.result = some request.params ↔ request.params ≠ .null)) := by
  intro response
  have fits : ∀ json, response.result = some json → FitsInside json := fun json =>
    dispatch_fitsInside params
  have same : FitsInside response.id := by
    rw [dispatch_id]
    exact id
  obtain ⟨floatFree, read⟩ := Response.read_write same fits
  have spelled := spells_write blank (Response.codec.write response) floatFree 0
  have either := dispatch_either request
  refine ⟨response.arrived, decode_of_spells spelled closes read, ?_⟩
  by_cases null : request.EchoesNull
  · have echoed : response = ⟨protocolVersion, request.id, some .null, none⟩ := by
      rw [← null.2]
      exact dispatch_echo null.1
    rw [echoed, Response.arrived_of_null rfl]
    have notOther : ¬request.params ≠ .null := not_not_intro null.2
    refine ⟨rfl, rfl, rfl, iff_of_false ?_ (not_not_intro null), ?_, fun _ => ⟨rfl, iff_of_false nofun notOther⟩⟩
    · intro same
      cases congrArg Response.result same
    · exact iff_of_false Bool.false_ne_true (not_not_intro null)
  · have solid : response.result ≠ some .null := by
      intro isNull
      exact null (dispatch_result_eq_null_iff.mp isNull)
    rw [Response.arrived_of_solid solid]
    refine ⟨dispatch_version request, dispatch_id request, rfl, iff_of_true rfl null, iff_of_true either null, ?_⟩
    intro echo
    have other : request.params ≠ .null := fun isNull => null ⟨echo, isNull⟩
    have echoed : response = ⟨protocolVersion, request.id, some request.params, none⟩ := dispatch_echo echo
    rw [echoed]
    exact ⟨rfl, iff_of_true rfl other⟩

theorem responses_survive_iff_around_null :
    let request : Request := ⟨"echo", .object [("a", .null)], .array [.integer (-1), .text "\""]⟩
    FitsInside request.params ∧ FitsInside request.id ∧ Layout.compact.IsBlank ∧
      Response.codec.decode (compactText (Response.codec.write (dispatch request))) =
        .ok (dispatch request) := by
  intro request
  have params : FitsInside request.params := ⟨rfl, by decide +kernel, by decide⟩
  have id : FitsInside request.id := ⟨rfl, by decide +kernel, by decide⟩
  obtain ⟨received, decoded, _, _, _, whole, _⟩ :=
    responses_survive_iff request params id .compact Layout.compact_isBlank [] rfl
  have other : ¬request.EchoesNull := fun null => Json.noConfusion null.2
  rw [List.append_nil, whole.mpr other] at decoded
  exact ⟨params, id, Layout.compact_isBlank, decoded⟩

/-- The echo of `null` arrives with no result and no error. -/
theorem echoed_null_is_lost :
    let request : Request := ⟨"echo", .null, .integer 7⟩
    ∃ received, Response.codec.decode (compactText (Response.codec.write (dispatch request))) =
        .ok received ∧
      received.id = .integer 7 ∧ received.result = none ∧ received.error = none ∧
      (dispatch request).result = some .null ∧ received ≠ dispatch request := by
  intro request
  refine ⟨⟨protocolVersion, .integer 7, none, none⟩, rfl, rfl, rfl, rfl, rfl, ?_⟩
  intro same
  cases congrArg Response.result same

end Rpc

end LiveService
