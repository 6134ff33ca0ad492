import LiveService.Config.App
import LiveService.Config.Service
import LiveService.Proofs.Json.Free

/-!
Configuration files.  Each section of a configuration is read back from its file, whatever its texts and
numbers are, and so a file that was written once is not changed by being read and written again.
-/

namespace LiveService

open Json

namespace Codec

variable {Value : Type}

def rewrite (codec : Codec Value) (octets : Bytes) : Except DocumentError Bytes :=
  (codec.decode octets).map codec.encode

/-- Every value is read back from its file, and a file that was rewritten once stays as it is. -/
structure IsLossless (codec : Codec Value) : Prop where
  decode_encode : ∀ value, codec.decode (codec.encode value) = .ok value
  rewrite_rewritten : ∀ octets written, codec.rewrite octets = .ok written →
    codec.rewrite written = .ok written

theorem rewrite_encode {codec : Codec Value} {value : Value}
    (restored : codec.decode (codec.encode value) = .ok value) :
    codec.rewrite (codec.encode value) = .ok (codec.encode value) := by
  rw [rewrite, restored]
  rfl

theorem IsLossless.of_restores {codec : Codec Value} {nesting : Nat} (shallow : nesting ≤ nestingLimit)
    (restores : ∀ value, codec.Restores nesting value) : codec.IsLossless where
  decode_encode value := (restores value).decode_encode shallow
  rewrite_rewritten octets written rewritten := by
    rw [rewrite] at rewritten
    cases decoded : codec.decode octets with
    | error error =>
      rw [decoded] at rewritten
      cases rewritten
    | ok value =>
      rw [decoded] at rewritten
      cases rewritten
      exact rewrite_encode ((restores value).decode_encode shallow)

end Codec

open LiveService.Codec LiveService.Field

theorem Weekday.ofName?_shortName (day : Weekday) : ofName? day.shortName = some day := by
  cases day <;> decide

theorem Weekday.restores {nesting : Nat} (day : Weekday) : codec.Restores nesting day where
  floatFree := rfl
  read _ _ := by simp only [codec, node, text_literalOf, ofName?_shortName]

theorem Period.restores (period : Period) : codec.Restores 1 period := by
  refine (restores_record "Period" ?_).along rfl
  refine .cons (restores_required _ (Weekday.restores _)) (by decide) ?_
  refine .cons (restores_required _ (restores_word32 _)) (by decide) ?_
  refine .cons (restores_required _ (restores_word32 _)) (by decide) ?_
  exact .cons (restores_required _ (restores_flag _)) (by decide) .nil

theorem Protocol.restores {nesting : Nat} (protocol : Protocol) : codec.Restores nesting protocol :=
  restores_choice (by cases protocol <;> decide)

theorem TlsConfig.restores (config : TlsConfig) : codec.Restores 1 config := by
  refine (restores_record "TlsConfig" ?_).along rfl
  refine .cons (restores_required _ (restores_text _)) (by decide) ?_
  exact .cons (restores_required _ (restores_text _)) (by decide) .nil

theorem TlsConfig.restores_optional (config : Option TlsConfig) : codec.optional.Restores 1 config := by
  cases config with
  | none => exact restores_none
  | some config => exact config.restores.some (fun equal => Json.noConfusion equal)

theorem ListenerConfig.restores (config : ListenerConfig) : codec.Restores 2 config := by
  refine (restores_record "ListenerConfig" ?_).along rfl
  refine .cons (restores_withDefault _ _ (restores_text _)) (by decide) ?_
  refine .cons (restores_withDefault _ _ (restores_text _)) (by decide) ?_
  refine .cons (restores_withDefault _ _ (Protocol.restores _)) (by decide) ?_
  exact .cons (restores_withDefault _ _ (TlsConfig.restores_optional _)) (by decide) .nil

theorem RefreshConfig.restores (config : RefreshConfig) : codec.Restores 2 config := by
  refine (restores_record "RefreshConfig" ?_).along rfl
  refine .cons (restores_withDefault _ _ (restores_flag _)) (by decide) ?_
  exact .cons (restores_withDefault _ _ (Period.restores _)) (by decide) .nil

theorem TimeoutConfig.restores {nesting : Nat} (config : TimeoutConfig) :
    codec.Restores (nesting + 1) config := by
  refine (restores_record "TimeoutConfig" ?_).along rfl
  exact .cons (restores_withDefault _ _ (restores_word64 _)) (by decide) .nil

theorem ObservabilityConfig.restores {nesting : Nat} (config : ObservabilityConfig) :
    codec.Restores (nesting + 1) config := by
  refine (restores_record "ObservabilityConfig" ?_).along rfl
  refine .cons (restores_withDefault _ _ (restores_text _)) (by decide) ?_
  refine .cons (restores_withDefault _ _ (restores_flag _)) (by decide) ?_
  exact .cons (restores_withDefault _ _ (restores_text _)) (by decide) .nil

theorem ServiceConfig.restores (config : ServiceConfig) : codec.Restores 3 config := by
  refine (restores_record "ServiceConfig" ?_).along rfl
  refine .cons (restores_withDefault _ _ (ListenerConfig.restores _)) (by decide) ?_
  refine .cons (restores_withDefault _ _ (RefreshConfig.restores _)) (by decide) ?_
  refine .cons (restores_withDefault _ _ (TimeoutConfig.restores _)) (by decide) ?_
  refine .cons (restores_withDefault _ _ (ObservabilityConfig.restores _)) (by decide) ?_
  exact .cons (restores_withDefault _ _ (restores_text _)) (by decide) .nil

theorem AppConfig.restores (config : AppConfig) : codec.Restores 1 config := by
  refine (restores_record "App" ?_).along rfl
  refine .cons (restores_required _ (restores_text _)) (by decide) ?_
  exact .cons (restores_required _ (restores_word32 _)) (by decide) .nil

theorem canonical_of_decode {octets : Bytes} {json : Json}
    (decoded : Codec.any.decode octets = .ok json) :
    json.isCanonical = true ∧ json.depth ≤ nestingLimit :=
  canonical_of_readAny _ nestingLimit json (read_of_decode decoded)

/-- Reading undoes writing: for the configuration of the service and its sections, and for free values
without numbers of double precision, as deep as they can be read and with whole numbers of 64 bits. -/
theorem decode_undoes_encode :
    ServiceConfig.codec.IsLossless ∧ ListenerConfig.codec.IsLossless ∧ TlsConfig.codec.IsLossless ∧
      RefreshConfig.codec.IsLossless ∧ TimeoutConfig.codec.IsLossless ∧
      ObservabilityConfig.codec.IsLossless ∧ Period.codec.IsLossless ∧ Protocol.codec.IsLossless ∧
      AppConfig.codec.IsLossless ∧
      (∀ json : Json, json.isFloatFree = true → json.isCanonical = true →
        json.depth ≤ nestingLimit → Codec.any.decode (Codec.any.encode json) = .ok json) ∧
      ∀ octets (json : Json), Codec.any.decode octets = .ok json → json.isFloatFree = true →
        Codec.any.rewrite (Codec.any.encode json) = .ok (Codec.any.encode json) := by
  have shallow : 3 ≤ nestingLimit := by decide
  have free (json : Json) (floatFree : json.isFloatFree = true) (canonical : json.isCanonical = true)
      (within : json.depth ≤ nestingLimit) : Codec.any.decode (Codec.any.encode json) = .ok json :=
    (restores_any floatFree canonical).decode_encode within
  refine ⟨.of_restores shallow ServiceConfig.restores, .of_restores (by omega) ListenerConfig.restores,
    .of_restores (by omega) TlsConfig.restores, .of_restores (by omega) RefreshConfig.restores,
    .of_restores (Nat.le_of_succ_le shallow) TimeoutConfig.restores,
    .of_restores (Nat.le_of_succ_le shallow) ObservabilityConfig.restores,
    .of_restores (by omega) Period.restores, .of_restores shallow Protocol.restores,
    .of_restores (by omega) AppConfig.restores, free, ?_⟩
  intro octets json decoded floatFree
  obtain ⟨canonical, within⟩ := canonical_of_decode decoded
  exact rewrite_encode (free json floatFree canonical within)

theorem decode_undoes_encode_nested :
    let json : Json := .object
      [("\"\\\u0001é", .array
          [.integer (-0x8000000000000000), .integer 0xffffffffffffffff, .array [], .null]),
        ("é", .object [])]
    let octets := Text.bytes "[\x7b\"b\": [1], \"a\" :true\x7d]"
    let read : Json := .array [.object [("a", .bool true), ("b", .array [.integer 1])]]
    json.isFloatFree = true ∧ json.isCanonical = true ∧ json.depth ≤ nestingLimit ∧
      Codec.any.decode (Codec.any.encode json) = .ok json ∧
      Codec.any.decode octets = .ok read ∧ read.isFloatFree = true ∧
      Codec.any.rewrite (Codec.any.encode read) = .ok (Codec.any.encode read) ∧
      TimeoutConfig.codec.rewrite (Text.bytes "[ 7]") = .ok (TimeoutConfig.codec.encode ⟨7⟩) ∧
      TimeoutConfig.codec.rewrite (TimeoutConfig.codec.encode ⟨7⟩) =
        .ok (TimeoutConfig.codec.encode ⟨7⟩) := by
  intro json octets read
  obtain ⟨_, _, _, _, timeouts, _, _, _, _, free, fixed⟩ := decode_undoes_encode
  have decoded : Codec.any.decode octets = .ok read := rfl
  have rewritten : TimeoutConfig.codec.rewrite (Text.bytes "[ 7]") =
      .ok (TimeoutConfig.codec.encode ⟨7⟩) := rfl
  exact ⟨rfl, by decide +kernel, by decide, free json rfl (by decide +kernel) (by decide), decoded, rfl,
    fixed octets read decoded rfl, rewritten, timeouts.rewrite_rewritten _ _ rewritten⟩

end LiveService
