import LiveService.Proofs.Config.RoundTrip
import LiveService.Proofs.Json.EarlyEnd

/-!
Configuration files that break off.  In each section of a configuration the end is what is missed first.
-/

namespace LiveService

open Json LiveService.Codec

theorem Weekday.missesEnd {nesting : Nat} (day : Weekday) : codec.MissesEnd nesting day := by
  intro room node _ torn
  have torn : Torn (.text day.shortName) node := torn
  cases torn with
  | absent => rfl
  | text _ octets => simp only [codec, text_tornLiteral]

theorem Period.missesEnd (period : Period) : codec.MissesEnd 1 period := by
  refine (missesEnd_record "Period" ?_).along
  refine .cons (Weekday.restores _) (Weekday.missesEnd _).only (by decide) ?_
  refine .cons (restores_word32 _) (onlyMissesEnd_word32 _) (by decide) ?_
  refine .cons (restores_word32 _) (onlyMissesEnd_word32 _) (by decide) ?_
  exact .cons (restores_flag _) (missesEnd_flag _).only (by decide) .nil

theorem Protocol.missesEnd {nesting : Nat} (protocol : Protocol) : codec.MissesEnd nesting protocol :=
  missesEnd_choice word [.http, .rpc] protocol

theorem TlsConfig.missesEnd (config : TlsConfig) : codec.MissesEnd 1 config := by
  refine (missesEnd_record "TlsConfig" ?_).along
  refine .cons (restores_text _) (missesEnd_text _).only (by decide) ?_
  exact .cons (restores_text _) (missesEnd_text _).only (by decide) .nil

theorem TlsConfig.missesEnd_optional (config : Option TlsConfig) :
    codec.optional.MissesEnd 1 config := by
  cases config with
  | none => exact missesEnd_none fun room => by cases room <;> exact ⟨rfl, rfl⟩
  | some config => exact config.missesEnd.some

theorem ListenerConfig.missesEnd (config : ListenerConfig) : codec.MissesEnd 2 config := by
  refine (missesEnd_record "ListenerConfig" ?_).along
  refine .cons (restores_text _) (missesEnd_text _).only (by decide) ?_
  refine .cons (restores_text _) (missesEnd_text _).only (by decide) ?_
  refine .cons (Protocol.restores _) (Protocol.missesEnd _).only (by decide) ?_
  exact .cons (TlsConfig.restores_optional _) (TlsConfig.missesEnd_optional _).only (by decide) .nil

theorem RefreshConfig.missesEnd (config : RefreshConfig) : codec.MissesEnd 2 config := by
  refine (missesEnd_record "RefreshConfig" ?_).along
  refine .cons (restores_flag _) (missesEnd_flag _).only (by decide) ?_
  exact .cons (Period.restores _) (Period.missesEnd _).only (by decide) .nil

theorem TimeoutConfig.missesEnd {nesting : Nat} (config : TimeoutConfig) :
    codec.MissesEnd (nesting + 1) config := by
  refine (missesEnd_record "TimeoutConfig" ?_).along
  exact .cons (restores_word64 _) (onlyMissesEnd_word64 _) (by decide) .nil

theorem ObservabilityConfig.missesEnd {nesting : Nat} (config : ObservabilityConfig) :
    codec.MissesEnd (nesting + 1) config := by
  refine (missesEnd_record "ObservabilityConfig" ?_).along
  refine .cons (restores_text _) (missesEnd_text _).only (by decide) ?_
  refine .cons (restores_flag _) (missesEnd_flag _).only (by decide) ?_
  exact .cons (restores_text _) (missesEnd_text _).only (by decide) .nil

theorem ServiceConfig.missesEnd (config : ServiceConfig) : codec.MissesEnd 3 config := by
  refine (missesEnd_record "ServiceConfig" ?_).along
  refine .cons (ListenerConfig.restores _) (ListenerConfig.missesEnd _).only (by decide) ?_
  refine .cons (RefreshConfig.restores _) (RefreshConfig.missesEnd _).only (by decide) ?_
  refine .cons (TimeoutConfig.restores _) (TimeoutConfig.missesEnd _).only (by decide) ?_
  refine .cons (ObservabilityConfig.restores _) (ObservabilityConfig.missesEnd _).only (by decide) ?_
  exact .cons (restores_text _) (missesEnd_text _).only (by decide) .nil

theorem AppConfig.missesEnd (config : AppConfig) : codec.MissesEnd 1 config := by
  refine (missesEnd_record "App" ?_).along
  refine .cons (restores_text _) (missesEnd_text _).only (by decide) ?_
  exact .cons (restores_word32 _) (onlyMissesEnd_word32 _) (by decide) .nil

end LiveService
