import LiveService.Config.Service
import LiveService.Proofs.Config.RoundTrip
import LiveService.Proofs.Json.Recast
import LiveService.Proofs.Store.Agreement

/-!
Configuration files that mean the same.  Neither the order of the members, nor white space, nor members that
nobody knows, nor the lack of a member that has its default, changes what a file says.
-/

namespace LiveService

open Json LiveService.Codec LiveService.Field

theorem Weekday.honours {outline : Outline} {nesting : Nat} (day : Weekday) :
    codec.Honours outline nesting day where
  restores := Weekday.restores day
  recast node recasts _ room enough := by
    cases recasts with
    | same => exact (Weekday.restores day).read room enough
    | text spelled => simp only [codec, spelled, ofName?_shortName]

def Period.outline : Outline :=
  .record (.object []) [("day_of_week", .value), ("hour", .value), ("minute", .value), ("weekly", .value)]

theorem Period.honours (period : Period) : codec.Honours outline 1 period := by
  refine (honours_record "Period" ?_).along rfl
  refine .cons (honours_required _ (Weekday.honours _) rfl) (by decide) ?_
  refine .cons (honours_required _ (honours_word32 _) rfl) (by decide) ?_
  refine .cons (honours_required _ (honours_word32 _) rfl) (by decide) ?_
  exact .cons (honours_required _ (honours_flag _) rfl) (by decide) .nil

theorem Protocol.honours {outline : Outline} {nesting : Nat} (protocol : Protocol) :
    codec.Honours outline nesting protocol :=
  honours_choice (by cases protocol <;> decide)

def TlsConfig.outline : Outline :=
  .record (.object []) [("cert_path", .value), ("key_path", .value)]

theorem TlsConfig.honours (config : TlsConfig) : codec.Honours outline 1 config := by
  refine (honours_record "TlsConfig" ?_).along rfl
  refine .cons (honours_required _ (honours_text _) rfl) (by decide) ?_
  exact .cons (honours_required _ (honours_text _) rfl) (by decide) .nil

theorem TlsConfig.honours_optional (config : Option TlsConfig) :
    codec.optional.Honours outline 1 config := by
  cases config with
  | none => exact honours_none
  | some config => exact config.honours.some (fun equal => Json.noConfusion equal)

def ListenerConfig.outline : Outline :=
  .record (codec.write {})
    [("name", .value), ("bind_address", .value), ("protocol", .value), ("tls", TlsConfig.outline)]

theorem ListenerConfig.honours (config : ListenerConfig) : codec.Honours outline 2 config := by
  refine (honours_record "ListenerConfig" ?_).along rfl
  refine .cons (honours_withDefault _ _ honours_text rfl) (by decide) ?_
  refine .cons (honours_withDefault _ _ honours_text rfl) (by decide) ?_
  refine .cons (honours_withDefault _ _ Protocol.honours rfl) (by decide) ?_
  exact .cons (honours_withDefault _ _ TlsConfig.honours_optional rfl) (by decide) .nil

def RefreshConfig.outline : Outline :=
  .record (codec.write {}) [("enabled", .value), ("period", Period.outline)]

theorem RefreshConfig.honours (config : RefreshConfig) : codec.Honours outline 2 config := by
  refine (honours_record "RefreshConfig" ?_).along rfl
  refine .cons (honours_withDefault _ _ honours_flag rfl) (by decide) ?_
  exact .cons (honours_withDefault _ _ Period.honours rfl) (by decide) .nil

def TimeoutConfig.outline : Outline := .record (codec.write {}) [("request_secs", .value)]

theorem TimeoutConfig.honours {nesting : Nat} (config : TimeoutConfig) :
    codec.Honours outline (nesting + 1) config := by
  refine (honours_record "TimeoutConfig" ?_).along rfl
  exact .cons (honours_withDefault _ _ honours_word64 rfl) (by decide) .nil

def ObservabilityConfig.outline : Outline :=
  .record (codec.write {}) [("log_level", .value), ("metrics_enabled", .value), ("metrics_address", .value)]

theorem ObservabilityConfig.honours {nesting : Nat} (config : ObservabilityConfig) :
    codec.Honours outline (nesting + 1) config := by
  refine (honours_record "ObservabilityConfig" ?_).along rfl
  refine .cons (honours_withDefault _ _ honours_text rfl) (by decide) ?_
  refine .cons (honours_withDefault _ _ honours_flag rfl) (by decide) ?_
  exact .cons (honours_withDefault _ _ honours_text rfl) (by decide) .nil

def ServiceConfig.outline : Outline :=
  .record (codec.write {})
    [("listener", ListenerConfig.outline), ("refresh", RefreshConfig.outline),
      ("timeouts", TimeoutConfig.outline), ("observability", ObservabilityConfig.outline), ("greeting", .value)]

theorem ServiceConfig.honours (config : ServiceConfig) : codec.Honours outline 3 config := by
  refine (honours_record "ServiceConfig" ?_).along rfl
  refine .cons (honours_withDefault _ _ ListenerConfig.honours rfl) (by decide) ?_
  refine .cons (honours_withDefault _ _ RefreshConfig.honours rfl) (by decide) ?_
  refine .cons (honours_withDefault _ _ TimeoutConfig.honours rfl) (by decide) ?_
  refine .cons (honours_withDefault _ _ ObservabilityConfig.honours rfl) (by decide) ?_
  exact .cons (honours_withDefault _ _ honours_text rfl) (by decide) .nil

/-- Every text that a configuration's document may be rewritten to decodes to the same configuration.  While
that one is in effect, a reload that finds the text has nothing to do and tells nobody. -/
theorem ServiceConfig.rewritten_file_says_the_same (config : ServiceConfig) (node : Node)
    (recasts : Recasts outline (codec.write config) node) (octets after : Bytes) (spelled : Spells node octets)
    (closes : IsGap after) :
    codec.decode (octets ++ after) = .ok config ∧
      ∀ (path : Path) (slots : Slots ServiceConfig) (files : FileSystem), slots.current = config →
        files.read path = .ok (octets ++ after) → Backing.Agrees ⟨codec.format, path⟩ slots files := by
  have decoded : codec.decode (octets ++ after) = .ok config :=
    config.honours.decode (by decide) recasts spelled closes
  refine ⟨decoded, fun path slots files inEffect there => ?_⟩
  have same : (config == slots.current) = true := by simp [inEffect]
  exact .of_read there (solid_of_decode decoded) decoded same

theorem ServiceConfig.rewritten_file_says_the_same_of_greeting :
    let config : ServiceConfig := { greeting := "hi" }
    let octets := Text.bytes "\x7b\"new\" : [1e999],\"greeting\":\"hi\", \"timeouts\":\x7b\x7d,\n\"new\":\"\\ud800\"\x7d"
    ∃ node, Recasts outline (codec.write config) node ∧ Spells node octets ∧ IsGap [0x0a] ∧
      codec.decode (octets ++ [0x0a]) = .ok config ∧
      Backing.Agrees ⟨codec.format, ⟨"a"⟩⟩ (.initial config)
        ((FileSystem.fresh []).put ["a"] (some (.file (octets ++ [0x0a])))) := by
  intro config octets
  let huge : Numeral := ⟨false, [0x31], none, some (false, [0x39, 0x39, 0x39])⟩
  let surrogate : Literal := ⟨[.unit 0xd800], none⟩
  let first : Literal × Node := (literalOf "new", .array (.item (.number huge) .close))
  let greeting : Literal × Node := (literalOf "greeting", .text (literalOf "hi"))
  let timeouts : Literal × Node := (literalOf "timeouts", .object .close)
  let second : Literal × Node := (literalOf "new", .text surrogate)
  have recasts : Recasts outline (codec.write config)
      (.object (.ofEntries [first, greeting, timeouts, second])) := by
    have unknown (entry : Literal × Node) (known : entry ∈ [first, second]) :
        entry.1.text = .ok "new" := by
      rcases List.mem_pair.mp known with rfl | rfl <;> exact text_literalOf "new"
    refine @Recasts.record _ _ _ [timeouts, greeting] [first, second] _ ?_ ?_ ?_
    · have emptied : Recasts TimeoutConfig.outline (TimeoutConfig.codec.write {}) timeouts.2 :=
        @Recasts.record _ _ _ [] [] [] (.omitted rfl .nil) nofun (.refl _)
      have sameGreeting : Recasts .value (.text "hi") greeting.2 := .same
      exact .omitted rfl (.omitted rfl (.kept (text_literalOf _) emptied (.omitted rfl
        (.kept (text_literalOf _) sameGreeting .nil))))
    · exact fun entry known => ⟨"new", unknown entry known, by decide⟩
    · have forward := @List.perm_middle _ timeouts [first, greeting] [second]
      exact forward.trans ((@List.perm_middle _ greeting [first] [second]).cons timeouts)
  have spelled : Spells (.object (.ofEntries [first, greeting, timeouts, second])) octets := by
    have key (name : String) {before between : Bytes} (opens : IsGap before) (closes : IsGap between) :
        SpellsKey (literalOf name) _ :=
      .mk opens (spells_pieces (Text.bytes name)) closes
    have nothing : IsGap [] := rfl
    have blank : IsGap [0x20] := rfl
    have line : IsGap [0x0a] := rfl
    have digits : AreDigits [0x31] := areDigits_digits 1
    have power : SpellsExponent huge.exponent [0x65, 0x39, 0x39, 0x39] :=
      .unsigned (.inl rfl) (areDigits_digits 999)
    have number : Spells (.number huge) _ := .number rfl (.mk digits (by decide) .none power)
    have unpaired : Spells (.text surrogate) _ := .text (@SpellsPieces.unit 0x64 0x38 0x30 0x30 _ _ _ rfl .nil)
    exact .object (key "new" nothing blank) (.spaced blank (.array number (.close nothing)))
      (.member nothing (key "greeting" nothing nothing) (spells_text "hi")
        (.member nothing (key "timeouts" blank nothing) (.noMembers nothing)
          (.member nothing (key "new" line nothing) unpaired (.close nothing))))
  have closes : IsGap [0x0a] := rfl
  have said := rewritten_file_says_the_same config _ recasts octets [0x0a] spelled closes
  exact ⟨_, recasts, spelled, closes, said.1, said.2 _ _ _ rfl rfl⟩

end LiveService
