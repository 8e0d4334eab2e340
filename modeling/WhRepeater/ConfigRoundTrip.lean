import WhRepeater.ConfigSections

/-! A configuration that was loaded, saved and loaded again. It is the same when
its texts are legible, it has a transmitter section, whose rates are calculated on
either way only if it is there, and its slide duration is whole; otherwise the
saved text is rejected, or read as another configuration. -/
namespace WhRepeater

open JsonParser (Legible)
open Document

variable {printDouble : Rat → Bytes} {arithmetic : Arithmetic} {root : Json} {config : RepeaterConfig}

/-- Every text of the input that ends up in the configuration unchecked. -/
structure ConfigLegible (root : Json) : Prop where
  pluto : Within root "pluto" PlutoLegible
  fallback : Within root "fallback" FallbackLegible
  streaming : Within root "streaming" StreamingLegible
  tsGateway : Within root "tsGateway" fun tsGateway => Within tsGateway "address" LegibleText
  gatewayInput : Within root "gatewayInput" fun gatewayInput => Within gatewayInput "listenAddress" LegibleText
  piStatus : Within root "piStatus" fun piStatus => Within piStatus "address" LegibleText
  hardwarePtt : Within root "hardwarePtt" fun hardwarePtt => Within hardwarePtt "chip" LegibleText
  ident : Within root "ident" fun ident => Within ident "serviceName" LegibleText
  analogue : Within root "analogue" AnalogueLegible
  receivers : Within root "receivers" (EachItem ReceiverLegible)

/-- The section with the rates is there, and the slide duration is whole. -/
structure ConfigLasting (arithmetic : Arithmetic) (root : Json) : Prop where
  pluto : (optionalMember root "pluto").isSome = true
  slide : Within root "fallback" fun fallback => Within fallback "slideDurationSeconds" (WholeSlide arithmetic)

/-- The transmitter without a section has other rates than are calculated. -/
theorem default_rates : calculatePlutoMuxRateKbps {} = .ok 333 ∧ calculatePlutoVideoBitrateKbps {} = .ok 237 := ⟨rfl, rfl⟩

theorem empty_pluto : readPluto arithmetic (.object []) = .ok { muxRateKbps := 333, videoBitrateKbps := 237 } := rfl

theorem kept_pluto_section {pluto : PlutoConfig} {muxRateKbps videoBitrateKbps : UInt32}
    (found : optional root "pluto" {} (readPluto arithmetic) = .ok pluto)
    (mux : calculatePlutoMuxRateKbps pluto = .ok muxRateKbps)
    (video : calculatePlutoVideoBitrateKbps pluto = .ok videoBitrateKbps) :
    Kept printDouble (readPluto arithmetic) (plutoJson muxRateKbps videoBitrateKbps) pluto
      (Within root "pluto" PlutoLegible) ((optionalMember root "pluto").isSome = true) := by
  obtain ⟨absent, rfl⟩ | ⟨json, member, read⟩ := optional_cases found
  · cases default_rates.1.symm.trans mux
    cases default_rates.2.symm.trans video
    have kept := @kept_pluto printDouble arithmetic _ True _ empty_pluto
    refine ⟨kept.proper, ?_, fun present => ?_⟩
    · exact kept.texts.trans (iff_of_true nofun (by simp [Within, absent]))
    · simp [absent] at present
  · obtain ⟨mux_again, video_again⟩ := rates_of_pluto read
    cases mux.symm.trans mux_again
    cases video.symm.trans video_again
    exact ((kept_pluto read).congr (by simp [Within, member])).weaken fun _ => trivial

/-- What is read of a present or an absent section. -/
theorem kept_section {read : Json → Except String α} {write : α → Document} {kept_value standing : α} {name : String}
    {legible : Json → Prop} {lasting : Prop} (found : optional root name standing read = .ok kept_value)
    (kept : ∀ json value, read json = .ok value → Kept printDouble read write value (legible json) lasting)
    (empty : read (.object []) = .ok standing) (always : legible (.object [])) :
    Kept printDouble read write kept_value (Within root name legible) lasting :=
  kept_optional found (fun json _ => kept json kept_value) fun _ => (kept _ _ empty).always always

theorem kept_thresholds {selection : Rat × Rat} {lasting : Prop}
    (found : optional root "selection" (2, 0) readSelection = .ok selection)
    (exact : ∀ threshold ∈ [selection.1, selection.2],
      JsonParser.Yields JsonParser.parseNumber (printDouble threshold) (.number threshold) []) :
    Kept printDouble readSelection selectionJson selection True lasting := by
  obtain ⟨-, rfl⟩ | ⟨json, -, read⟩ := optional_cases found
  · have empty : readSelection (.object []) = .ok (2, 0) := rfl
    exact kept_selection empty exact
  · exact kept_selection read exact

/-- The whole configuration, given its rates. -/
theorem kept_config {muxRateKbps videoBitrateKbps : UInt32} (read : readConfig arithmetic root = .ok config)
    (mux : calculatePlutoMuxRateKbps config.pluto = .ok muxRateKbps)
    (video : calculatePlutoVideoBitrateKbps config.pluto = .ok videoBitrateKbps)
    (exact : ∀ threshold ∈ [config.minimumMerDb, config.minimumDNumberDb],
      JsonParser.Yields JsonParser.parseNumber (printDouble threshold) (.number threshold) []) :
    Kept printDouble (readConfig arithmetic) (configJson muxRateKbps videoBitrateKbps) config (ConfigLegible root)
      (ConfigLasting arithmetic root) := by
  simp only [readConfig, bind_eq_ok, pure_eq_ok] at read
  obtain ⟨statusInterval, statusInterval_read, mode, mode_read, selection, selection_read, pluto, pluto_read, fallback,
    fallback_read, streaming, streaming_read, media, media_read, tsGateway, tsGateway_read, gatewayInput,
    gatewayInput_read, piStatus, piStatus_read, hardwarePtt, hardwarePtt_read, beaconSchedule, beaconSchedule_read, ident,
    ident_read, analogue, analogue_read, receivers, receivers_read, rfl⟩ := read
  have pluto_kept : Kept printDouble (readPluto arithmetic) (plutoJson muxRateKbps videoBitrateKbps) pluto
      (Within root "pluto" PlutoLegible) (ConfigLasting arithmetic root) :=
    (kept_pluto_section pluto_read mux video).weaken fun lasts => lasts.pluto
  have fallback_kept : Kept printDouble (readFallback arithmetic) fallbackJson fallback
      (Within root "fallback" FallbackLegible) (ConfigLasting arithmetic root) := by
    refine kept_optional fallback_read (fun json member read => ?_) fun _ => ?_
    · exact (kept_fallback read).weaken fun lasts => lasts.slide json member
    · have empty : readFallback arithmetic (.object []) = .ok {} := rfl
      exact ((kept_fallback empty).always ⟨nofun, nofun⟩).weaken fun _ => nofun
  have receivers_kept : Kept printDouble (jsonArray "receivers must be an array" (readReceiver arithmetic))
      (fun receivers => array (receiversLayout receivers) (receivers.map receiverJson)) receivers
      (Within root "receivers" (EachItem ReceiverLegible)) (ConfigLasting arithmetic root) :=
    kept_required receivers_read fun _ read => kept_array read fun _ _ => kept_receiver
  apply kept_object
  · rfl
  · -- The mode is written first, and read second.
    apply Keeps.perm (List.Perm.swap _ _ _)
    unfold readConfig
    apply Keeps.field (kept_duration statusInterval_read rfl)
    apply Keeps.field (kept_checked mode_read (strict_oneOf (by decide)) rfl)
    apply Keeps.field (kept_thresholds selection_read exact)
    apply Keeps.field pluto_kept
    apply Keeps.field fallback_kept
    apply Keeps.field (kept_section streaming_read (fun _ _ => kept_streaming) rfl nofun)
    apply Keeps.field (kept_section media_read (fun _ _ => kept_media) rfl trivial)
    apply Keeps.field (kept_section tsGateway_read (fun _ _ => kept_tsGateway) rfl nofun)
    apply Keeps.field (kept_section gatewayInput_read (fun _ _ => kept_gatewayInput) rfl nofun)
    apply Keeps.field (kept_section piStatus_read (fun _ _ => kept_piStatus) rfl nofun)
    apply Keeps.field (kept_section hardwarePtt_read (fun _ _ => kept_hardwarePtt) rfl nofun)
    apply Keeps.field (kept_section beaconSchedule_read (fun _ _ => kept_beaconSchedule) rfl trivial)
    apply Keeps.field (kept_section ident_read (fun _ _ => kept_ident) rfl nofun)
    apply Keeps.field (kept_section analogue_read (fun _ _ => kept_analogue) rfl nofun)
    apply Keeps.requiredField receivers_kept
    exact Keeps.done rfl
  · rfl
  · constructor
    · rintro ⟨-, -, -, pluto, fallback, streaming, -, tsGateway, gatewayInput, piStatus, hardwarePtt, -, ident, analogue,
        receivers, -⟩
      exact ⟨pluto, fallback, streaming, tsGateway, gatewayInput, piStatus, hardwarePtt, ident, analogue, receivers⟩
    · rintro ⟨pluto, fallback, streaming, tsGateway, gatewayInput, piStatus, hardwarePtt, ident, analogue, receivers⟩
      exact ⟨trivial, trivial, trivial, pluto, fallback, streaming, fun _ _ => trivial, tsGateway, gatewayInput, piStatus,
        hardwarePtt, fun _ _ => trivial, ident, analogue, receivers, trivial⟩

/-! ## The round trip -/

theorem sections_of_config (read : readConfig arithmetic root = .ok config) :
    optional root "pluto" {} (readPluto arithmetic) = .ok config.pluto ∧
      optional root "fallback" {} (readFallback arithmetic) = .ok config.fallback := by
  simp only [readConfig, bind_eq_ok, pure_eq_ok] at read
  obtain ⟨_, _, _, _, _, _, pluto, pluto_read, fallback, fallback_read, _, _, _, _, _, _, _, _, _, _, _, _, _, _, _, _, _, _,
    _, _, rfl⟩ := read
  exact ⟨pluto_read, fallback_read⟩

/-- The rates of a configuration that was read can be calculated. -/
theorem rates_of_config (read : readConfig arithmetic root = .ok config) :
    ∃ muxRateKbps videoBitrateKbps, calculatePlutoMuxRateKbps config.pluto = .ok muxRateKbps ∧
      calculatePlutoVideoBitrateKbps config.pluto = .ok videoBitrateKbps := by
  obtain ⟨-, same⟩ | ⟨json, -, read⟩ := optional_cases (sections_of_config read).1
  · rw [same]
    exact ⟨333, 237, default_rates⟩
  · exact ⟨_, _, rates_of_pluto read⟩

/-- A configuration that is read again was read from an input with a transmitter
and a whole slide duration. -/
theorem lasting_of_again {muxRateKbps videoBitrateKbps : UInt32} (read : readConfig arithmetic root = .ok config)
    (again : readConfig arithmetic (configJson muxRateKbps videoBitrateKbps config).json = .ok config) :
    ConfigLasting arithmetic root := by
  obtain ⟨pluto, fallback⟩ := sections_of_config read
  obtain ⟨pluto_again, fallback_again⟩ := sections_of_config again
  constructor
  · obtain ⟨-, same⟩ | ⟨json, member, -⟩ := optional_cases pluto
    · have written : optionalMember (configJson muxRateKbps videoBitrateKbps config).json "pluto" =
          some (plutoJson muxRateKbps videoBitrateKbps config.pluto).json := rfl
      simp only [optional, written] at pluto_again
      have rates := (rates_of_pluto pluto_again).1
      rw [same, default_rates.1] at rates
      cases rates
    · rw [member]
      rfl
  · intro json member
    have written : optionalMember (configJson muxRateKbps videoBitrateKbps config).json "fallback" =
        some (fallbackJson config.fallback).json := rfl
    simp only [optional, member] at fallback
    simp only [optional, written] at fallback_again
    exact wholeSlide_of_again fallback fallback_again

theorem configFromJson_of_parse {text : Bytes} {result : Except String Json}
    (parsed : JsonParser.parse text = some result) :
    configFromJson arithmetic text = some (result >>= readConfig arithmetic) := by
  simp only [configFromJson, Bind.bind, ExceptT.bind, ExceptT.mk, parsed]
  cases result <;> rfl

/-- The configuration is written, and the text is read as the same. -/
def Reloads (arithmetic : Arithmetic) (printDouble : Rat → Bytes) (config : RepeaterConfig) : Prop :=
  ∃ text, configToJson printDouble config = .ok text ∧ configFromJson arithmetic text = some (.ok config)

theorem reloads_iff (read : readConfig arithmetic root = .ok config)
    (exact : ∀ threshold ∈ [config.minimumMerDb, config.minimumDNumberDb],
      JsonParser.Yields JsonParser.parseNumber (printDouble threshold) (.number threshold) []) :
    Reloads arithmetic printDouble config ↔ ConfigLegible root ∧ ConfigLasting arithmetic root := by
  obtain ⟨mux, video, mux_calculated, video_calculated⟩ := rates_of_config read
  have kept := kept_config read mux_calculated video_calculated exact
  have written : configToJson printDouble config =
      .ok ((configJson mux video config).print printDouble ++ bytes "\n") := by
    rw [configToJson, mux_calculated, video_calculated]
    rfl
  have loaded := @configFromJson_of_parse arithmetic _ _
    (parse_print kept.proper (rfl : (bytes "\n").all isSpace = true))
  constructor
  · rintro ⟨text, same, again⟩
    cases written.symm.trans same
    rw [loaded] at again
    by_cases legible : ∀ text ∈ (configJson mux video config).texts, Legible text
    · rw [if_pos legible] at again
      refine ⟨kept.texts.mp legible, lasting_of_again read (Option.some.inj again)⟩
    · rw [if_neg legible] at again
      cases again
  · rintro ⟨legible, lasts⟩
    refine ⟨_, written, ?_⟩
    rw [loaded, if_pos (kept.texts.mpr legible)]
    exact congrArg some (kept.again lasts)

/-- An input that survives being saved. -/
def Lossless (arithmetic : Arithmetic) (text : Bytes) : Prop :=
  ∃ root, JsonParser.parse text = some (.ok root) ∧ ConfigLegible root ∧ ConfigLasting arithmetic root

/-- A configuration that was accepted is saved and read again as the same one
exactly if its input has a transmitter section, no unchecked text with a control
character that has no escape of its own, and no slide duration that overflows. -/
theorem config_reloads_iff (arithmetic : Arithmetic) (printDouble : Rat → Bytes) {text : Bytes} {config : RepeaterConfig}
    (accepted : configFromJson arithmetic text = some (.ok config))
    (exact : ∀ threshold ∈ [config.minimumMerDb, config.minimumDNumberDb],
      JsonParser.Yields JsonParser.parseNumber (printDouble threshold) (.number threshold) []) :
    Reloads arithmetic printDouble config ↔ Lossless arithmetic text := by
  obtain ⟨result, parsed⟩ := JsonParser.parse_finishes text
  have read : result >>= readConfig arithmetic = .ok config :=
    Option.some.inj ((configFromJson_of_parse parsed).symm.trans accepted)
  obtain ⟨root, rfl, read⟩ := bind_eq_ok.mp read
  rw [reloads_iff read exact]
  constructor
  · rintro ⟨legible, lasts⟩
    exact ⟨root, parsed, legible, lasts⟩
  · rintro ⟨other, same, legible, lasts⟩
    cases parsed.symm.trans same
    exact ⟨legible, lasts⟩

/-- Arithmetic that wraps around. -/
def wrapping : Arithmetic where
  toUint32 number := UInt32.ofNat (Binary64.truncate number).toNat
  toInt number := Int32.ofInt (Binary64.truncate number)
  multiply left right := left * right
  toUint32_truncates value number whole := by simp [whole]
  toInt_truncates value number whole := by simp [whole]
  multiply_fits left right product fits := by
    rw [← Int32.toInt_inj, Int32.toInt_mul, fits]
    simp

/-- How a `double` is written that is a small integer. -/
def printWhole (value : Rat) : Bytes := printInt value.num

theorem printWhole_thresholds : ∀ threshold ∈ [(2 : Rat), 0],
    JsonParser.Yields JsonParser.parseNumber (printWhole threshold) (.number threshold) [] := by
  intro threshold among
  have ends : JsonParser.Delimited [] := by rintro next ⟨⟩
  simp only [List.mem_cons, List.not_mem_nil, or_false] at among
  rcases among with rfl | rfl
  · simpa [printWhole] using @JsonParser.yields_printInt [] 2 (by decide) ends
  · simpa [printWhole] using @JsonParser.yields_printInt [] 0 (by decide) ends

/-- With the transmitter's section, all else standing for itself. -/
theorem transmitter_reloads :
    Reloads wrapping printWhole { pluto := { muxRateKbps := 333, videoBitrateKbps := 237 } } := by
  have parsed : JsonParser.parse (bytes "\x7b\"pluto\":\x7b\x7d,\"receivers\":[]\x7d") =
      some (.ok (.object [(bytes "pluto", .object []), (bytes "receivers", .array [])])) := rfl
  refine (@config_reloads_iff wrapping printWhole _ _ (configFromJson_of_parse parsed) printWhole_thresholds).mpr
    ⟨_, parsed, ?_, ?_⟩
  · constructor
    case pluto =>
      rintro pluto ⟨⟩
      exact fun _ _ => nofun
    case receivers =>
      rintro receivers ⟨⟩ items ⟨⟩
      exact nofun
    all_goals rintro section_ ⟨⟩
  · exact ⟨rfl, nofun⟩

/-- A service name with a control character, which the reader takes as it is. -/
def controlText : Bytes :=
  bytes "\x7b\"pluto\":\x7b\x7d,\"ident\":\x7b\"serviceName\":\"\x01\"\x7d,\"receivers\":[]\x7d"

theorem control_character_lost :
    ¬ ∀ (arithmetic : Arithmetic) (printDouble : Rat → Bytes) (text : Bytes) (config : RepeaterConfig),
      configFromJson arithmetic text = some (.ok config) →
      (∀ threshold ∈ [config.minimumMerDb, config.minimumDNumberDb],
        JsonParser.Yields JsonParser.parseNumber (printDouble threshold) (.number threshold) []) →
      Reloads arithmetic printDouble config := by
  intro always
  have parsed : JsonParser.parse controlText = some (.ok (.object [(bytes "pluto", .object []),
      (bytes "ident", .object [(bytes "serviceName", .string [1])]), (bytes "receivers", .array [])])) := rfl
  have accepted : configFromJson wrapping controlText = some (.ok
      { pluto := { muxRateKbps := 333, videoBitrateKbps := 237 }, ident := { serviceName := [1] } }) :=
    configFromJson_of_parse parsed
  have read := Option.some.inj ((configFromJson_of_parse parsed).symm.trans accepted)
  rw [ok_bind] at read
  have legible := ((reloads_iff read printWhole_thresholds).mp
    (always wrapping printWhole controlText _ accepted printWhole_thresholds)).1
  have control : Legible [1] := legible.ident _ rfl _ rfl [1] rfl
  exact absurd control (by decide)

end WhRepeater
