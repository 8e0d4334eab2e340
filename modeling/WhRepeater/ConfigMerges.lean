import WhRepeater.ConfigRoundTrip
import WhRepeater.JsonPrefixes

/-! Texts of configurations that were read, also of such with members of another
one, and what is read of them in turn, in full or cut short. The thresholds are
written as `operator<<` does it, with few digits or with an exponent. -/
namespace WhRepeater

open JsonParser (Legible Yields Fails parseNumber parseValue)
open Document

variable {printDouble : Rat → Bytes} {arithmetic : Arithmetic} {root : Json} {config : RepeaterConfig}

/-- How `operator<<` writes a `double`: with an exponent, or as a number that is
written alike when it is read. -/
def Prints (printDouble : Rat → Bytes) : Prop :=
  ∀ value, JsonParser.Exponent (printDouble value) ∨
    ∃ kept, Yields parseNumber (printDouble value) (.number kept) [] ∧ printDouble kept = printDouble value

/-! ## Legible values -/

/-- Written by the writer, with legible texts only. -/
def LegibleJson (value : Json) : Prop := ∃ document : Document, value = document.json ∧ ∀ text ∈ document.texts, Legible text

theorem LegibleJson.member {value : Json} (legible : LegibleJson value) (name : String) : Within value name LegibleJson := by
  obtain ⟨document, rfl, texts⟩ := legible
  intro item found
  cases document with
  | object layout members =>
    simp only [Document.json, optionalMember] at found
    rw [texts_object] at texts
    induction members with
    | nil => cases found
    | cons first members ih =>
      obtain ⟨key, document⟩ := first
      rw [jsonMembers, List.lookup_cons] at found
      rw [List.forall_mem_cons] at texts
      split at found
      · cases found
        exact ⟨document, rfl, texts.1⟩
      · exact ih texts.2 found
  | _ => cases found

theorem LegibleJson.items {value : Json} (legible : LegibleJson value) : EachItem LegibleJson value := by
  obtain ⟨document, rfl, texts⟩ := legible
  intro items same item among
  cases document with
  | array layout documents =>
    simp only [Document.json, Json.array.injEq] at same
    subst same
    simp only [Document.texts] at texts
    induction documents with
    | nil => cases among
    | cons document documents ih =>
      simp only [textsOfItems, List.mem_append, or_imp, forall_and] at texts
      rcases List.mem_cons.mp among with rfl | among
      · exact ⟨document, rfl, texts.1⟩
      · exact ih texts.2 among
  | _ => cases same

theorem LegibleJson.text {value : Json} (legible : LegibleJson value) : LegibleText value := by
  obtain ⟨document, rfl, texts⟩ := legible
  intro text same
  cases document with
  | text written =>
    cases same
    exact texts text (List.mem_singleton.mpr rfl)
  | _ => cases same

theorem LegibleJson.legible (legible : LegibleJson root) : ConfigLegible root where
  pluto pluto there := fun name _ text found => ((legible.member _ pluto there).member name text found).text
  fallback fallback there := by
    have inside := legible.member _ fallback there
    refine ⟨fun name _ text found => (inside.member name text found).text, fun paths found items same item among => ?_⟩
    exact ((inside.member _ paths found).items items same item among).text
  streaming streaming there rtmp found url written :=
    (((legible.member _ streaming there).member _ rtmp found).member _ url written).text
  tsGateway tsGateway there address found := ((legible.member _ tsGateway there).member _ address found).text
  gatewayInput gatewayInput there address found := ((legible.member _ gatewayInput there).member _ address found).text
  piStatus piStatus there address found := ((legible.member _ piStatus there).member _ address found).text
  hardwarePtt hardwarePtt there chip found := ((legible.member _ hardwarePtt there).member _ chip found).text
  ident ident there name found := ((legible.member _ ident there).member _ name found).text
  analogue analogue there capture found name _ text written :=
    (((legible.member _ analogue there).member _ capture found).member name text written).text
  receivers receivers there items same receiver among targets found others alike target within label written :=
    (((((legible.member _ receivers there).items items same receiver among).member _ targets found).items others alike
      target within).member _ label written).text

/-! ## The text of a configuration -/

theorem rootMembers_of_config (read : readConfig arithmetic root = .ok config) : ∃ members, root = .object members := by
  unfold readConfig at read
  iterate 14 obtain ⟨_, -, read⟩ := bind_eq_ok.mp read
  obtain ⟨_, receivers, -⟩ := bind_eq_ok.mp read
  obtain ⟨json, member, -⟩ := required_found receivers
  cases root with
  | object members => exact ⟨members, rfl⟩
  | _ => cases member

/-- Numbers that are written like the thresholds, and exactly. -/
structure Written (printDouble : Rat → Bytes) (config : RepeaterConfig) (kept : Rat × Rat) : Prop where
  exact : ∀ threshold ∈ [kept.1, kept.2], Yields parseNumber (printDouble threshold) (.number threshold) []
  minimumMerDb : printDouble kept.1 = printDouble config.minimumMerDb
  minimumDNumberDb : printDouble kept.2 = printDouble config.minimumDNumberDb

def withThresholds (kept : Rat × Rat) (config : RepeaterConfig) : RepeaterConfig :=
  { config with minimumMerDb := kept.1, minimumDNumberDb := kept.2 }

theorem read_withThresholds (kept : Rat × Rat) {members : List (Bytes × Json)}
    (read : readConfig arithmetic (.object members) = .ok config) :
    readConfig arithmetic (.object ((bytes "selection", (selectionJson kept).json) :: members)) =
      .ok (withThresholds kept config) := by
  simp only [readConfig, bind_eq_ok, pure_eq_ok] at read ⊢
  obtain ⟨statusInterval, statusInterval_read, mode, mode_read, selection, -, pluto, pluto_read, fallback,
    fallback_read, streaming, streaming_read, media, media_read, tsGateway, tsGateway_read, gatewayInput,
    gatewayInput_read, piStatus, piStatus_read, hardwarePtt, hardwarePtt_read, beaconSchedule, beaconSchedule_read, ident,
    ident_read, analogue, analogue_read, receivers, receivers_read, rfl⟩ := read
  exact ⟨statusInterval, statusInterval_read, mode, mode_read, kept, rfl, pluto, pluto_read, fallback,
    fallback_read, streaming, streaming_read, media, media_read, tsGateway, tsGateway_read, gatewayInput,
    gatewayInput_read, piStatus, piStatus_read, hardwarePtt, hardwarePtt_read, beaconSchedule, beaconSchedule_read, ident,
    ident_read, analogue, analogue_read, receivers, receivers_read, rfl⟩

theorem print_configJson {kept : Rat × Rat} (written : Written printDouble config kept) (mux video : UInt32) :
    (configJson mux video (withThresholds kept config)).print printDouble =
      (configJson mux video config).print printDouble := by
  have thresholds : (selectionJson kept).print printDouble =
      (selectionJson (config.minimumMerDb, config.minimumDNumberDb)).print printDouble := by
    simp only [selectionJson, Document.print, printMembers, written.minimumMerDb, written.minimumDNumberDb]
  simp only [configJson, withThresholds, Document.print, printMembers, thresholds]

theorem stuck_double {value : Rat} (exponent : JsonParser.Exponent (printDouble value)) (fuel : Nat) (rest : Bytes)
    (enough : 2 * (((double value).print printDouble).length + rest.length) < fuel) :
    JsonParser.Stuck (parseValue fuel) ((double value).print printDouble ++ rest) := by
  obtain ⟨fuel, rfl⟩ := Nat.exists_eq_succ_of_ne_zero (Nat.ne_of_gt (Nat.zero_lt_of_lt enough))
  exact JsonParser.stuck_exponent exponent fuel rest

/-- Thresholds of which one has an exponent are no value, unless both are
written like others. -/
theorem selection_cases (prints : Prints printDouble) (config : RepeaterConfig) :
    (∃ kept, Written printDouble config kept) ∨
      ∀ fuel rest, 2 * (((selectionJson (config.minimumMerDb, config.minimumDNumberDb)).print printDouble).length +
        rest.length) < fuel → JsonParser.Stuck (parseValue fuel)
          ((selectionJson (config.minimumMerDb, config.minimumDNumberDb)).print printDouble ++ rest) := by
  rcases prints config.minimumMerDb with exponent | ⟨mer, mer_exact, mer_written⟩
  · refine .inr fun fuel rest enough => .inl ?_
    exact @object_fails printDouble _ [] "minimumMerDb" _ _ trivial (by decide) rest fuel enough (stuck_double exponent)
  · rcases prints config.minimumDNumberDb with exponent | ⟨dNumber, dNumber_exact, dNumber_written⟩
    · right
      have thresholds : (selectionJson (config.minimumMerDb, config.minimumDNumberDb)).print printDouble =
          (selectionJson (mer, config.minimumDNumberDb)).print printDouble := by
        simp only [selectionJson, Document.print, printMembers, mer_written]
      have exact : Yields parseNumber (printDouble mer) (.number mer) [] := by rwa [mer_written]
      rw [thresholds]
      refine fun fuel rest enough => .inl ?_
      exact @object_fails printDouble _ [("minimumMerDb", double mer)] "minimumDNumberDb" _ _
        ⟨by decide, exact, trivial⟩ (by decide) rest fuel enough (stuck_double exponent)
    · refine .inl ⟨(mer, dNumber), ?_, mer_written, dNumber_written⟩
      intro threshold among
      rcases List.mem_pair.mp among with rfl | rfl
      · rwa [mer_written]
      · rwa [dNumber_written]

theorem statusInterval_of_config (read : readConfig arithmetic root = .ok config) : |config.statusInterval| < 2 ^ 53 := by
  unfold readConfig at read
  obtain ⟨statusInterval, statusInterval_read, read⟩ := bind_eq_ok.mp read
  have kept : Kept (fun _ => []) _ decimal statusInterval True True := kept_duration statusInterval_read rfl
  iterate 14 obtain ⟨_, -, read⟩ := bind_eq_ok.mp read
  cases read
  exact kept.proper

/-- The text of the configuration can be read. -/
structure Readable (printDouble : Rat → Bytes) (root : Json) (config : RepeaterConfig) : Prop where
  thresholds : ∃ kept, Written printDouble config kept
  legible : ConfigLegible root

theorem fails_of_unreadable {members : List (Bytes × Json)} (read : readConfig arithmetic (.object members) = .ok config)
    (prints : Prints printDouble) {mux video : UInt32} (mux_calculated : calculatePlutoMuxRateKbps config.pluto = .ok mux)
    (video_calculated : calculatePlutoVideoBitrateKbps config.pluto = .ok video)
    (unreadable : ¬ Readable printDouble (.object members) config) :
    Fails (parseValue (2 * ((configJson mux video config).print printDouble ++ bytes "\n").length + 1))
      ((configJson mux video config).print printDouble ++ bytes "\n") := by
  rcases selection_cases prints config with ⟨kept, written⟩ | stuck
  · have again := read_withThresholds kept read
    have config_kept := kept_config again mux_calculated video_calculated written.exact
    rw [← print_configJson written]
    refine ⟨_, (print_answers config_kept.proper rfl).2 fun legible => unreadable ⟨⟨kept, written⟩, ?_⟩⟩
    obtain ⟨pluto, fallback, streaming, tsGateway, gatewayInput, piStatus, hardwarePtt, ident, analogue, receivers⟩ :=
      config_kept.texts.mp legible
    exact ⟨pluto, fallback, streaming, tsGateway, gatewayInput, piStatus, hardwarePtt, ident, analogue, receivers⟩
  · refine @object_fails printDouble _ [("mode", text config.mode), ("statusIntervalMs", decimal config.statusInterval)]
      "selection" _ _ ⟨by decide, trivial, by decide, statusInterval_of_config read, trivial⟩ (by decide) (bytes "\n") _ ?_
      stuck
    rw [List.length_append]
    exact Nat.lt_succ_self _

/-- What the reader makes of the text of a configuration that was read. -/
theorem text_of_config (read : readConfig arithmetic root = .ok config) (prints : Prints printDouble) :
    ∃ tail, configToJson printDouble config = .ok (code '{' :: tail) ∧
      (Readable printDouble root config → ∃ kept mux video, Written printDouble config kept ∧
          JsonParser.parse (code '{' :: tail) = some (.ok (configJson mux video (withThresholds kept config)).json) ∧
          (∀ text ∈ (configJson mux video (withThresholds kept config)).texts, Legible text) ∧
          (ConfigLasting arithmetic root →
            configFromJson arithmetic (code '{' :: tail) = some (.ok (withThresholds kept config)))) ∧
        (¬ Readable printDouble root config → Fails (parseValue (2 * (code '{' :: tail).length + 1)) (code '{' :: tail)) := by
  obtain ⟨members, rfl⟩ := rootMembers_of_config read
  obtain ⟨mux, video, mux_calculated, video_calculated⟩ := rates_of_config read
  refine ⟨((configJson mux video config).print printDouble ++ bytes "\n").tail, ?_, fun readable => ?_,
    fails_of_unreadable read prints mux_calculated video_calculated⟩
  · rw [configToJson, mux_calculated, video_calculated]
    rfl
  · obtain ⟨⟨kept, written⟩, legible⟩ := readable
    have again := read_withThresholds kept read
    have config_kept := kept_config again mux_calculated video_calculated written.exact
    have texts := config_kept.texts.mpr ⟨legible.pluto, legible.fallback, legible.streaming, legible.tsGateway,
      legible.gatewayInput, legible.piStatus, legible.hardwarePtt, legible.ident, legible.analogue, legible.receivers⟩
    have parsed := parse_print config_kept.proper (rfl : (bytes "\n").all isSpace = true)
    rw [if_pos texts, print_configJson written] at parsed
    refine ⟨kept, mux, video, written, parsed, texts, fun lasts => ?_⟩
    have loaded := @configFromJson_of_parse arithmetic _ _ parsed
    refine loaded.trans (congrArg some ?_)
    exact config_kept.again ⟨lasts.pluto, lasts.slide⟩

/-! ## Reading it again -/

theorem read_of_accepted {text : Bytes} (accepted : configFromJson arithmetic text = some (.ok config)) :
    ∃ root, JsonParser.parse text = some (.ok root) ∧ readConfig arithmetic root = .ok config := by
  obtain ⟨result, parsed⟩ := JsonParser.parse_finishes text
  have read : result >>= readConfig arithmetic = .ok config :=
    Option.some.inj ((configFromJson_of_parse parsed).symm.trans accepted)
  obtain ⟨root, rfl, read⟩ := bind_eq_ok.mp read
  exact ⟨root, parsed, read⟩

theorem slideDuration_of_config (read : readConfig arithmetic root = .ok config) :
    ∃ duration : Int32, config.fallback.slideDuration = duration.toInt := by
  obtain ⟨-, same⟩ | ⟨fallback, -, read⟩ := optional_cases (sections_of_config read).2
  · rw [same]
    exact ⟨10000, rfl⟩
  · obtain ⟨-, same⟩ | ⟨value, -, read⟩ := optional_cases (slideDuration_of_fallback read)
    · rw [same]
      exact ⟨10000, rfl⟩
    · obtain ⟨number, -, same⟩ := slideDuration_cases read
      rw [same]
      exact ⟨_, rfl⟩

/-- The seconds of a duration that was read are few enough. -/
theorem wholeSlide_written (duration : Int32) :
    WholeSlide arithmetic (decimal (duration.toInt.tdiv 1000)).json := by
  rintro number ⟨⟩
  have low := duration.le_toInt
  have high := duration.toInt_lt
  obtain ⟨cut, rest_low, rest, sign⟩ := thousand_split duration.toInt
  obtain ⟨seconds, same, -⟩ := @slideMilliseconds_written arithmetic duration
  rw [← same, arithmetic.toInt_truncates seconds _ (Binary64.truncate_intCast _), slideMilliseconds_max _ (by omega),
    WholeSeconds]
  omega

/-- What a configuration is written as has a transmitter and a whole duration. -/
theorem lasting_of_written (read : readConfig arithmetic root = .ok config) (mux video : UInt32) (kept : Rat × Rat) :
    ConfigLasting arithmetic (configJson mux video (withThresholds kept config)).json := by
  refine ⟨rfl, ?_⟩
  rintro fallback ⟨⟩ slide ⟨⟩
  obtain ⟨duration, same⟩ := slideDuration_of_config read
  simp only [withThresholds, same]
  exact wholeSlide_written duration

/-- The text of a configuration, of which the first bytes are accepted. -/
theorem cut_of_config (read : readConfig arithmetic root = .ok config) (prints : Prints printDouble) {text : Bytes}
    (written : configToJson printDouble config = .ok text) {received : Nat} {part : Json}
    (cut : JsonParser.parse (text.take received) = some (.ok part)) :
    Readable printDouble root config ∧ JsonParser.parse text = some (.ok part) ∧ LegibleJson part ∧
      ConfigLasting arithmetic part := by
  obtain ⟨tail, same, reads, fails⟩ := text_of_config read prints
  cases written.symm.trans same
  obtain ⟨rest, yields⟩ := JsonParser.yields_of_take cut
  by_cases readable : Readable printDouble root config
  · obtain ⟨kept, mux, video, -, parsed, texts, -⟩ := reads readable
    obtain ⟨left, again, -⟩ := JsonParser.parse_yields parsed
    cases yields.symm.trans again
    exact ⟨readable, parsed, ⟨_, rfl, texts⟩, lasting_of_written read mux video kept⟩
  · obtain ⟨message, throws⟩ := fails readable
    cases yields.symm.trans throws

end WhRepeater
