import WhRepeater.ReceiverMembers
import WhRepeater.ConfigFields
import Mathlib.Data.List.Nodup

/-! The way of a receiver from the Pi to the PC. Its object is found in the status
text whatever the strings of the receivers are, but what is read of it is all that
was written only for some strings and numbers. -/
namespace WhRepeater

open TextScan
open ApiServer (member object array)

namespace RemoteReceiver

variable {printDouble : DoubleBits → Bytes} {systemStats : Bytes → Bytes} {now : Time} {server : ApiServer}
  {status : ReceiverStatus} {statuses : List ReceiverStatus} {name suffix text front rest pattern : Bytes}

/-! ## The object of a receiver -/

/-- The active input, with what is read of a receiver. -/
def taken (status : ReceiverStatus) (before : ActiveInput) (merDb : Option DoubleBits) : ActiveInput where
  receiver := status.receiver
  target :=
    match status.target with
    | none => before.target
    | some target => { before.target with
        label := restored target.label
        frequencyKhz := readNumber target.frequencyKhz before.target.frequencyKhz
        symbolRateKs := readNumber target.symbolRateKs before.target.symbolRateKs }
  status := { before.status with
    receiver := status.receiver
    serviceName := (seen (bytes "serviceName") status.serviceName status.target).map restored
    modulation := (seen (bytes "modulation") status.modulation status.target).map restored
    merDb := merDb }

/-- The target is an object, unless there is none. -/
theorem target_kept (target : Option ScanTarget) :
    (some (ApiServer.optionalTargetJson target)).filter (· ≠ bytes "null") = target.map fun target =>
      ApiServer.optionalTargetJson (some target) := by
  cases target with
  | none => rfl
  | some target =>
    have other : ApiServer.optionalTargetJson (some target) ≠ bytes "null" := by
      intro same
      have first : some (code '{') = (bytes "null").head? := congrArg List.head? same
      exact absurd first (by decide)
    simp [Option.filter, other]

theorem applyObject_written (prints : ∀ number, Scalar (printDouble number)) (stod : Bytes → Option DoubleBits)
    (before : ActiveInput) :
    ∃ merDb, applyObject stod before (receiverObject printDouble now status) = .ok (taken status before merDb) := by
  obtain ⟨service, service_found, service_read⟩ :=
    @string_read printDouble now status _ prints sought_serviceName _ (serviceName_found prints)
  obtain ⟨modulation, modulation_found, modulation_read⟩ :=
    @string_read printDouble now status _ prints sought_modulation _ (modulation_found prints)
  obtain ⟨quality, quality_found⟩ := completes_jsonMember (receiverObject printDouble now status) (bytes "merDb")
  have id := jsonIntValue_receiver status.receiver.value
  unfold applyObject readMember
  refine ⟨((quality.filter (· ≠ bytes "null")).bind stod).or before.status.merDb, ?_⟩
  simp only [id_found, target_found, service_found, modulation_found, quality_found, ok_bind, Option.bind_some,
    id, target_kept, Option.map_some, service_read, modulation_read, Option.getD_some]
  cases written : status.target with
  | none =>
    simp only [taken, written]
    rfl
  | some target =>
    simp only [Option.map_some, applyTarget_written, ok_bind, taken, written]
    rfl

/-! ## The search for the object -/

theorem find_eq {start : Nat} (within : start ≤ text.length) :
    find text pattern start =
      (behind pattern (text.drop start)).map fun left => text.length - left.length - pattern.length := by
  rw [find, if_neg (Nat.not_lt.mpr within), behind]
  cases index : indexOf pattern (text.drop start) with
  | none => rfl
  | some position =>
    obtain ⟨before, later, split, rfl⟩ := indexOf_split index
    have length := congrArg List.length split
    simp only [List.length_append, List.length_drop] at length
    simp only [Option.map_some, List.length_drop, Option.some.injEq]
    omega

theorem rfind_here {ch next : UInt8} (other : next ≠ ch) (front rest : Bytes) :
    rfind (front ++ ch :: next :: rest) ch (front.length + 1) = some front.length := by
  have taken : (front ++ ch :: next :: rest).take (front.length + 1 + 1) = front ++ [ch, next] := by
    rw [Nat.add_assoc, List.take_length_add_append]
    rfl
  have index : indexOf [ch] (next :: ch :: front.reverse) = some 1 := by
    simp [indexOf_cons, other.symm]
  rw [rfind, taken, List.reverse_append]
  change (indexOf [ch] (next :: ch :: front.reverse)).map _ = _
  rw [index]
  simp

theorem jsonObjectAt_here {members : List Bytes} (each : ∀ piece ∈ members, Balanced (code '{') (code '}') piece)
    (front rest : Bytes) : jsonObjectAt (front ++ (object members ++ rest)) front.length = .ok (some (object members)) := by
  have braces : Pair (code '{') (code '}') := .inl ⟨rfl, rfl⟩
  have closed := enclosed_whole braces (balanced_separated braces each) rest
  have head : ¬ (object members ++ rest).head? ≠ some (code '{') := fun other => other rfl
  rw [jsonObjectAt, List.drop_left, if_neg head]
  change enclosed (code '{') (code '}') 0 false false (object members ++ rest) = _ at closed
  rw [closed]
  change (do return some (← substr (front ++ (object members ++ rest)) front.length (object members).length)) = _
  rw [substr_ok (by simp), List.drop_left, List.take_left]
  rfl

theorem findReceiver_eq (receivers : Bytes) (activeId : Int32) (start : Nat) :
    findReceiver receivers activeId start =
      (match find receivers (bytes "\"id\":") start with
      | none => return none
      | some pos =>
        match rfind receivers (code '{') pos with
        | none => return none
        | some objectStart => do
          match ← jsonObjectAt receivers objectStart with
          | none => return none
          | some found => do
            let id := (← jsonMember found (bytes "id")).bind jsonIntValue
            if id = some activeId then return some found else findReceiver receivers activeId (pos + 5)) := by
  rw [findReceiver]
  cases find receivers (bytes "\"id\":") start with
  | none => rfl
  | some pos => rfl

theorem findReceiver_congr {receivers : Bytes} {activeId : Int32} {start further : Nat}
    (same : find receivers (bytes "\"id\":") start = find receivers (bytes "\"id\":") further) :
    findReceiver receivers activeId start = findReceiver receivers activeId further := by
  rw [findReceiver_eq, same, ← findReceiver_eq]

/-- The name of the identifier, with its colon. -/
theorem identifier_eq : bytes "\"id\":" = key (bytes "id") [code ':'] := by decide

theorem receiverObject_append (rest : Bytes) : receiverObject printDouble now status ++ rest =
    code '{' :: (key (bytes "id") [code ':'] ++ (printInt status.receiver.value.toInt ++
      (others (describing printDouble now status) ++ code '}' :: rest))) := by
  rw [receiverObject, object, separated_eq]
  simp [member, key]

theorem find_identifier (front rest : Bytes) :
    find (front ++ (receiverObject printDouble now status ++ rest)) (bytes "\"id\":") front.length =
      some (front.length + 1) := by
  have brace : code '{' ≠ code '"' := by decide
  have length : (key (bytes "id") [code ':']).length = 5 := by decide
  rw [find_eq (by simp), List.drop_left, receiverObject_append, identifier_eq, behind_key_cons brace, behind_front key_ne_nil,
    Option.map_some]
  simp only [List.length_append, List.length_cons, length]
  congr 1
  omega

/-- What is searched next is behind the object. -/
theorem find_behind_object (prints : ∀ number, Scalar (printDouble number)) (front rest : Bytes) :
    find (front ++ (receiverObject printDouble now status ++ code ',' :: rest)) (bytes "\"id\":") (front.length + 1 + 5) =
      find (front ++ (receiverObject printDouble now status ++ code ',' :: rest)) (bytes "\"id\":")
        (front ++ receiverObject printDouble now status ++ [code ',']).length := by
  have length : (key (bytes "id") [code ':']).length = 5 := by decide
  have comma : code ',' ≠ code '"' := by decide
  have here : (front ++ (receiverObject printDouble now status ++ code ',' :: rest)).drop (front.length + 1 + 5) =
      printInt status.receiver.value.toInt ++ (others (describing printDouble now status) ++ code '}' :: code ',' :: rest) := by
    rw [Nat.add_assoc, ← List.drop_drop, List.drop_left, receiverObject_append, ← List.drop_drop, List.drop_one,
      List.tail_cons, ← length, List.drop_left]
  have there : (front ++ (receiverObject printDouble now status ++ code ',' :: rest)).drop
      (front ++ receiverObject printDouble now status ++ [code ',']).length = rest := by
    have split : front ++ (receiverObject printDouble now status ++ code ',' :: rest) =
        front ++ receiverObject printDouble now status ++ [code ','] ++ rest := by simp
    rw [split, List.drop_left]
  have object_length := congrArg List.length (@receiverObject_append printDouble now status [])
  simp only [List.length_append, List.length_cons, List.length_nil, length] at object_length
  obtain ⟨next, more, split, ends⟩ := others_ends (describing printDouble now status) (.inr (.inl rfl)) (code ',' :: rest)
  have passed : behind (key (bytes "id") [code ':']) (printInt status.receiver.value.toInt ++
      (others (describing printDouble now status) ++ code '}' :: code ',' :: rest)) =
        behind (key (bytes "id") [code ':']) rest := by
    rw [split, passes_scalar (scalar_printInt _) _ _ ends, ← behind_key_cons ends.not_quote, ← split,
      passes_others (passes_describing prints) (.inr (.inl rfl)), behind_key_cons comma]
  rw [find_eq, find_eq, here, there, identifier_eq, passed]
  · simp only [List.length_append, List.length_cons, List.length_nil]
    omega
  · simp only [List.length_append, List.length_cons]
    omega

/-- One object: it is the one, or the search goes on behind its identifier. -/
theorem findReceiver_step (prints : ∀ number, Scalar (printDouble number)) (activeId : Int32) (front rest : Bytes) :
    findReceiver (front ++ (receiverObject printDouble now status ++ rest)) activeId front.length =
      if status.receiver.value = activeId then .ok (some (receiverObject printDouble now status))
      else findReceiver (front ++ (receiverObject printDouble now status ++ rest)) activeId (front.length + 1 + 5) := by
  have braces : Pair (code '{') (code '}') := .inl ⟨rfl, rfl⟩
  have start : rfind (front ++ (receiverObject printDouble now status ++ rest)) (code '{') (front.length + 1) =
      some front.length := by
    rw [receiverObject_append]
    exact rfind_here (by decide) front _
  have whole : jsonObjectAt (front ++ (receiverObject printDouble now status ++ rest)) front.length =
      .ok (some (receiverObject printDouble now status)) :=
    jsonObjectAt_here (balanced_members braces prints status) front rest
  rw [findReceiver_eq, find_identifier]
  simp only [start, whole, id_found, ok_bind, Option.bind_some, jsonIntValue_receiver, Option.some.injEq]
  rfl

/-- The receiver with the identifier is found, whatever is in the others before it. -/
theorem findReceiver_among (prints : ∀ number, Scalar (printDouble number)) (extra : List Bytes) (tail front : Bytes)
    (among : status ∈ statuses) (distinct : ∀ other ∈ statuses, other.receiver = status.receiver → other = status) :
    findReceiver (front ++ (separated [code ','] (statuses.map (receiverObject printDouble now) ++ extra) ++ tail))
      status.receiver.value front.length = .ok (some (receiverObject printDouble now status)) := by
  induction statuses generalizing front with
  | nil => exact absurd among List.not_mem_nil
  | cons first statuses ih =>
    obtain ⟨here, distinct⟩ := List.forall_mem_cons.mp distinct
    rw [List.map_cons, List.cons_append, separated_eq, List.append_assoc, findReceiver_step prints]
    by_cases same : first.receiver.value = status.receiver.value
    · rw [if_pos same, here (congrArg ReceiverId.mk same)]
    · rw [if_neg same]
      have later : status ∈ statuses := by
        rcases List.mem_cons.mp among with rfl | later
        · exact absurd rfl same
        · exact later
      obtain ⟨second, statuses, rfl⟩ := List.exists_cons_of_ne_nil (List.ne_nil_of_mem later)
      have follows : others ((second :: statuses).map (receiverObject printDouble now) ++ extra) ++ tail =
          code ',' :: (separated [code ','] ((second :: statuses).map (receiverObject printDouble now) ++ extra) ++ tail) := by
        rw [List.map_cons, List.cons_append, separated_eq]
        simp [others]
      have split : front ++ (receiverObject printDouble now first ++ code ',' ::
          (separated [code ','] ((second :: statuses).map (receiverObject printDouble now) ++ extra) ++ tail)) =
            front ++ receiverObject printDouble now first ++ [code ','] ++
              (separated [code ','] ((second :: statuses).map (receiverObject printDouble now) ++ extra) ++ tail) := by
        simp
      rw [follows, findReceiver_congr (find_behind_object prints front _), split]
      exact ih _ later distinct

/-! ## The status text -/

/-- The status text of the Pi, as far as the PC looks into it. -/
theorem statusJson_gateway (gateway : server.repeaterConfig.mode = bytes "ts-gateway") :
    ∃ others, ApiServer.statusJson printDouble systemStats now server = .ok (object (
      member "mode" (jsonString (bytes "ts-gateway")) ::
      member "activeReceiver" (ApiServer.orNull (fun active : ActiveInput => printInt active.receiver.value.toInt)
        server.active) ::
      member "receivers" (ApiServer.receiversJson printDouble now server.repeaterConfig
        (server.analogueStatus.filter (·.enabled)) server.statuses) :: others) ++ bytes "\n") := by
  have mode : ¬ bytes "ts-gateway" = bytes "pc-gateway" := by decide
  have remote : ∀ name, ApiServer.remoteMember server name = .ok none := by
    intro name
    rw [ApiServer.remoteMember, gateway, if_neg mode]
    rfl
  have active : ApiServer.activeReceiverJson server none = .ok
      (ApiServer.orNull (fun active : ActiveInput => printInt active.receiver.value.toInt) server.active) := by
    unfold ApiServer.activeReceiverJson
    dsimp only
    rw [ite_self]
    rfl
  simp only [ApiServer.statusJson, remote, active, ok_bind, ApiServer.memberOf, gateway]
  exact ⟨_, rfl⟩

theorem balanced_analogue (config : RepeaterConfig) (analogue : ApiServer.AnalogueStatus) :
    Balanced (code '[') (code ']') (ApiServer.analogueReceiverJson now config analogue) := by
  have pair : Pair (code '[') (code ']') := .inr ⟨rfl, rfl⟩
  have boolean : ∀ flag, Balanced (code '[') (code ']') (ApiServer.boolean flag) := by
    intro flag
    cases flag <;> exact balanced_scalar pair (by decide)
  have constant : ∀ text ∈ ["null", "0"].map bytes, Balanced (code '[') (code ']') text := by
    intro text mem
    have scalar : ∀ text ∈ ["null", "0"].map bytes, Scalar text := by decide
    exact balanced_scalar pair (scalar text mem)
  refine balanced_object pair ?_
  simp only [List.forall_mem_cons]
  refine ⟨?_, ?_, ?_, ?_, ?_, ?_, ?_, ?_, ?_, ?_, ?_, ?_, ?_, ?_, ?_, ?_, ?_, ?_, ?_, ?_, ?_, ?_, ?_,
    fun _ mem => absurd mem List.not_mem_nil⟩
  all_goals refine balanced_member pair rfl ?_
  all_goals first
    | exact balanced_string _
    | exact balanced_orNull pair _
    | exact boolean _
    | exact balanced_scalar pair (scalar_printNat _)
    | exact balanced_scalar pair (scalar_printInt _)
    | exact constant _ (by decide)

theorem receiversJson_enabled (gateway : server.repeaterConfig.mode = bytes "ts-gateway")
    (enabled : ∀ status ∈ server.statuses, ApiServer.receiverEnabled server.repeaterConfig status.receiver = true)
    (analogue : Option ApiServer.AnalogueStatus) :
    ApiServer.receiversJson printDouble now server.repeaterConfig analogue server.statuses =
      array (server.statuses.map (receiverObject printDouble now) ++
        (analogue.map (ApiServer.analogueReceiverJson now server.repeaterConfig)).toList) := by
  have each : ApiServer.receiverStatusJson printDouble now (bytes "ts-gateway") = receiverObject printDouble now :=
    funext fun _ => receiverStatusJson_eq
  rw [ApiServer.receiversJson, gateway, each, List.filter_eq_self.mpr enabled]

/-- The object of the active receiver is selected. -/
theorem object_found (prints : ∀ number, Scalar (printDouble number)) (extra others : List Bytes)
    (balanced : ∀ item ∈ extra, Balanced (code '[') (code ']') item)
    (among : status ∈ statuses) (distinct : ∀ other ∈ statuses, other.receiver = status.receiver → other = status) :
    activeRemoteReceiverObject (object (
      member "mode" (jsonString (bytes "ts-gateway")) ::
      member "activeReceiver" (printInt status.receiver.value.toInt) ::
      member "receivers" (array (statuses.map (receiverObject printDouble now) ++ extra)) :: others) ++ rest) =
        .ok (some (receiverObject printDouble now status)) := by
  have squares : Pair (code '[') (code ']') := .inr ⟨rfl, rfl⟩
  have mode : ∀ label : String, Word (bytes label) → bytes label ≠ bytes "mode" → bytes label ≠ bytes "ts-gateway" →
      Passes (bytes label) [] (member "mode" (jsonString (bytes "ts-gateway"))) := fun label word first second =>
    passes_member word rfl (Ne.symm first) (passes_word word (by decide) (Ne.symm second))
  have active : Passes (bytes "receivers") [] (member "activeReceiver" (printInt status.receiver.value.toInt)) :=
    passes_member (by decide) (by decide) (by decide) (passes_scalar (scalar_printInt _))
  have items : ∀ item ∈ statuses.map (receiverObject printDouble now) ++ extra, Balanced (code '[') (code ']') item := by
    intro item mem
    rcases List.mem_append.mp mem with mem | mem
    · obtain ⟨receiver, -, rfl⟩ := List.mem_map.mp mem
      exact balanced_object squares (balanced_members squares prints receiver)
    · exact balanced item mem
  have id_member := @jsonMember_found _ "activeReceiver" [member "mode" (jsonString (bytes "ts-gateway"))] (by decide)
    (List.forall_mem_singleton.mpr (mode "activeReceiver" (by decide) (by decide) (by decide)))
    (read_scalar (scalar_printInt status.receiver.value.toInt))
    (member "receivers" (array (statuses.map (receiverObject printDouble now) ++ extra)) :: others) rest
  have receivers_member := @jsonMember_found _ "receivers"
    [member "mode" (jsonString (bytes "ts-gateway")), member "activeReceiver" (printInt status.receiver.value.toInt)]
    (by decide) (List.forall_mem_cons.mpr ⟨mode "receivers" (by decide) (by decide) (by decide),
      List.forall_mem_singleton.mpr active⟩) (read_array items) others rest
  have named : printInt status.receiver.value.toInt ≠ bytes "null" := by
    intro same
    have read := jsonIntValue_receiver status.receiver.value
    rw [same] at read
    cases read
  have start : find (array (statuses.map (receiverObject printDouble now) ++ extra)) (bytes "\"id\":") 0 =
      find (array (statuses.map (receiverObject printDouble now) ++ extra)) (bytes "\"id\":") 1 := by
    have square : code '[' ≠ code '"' := by decide
    rw [find_eq (Nat.zero_le _), find_eq (by simp [array]), identifier_eq, List.drop_zero]
    conv_lhs => rw [array, List.cons_append, behind_key_cons square]
    rfl
  simp only [List.cons_append, List.nil_append] at id_member receivers_member
  rw [activeRemoteReceiverObject, id_member, receivers_member]
  simp only [ok_bind, Option.filter_some, named, ne_eq, not_false_iff, decide_true, if_true, jsonIntValue_receiver]
  rw [findReceiver_congr start]
  exact findReceiver_among prints extra [code ']'] [code '['] among distinct

/-! ## What comes back -/

/-- The active input has the receiver as the Pi has it; the quality of its signal is
not looked at. -/
def Recovered (status : ReceiverStatus) (before after : ActiveInput) : Prop :=
  ∃ merDb, after = {
    receiver := status.receiver
    target :=
      match status.target with
      | none => before.target
      | some target => { before.target with
          label := target.label, frequencyKhz := target.frequencyKhz, symbolRateKs := target.symbolRateKs }
    status := { before.status with
      receiver := status.receiver, serviceName := status.serviceName, modulation := status.modulation, merDb := merDb } }

/-- A string is what is read where the quoted name is found before it. -/
def Undisturbed (name : Bytes) (own : Option Bytes) (target : ScanTarget) : Prop :=
  (Hits name target.fec → own = some target.label) ∧ (¬ Hits name target.fec → Hits name target.label → own = none)

structure Scrapable (status : ReceiverStatus) : Prop where
  strings : ∀ text, some text = status.target.map (·.label) ∨ some text = status.serviceName ∨ some text = status.modulation →
    Restorable text
  numbers : ∀ target ∈ status.target, target.frequencyKhz.toNat < 2 ^ 31 ∧ target.symbolRateKs.toNat < 2 ^ 31
  serviceName : ∀ target ∈ status.target, Undisturbed (bytes "serviceName") status.serviceName target
  modulation : ∀ target ∈ status.target, Undisturbed (bytes "modulation") status.modulation target

theorem restored_own (own : Option Bytes) : own.map restored = own ↔ ∀ text ∈ own, Restorable text := by
  cases own with
  | none => simp
  | some text => simp [restored_iff]

theorem seen_iff {own : Option Bytes} {target : Option ScanTarget} (label : ∀ goal ∈ target, Restorable goal.label) :
    (seen name own target).map restored = own ↔
      (∀ text ∈ own, Restorable text) ∧ ∀ goal ∈ target, Undisturbed name own goal := by
  cases target with
  | none => simp [seen, restored_own]
  | some goal =>
    have kept : restored goal.label = goal.label := (restored_iff _).mpr (label goal rfl)
    have single : (∀ other ∈ some goal, Undisturbed name own other) ↔ Undisturbed name own goal := by simp
    rw [single, seen, Undisturbed]
    by_cases fec : Hits name goal.fec
    · rw [if_pos fec, Option.map_some, kept]
      constructor
      · rintro rfl
        refine ⟨fun text same => ?_, fun _ => rfl, fun missed => absurd fec missed⟩
        cases same
        exact label goal rfl
      · rintro ⟨-, same, -⟩
        exact (same fec).symm
    · rw [if_neg fec]
      by_cases hit : Hits name goal.label
      · rw [if_pos hit, Option.map_none]
        constructor
        · rintro rfl
          exact ⟨fun _ same => (by cases same), fun found => absurd found fec, fun _ _ => rfl⟩
        · rintro ⟨-, -, same⟩
          exact (same fec hit).symm
      · rw [if_neg hit, restored_own]
        exact ⟨fun all => ⟨all, fun found => absurd found fec, fun _ found => absurd found hit⟩, And.left⟩

theorem readNumber_small {value : UInt32} (small : value.toNat < 2 ^ 31) (before : UInt32) :
    readNumber value before = value := if_pos small

/-- A number that is too large is not read as itself over a zero. -/
theorem small_of_readNumber {value : UInt32} (same : readNumber value 0 = value) : value.toNat < 2 ^ 31 := by
  by_contra large
  rw [readNumber, if_neg large] at same
  rw [← same] at large
  exact large (by decide)

theorem recovered_of_scrapable (scrapable : Scrapable status) (before : ActiveInput) (merDb : Option DoubleBits) :
    Recovered status before (taken status before merDb) := by
  have label : ∀ goal ∈ status.target, Restorable goal.label := fun goal there =>
    scrapable.strings _ (.inl (by rw [there]; rfl))
  have service := (seen_iff label).mpr
    ⟨fun text same => scrapable.strings text (.inr (.inl same.symm)), scrapable.serviceName⟩
  have modulation := (seen_iff label).mpr
    ⟨fun text same => scrapable.strings text (.inr (.inr same.symm)), scrapable.modulation⟩
  refine ⟨merDb, ?_⟩
  rw [taken, service, modulation]
  cases written : status.target with
  | none => rfl
  | some goal =>
    obtain ⟨frequency, rate⟩ := scrapable.numbers goal written
    simp only [(restored_iff _).mpr (label goal written), readNumber_small frequency, readNumber_small rate]

/-- An active input of which nothing is known. -/
def unknownInput : ActiveInput := { receiver := {}, target := {}, status := {} }

theorem scrapable_of_recovered {merDb : Option DoubleBits}
    (recovered : Recovered status unknownInput (taken status unknownInput merDb)) : Scrapable status := by
  obtain ⟨other, same⟩ := recovered
  have service : (seen (bytes "serviceName") status.serviceName status.target).map restored = status.serviceName :=
    congrArg (fun input : ActiveInput => input.status.serviceName) same
  have modulation : (seen (bytes "modulation") status.modulation status.target).map restored = status.modulation :=
    congrArg (fun input : ActiveInput => input.status.modulation) same
  have goal_read : ∀ goal ∈ status.target, Restorable goal.label ∧ goal.frequencyKhz.toNat < 2 ^ 31 ∧
      goal.symbolRateKs.toNat < 2 ^ 31 := by
    intro goal mem
    have written : status.target = some goal := mem
    have label : restored goal.label = goal.label := by
      simpa [taken, written] using congrArg (fun input : ActiveInput => input.target.label) same
    have frequency : readNumber goal.frequencyKhz 0 = goal.frequencyKhz := by
      simpa [taken, written, unknownInput] using congrArg (fun input : ActiveInput => input.target.frequencyKhz) same
    have rate : readNumber goal.symbolRateKs 0 = goal.symbolRateKs := by
      simpa [taken, written, unknownInput] using congrArg (fun input : ActiveInput => input.target.symbolRateKs) same
    exact ⟨(restored_iff _).mp label, small_of_readNumber frequency, small_of_readNumber rate⟩
  have label := fun goal written => (goal_read goal written).1
  obtain ⟨service_strings, service_undisturbed⟩ := (seen_iff label).mp service
  obtain ⟨modulation_strings, modulation_undisturbed⟩ := (seen_iff label).mp modulation
  refine ⟨fun text => ?_, fun goal written => (goal_read goal written).2, service_undisturbed, modulation_undisturbed⟩
  rintro (here | here | here)
  · obtain ⟨goal, written, rfl⟩ := Option.map_eq_some_iff.mp here.symm
    exact label goal written
  · exact service_strings text here.symm
  · exact modulation_strings text here.symm

/-- The PC takes from the status text of the Pi what there is to read of the active
receiver, and no other receiver's. -/
theorem details_taken (prints : ∀ number, Scalar (printDouble number))
    (gateway : server.repeaterConfig.mode = bytes "ts-gateway")
    (enabled : ∀ status ∈ server.statuses, ApiServer.receiverEnabled server.repeaterConfig status.receiver = true)
    (distinct : (server.statuses.map (·.receiver)).Nodup) (among : status ∈ server.statuses)
    (active : server.active.map (·.receiver) = some status.receiver) (stod : Bytes → Option DoubleBits) :
    ∃ text, ApiServer.statusJson printDouble systemStats now server = .ok text ∧
      ∀ before, ∃ merDb, applyRemoteReceiverDetails stod before text = .ok (taken status before merDb) := by
  obtain ⟨others, written⟩ := @statusJson_gateway printDouble systemStats now server gateway
  have only : ∀ other ∈ server.statuses, other.receiver = status.receiver → other = status :=
    fun other mem same => List.inj_on_of_nodup_map distinct mem among same
  have number : ApiServer.orNull (fun active : ActiveInput => printInt active.receiver.value.toInt) server.active =
      printInt status.receiver.value.toInt := by
    obtain ⟨input, here, same⟩ := Option.map_eq_some_iff.mp active
    rw [here, ← same]
    rfl
  have balanced : ∀ item ∈ ((server.analogueStatus.filter (·.enabled)).map
      (ApiServer.analogueReceiverJson now server.repeaterConfig)).toList, Balanced (code '[') (code ']') item := by
    intro item mem
    obtain ⟨analogue, -, rfl⟩ := Option.map_eq_some_iff.mp (Option.mem_toList.mp mem)
    exact balanced_analogue _ analogue
  have found := @object_found printDouble now status server.statuses (bytes "\n") prints _ others balanced among only
  rw [number, receiversJson_enabled gateway enabled] at written
  refine ⟨_, written, fun before => ?_⟩
  obtain ⟨merDb, applied⟩ := @applyObject_written printDouble now status prints stod before
  refine ⟨merDb, ?_⟩
  rw [applyRemoteReceiverDetails, if_neg (by simp [object]), found, ok_bind]
  exact applied

/-- The status text recovers the active receiver, whatever the PC had before, exactly
if the receiver is scrapable. -/
theorem status_recovers_iff (printDouble : DoubleBits → Bytes) (systemStats : Bytes → Bytes) (now : Time)
    (stod : Bytes → Option DoubleBits) (server : ApiServer) (status : ReceiverStatus)
    (prints : ∀ number, Scalar (printDouble number)) (gateway : server.repeaterConfig.mode = bytes "ts-gateway")
    (enabled : ∀ status ∈ server.statuses, ApiServer.receiverEnabled server.repeaterConfig status.receiver = true)
    (distinct : (server.statuses.map (·.receiver)).Nodup) (among : status ∈ server.statuses)
    (active : server.active.map (·.receiver) = some status.receiver) :
    (∃ text, ApiServer.statusJson printDouble systemStats now server = .ok text ∧
      ∀ before, ∃ after, applyRemoteReceiverDetails stod before text = .ok after ∧ Recovered status before after) ↔
        Scrapable status := by
  obtain ⟨text, written, taken⟩ :=
    @details_taken printDouble systemStats now server status prints gateway enabled distinct among active stod
  constructor
  · rintro ⟨other, same, recovers⟩
    rw [written] at same
    cases same
    obtain ⟨after, applied, recovered⟩ := recovers unknownInput
    obtain ⟨merDb, first⟩ := taken unknownInput
    rw [first] at applied
    cases applied
    exact scrapable_of_recovered recovered
  · intro scrapable
    refine ⟨text, written, fun before => ?_⟩
    obtain ⟨merDb, applied⟩ := taken before
    exact ⟨_, applied, recovered_of_scrapable scrapable before merDb⟩

/-- A Pi that receives on the second of two receivers, whose service is called so. -/
def receiving (serviceName : Bytes) : ApiServer where
  repeaterConfig := { mode := bytes "ts-gateway" }
  statuses := [{ receiver := ⟨1⟩ }, onAir serviceName]
  active := some { receiver := ⟨2⟩, target := {}, status := onAir serviceName }
where
  onAir (serviceName : Bytes) : ReceiverStatus := {
    receiver := ⟨2⟩, state := .lockedDvbs2
    target := some { frequencyKhz := 10499250, symbolRateKs := 333, label := bytes "QO-100" }
    serviceName := some serviceName, modulation := some (bytes "QPSK") }

theorem receiving_scrapable (serviceName : Bytes) (plain : Restorable serviceName) :
    Scrapable (receiving.onAir serviceName) := by
  have label : Restorable (bytes "QO-100") := by decide
  have modulation : Restorable (bytes "QPSK") := by decide
  have service_hits : ∀ text ∈ ["auto", "QO-100"].map bytes, ¬ Hits (bytes "serviceName") text := by decide
  have modulation_hits : ∀ text ∈ ["auto", "QO-100"].map bytes, ¬ Hits (bytes "modulation") text := by decide
  constructor
  · rintro text (same | same | same)
    · cases same
      exact label
    · cases same
      exact plain
    · cases same
      exact modulation
  · rintro goal ⟨⟩
    exact ⟨by decide, by decide⟩
  · rintro goal ⟨⟩
    exact ⟨fun hit => absurd hit (service_hits _ (by decide)), fun _ hit => absurd hit (service_hits _ (by decide))⟩
  · rintro goal ⟨⟩
    exact ⟨fun hit => absurd hit (modulation_hits _ (by decide)), fun _ hit => absurd hit (modulation_hits _ (by decide))⟩

theorem station_recovered :
    ∃ text, ApiServer.statusJson (fun _ => bytes "7.5") (fun _ => bytes "null") 0 (receiving (bytes "G0ABC")) = .ok text ∧
      ∀ before, ∃ after, applyRemoteReceiverDetails (fun _ => none) before text = .ok after ∧
        Recovered (receiving.onAir (bytes "G0ABC")) before after :=
  (status_recovers_iff (fun _ => bytes "7.5") (fun _ => bytes "null") 0 (fun _ => none) (receiving (bytes "G0ABC"))
    (receiving.onAir (bytes "G0ABC")) (fun _ => by decide) rfl (by decide) (by decide) (by decide) rfl).mpr
      (receiving_scrapable _ (by decide))

/-- A service name that begins with the selection of a character table is not what
is shown. -/
theorem selected_table_shown :
    ¬ ∀ (server : ApiServer) (status : ReceiverStatus), server.repeaterConfig.mode = bytes "ts-gateway" →
      (∀ status ∈ server.statuses, ApiServer.receiverEnabled server.repeaterConfig status.receiver = true) →
      (server.statuses.map (·.receiver)).Nodup → status ∈ server.statuses →
      server.active.map (·.receiver) = some status.receiver →
      ∃ text, ApiServer.statusJson (fun _ => bytes "7.5") (fun _ => bytes "null") 0 server = .ok text ∧
        ∀ before, ∃ after, applyRemoteReceiverDetails (fun _ => none) before text = .ok after ∧
          Recovered status before after := by
  intro always
  obtain ⟨other, same, recovers⟩ := always (receiving (5 :: bytes "BATC")) (receiving.onAir (5 :: bytes "BATC")) rfl
    (by decide) (by decide) (by decide) rfl
  obtain ⟨text, written, taken⟩ := @details_taken (fun _ => bytes "7.5") (fun _ => bytes "null") 0
    (receiving (5 :: bytes "BATC")) (receiving.onAir (5 :: bytes "BATC")) (fun _ => by decide) rfl (by decide) (by decide)
    (by decide) rfl fun _ => none
  rw [written] at same
  cases same
  obtain ⟨after, applied, recovered⟩ := recovers unknownInput
  obtain ⟨merDb, first⟩ := taken unknownInput
  rw [first] at applied
  cases applied
  have plain := (scrapable_of_recovered recovered).strings _ (.inr (.inl rfl))
  exact absurd plain (by decide)

end RemoteReceiver
end WhRepeater
