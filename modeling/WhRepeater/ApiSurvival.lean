import WhRepeater.ApiRequests
import WhRepeater.PiConfigPush
import Mathlib.Data.List.TakeWhile

/-! What a request can do to the thread of the API server. No handler throws, and
a request that is rejected changes nothing; but the length that the headers
declare is counted outside of any handler, and a length of too many digits ends
the process. -/
namespace WhRepeater

open TextScan

namespace ApiServer

variable {arithmetic : Arithmetic} {printRational : Rat → Bytes} {machine : Machine} {server : ApiServer}

/-! ## Queries and bodies -/

theorem completes_requestBody (request : Bytes) : Completes (requestBody request) := by
  unfold requestBody
  cases found : find request headerEnd 0 with
  | none => exact completes_pure none
  | some bodyStart =>
    have bounds := find_bounds found
    exact completes_bind (completes_substrFrom bounds.2) fun _ => completes_pure _

theorem completes_queryItem (item : Bytes) : Completes (queryItem item) := by
  unfold queryItem
  cases found : find item [code '='] 0 with
  | none => exact completes_pure _
  | some equals =>
    have bounds := find_bounds found
    refine completes_bind (completes_substr (Nat.zero_le _) _) fun key => ?_
    exact completes_bind (completes_substrFrom bounds.2) fun _ => completes_pure _

theorem completes_queryFrom (path name : Bytes) (cursor : Nat) : Completes (queryFrom path name cursor) := by
  fun_induction queryFrom path name cursor with
  | case1 cursor inside =>
    refine completes_bind (completes_substrFrom inside) fun item => ?_
    exact completes_bind (completes_queryItem item) fun _ => completes_pure _
  | case2 cursor inside next found ih =>
    refine completes_bind (completes_substr inside _) fun item => ?_
    refine completes_bind (completes_queryItem item) fun pair => ?_
    dsimp only
    split
    · exact completes_pure _
    · exact ih
  | case3 => exact completes_pure none

theorem completes_queryParameter (path : Bytes) (name : String) : Completes (queryParameter path name) := by
  unfold queryParameter
  split
  · exact completes_pure none
  · exact completes_queryFrom path _ _

theorem completes_queryBool (path : Bytes) (name : String) : Completes (queryBool path name) := by
  refine completes_bind (completes_queryParameter path name) fun value => ?_
  cases value with
  | none => exact completes_pure none
  | some value =>
    dsimp only
    repeat' split
    all_goals exact completes_pure _

theorem completes_queryUint32 (path : Bytes) (name : String) : Completes (queryUint32 path name) := by
  refine completes_bind (completes_queryParameter path name) fun value => ?_
  cases value with
  | none => exact completes_pure none
  | some value =>
    dsimp only
    cases strtoul value with
    | none => exact completes_pure none
    | some parsed => exact completes_pure _

theorem completes_jsonBoolValue (value : Bytes) : Completes (jsonBoolValue value) :=
  completes_bind (completes_trimJson value) fun _ => completes_pure _

theorem completes_jsonInt64Value (value : Bytes) : Completes (jsonInt64Value value) :=
  completes_bind (completes_jsonInteger value) fun _ => completes_pure _

theorem completes_unquotedJsonString (value : Bytes) : Completes (unquotedJsonString value) := by
  refine completes_bind (completes_trimJson value) fun trimmed => ?_
  split
  · exact completes_pure []
  · exact completes_pure _

theorem completes_partsFrom (text : Bytes) (start : Nat) : Completes (partsFrom text start) := by
  fun_induction partsFrom text start with
  | case1 start inside => exact completes_bind (completes_substrFrom inside) fun _ => completes_pure _
  | case2 start inside colon found ih =>
    refine completes_bind (completes_substr inside _) fun part => ?_
    exact completes_bind ih fun _ => completes_pure _
  | case3 => exact completes_pure []

theorem completes_parseSeconds (text : Bytes) : Completes (parseSeconds text) := by
  unfold parseSeconds
  cases found : find text [code '.'] 0 with
  | none => exact completes_pure _
  | some dot =>
    have bounds := find_bounds found
    refine completes_bind (completes_substrFrom bounds.2) fun fraction => ?_
    exact completes_bind (completes_substr (Nat.zero_le _) _) fun _ => completes_pure _

theorem completes_parseTimecode (text : Bytes) : Completes (parseTimecode text) := by
  refine completes_bind (completes_trimJson text) fun trimmed => ?_
  split
  · exact completes_pure none
  · refine completes_bind (completes_partsFrom trimmed 0) fun parts => ?_
    split
    · exact completes_pure none
    · exact completes_bind (completes_parseSeconds _) fun _ => completes_pure _

theorem completes_memberValue {read : Bytes → Except String (Option α)} (reads : ∀ value, Completes (read value))
    (body : Bytes) (name : String) : Completes (memberValue body name read) := by
  refine completes_bind (completes_jsonMember body _) fun value => ?_
  cases value with
  | none => exact completes_pure none
  | some value => exact reads value

theorem completes_expandUserPath (home : Option Bytes) (path : Bytes) : Completes (expandUserPath home path) := by
  unfold expandUserPath
  split
  · exact completes_pure path
  · split
    · exact completes_pure _
    · split
      · rename_i long
        exact completes_bind (completes_substrFrom (by omega)) fun _ => completes_pure _
      · exact completes_pure path

/-! ## Handlers -/

theorem completes_readGpio (path : Bytes) : Completes (readGpio machine path) := by
  refine completes_bind (completes_queryParameter path _) fun chip => ?_
  refine completes_bind (completes_queryUint32 path _) fun line => ?_
  refine completes_bind (completes_queryBool path _) fun activeHigh => ?_
  cases line with
  | none => exact completes_pure _
  | some line =>
    dsimp only
    split
    · exact completes_pure _
    · exact completes_pure _

theorem completes_writeGpio (request : Bytes) : Completes (writeGpio machine request) := by
  refine completes_bind (completes_requestBody request) fun body => ?_
  cases body with
  | none => exact completes_pure _
  | some body =>
    refine completes_bind (completes_jsonMember body _) fun chipValue => ?_
    refine completes_bind (completes_memberValue completes_jsonIntValue body _) fun line => ?_
    refine completes_bind (completes_memberValue completes_jsonBoolValue body _) fun activeHigh => ?_
    refine completes_bind (completes_memberValue completes_jsonBoolValue body _) fun active => ?_
    cases line with
    | none => exact completes_pure _
    | some line =>
      cases active with
      | none => exact completes_pure _
      | some active =>
        dsimp only
        split
        · exact completes_pure _
        · cases chipValue with
          | none =>
            refine completes_bind (completes_pure _) fun chip => ?_
            split
            · exact completes_pure _
            · exact completes_pure _
          | some value =>
            refine completes_bind (completes_unquotedJsonString value) fun chip => ?_
            split
            · exact completes_pure _
            · exact completes_pure _

theorem completes_fallbackVideos (path : Bytes) : Completes (fallbackVideos machine server path) := by
  refine completes_bind (completes_queryParameter path _) fun directory => ?_
  exact completes_bind (completes_expandUserPath _ _) fun _ => completes_pure _

/-- An answer is given, and changes nothing if it is a rejection; the configuration
stays one that was loaded. -/
def Answered (arithmetic : Arithmetic) (server : ApiServer) (outcome : Except String (ApiServer × Response)) : Prop :=
  ∃ after response, outcome = .ok (after, response) ∧ (response.rejects → after = server) ∧
    (Loaded arithmetic server.repeaterConfig → Loaded arithmetic after.repeaterConfig)

theorem answered_same (response : Response) : Answered arithmetic server (pure (server, response)) :=
  ⟨server, response, rfl, fun _ => rfl, id⟩

theorem answered_accepted {after : ApiServer}
    (keeps : Loaded arithmetic server.repeaterConfig → Loaded arithmetic after.repeaterConfig) (members : List Bytes) :
    Answered arithmetic server (pure (after, accepted members)) := by
  refine ⟨after, accepted members, rfl, fun rejects => ?_, keeps⟩
  have status : (accepted members).status = 202 := rfl
  rw [Response.rejects, status] at rejects
  omega

theorem answered_bind {first : Except String α} {next : α → Except String (ApiServer × Response)}
    (completes : Completes first) (later : ∀ value, Answered arithmetic server (next value)) :
    Answered arithmetic server (first >>= next) := by
  obtain ⟨value, rfl⟩ := completes
  exact later value

theorem answered_ite {condition : Prop} [Decidable condition] {first second : Except String (ApiServer × Response)}
    (met : Answered arithmetic server first) (unmet : Answered arithmetic server second) :
    Answered arithmetic server (if condition then first else second) := by
  split
  · exact met
  · exact unmet

theorem answered_putConfig (request : Bytes) : Answered arithmetic server (putConfig arithmetic server request) := by
  refine answered_bind (completes_requestBody request) fun body => ?_
  cases body with
  | none => exact answered_same _
  | some body =>
    dsimp only
    rcases read : configFromJson arithmetic body with _ | message | config
    · exact answered_same _
    · exact answered_same _
    · exact answered_accepted (fun _ => Or.inr ⟨body, read⟩) _

theorem answered_playFallback (request : Bytes) : Answered arithmetic server (playFallback server request) := by
  refine answered_bind (completes_requestBody request) fun body => ?_
  have last : ∀ videoPath : Bytes, Answered arithmetic server
      (pure ({ server with pendingFallbackVideo := some videoPath }, accepted [])) := fun _ => answered_accepted (by exact id) _
  cases body with
  | none => exact answered_bind (completes_pure []) last
  | some body =>
    dsimp only
    split
    · exact answered_bind (completes_pure []) last
    · split
      · exact answered_bind (completes_pure []) last
      · split
        · exact answered_bind (completes_pure []) last
        · rename_i firstQuote first
          have bounds := find_bounds first
          split
          · exact answered_bind (completes_pure []) last
          · exact answered_bind (completes_substr bounds.2 _) last

theorem answered_seekFallback (request : Bytes) : Answered arithmetic server (seekFallback server request) := by
  refine answered_bind (completes_requestBody request) fun body => ?_
  cases body with
  | none => exact answered_same _
  | some body =>
    refine answered_bind (completes_memberValue completes_jsonInt64Value body _) fun milliseconds => ?_
    have timecode : Completes (memberValue body "timecode" fun value => do parseTimecode (← unquotedJsonString value)) :=
      completes_memberValue
        (fun value => completes_bind (completes_unquotedJsonString value) completes_parseTimecode) body _
    cases milliseconds with
    | none =>
      refine answered_bind timecode fun position => ?_
      cases position with
      | none => exact answered_same _
      | some position => exact answered_accepted (by exact id) _
    | some parsed => exact answered_accepted (by exact id) _

/-- Every route answers, as far as the configuration can be written. -/
theorem answered_route (printable : Completes (configToJson printRational server.repeaterConfig))
    (request method path : Bytes) :
    Answered arithmetic server (route arithmetic printRational machine server request method path) := by
  refine answered_ite (answered_same _) ?_
  refine answered_ite (answered_bind (completes_statusJson server) fun _ => answered_same _) ?_
  refine answered_ite (answered_same _) ?_
  refine answered_ite (answered_bind printable fun _ => answered_same _) ?_
  refine answered_ite (answered_bind (completes_readGpio path) fun _ => answered_same _) ?_
  refine answered_ite (answered_bind (completes_writeGpio request) fun _ => answered_same _) ?_
  refine answered_ite (answered_same _) ?_
  refine answered_ite (answered_bind (completes_fallbackVideos path) fun _ => answered_same _) ?_
  refine answered_ite (answered_putConfig request) ?_
  refine answered_ite (answered_playFallback request) ?_
  refine answered_ite (answered_accepted (by exact id) _) ?_
  refine answered_ite (answered_seekFallback request) ?_
  refine answered_ite (answered_accepted (by exact id) _) ?_
  refine answered_ite (answered_accepted (by exact id) _) ?_
  -- The services, which are no members.
  iterate 7 refine answered_ite (answered_same _) ?_
  exact answered_same _

theorem answered_answer (printable : Completes (configToJson printRational server.repeaterConfig)) (request : Bytes) :
    Answered arithmetic server (answer arithmetic printRational machine server request) := by
  unfold answer
  dsimp only
  split
  on_goal 1 => refine answered_bind (completes_substrFrom (Nat.zero_le _)) fun requestLine => ?_
  on_goal 2 => refine answered_bind (completes_substr (Nat.zero_le _) _) fun requestLine => ?_
  all_goals
    cases first : find requestLine [32] 0 with
    | none => exact answered_same _
    | some firstSpace =>
      dsimp only
      cases second : find requestLine [32] (firstSpace + 1) with
      | none => exact answered_same _
      | some secondSpace =>
        have bounds := find_bounds first
        refine answered_bind (completes_substr (Nat.zero_le _) _) fun method => ?_
        refine answered_bind (completes_substr bounds.2 _) fun path => ?_
        exact answered_route printable request method path

/-! ## Reading -/

/-- The length that is declared. -/
def declaredLength (request : Bytes) : Nat := digitsValue (contentLengthDigits request)

theorem stoul_digits {digits : Bytes} (all : digits.all isDigit = true) (some : digits ≠ []) :
    stoul digits = if 2 ^ 64 ≤ digitsValue digits then throw "stoul" else pure (UInt64.ofNat (digitsValue digits)) := by
  obtain ⟨first, digits, rfl⟩ := List.exists_cons_of_ne_nil some
  have number : isDigit first = true := by simp_all
  have space : isSpace first = false := JsonParser.not_space_of_digit number
  have minus : first ≠ code '-' := by rintro rfl; cases number
  have plus : first ≠ code '+' := by rintro rfl; cases number
  have kept : (first :: digits).dropWhile isSpace = first :: digits := by simp [space]
  have whole : (first :: digits).takeWhile isDigit = first :: digits := List.takeWhile_eq_self_iff.mpr (by simpa using all)
  simp [stoul, kept, whole, minus, plus]

/-- The number from a position on, behind white space. -/
theorem digitsFrom {request : Bytes} {header : Nat} (within : header ≤ request.length) :
    (let start := header + ((request.drop header).takeWhile isSpace).length
     let ends := start + ((request.drop start).takeWhile isDigit).length
     if ends = start then return 0 else do stoul (← substr request start (ends - start))) =
      (let value := digitsValue (((request.drop header).dropWhile isSpace).takeWhile isDigit)
       if 2 ^ 64 ≤ value then throw "stoul" else pure (UInt64.ofNat value)) := by
  have blank : request.drop (header + ((request.drop header).takeWhile isSpace).length) =
      (request.drop header).dropWhile isSpace := by
    rw [← List.drop_drop, drop_takeWhile]
  have short : header + ((request.drop header).takeWhile isSpace).length ≤ request.length := by
    have : ((request.drop header).takeWhile isSpace).length ≤ (request.drop header).length :=
      List.IsPrefix.length_le <| List.takeWhile_prefix isSpace
    rw [List.length_drop] at this
    omega
  dsimp only
  rw [blank]
  by_cases absent : ((request.drop header).dropWhile isSpace).takeWhile isDigit = []
  · rw [absent, if_pos (by rfl)]
    rfl
  · have some := List.length_pos_of_ne_nil absent
    rw [if_neg (by omega), substr_ok short, blank, Nat.add_sub_cancel_left,
      ← List.prefix_iff_eq_take.mp ( List.takeWhile_prefix isDigit)]
    exact stoul_digits List.all_takeWhile absent

theorem contentLength_eq (request : Bytes) :
    contentLength request =
      if 2 ^ 64 ≤ declaredLength request then throw "stoul" else pure (UInt64.ofNat (declaredLength request)) := by
  unfold contentLength declaredLength contentLengthDigits
  cases there : find request (bytes "Content-Length:") 0 with
  | none => rfl
  | some position => exact digitsFrom (find_bounds there).2

/-- The headers are there, and as much behind them as they declare. -/
def Complete (request : Bytes) : Prop :=
  ∃ bodyStart, find request headerEnd 0 = some bodyStart ∧ declaredLength request ≤ request.length - (bodyStart + 4)

/-- The headers are there, and declare what a `std::size_t` does not hold. -/
def Overlong (request : Bytes) : Prop := (find request headerEnd 0).isSome ∧ 2 ^ 64 ≤ declaredLength request

/-- Whatever comes of the chunks before the request is complete, or completes it,
declares a length that can be counted. -/
def Countable (received : Bytes) (chunks : List Bytes) : Prop :=
  ∀ front, front <+: chunks → front ≠ [] → [] ∉ front →
    (∀ earlier, earlier <+: front → earlier ≠ [] → earlier ≠ front → ¬ Complete (received ++ earlier.flatten)) →
      ¬ Overlong (received ++ front.flatten)

variable {received chunk : Bytes} {chunks : List Bytes}

theorem countable_ended (chunks : List Bytes) : Countable received ([] :: chunks) := by
  intro front within some nonempty
  cases front with
  | nil => exact absurd rfl some
  | cons first front =>
    have same : first = [] := (List.cons_prefix_cons.mp within).1
    exact absurd (same ▸ List.mem_cons_self) nonempty

/-- One chunk that is no end, and what comes behind it if the request is not complete. -/
theorem countable_cons (some : chunk ≠ []) : Countable received (chunk :: chunks) ↔
    ¬ Overlong (received ++ chunk) ∧ (¬ Complete (received ++ chunk) → Countable (received ++ chunk) chunks) := by
  constructor
  · intro countable
    constructor
    · have alone := countable [chunk] ⟨chunks, rfl⟩ (by simp) (by simpa using some.symm)
      rw [List.flatten_singleton] at alone
      refine alone fun earlier within nonempty less => ?_
      cases earlier with
      | nil => exact absurd rfl nonempty
      | cons first earlier =>
        obtain ⟨rfl, rest⟩ := List.cons_prefix_cons.mp within
        exact absurd (by rw [List.prefix_nil.mp rest]) less
    · intro incomplete front within nonempty ends before
      have longer := countable (chunk :: front) (List.cons_prefix_cons.mpr ⟨rfl, within⟩) (by simp)
        (by simpa using ⟨some, ends⟩)
      rw [List.flatten_cons, ← List.append_assoc] at longer
      refine longer fun earlier shorter _ less => ?_
      cases earlier with
      | nil => contradiction
      | cons first earlier =>
        obtain ⟨rfl, rest⟩ := List.cons_prefix_cons.mp shorter
        rw [List.flatten_cons, ← List.append_assoc]
        by_cases empty : earlier = []
        · rwa [empty, List.flatten_nil, List.append_nil]
        · exact before earlier rest empty fun same => less (by rw [same])
  · rintro ⟨alone, later⟩ front within nonempty ends before
    cases front with
    | nil => exact absurd rfl nonempty
    | cons first front =>
      obtain ⟨rfl, rest⟩ := List.cons_prefix_cons.mp within
      rw [List.flatten_cons, ← List.append_assoc]
      by_cases empty : front = []
      · rwa [empty, List.flatten_nil, List.append_nil]
      · have incomplete := before [first] ⟨front, rfl⟩ (by simp) (by simpa using Ne.symm empty)
        rw [List.flatten_singleton] at incomplete
        refine later incomplete front rest empty (List.not_mem_of_not_mem_cons ends) fun earlier shorter some less => ?_
        have longer := before (first :: earlier) (List.cons_prefix_cons.mpr ⟨rfl, shorter⟩) (by simp) (by simpa using less)
        rwa [List.flatten_cons, ← List.append_assoc] at longer

theorem not_completes_throw (message : String) : ¬ Completes (throw message : Except String α) := by
  rintro ⟨_, completed⟩
  cases completed

/-- The request is read exactly if its lengths can be counted. -/
theorem readHttpRequest_completes_iff (received : Bytes) (chunks : List Bytes) :
    Completes (readHttpRequest received chunks) ↔ Countable received chunks := by
  induction chunks generalizing received with
  | nil => exact ⟨fun _ front within some => absurd (List.prefix_nil.mp within) some, fun _ => completes_pure received⟩
  | cons chunk chunks ih =>
    cases chunk with
    | nil => exact ⟨fun _ => countable_ended chunks, fun _ => completes_pure received⟩
    | cons ch chunk =>
      rw [countable_cons (List.cons_ne_nil ch chunk), readHttpRequest.eq_3 _ _ _ (List.cons_ne_nil ch chunk)]
      generalize received ++ ch :: chunk = received
      cases headers : find received headerEnd 0 with
      | none =>
        have countable : ¬ Overlong received := by simp [Overlong, headers]
        have incomplete : ¬ Complete received := by simp [Complete, headers]
        simpa [countable, incomplete] using ih received
      | some bodyStart =>
        simp only [contentLength_eq]
        by_cases overlong : 2 ^ 64 ≤ declaredLength received
        · have never : Overlong received := ⟨by rw [headers]; rfl, overlong⟩
          simp only [if_pos overlong, never, not_true, false_and, iff_false]
          exact not_completes_throw _
        · have countable : ¬ Overlong received := fun never => overlong never.2
          have same : (UInt64.ofNat (declaredLength received)).toNat = declaredLength received := by
            rw [UInt64.toNat_ofNat']
            exact Nat.mod_eq_of_lt (Nat.not_le.mp overlong)
          rw [if_neg overlong]
          simp only [pure_bind, same]
          by_cases complete : declaredLength received ≤ received.length - (bodyStart + 4)
          · have done : Complete received := ⟨bodyStart, headers, complete⟩
            simp only [if_pos complete, countable, done, not_true, false_implies, not_false_iff, and_self, iff_true]
            exact completes_pure received
          · have incomplete : ¬ Complete received := by
              rintro ⟨position, found, enough⟩
              rw [headers] at found
              cases found
              exact complete enough
            simpa [complete, countable, incomplete] using ih received

/-! ## The thread -/

theorem completes_configToJson (loaded : Loaded arithmetic server.repeaterConfig) :
    Completes (configToJson printRational server.repeaterConfig) := by
  obtain ⟨root, read⟩ := loaded.read
  obtain ⟨mux, video, mux_calculated, video_calculated⟩ := rates_of_config read
  exact ⟨_, by rw [configToJson, mux_calculated, video_calculated]; rfl⟩

/-- A client whose lengths can be counted is answered, unless it sent nothing. -/
theorem handleClient_answers (loaded : Loaded arithmetic server.repeaterConfig) (countable : Countable [] chunks) :
    ∃ after response, handleClient arithmetic printRational machine server chunks = .ok (after, response) ∧
      (∀ rejected ∈ response, rejected.rejects → after = server) ∧ Loaded arithmetic after.repeaterConfig := by
  obtain ⟨request, read⟩ := (readHttpRequest_completes_iff [] chunks).mpr countable
  by_cases empty : request = []
  · refine ⟨server, none, ?_, nofun, loaded⟩
    rw [handleClient, read]
    simp only [ok_bind, if_pos empty]
    rfl
  · obtain ⟨after, response, answered, keeps, stays⟩ :=
      @answered_answer arithmetic printRational machine server (completes_configToJson loaded) request
    refine ⟨after, some response, ?_, fun rejected same => ?_, stays loaded⟩
    · rw [handleClient, read]
      simp only [ok_bind, if_neg empty, answered]
      rfl
    · cases same
      exact keeps

theorem handleClient_throws (uncountable : ¬ Countable [] chunks) :
    ∃ message, handleClient arithmetic printRational machine server chunks = .error message := by
  cases read : readHttpRequest [] chunks with
  | ok request => exact absurd ((readHttpRequest_completes_iff [] chunks).mp ⟨request, read⟩) uncountable
  | error message => exact ⟨message, by rw [handleClient, read]; rfl⟩

/-- The thread outlives its clients exactly if every length they declare can be
counted, and then no request that is rejected changes a member. -/
theorem serve_survives_iff (arithmetic : Arithmetic) (printRational : Rat → Bytes) (server : ApiServer)
    (events : List Event) (loaded : Loaded arithmetic server.repeaterConfig)
    (others : ∀ written, .others written ∈ events → Loaded arithmetic written.repeaterConfig) :
    (∃ exchanges, serve arithmetic printRational server events = .ok exchanges ∧
      ∀ exchange ∈ exchanges, ∀ response ∈ exchange.response, response.rejects → exchange.after = exchange.before) ↔
        ∀ machine chunks, .client machine chunks ∈ events → Countable [] chunks := by
  induction events generalizing server with
  | nil => exact ⟨fun _ _ _ mem => absurd mem List.not_mem_nil, fun _ => ⟨[], rfl, fun _ mem => absurd mem List.not_mem_nil⟩⟩
  | cons event events ih =>
    have rest := fun written mem => others written (List.mem_cons_of_mem event mem)
    cases event with
    | others written =>
      rw [serve, ih written (others written List.mem_cons_self) rest]
      refine ⟨fun each machine chunks mem => ?_,
        fun each machine chunks mem => each machine chunks (List.mem_cons_of_mem _ mem)⟩
      rcases List.mem_cons.mp mem with same | mem
      · cases same
      · exact each machine chunks mem
    | client machine chunks =>
      rw [serve]
      by_cases countable : Countable [] chunks
      · obtain ⟨after, response, handled, keeps, stays⟩ :=
          @handleClient_answers arithmetic printRational machine server chunks loaded countable
        have later := ih after stays rest
        rw [handled, ok_bind]
        dsimp only
        constructor
        · rintro ⟨exchanges, all, kept⟩ other sent mem
          obtain ⟨served, finished, same⟩ := bind_eq_ok.mp all
          cases same
          rcases List.mem_cons.mp mem with same | mem
          · cases same
            exact countable
          · exact later.mp ⟨served, finished, fun exchange mem => kept exchange (List.mem_cons_of_mem _ mem)⟩ other sent mem
        · intro each
          obtain ⟨exchanges, served, kept⟩ :=
            later.mpr fun other sent mem => each other sent (List.mem_cons_of_mem _ mem)
          refine ⟨⟨server, response, after⟩ :: exchanges, ?_, List.forall_mem_cons.mpr ⟨keeps, kept⟩⟩
          rw [served]
          rfl
      · obtain ⟨message, thrown⟩ :=
          @handleClient_throws arithmetic printRational machine server chunks countable
        rw [thrown]
        refine ⟨?_, fun each => absurd (each machine chunks List.mem_cons_self) countable⟩
        rintro ⟨_, served, -⟩
        cases served

/-- A machine without lines, files or services. -/
def bare : Machine where
  now := 0
  home := none
  systemStats _ := bytes "null"
  printDouble _ := bytes "0"
  gpioReadLine _ _ _ := .error (bytes "open")
  gpioWriteLine _ _ _ _ := some (bytes "open")
  directory _ := ([], none)
  serviceActive _ := false
  serviceAction _ _ := 1
  restartService _ := some (bytes "connect")

/-- An answer with 404. -/
theorem unknown_path_survived :
    ∃ exchanges, serve wrapping printShort { repeaterConfig := defaultConfig }
      [.client bare [bytes "GET /nowhere", bytes " HTTP/1.1\r\n\r\n"]] = .ok exchanges ∧
      ∀ exchange ∈ exchanges, ∀ response ∈ exchange.response, response.rejects → exchange.after = exchange.before := by
  refine (serve_survives_iff _ _ _ _ (.inl rfl) fun written mem => ?_).mpr fun machine chunks mem => ?_
  · cases List.mem_singleton.mp mem
  · cases List.mem_singleton.mp mem
    exact (readHttpRequest_completes_iff [] _).mp ⟨_, rfl⟩

/-- A question for the health of the process ends it. -/
theorem overlong_length_ends :
    ¬ ∀ events : List Event, (∀ event ∈ events, ∃ machine chunks, event = .client machine chunks) →
      ∃ exchanges, serve wrapping printShort { repeaterConfig := defaultConfig } events = .ok exchanges ∧
        ∀ exchange ∈ exchanges, ∀ response ∈ exchange.response, response.rejects → exchange.after = exchange.before := by
  intro always
  obtain ⟨exchanges, served, -⟩ := always
    [.client bare [bytes "GET /api/health HTTP/1.1\r\nContent-Length: 99999999999999999999\r\n\r\n"]]
    fun event mem => ⟨_, _, List.mem_singleton.mp mem⟩
  have thrown : serve wrapping printShort { repeaterConfig := defaultConfig }
    [.client bare [bytes "GET /api/health HTTP/1.1\r\nContent-Length: 99999999999999999999\r\n\r\n"]] =
      .error "stoul" := by rfl
  rw [thrown] at served
  cases served

end ApiServer
end WhRepeater
