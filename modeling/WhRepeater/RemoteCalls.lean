import WhRepeater.LineTexts
import WhRepeater.Outcomes
import WhRepeater.PartialReplies

/-! A call of the Pi's API from the PC, over the network: the text of the request
(`GatewayStatusClient::request`), what the server makes of it, and what the PC makes of
the response. -/
namespace WhRepeater

open TextScan LineTexts Outcomes
open ApiServer (headerEnd IsHead lengthHeader Response route requestBody readHttpRequest handleClient answer)

def crlf : Bytes := bytes "\r\n"

/-- The first line ends where it does. -/
theorem find_crlf {line : Bytes} (plain : 13 ∉ line) (rest : Bytes) : find (line ++ (crlf ++ rest)) crlf 0 = some line.length := by
  have feed : crlf = [13, 10] := by decide
  have passes := indexOf_passes plain [10] (crlf ++ rest)
  rw [← feed] at passes
  rw [find_zero, passes]
  simp [feed, indexOf_cons, List.isPrefixOf]

namespace GatewayStatusClient

def get : Bytes := bytes "GET"
def put : Bytes := bytes "PUT"
def post : Bytes := bytes "POST"
def json : Bytes := bytes "application/json"

def requestText (address method path body contentType : Bytes) : Bytes :=
  method ++ bytes " " ++ path ++ bytes " HTTP/1.1\r\n" ++
    (bytes "Host: " ++ address ++ bytes "\r\n") ++
    bytes "Connection: close\r\n" ++
    (if body ≠ [] ∨ method = put ∨ method = post then
      bytes "Content-Length: " ++ printNat body.length ++ bytes "\r\n" ++
        (if contentType ≠ [] then bytes "Content-Type: " ++ contentType ++ bytes "\r\n" else [])
    else []) ++
    (bytes "\r\n" ++ body)

/-! ## Heads -/

def requestLine (method path : Bytes) : Bytes := method ++ 32 :: (path ++ 32 :: bytes "HTTP/1.1")

/-- Behind the first line. -/
def headers (address method body contentType : Bytes) : List Bytes :=
  (bytes "Host: " ++ address) :: bytes "Connection: close" ::
    if body ≠ [] ∨ method = put ∨ method = post then
      (lengthHeader ++ 32 :: printNat body.length) :: if contentType ≠ [] then [bytes "Content-Type: " ++ contentType] else []
    else []

def requestHead (address method path body contentType : Bytes) : Bytes :=
  lines crlf (requestLine method path) (headers address method body contentType)

variable {address method path body contentType text first : Bytes} {rest : List Bytes}

theorem requestText_head (address method path body contentType : Bytes) :
    requestText address method path body contentType = requestHead address method path body contentType ++ headerEnd ++ body := by
  have ends : headerEnd = crlf ++ crlf := by decide
  have host : ∀ more, crlf ++ (bytes "Host: " ++ more) = bytes "\r\n" ++ (bytes "Host: " ++ more) := fun _ => rfl
  have length : bytes "Content-Length: " = lengthHeader ++ [32] := by decide
  have version : bytes " HTTP/1.1\r\n" = 32 :: bytes "HTTP/1.1" ++ crlf := by decide
  have blank : bytes " " = [32] := by decide
  have close : bytes "Connection: close\r\n" = bytes "Connection: close" ++ crlf := by decide
  rw [requestText, requestHead, requestLine, headers, lines, ends, length, version, blank, close]
  split_ifs <;> simp [crlf]

/-- Lines that are not empty, and have no end of a line in them, are a head. -/
theorem isHead_lines (plain : ∀ line ∈ first :: rest, 13 ∉ line) (some : ∀ line ∈ rest, line ≠ []) : IsHead (lines crlf first rest) := by
  have ends : headerEnd = [13, 10, 13, 10] := by decide
  have feed : crlf = [13, 10] := by decide
  obtain ⟨here, others⟩ := List.forall_mem_cons.mp plain
  rw [IsHead, find_zero]
  induction rest generalizing first with
  | nil =>
    have found := indexOf_passes here [10, 13, 10] headerEnd
    rw [← ends] at found
    rw [lines, List.flatMap_nil, List.append_nil, found]
    simp [ends, indexOf_cons, List.isPrefixOf]
  | cons next rest ih =>
    obtain ⟨next_plain, rest_plain⟩ := List.forall_mem_cons.mp others
    obtain ⟨next_some, rest_some⟩ := List.forall_mem_cons.mp some
    have found := ih others rest_some next_plain rest_plain
    have more : (lines crlf next rest ++ headerEnd).head? ≠ Option.some 13 := by
      obtain ⟨ch, next, rfl⟩ := List.exists_cons_of_ne_nil next_some
      intro same
      exact next_plain (Option.some.inj same ▸ List.mem_cons_self)
    have text : lines crlf first (next :: rest) ++ headerEnd = first ++ 13 :: 10 :: (lines crlf next rest ++ headerEnd) := by
      rw [lines_cons, feed]
      simp only [List.append_assoc, List.cons_append, List.nil_append]
    rw [text, indexOf_line here more, found, lines_cons, feed]
    simp only [Option.map_some, List.length_append, List.length_cons, List.length_nil, Option.some.injEq]
    omega

/-- A text in which no line ends, and no length is announced. -/
structure Plain (text : Bytes) : Prop where
  line : 13 ∉ text
  silent : ¬ lengthHeader <:+: text

/-- What the PC asks with. -/
structure Callable (address method path contentType : Bytes) : Prop where
  address : Plain address
  method : Plain method ∧ 32 ∉ method
  path : Plain path ∧ 32 ∉ path
  contentType : Plain contentType

theorem Plain.behind (plain : Plain text) {front : Bytes} (own : Plain front) : Plain (front ++ 32 :: text) := by
  constructor
  · rw [List.mem_append, List.mem_cons, not_or, not_or]
    exact ⟨own.line, by decide, plain.line⟩
  · have separate := @infix_separator _ lengthHeader front text [32] (by decide +kernel) (by decide) (by decide)
    rw [List.singleton_append] at separate
    rw [separate, not_or]
    exact ⟨own.silent, plain.silent⟩

theorem plain_literal {text : Bytes} (line : 13 ∉ text) (silent : ¬ lengthHeader <:+: text) : Plain text := ⟨line, silent⟩

theorem plain_requestLine (callable : Callable address method path contentType) : Plain (requestLine method path) := by
  have version : Plain (bytes "HTTP/1.1") := ⟨by decide, by decide⟩
  exact (version.behind callable.path.1).behind callable.method.1

theorem plain_host (callable : Callable address method path contentType) : Plain (bytes "Host: " ++ address) := by
  have name : Plain (bytes "Host:") := ⟨by decide, by decide⟩
  have split : bytes "Host: " ++ address = bytes "Host:" ++ 32 :: address := by
    rw [show bytes "Host: " = bytes "Host:" ++ [32] by decide, List.append_assoc, List.singleton_append]
  rw [split]
  exact callable.address.behind name

theorem plain_contentType (callable : Callable address method path contentType) : Plain (bytes "Content-Type: " ++ contentType) := by
  have name : Plain (bytes "Content-Type:") := ⟨by decide, by decide⟩
  have split : bytes "Content-Type: " ++ contentType = bytes "Content-Type:" ++ 32 :: contentType := by
    rw [show bytes "Content-Type: " = bytes "Content-Type:" ++ [32] by decide, List.append_assoc, List.singleton_append]
  rw [split]
  exact callable.contentType.behind name

theorem plain_close : Plain (bytes "Connection: close") := ⟨by decide, by decide⟩

theorem length_line (length : Nat) : 13 ∉ lengthHeader ++ 32 :: printNat length := by
  rw [List.mem_append, List.mem_cons, not_or, not_or]
  exact ⟨by decide, by decide, not_mem_digits (JsonParser.isDigit_printNat length) rfl⟩

theorem requestHead_isHead (callable : Callable address method path contentType) (body : Bytes) :
    IsHead (requestHead address method path body contentType) := by
  have each : ∀ line ∈ headers address method body contentType, 13 ∉ line ∧ line ≠ [] := by
    unfold headers
    simp only [List.forall_mem_cons]
    refine ⟨⟨(plain_host callable).line, List.append_ne_nil_of_left_ne_nil (by decide) _⟩, ⟨plain_close.line, by decide⟩, ?_⟩
    split
    · simp only [List.forall_mem_cons]
      refine ⟨⟨length_line body.length, List.append_ne_nil_of_left_ne_nil (by decide) _⟩, ?_⟩
      split
      · exact List.forall_mem_singleton.mpr ⟨(plain_contentType callable).line, List.append_ne_nil_of_left_ne_nil (by decide) _⟩
      · exact List.forall_mem_nil _
    · exact List.forall_mem_nil _
  refine isHead_lines (List.forall_mem_cons.mpr ⟨(plain_requestLine callable).line, fun line among => (each line among).1⟩) ?_
  exact fun line among => (each line among).2

theorem crlf_foreign : ∀ stop ∈ crlf, stop ∉ lengthHeader := by decide +kernel

/-- The text of a length is at the beginning of its line only. -/
theorem once_in_length (length : Nat) {other later : Bytes}
    (same : lengthHeader ++ 32 :: printNat length = other ++ lengthHeader ++ later) : other = [] := by
  cases other with
  | nil => rfl
  | cons first others =>
    have header : lengthHeader = code 'C' :: bytes "ontent-Length:" := by decide
    have tail : bytes "ontent-Length:" ++ 32 :: printNat length = others ++ lengthHeader ++ later := by
      rw [header] at same ⊢
      exact (List.cons.inj same).2
    have among : code 'C' ∈ bytes "ontent-Length:" ++ 32 :: printNat length := by
      rw [tail, header]
      simp
    rcases List.mem_append.mp among with name | value
    · exact absurd name (by decide)
    · rcases List.mem_cons.mp value with blank | digit
      · exact absurd blank (by decide)
      · exact absurd digit (not_mem_digits (JsonParser.isDigit_printNat length) rfl)

/-- A request with a body, or that puts or posts, announces the length of its body. -/
theorem announces_length (callable : Callable address method path contentType) (body : Bytes)
    (sent : body ≠ [] ∨ method = put ∨ method = post) :
    ApiServer.Announces (requestHead address method path body contentType) body.length := by
  have before : ∀ line ∈ requestLine method path :: [bytes "Host: " ++ address, bytes "Connection: close"],
      ¬ lengthHeader <:+: line := by
    simp only [List.forall_mem_cons]
    exact ⟨(plain_requestLine callable).silent, (plain_host callable).silent, plain_close.silent, List.forall_mem_nil _⟩
  obtain ⟨behind, text, behind_silent, typed⟩ : ∃ behind : List Bytes,
      requestHead address method path body contentType = lines crlf (requestLine method path)
        ([bytes "Host: " ++ address, bytes "Connection: close"] ++ (lengthHeader ++ 32 :: printNat body.length) :: behind) ∧
      (∀ line ∈ behind, ¬ lengthHeader <:+: line) ∧ (behind = [] ∨ behind = [bytes "Content-Type: " ++ contentType]) := by
    rw [requestHead, headers, if_pos sent]
    split
    · exact ⟨_, rfl, List.forall_mem_singleton.mpr (plain_contentType callable).silent, .inr rfl⟩
    · exact ⟨_, rfl, List.forall_mem_nil _, .inl rfl⟩
  refine ⟨lines crlf (requestLine method path) [bytes "Host: " ++ address, bytes "Connection: close"] ++ crlf, [32],
    printNat body.length, behind.flatMap (crlf ++ ·), ?_, ?_, rfl, JsonParser.isDigit_printNat _, JsonParser.printNat_ne_nil _, ?_,
    JsonParser.digitsValue_printNat _⟩
  · rw [text, lines_through]
    simp only [lines, List.append_assoc, List.cons_append, List.nil_append]
  · intro other later same
    rw [text] at same
    exact once_in_lines crlf_foreign (by decide) (by decide) (fun _ _ => once_in_length body.length) before behind_silent same
  · intro next among
    rcases typed with rfl | rfl
    · cases among
    · have first : next = 13 := (Option.some.inj among).symm
      rw [first]
      decide

/-- A request without one announces none. -/
theorem silent_head (callable : Callable address method path contentType) (sent : ¬ (body ≠ [] ∨ method = put ∨ method = post)) :
    ApiServer.Silent (requestHead address method path body contentType) := by
  have none : ¬ lengthHeader <:+: requestHead address method path body contentType := by
    rw [requestHead, infix_lines crlf_foreign (by decide) (by decide), headers, if_neg sent]
    rintro ⟨line, among, inside⟩
    simp only [List.mem_cons, List.not_mem_nil, or_false] at among
    rcases among with rfl | rfl | rfl
    · exact (plain_requestLine callable).silent inside
    · exact (plain_host callable).silent inside
    · exact plain_close.silent inside
  exact fun other later same => none ⟨other, later, same.symm⟩

variable {chunks : List Bytes}

/-- However the request is cut into chunks, the server reads all of it. -/
theorem request_read (callable : Callable address method path contentType) (short : body.length < 2 ^ 64)
    (nonempty : ∀ chunk ∈ chunks, chunk ≠ []) (whole : chunks.flatten = requestText address method path body contentType) :
    readHttpRequest [] chunks = .ok (requestText address method path body contentType) := by
  have isHead := requestHead_isHead callable body
  rw [requestText_head] at whole
  have returns : ApiServer.Returns chunks := by
    by_cases sent : body ≠ [] ∨ method = put ∨ method = post
    · exact ApiServer.announced_returns isHead nonempty (announces_length callable body sent) short whole
    · have none : body = [] := not_not.mp (not_or.mp sent).1
      rcases List.eq_nil_or_concat chunks with rfl | ⟨front, last, rfl⟩
      · have lengths := congrArg List.length whole
        simp only [List.flatten_nil, List.length_append, List.length_nil, ApiServer.headerEnd_length] at lengths
        omega
      rw [List.concat_eq_append] at nonempty whole ⊢
      have some := List.length_pos_iff.mpr (nonempty last (by simp))
      have completed : ApiServer.HeadCompleted (requestHead address method path body contentType) (front ++ [last]) [] :=
        ⟨front, last, rfl, by rw [whole, none], some⟩
      exact (ApiServer.silent_returns_iff isHead nonempty (silent_head callable sent) (by decide) completed).mpr (by decide)
  have read := returns []
  rwa [List.append_nil, whole, ← requestText_head] at read

theorem request_body (callable : Callable address method path contentType) :
    requestBody (requestText address method path body contentType) = .ok (some body) := by
  have found := ApiServer.find_head (requestHead_isHead callable body) body
  rw [requestText_head, requestBody, found]
  dsimp only
  have within : (requestHead address method path body contentType).length + 4 ≤
      (requestHead address method path body contentType ++ headerEnd ++ body).length := by
    simp [ApiServer.headerEnd_length]
  have behind : (requestHead address method path body contentType ++ headerEnd ++ body).drop
      ((requestHead address method path body contentType).length + 4) = body :=
    List.drop_left' (by simp [ApiServer.headerEnd_length])
  rw [substrFrom_ok within, behind]
  rfl

/-! ## Routes -/

variable {arithmetic : Arithmetic} {printRational : Rat → Bytes} {machine : ApiServer.Machine} {server : ApiServer}

/-- The first line of the request has its method and its path. -/
theorem answer_request (callable : Callable address method path contentType) (body : Bytes) :
    answer arithmetic printRational machine server (requestText address method path body contentType) =
      route arithmetic printRational machine server (requestText address method path body contentType) method path := by
  have line : (requestText address method path body contentType) = requestLine method path ++ (crlf ++
      (((bytes "Host: " ++ address) ++ ((headers address method body contentType).tail.flatMap (crlf ++ ·))) ++ headerEnd ++ body)) := by
    rw [requestText_head, requestHead, lines, headers]
    simp only [List.flatMap_cons, List.append_assoc, List.tail_cons]
  generalize requestText address method path body contentType = request at line ⊢
  have found : find request crlf 0 = some (requestLine method path).length := by
    rw [line]
    exact find_crlf (plain_requestLine callable).line _
  have method_end : find (requestLine method path) [32] 0 = some method.length := by
    have first := @find_separator method [] (path ++ 32 :: bytes "HTTP/1.1") 32 callable.method.2
    rwa [List.nil_append, List.length_nil, Nat.zero_add] at first
  have path_end : find (requestLine method path) [32] (method.length + 1) = some (method.length + 1 + path.length) := by
    have second := @find_separator path (method ++ [32]) (bytes "HTTP/1.1") 32 callable.path.2
    rw [List.append_assoc, List.singleton_append, List.length_append, List.length_singleton] at second
    exact second
  have first_line : (request.drop 0).take (requestLine method path).length = requestLine method path := by
    rw [List.drop_zero, line]
    exact List.take_left' rfl
  have before : ((requestLine method path).drop 0).take method.length = method := List.take_left' rfl
  have between : ((requestLine method path).drop (method.length + 1)).take
      (method.length + 1 + path.length - method.length - 1) = path := by
    have size : method.length + 1 + path.length - method.length - 1 = path.length := by omega
    rw [size, requestLine, List.append_cons, List.drop_left' (by simp)]
    exact List.take_left' rfl
  have feeds : bytes "\r\n" = crlf := rfl
  have inside : method.length + 1 ≤ (requestLine method path).length := by
    simp [requestLine]
  rw [answer, feeds, found]
  dsimp only
  rw [substr_ok (Nat.zero_le _), first_line]
  simp only [ok_bind, method_end, path_end]
  rw [substr_ok (Nat.zero_le _), before, substr_ok inside, between]
  rfl

/-- The server answers the request as a call of the route, whatever the network did to it. -/
theorem handleClient_request (callable : Callable address method path contentType) (short : body.length < 2 ^ 64)
    (nonempty : ∀ chunk ∈ chunks, chunk ≠ []) (whole : chunks.flatten = requestText address method path body contentType)
    {after : ApiServer} {response : Response}
    (routed : route arithmetic printRational machine server (requestText address method path body contentType) method path =
      .ok (after, response)) :
    handleClient arithmetic printRational machine server chunks = .ok (after, some response) := by
  have some : requestText address method path body contentType ≠ [] := by
    have head := requestText_head address method path body contentType
    intro none
    have lengths := congrArg List.length (none.symm.trans head)
    simp only [List.length_nil, List.length_append, ApiServer.headerEnd_length] at lengths
    omega
  rw [handleClient, request_read callable short nonempty whole]
  simp only [ok_bind, if_neg some, answer_request callable, routed]
  rfl

end GatewayStatusClient

/-! ## Responses -/

namespace ApiServer

/-- What the server answers with. -/
def statusLines : List (Nat × String) := [(200, "OK"), (202, "Accepted"), (400, "Bad Request"), (404, "Not Found"),
  (405, "Method Not Allowed"), (409, "Conflict"), (500, "Internal Server Error"), (502, "Bad Gateway")]

def Response.Known (response : Response) : Prop := (response.status, response.reason) ∈ statusLines

/-- The bytes that the server writes. -/
def Response.sent (response : Response) : Bytes :=
  writeResponse (toString response.status ++ " " ++ response.reason) "application/json" response.body

variable {arithmetic : Arithmetic} {printRational : Rat → Bytes} {machine : Machine} {server : ApiServer}

theorem known_ok (body : Bytes) : (ok body).Known := by simp [Response.Known, statusLines, ok]
theorem known_accepted (members : List Bytes) : (accepted members).Known := by simp [Response.Known, statusLines, accepted]
theorem known_badRequest (message : String) : (badRequest message).Known := by simp [Response.Known, statusLines, badRequest]
theorem known_failure (message : Bytes) : (failure message).Known := by simp [Response.Known, statusLines, failure]

theorem readGpio_known (path : Bytes) : Yields (readGpio machine path) Response.Known := by
  unfold readGpio
  refine yields_bind fun chip _ => yields_bind fun line _ => yields_bind fun activeHigh _ => ?_
  cases line with
  | none => exact yields_pure (known_badRequest _)
  | some line =>
    dsimp only
    split
    · exact yields_pure (known_failure _)
    · exact yields_pure (known_ok _)

theorem writeGpio_known (request : Bytes) : Yields (writeGpio machine request) Response.Known := by
  unfold writeGpio
  refine yields_bind fun body _ => ?_
  cases body with
  | none => exact yields_pure (known_badRequest _)
  | some body =>
    refine yields_bind fun chipValue _ => yields_bind fun line _ => yields_bind fun activeHigh _ => yields_bind fun active _ => ?_
    dsimp only
    split
    · refine yields_ite (fun _ => yields_pure (known_badRequest _)) fun _ => ?_
      -- With a chip that was given, and with the default.
      cases chipValue <;>
        refine yields_bind fun chip _ => ?_ <;>
        split
      all_goals first | exact yields_pure (known_failure _) | exact yields_pure (known_accepted _)
    · exact yields_pure (known_badRequest _)

theorem restartPi_known : (restartPi machine server).Known := by
  unfold restartPi
  split
  · simp [Response.Known, statusLines]
  · split
    · simp [Response.Known, statusLines]
    · exact known_accepted _

theorem startService_known (service failed : Bytes) : (startService machine service failed).Known := by
  unfold startService
  split
  · exact known_accepted _
  · exact known_failure _

/-- Every response has one of the statusLines. -/
theorem route_known (request method path : Bytes) :
    Yields (route arithmetic printRational machine server request method path) fun outcome => outcome.2.Known := by
  have put : Yields (putConfig arithmetic server request) fun outcome => outcome.2.Known := by
    refine yields_bind fun body _ => ?_
    cases body with
    | none => exact yields_pure (known_badRequest _)
    | some body =>
      dsimp only
      split
      · exact yields_pure (known_accepted _)
      · exact yields_pure (known_badRequest _)
      · exact yields_pure (known_badRequest _)
  have play : Yields (playFallback server request) fun outcome => outcome.2.Known := by
    refine yields_bind fun body _ => ?_
    dsimp only
    repeat' split
    all_goals exact yields_bind fun _ _ => yields_pure (known_accepted _)
  have seek : Yields (seekFallback server request) fun outcome => outcome.2.Known := by
    refine yields_bind fun body _ => ?_
    cases body with
    | none => exact yields_pure (known_badRequest _)
    | some body =>
      refine yields_bind fun milliseconds _ => ?_
      -- With a position in milliseconds, and with a timecode.
      cases milliseconds <;>
        refine yields_bind fun position _ => ?_ <;>
        cases position
      all_goals first | exact yields_pure (known_badRequest _) | exact yields_pure (known_accepted _)
  unfold route
  dsimp only
  refine yields_ite (fun _ => yields_pure (by simp [Response.Known, statusLines])) fun _ => ?_
  refine yields_ite (fun _ => yields_bind fun _ _ => yields_pure (known_ok _)) fun _ => ?_
  refine yields_ite (fun _ => yields_pure (known_ok _)) fun _ => ?_
  refine yields_ite (fun _ => yields_bind fun _ _ => yields_pure (known_ok _)) fun _ => ?_
  refine yields_ite (fun _ => yields_bind fun response found => yields_pure (readGpio_known _ response found)) fun _ => ?_
  refine yields_ite (fun _ => yields_bind fun response found => yields_pure (writeGpio_known _ response found)) fun _ => ?_
  refine yields_ite (fun _ => yields_pure (known_ok _)) fun _ => ?_
  refine yields_ite (fun _ => yields_bind fun response found => yields_pure ?_) fun _ => ?_
  · exact yields_bind (fun _ _ => yields_bind fun _ _ => yields_pure (known_ok _)) response found
  refine yields_ite (fun _ => put) fun _ => ?_
  refine yields_ite (fun _ => play) fun _ => ?_
  refine yields_ite (fun _ => yields_pure (known_accepted _)) fun _ => ?_
  refine yields_ite (fun _ => seek) fun _ => ?_
  refine yields_ite (fun _ => yields_pure (known_accepted _)) fun _ => ?_
  refine yields_ite (fun _ => yields_pure (known_accepted _)) fun _ => ?_
  refine yields_ite (fun _ => yields_pure (startService_known _ _)) fun _ => ?_
  refine yields_ite (fun _ => yields_pure (known_accepted _)) fun _ => ?_
  refine yields_ite (fun _ => yields_pure (startService_known _ _)) fun _ => ?_
  refine yields_ite (fun _ => yields_pure (known_accepted _)) fun _ => ?_
  refine yields_ite (fun _ => yields_pure (known_accepted _)) fun _ => ?_
  refine yields_ite (fun _ => yields_pure restartPi_known) fun _ => ?_
  refine yields_ite (fun _ => yields_pure (known_ok _)) fun _ => ?_
  exact yields_pure (by simp [Response.Known, statusLines])

end ApiServer

namespace GatewayStatusClient

def responseHead (status : Bytes) (length : Nat) : Bytes :=
  lines crlf (bytes "HTTP/1.1 " ++ status) [bytes "Content-Type: application/json", bytes "Content-Length: " ++ printNat length,
    bytes "Cache-Control: no-store", bytes "Connection: close"]

theorem sent_head (response : Response) :
    response.sent = responseHead (bytes (toString response.status ++ " " ++ response.reason)) response.body.length ++ headerEnd ++
      response.body := by
  have type : bytes "Content-Type: application/json" = bytes "Content-Type: " ++ bytes "application/json" := by decide
  have control : bytes "Cache-Control: no-store\r\n" = bytes "Cache-Control: no-store" ++ crlf := by decide
  have close : bytes "Connection: close\r\n" = bytes "Connection: close" ++ crlf := by decide
  have ends : headerEnd = crlf ++ crlf := by decide
  rw [Response.sent, ApiServer.writeResponse, responseHead, lines, type, control, close, ends]
  simp [crlf]

/-- The first lines of the responses are lines, with their statuses. -/
theorem statusLines_read : ∀ entry ∈ ApiServer.statusLines, 13 ∉ bytes "HTTP/1.1 " ++ bytes (toString entry.1 ++ " " ++ entry.2) ∧
    parseStatus (bytes "HTTP/1.1 " ++ bytes (toString entry.1 ++ " " ++ entry.2)) = some (entry.1 : Int) := by
  decide +kernel

/-- What the PC has of a response of which all came, however it was cut. -/
theorem response_read {response : Response} (known : response.Known) {replies : List Bytes} {ending : List Arrival}
    (nonempty : ∀ chunk ∈ replies, chunk ≠ []) (whole : replies.flatten = response.sent) (quiet : Quiet ending) :
    request (.sent (replies.map .chunk ++ ending)) = some ⟨response.status, response.body⟩ := by
  obtain ⟨line, status⟩ := statusLines_read _ known
  have length : 13 ∉ bytes "Content-Length: " ++ printNat response.body.length := by
    rw [List.mem_append, not_or]
    exact ⟨by decide, not_mem_digits (JsonParser.isDigit_printNat _) rfl⟩
  have isHead : IsHead (responseHead (bytes (toString response.status ++ " " ++ response.reason)) response.body.length) := by
    refine isHead_lines ?_ ?_
    · simp only [List.forall_mem_cons]
      exact ⟨line, by decide, length, by decide, by decide, List.forall_mem_nil _⟩
    · simp only [List.forall_mem_cons]
      exact ⟨by decide, List.append_ne_nil_of_left_ne_nil (by decide) _, by decide, by decide, List.forall_mem_nil _⟩
  have brings : Exchange.Brings (.sent (replies.map .chunk ++ ending)) response.sent :=
    ⟨replies, ending, rfl, nonempty, quiet, whole.symm⟩
  rw [sent_head] at brings
  refine request_eq_some.mpr ⟨_, isHead, brings, ?_⟩
  have first : statusLine (responseHead (bytes (toString response.status ++ " " ++ response.reason)) response.body.length ++
      headerEnd ++ response.body) = bytes "HTTP/1.1 " ++ bytes (toString response.status ++ " " ++ response.reason) := by
    have split : ∀ rest, responseHead (bytes (toString response.status ++ " " ++ response.reason)) response.body.length ++ rest =
        bytes "HTTP/1.1 " ++ bytes (toString response.status ++ " " ++ response.reason) ++
          (crlf ++ (lines crlf (bytes "Content-Type: application/json") [bytes "Content-Length: " ++ printNat response.body.length,
            bytes "Cache-Control: no-store", bytes "Connection: close"] ++ rest)) := by
      intro rest
      rw [responseHead, lines_cons]
      simp only [List.append_assoc]
    rw [List.append_assoc, split, statusLine, show bytes "\r\n" = crlf from rfl, find_crlf line]
    exact List.take_left' rfl
  rw [first]
  exact status

/-! ## Calls -/

/-- The response was sent, and the PC gets all of it before the connection goes quiet. -/
def Delivers (response : Response) (exchange : Exchange) : Prop :=
  ∃ (replies : List Bytes) (ending : List Arrival), exchange = .sent (replies.map .chunk ++ ending) ∧
    (∀ chunk ∈ replies, chunk ≠ []) ∧ replies.flatten = response.sent ∧ Quiet ending

theorem delivers_closed (response : Response) : Delivers response (.sent [.chunk response.sent, .closed]) := by
  have some : response.sent ≠ [] := by
    intro none
    have lengths := congrArg List.length ((sent_head response).symm.trans none)
    simp only [List.length_nil, List.length_append, ApiServer.headerEnd_length] at lengths
    omega
  refine ⟨[response.sent], [.closed], rfl, List.forall_mem_singleton.mpr some, List.append_nil _, ?_⟩
  rintro arrival ⟨⟩
  exact .inr (.inl rfl)

/-- The chunks are the request. -/
def Requests (chunks : List Bytes) (address method path body contentType : Bytes) : Prop :=
  (∀ chunk ∈ chunks, chunk ≠ []) ∧ chunks.flatten = requestText address method path body contentType

theorem called (callable : Callable address method path contentType) (short : body.length < 2 ^ 64)
    (requests : Requests chunks address method path body contentType) {after : ApiServer} {response : Response}
    (routed : route arithmetic printRational machine server (requestText address method path body contentType) method path =
      .ok (after, response)) :
    handleClient arithmetic printRational machine server chunks = .ok (after, some response) ∧
      ∀ exchange, Delivers response exchange → request exchange = some ⟨response.status, response.body⟩ := by
  refine ⟨handleClient_request callable short requests.1 requests.2 routed, ?_⟩
  rintro exchange ⟨replies, ending, rfl, nonempty, whole, quiet⟩
  exact response_read (ApiServer.route_known _ _ _ _ routed) nonempty whole quiet

/-- A call over the network is a call of the route: it has the method, the path and the
body of the request, and its status and body are what the PC gets, however both texts
were cut on their way. -/
theorem remote_call (callable : Callable address method path contentType) (short : body.length < 2 ^ 64)
    (requests : Requests chunks address method path body contentType) :
    requestBody (requestText address method path body contentType) = .ok (some body) ∧
      ∀ after response, route arithmetic printRational machine server
          (requestText address method path body contentType) method path = .ok (after, response) →
        handleClient arithmetic printRational machine server chunks = .ok (after, some response) ∧
          ∀ exchange, Delivers response exchange → request exchange = some ⟨response.status, response.body⟩ :=
  ⟨request_body callable, fun _ _ routed => called callable short requests routed⟩

/-- The health of a Pi, in two pieces on the way there and in two on the way back. -/
theorem health_called :
    handleClient wrapping printWhole ApiServer.bare { repeaterConfig := defaultConfig }
        [bytes "GET /api/he", bytes "alth HTTP/1.1\r\nHost: 10.0.0.2\r\nConnection: close\r\n\r\n"] =
      .ok ({ repeaterConfig := defaultConfig }, some (ApiServer.ok (bytes "\x7b\"ok\":true\x7d\n"))) ∧
    request (.sent [.chunk ((ApiServer.ok (bytes "\x7b\"ok\":true\x7d\n")).sent.take 20),
      .chunk ((ApiServer.ok (bytes "\x7b\"ok\":true\x7d\n")).sent.drop 20), .closed]) = some ⟨200, bytes "\x7b\"ok\":true\x7d\n"⟩ := by
  have callable : Callable (bytes "10.0.0.2") get (bytes "/api/health") [] :=
    ⟨⟨by decide, by decide⟩, ⟨⟨by decide, by decide⟩, by decide⟩, ⟨⟨by decide, by decide⟩, by decide⟩, ⟨by decide, by decide⟩⟩
  have requests : Requests [bytes "GET /api/he", bytes "alth HTTP/1.1\r\nHost: 10.0.0.2\r\nConnection: close\r\n\r\n"]
      (bytes "10.0.0.2") get (bytes "/api/health") [] [] := ⟨by decide, by decide⟩
  obtain ⟨-, answered⟩ := @remote_call _ _ _ _ _ _ wrapping printWhole ApiServer.bare { repeaterConfig := defaultConfig }
    callable (by decide) requests
  obtain ⟨handled, delivered⟩ := answered { repeaterConfig := defaultConfig } (ApiServer.ok (bytes "\x7b\"ok\":true\x7d\n")) rfl
  refine ⟨handled, delivered _ ⟨[_, _], [.closed], rfl, ?_, ?_, ?_⟩⟩
  · decide +kernel
  · simp
  · rintro arrival ⟨⟩
    exact .inr (.inl rfl)

end GatewayStatusClient
end WhRepeater
