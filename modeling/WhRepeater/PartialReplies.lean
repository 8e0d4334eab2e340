import WhRepeater.RequestReassembly

/-! What the PC takes for the reply of the Pi (`GatewayStatusClient::request`). The
bytes that came before the connection went quiet are the reply, whatever length its
head announces. -/
namespace WhRepeater

open TextScan
open ApiServer (headerEnd IsHead)

namespace ApiServer

/-- The bytes that are sent for a response (`writeResponse`). -/
def writeResponse (status contentType : String) (body : Bytes) : Bytes :=
  bytes "HTTP/1.1 " ++ bytes status ++ bytes "\r\n" ++
    bytes "Content-Type: " ++ bytes contentType ++ bytes "\r\n" ++
    bytes "Content-Length: " ++ printNat body.length ++ bytes "\r\n" ++
    bytes "Cache-Control: no-store\r\n" ++
    bytes "Connection: close\r\n" ++
    bytes "\r\n" ++
    body

end ApiServer

namespace GatewayStatusClient

/-! ## The request -/

/-- What `poll` and `recv` give next. -/
inductive Arrival where
  | chunk (received : Bytes)
  /-- Nothing for `ioTimeoutMs`. -/
  | stalled
  | closed
  | failed
  deriving DecidableEq

/-- The reply, unless a read fails. When no more arrives, the next `poll` times out. -/
def receive (response : Bytes) : List Arrival → Option Bytes
  | [] | .stalled :: _ | .closed :: _ => some response
  | .failed :: _ => none
  | .chunk received :: arrivals => if received = [] then some response else receive (response ++ received) arrivals

/-- The number, if there is one (`std::strtol`). -/
def strtol (text : Bytes) : Option Int :=
  let text := (text.takeWhile (· ≠ 0)).dropWhile isSpace
  let signed := if text.head? = some (code '-') ∨ text.head? = some (code '+') then text.tail else text
  let value : Int := digitsValue (signed.takeWhile isDigit)
  if signed.takeWhile isDigit = [] then none
  else some (max (-2 ^ 63) (min (2 ^ 63 - 1) (if text.head? = some (code '-') then -value else value)))

def statusLine (response : Bytes) : Bytes :=
  match find response (bytes "\r\n") 0 with
  | none => response
  | some statusLineEnd => response.take statusLineEnd

/-- The status of the first line, if it has one. -/
def parseStatus (statusLine : Bytes) : Option Int :=
  match find statusLine [code ' '] 0 with
  | none => none
  | some statusCodeStart =>
    if statusLine.length < statusCodeStart + 4 then none
    else
      match strtol (statusLine.drop (statusCodeStart + 1)) with
      | none => none
      | some status => if status < 100 ∨ 599 < status then none else some status

/-- What the reply says. -/
def parseResponse (response : Bytes) : Option HttpResponse :=
  match find response headerEnd 0 with
  | none => none
  | some position =>
    match parseStatus (statusLine response) with
    | none => none
    | some status => some ⟨status, response.drop (position + 4)⟩

/-- What becomes of a request. -/
inductive Exchange where
  /-- The Pi is not found, not connected to, or does not take the request. -/
  | unsent
  | sent (arrivals : List Arrival)

/-- The reply that is taken, unless there is none or a read fails. -/
def Exchange.received : Exchange → Option Bytes
  | .unsent => none
  | .sent arrivals => receive [] arrivals

def request (exchange : Exchange) : Option HttpResponse := exchange.received.bind parseResponse

def fetchStatus (response : Option HttpResponse) : Option Bytes :=
  match response with
  | none => none
  | some response =>
    if response.status ≠ 200 then none
    else if response.body.head? ≠ some (code '{') then none
    else some response.body

/-! ## Whole bodies -/

def lower (ch : UInt8) : UInt8 := if 65 ≤ ch ∧ ch ≤ 90 then ch + 32 else ch

/-- The length that the head announces, its names being taken in any case. -/
def announcedLength (head : Bytes) : Option Nat :=
  match behind (bytes "\r\ncontent-length:") (head.map lower) with
  | none => none
  | some value =>
    let digits := (value.dropWhile isSpace).takeWhile isDigit
    if digits = [] then none else some (digitsValue digits)

/-- All that the head announces is behind it, and no more. -/
def Whole (received body : Bytes) : Prop :=
  ∃ head, IsHead head ∧ received = head ++ headerEnd ++ body ∧ announcedLength head = some body.length

/-- Nothing more comes for now, or ever. -/
def Quiet (arrivals : List Arrival) : Prop :=
  ∀ arrival ∈ arrivals.head?, arrival = .stalled ∨ arrival = .closed ∨ arrival = .chunk []

/-- The bytes that come for a request before the connection goes quiet. -/
def Exchange.Brings (exchange : Exchange) (reply : Bytes) : Prop :=
  ∃ (chunks : List Bytes) (ending : List Arrival), exchange = .sent (chunks.map .chunk ++ ending) ∧
    (∀ chunk ∈ chunks, chunk ≠ []) ∧ Quiet ending ∧ reply = chunks.flatten

/-- What is answered for the exchange is an error, or the whole body. -/
def NeverPartial (exchange : Exchange) : Prop :=
  (∀ response, request exchange = some response → ∃ reply, exchange.Brings reply ∧ Whole reply response.body) ∧
    (∀ body, fetchConfig (request exchange) = some body → ∃ reply, exchange.Brings reply ∧ Whole reply body) ∧
    ∀ body, fetchStatus (request exchange) = some body → ∃ reply, exchange.Brings reply ∧ Whole reply body

/-- If the reply gets behind its head, and has a status, then as much of it is
behind the head as the head announces. -/
def EndsWhole (received : Bytes) : Prop :=
  ∀ head body, IsHead head → received = head ++ headerEnd ++ body → (parseStatus (statusLine received)).isSome →
    announcedLength head = some body.length

variable {received body head : Bytes} {exchange : Exchange}

theorem head_of_find {position : Nat} (found : find received headerEnd 0 = some position) :
    ∃ head body, IsHead head ∧ received = head ++ headerEnd ++ body ∧ head.length = position := by
  rw [find_zero] at found
  obtain ⟨head, body, rfl, rfl⟩ := indexOf_split found
  refine ⟨head, body, ?_, rfl, rfl⟩
  obtain ⟨position, there⟩ := indexOf_there head headerEnd []
  rw [List.append_nil] at there
  have same := (indexOf_append there body).symm.trans found
  rw [IsHead, find_zero, there, same]

theorem parseResponse_head (isHead : IsHead head) (body : Bytes) :
    parseResponse (head ++ headerEnd ++ body) =
      (parseStatus (statusLine (head ++ headerEnd ++ body))).map fun status => ⟨status, body⟩ := by
  have behind : (head ++ headerEnd ++ body).drop (head.length + 4) = body := List.drop_left' (by simp [ApiServer.headerEnd_length])
  rw [parseResponse, ApiServer.find_head isHead]
  simp only [behind]
  cases parseStatus (statusLine (head ++ headerEnd ++ body)) <;> rfl

theorem response_of_fetchConfig {response : Option HttpResponse} (fetched : fetchConfig response = some body) :
    ∃ status, response = some ⟨status, body⟩ := by
  unfold fetchConfig at fetched
  split at fetched
  · cases fetched
  · split_ifs at fetched
    cases fetched
    exact ⟨_, rfl⟩

/-- A status is checked as a configuration is. -/
theorem fetchStatus_eq (response : Option HttpResponse) : fetchStatus response = fetchConfig response := by
  cases response <;> rfl

/-- The head of a reply is where its first blank line is. -/
theorem head_unique {other rest : Bytes} (isHead : IsHead head) (isOther : IsHead other)
    (same : head ++ headerEnd ++ body = other ++ headerEnd ++ rest) : head = other := by
  have first := ApiServer.find_head isHead body
  rw [same, ApiServer.find_head isOther rest] at first
  rw [List.append_assoc, List.append_assoc] at same
  exact (List.append_inj same (Option.some.inj first).symm).1

theorem receive_eq_some {arrivals : List Arrival} {response reply : Bytes} :
    receive response arrivals = some reply ↔ ∃ (chunks : List Bytes) (ending : List Arrival),
      arrivals = chunks.map .chunk ++ ending ∧ (∀ chunk ∈ chunks, chunk ≠ []) ∧ Quiet ending ∧
        reply = response ++ chunks.flatten := by
  constructor
  · intro received
    induction arrivals generalizing response with
    | nil => exact ⟨[], [], rfl, List.forall_mem_nil _, by simp [Quiet], by simpa [receive] using received.symm⟩
    | cons arrival arrivals ih =>
      cases arrival with
      | failed => cases received
      | stalled => exact ⟨[], .stalled :: arrivals, rfl, List.forall_mem_nil _, by simp [Quiet], by simpa [receive] using received.symm⟩
      | closed => exact ⟨[], .closed :: arrivals, rfl, List.forall_mem_nil _, by simp [Quiet], by simpa [receive] using received.symm⟩
      | chunk chunk =>
        rw [receive] at received
        split at received
        · rename_i empty
          exact ⟨[], .chunk chunk :: arrivals, rfl, List.forall_mem_nil _, by simp [Quiet, empty], by simpa using received.symm⟩
        · rename_i some
          obtain ⟨chunks, ending, rfl, nonempty, quiet, rfl⟩ := ih received
          exact ⟨chunk :: chunks, ending, rfl, List.forall_mem_cons.mpr ⟨some, nonempty⟩, quiet, by simp⟩
  · rintro ⟨chunks, ending, rfl, nonempty, quiet, rfl⟩
    induction chunks generalizing response with
    | nil =>
      cases ending with
      | nil => simp [receive]
      | cons arrival rest => rcases quiet arrival rfl with rfl | rfl | rfl <;> simp [receive]
    | cons chunk chunks ih =>
      obtain ⟨some, others⟩ := List.forall_mem_cons.mp nonempty
      rw [List.map_cons, List.cons_append, receive, if_neg some, ih others, List.flatten_cons, List.append_assoc]

theorem received_iff {reply : Bytes} : exchange.received = some reply ↔ exchange.Brings reply := by
  cases exchange with
  | unsent => exact iff_of_false nofun fun ⟨_, _, sent, _⟩ => nomatch sent
  | sent arrivals =>
    simp only [Exchange.received, receive_eq_some, Exchange.Brings, Exchange.sent.injEq, List.nil_append]

theorem Exchange.Brings.unique {reply other : Bytes} (brings : exchange.Brings reply) (again : exchange.Brings other) :
    reply = other :=
  Option.some.inj ((received_iff.mpr brings).symm.trans (received_iff.mpr again))

/-- A response is all that is behind the head of the reply. -/
theorem request_eq_some {response : HttpResponse} :
    request exchange = some response ↔ ∃ head, IsHead head ∧ exchange.Brings (head ++ headerEnd ++ response.body) ∧
      parseStatus (statusLine (head ++ headerEnd ++ response.body)) = some response.status := by
  simp only [request, Option.bind_eq_some_iff, received_iff]
  constructor
  · rintro ⟨received, there, parsed⟩
    cases found : find received headerEnd 0 with
    | none =>
      rw [parseResponse, found] at parsed
      cases parsed
    | some position =>
      obtain ⟨head, body, isHead, rfl, -⟩ := head_of_find found
      rw [parseResponse_head isHead, Option.map_eq_some_iff] at parsed
      obtain ⟨status, valid, rfl⟩ := parsed
      exact ⟨head, isHead, there, valid⟩
  · rintro ⟨head, isHead, there, valid⟩
    exact ⟨_, there, by rw [parseResponse_head isHead, valid]; rfl⟩

/-- The client takes a part of a reply for the whole exactly when the connection
goes quiet behind the head of a reply with a status, and not where the announced
length ends. -/
theorem never_partial_iff (exchange : Exchange) :
    NeverPartial exchange ↔ ∀ reply, exchange.Brings reply → EndsWhole reply := by
  constructor
  · rintro ⟨whole, -, -⟩ received there head body isHead rfl valid
    obtain ⟨status, valid⟩ := Option.isSome_iff_exists.mp valid
    have answered : request exchange = some ⟨status, body⟩ := request_eq_some.mpr ⟨head, isHead, there, valid⟩
    obtain ⟨received, same, other, isOther, rfl, announced⟩ := whole _ answered
    obtain rfl := head_unique isHead isOther (there.unique same)
    exact announced
  · intro ends
    have whole : ∀ response, request exchange = some response →
        ∃ reply, exchange.Brings reply ∧ Whole reply response.body := by
      intro response answered
      obtain ⟨head, isHead, there, valid⟩ := request_eq_some.mp answered
      exact ⟨_, there, head, isHead, rfl, ends _ there head _ isHead rfl (by rw [valid]; rfl)⟩
    refine ⟨whole, fun body fetched => ?_, fun body fetched => ?_⟩
    · obtain ⟨status, answered⟩ := response_of_fetchConfig fetched
      exact whole _ answered
    · rw [fetchStatus_eq] at fetched
      obtain ⟨status, answered⟩ := response_of_fetchConfig fetched
      exact whole _ answered

/-- The configuration of the Pi, of which one byte has come when the connection stalls. -/
def stalledReply : Exchange :=
  .sent [.chunk (bytes "HTTP/1.1 200 OK\r\nContent-Type: application/json\r\nContent-Length: 16\r\n\r\n\x7b"), .stalled]

theorem stalled_reply_taken : fetchConfig (request stalledReply) = some (bytes "\x7b") ∧ ¬ NeverPartial stalledReply := by
  have fetched : fetchConfig (request stalledReply) = some (bytes "\x7b") := by decide +kernel
  have isHead : IsHead (bytes "HTTP/1.1 200 OK\r\nContent-Type: application/json\r\nContent-Length: 16") := by
    unfold IsHead
    decide +kernel
  refine ⟨fetched, fun never => ?_⟩
  obtain ⟨received, there, head, isOther, split, announced⟩ := never.2.1 _ fetched
  have arrived : stalledReply.received = some (bytes "HTTP/1.1 200 OK\r\nContent-Type: application/json\r\nContent-Length: 16" ++
      headerEnd ++ bytes "\x7b") := by decide +kernel
  obtain rfl := (received_iff.mp arrived).unique there
  obtain rfl := head_unique isHead isOther split
  revert announced
  decide +kernel

/-! ## Replies of the Pi -/

/-- The head of what `writeResponse` sends for a body of the length. -/
def writtenHead (length : Nat) : Bytes :=
  bytes "HTTP/1.1 200 OK\r\nContent-Type: application/json" ++ bytes "\r\nContent-Length: " ++ printNat length ++
    bytes "\r\nCache-Control: no-store\r\nConnection: close"

theorem writeResponse_head (body : Bytes) :
    ApiServer.writeResponse "200 OK" "application/json" body = writtenHead body.length ++ headerEnd ++ body := by
  have front : bytes "HTTP/1.1 " ++ bytes "200 OK" ++ bytes "\r\n" ++ bytes "Content-Type: " ++ bytes "application/json" ++
      bytes "\r\n" ++ bytes "Content-Length: " =
        bytes "HTTP/1.1 200 OK\r\nContent-Type: application/json" ++ bytes "\r\nContent-Length: " := by decide
  have back : bytes "\r\n" ++ bytes "Cache-Control: no-store\r\n" ++ bytes "Connection: close\r\n" ++ bytes "\r\n" =
      bytes "\r\nCache-Control: no-store\r\nConnection: close" ++ headerEnd := by decide
  rw [writtenHead, ← front, List.append_assoc _ (bytes "\r\nCache-Control: no-store\r\nConnection: close"), ← back]
  simp only [ApiServer.writeResponse, List.append_assoc]

/-- A line and its end are no blank line when another line follows. -/
theorem indexOf_line {line rest : Bytes} (plain : 13 ∉ line) (more : rest.head? ≠ some 13) :
    indexOf headerEnd (line ++ 13 :: 10 :: rest) = (indexOf headerEnd rest).map (· + (line.length + 2)) := by
  have ends : headerEnd = [13, 10, 13, 10] := by decide
  have feed : ¬ headerEnd.isPrefixOf (10 :: rest) = true := by simp [ends, List.isPrefixOf]
  have blank : ¬ headerEnd.isPrefixOf (13 :: 10 :: rest) = true := by
    rw [ends]
    cases rest with
    | nil => decide
    | cons ch rest =>
      have other : (13 : UInt8) ≠ ch := fun same => more (by rw [same]; rfl)
      simp [List.isPrefixOf, other]
  have passes := indexOf_passes plain [10, 13, 10] (13 :: 10 :: rest)
  rw [← ends, indexOf_cons, if_neg blank, indexOf_cons, if_neg feed, Option.map_map, Option.map_map] at passes
  rw [passes]
  congr 1
  funext position
  simp only [Function.comp_apply]
  omega

theorem writtenHead_isHead (length : Nat) : IsHead (writtenHead length) := by
  have digits : 13 ∉ bytes "Content-Length: " ++ printNat length := by
    rw [List.mem_append, not_or]
    exact ⟨by decide, not_mem_digits (JsonParser.isDigit_printNat length) rfl⟩
  have lines : writtenHead length ++ headerEnd = bytes "HTTP/1.1 200 OK" ++ 13 :: 10 ::
      (bytes "Content-Type: application/json" ++ 13 :: 10 :: (bytes "Content-Length: " ++ printNat length ++ 13 :: 10 ::
        (bytes "Cache-Control: no-store" ++ 13 :: 10 :: (bytes "Connection: close" ++ headerEnd)))) := by
    have front : bytes "HTTP/1.1 200 OK\r\nContent-Type: application/json" ++ bytes "\r\nContent-Length: " =
        bytes "HTTP/1.1 200 OK" ++ 13 :: 10 :: (bytes "Content-Type: application/json" ++ 13 :: 10 ::
          bytes "Content-Length: ") := by decide
    have back : bytes "\r\nCache-Control: no-store\r\nConnection: close" =
        13 :: 10 :: (bytes "Cache-Control: no-store" ++ 13 :: 10 :: bytes "Connection: close") := by decide
    rw [writtenHead, front, back]
    simp only [List.append_assoc, List.cons_append]
  have last : indexOf headerEnd (bytes "Connection: close" ++ headerEnd) = some 17 := by decide
  have sizes : (bytes "HTTP/1.1 200 OK").length = 15 ∧ (bytes "Content-Type: application/json").length = 30 ∧
      (bytes "Content-Length: ").length = 16 ∧ (bytes "Cache-Control: no-store").length = 23 ∧
      (bytes "HTTP/1.1 200 OK\r\nContent-Type: application/json").length = 47 ∧ (bytes "\r\nContent-Length: ").length = 18 ∧
      (bytes "\r\nCache-Control: no-store\r\nConnection: close").length = 44 := by decide
  rw [IsHead, find_zero, lines, indexOf_line (by decide) (by rintro ⟨⟩), indexOf_line (by decide) (by rintro ⟨⟩),
    indexOf_line digits (by rintro ⟨⟩), indexOf_line (by decide) (by rintro ⟨⟩), last]
  simp only [Option.map_some, writtenHead, List.length_append, Option.some.injEq]
  omega

theorem lower_digits {digits : Bytes} (all : digits.all isDigit = true) : digits.map lower = digits := by
  refine List.map_congr_left (fun ch among => ?_) |>.trans (List.map_id digits)
  have digit := List.all_eq_true.mp all ch among
  simp only [isDigit, Bool.and_eq_true, decide_eq_true_eq, UInt8.le_iff_toNat_le, UInt8.reduceToNat] at digit
  refine if_neg fun upper => ?_
  simp only [UInt8.le_iff_toNat_le, UInt8.reduceToNat] at upper
  omega

theorem announced_written (length : Nat) : announcedLength (writtenHead length) = some length := by
  have front : (bytes "HTTP/1.1 200 OK\r\nContent-Type: application/json" ++ bytes "\r\nContent-Length: ").map lower =
      bytes "http/1.1 200 ok\r\ncontent-type: application/json" ++ bytes "\r\ncontent-length:" ++ [32] := by decide +kernel
  have there : indexOf (bytes "\r\ncontent-length:")
      (bytes "http/1.1 200 ok\r\ncontent-type: application/json" ++ bytes "\r\ncontent-length:") = some 47 := by decide +kernel
  have digits := JsonParser.isDigit_printNat length
  obtain ⟨back, back_same⟩ :
      ∃ back, (bytes "\r\nCache-Control: no-store\r\nConnection: close").map lower = 13 :: back := ⟨_, rfl⟩
  have lowered : (writtenHead length).map lower = bytes "http/1.1 200 ok\r\ncontent-type: application/json" ++
      bytes "\r\ncontent-length:" ++ (32 :: (printNat length ++ 13 :: back)) := by
    rw [writtenHead, List.map_append, List.map_append, front, lower_digits digits, back_same]
    simp
  have found : behind (bytes "\r\ncontent-length:") ((writtenHead length).map lower) = some (32 :: (printNat length ++ 13 :: back)) := by
    rw [lowered, behind, indexOf_append there, Option.map_some]
    exact congrArg some (List.drop_left' (by decide +kernel))
  obtain ⟨first, others, split⟩ := List.exists_cons_of_ne_nil (JsonParser.printNat_ne_nil length)
  have number : isDigit first = true := List.all_eq_true.mp digits first (by rw [split]; exact List.mem_cons_self)
  have started : (32 :: (printNat length ++ 13 :: back)).dropWhile isSpace = printNat length ++ 13 :: back := by
    rw [List.dropWhile_cons_of_pos rfl, split, List.cons_append,
      List.dropWhile_cons_of_neg (by simp [JsonParser.not_space_of_digit number])]
  have taken : (printNat length ++ 13 :: back).takeWhile isDigit = printNat length := by
    rw [List.takeWhile_append_of_pos (List.all_eq_true.mp digits), List.takeWhile_cons_of_neg (by decide), List.append_nil]
  simp only [announcedLength, found, started, taken, JsonParser.printNat_ne_nil, if_false, JsonParser.digitsValue_printNat]

theorem status_written (length : Nat) (rest : Bytes) :
    parseStatus (statusLine (writtenHead length ++ headerEnd ++ rest)) = some 200 := by
  have first : indexOf (bytes "\r\n") (bytes "HTTP/1.1 200 OK\r\nContent-Type: application/json") = some 15 := by decide
  have line : statusLine (writtenHead length ++ headerEnd ++ rest) = bytes "HTTP/1.1 200 OK" := by
    simp only [writtenHead, List.append_assoc, statusLine, find_zero, indexOf_append first]
    rw [List.take_append_of_le_length (by decide)]
    decide
  rw [line]
  decide +kernel

/-- A reply of the Pi that breaks off is noticed exactly if it breaks off in its
head, or not at all. -/
theorem cut_reply_iff {body : Bytes} {chunks : List Bytes} {cut : Nat} (nonempty : ∀ chunk ∈ chunks, chunk ≠ [])
    (arrived : chunks.flatten = (ApiServer.writeResponse "200 OK" "application/json" body).take cut) {ending : List Arrival}
    (quiet : Quiet ending) :
    NeverPartial (.sent (chunks.map .chunk ++ ending)) ↔
      cut < (writtenHead body.length ++ headerEnd).length ∨
        (ApiServer.writeResponse "200 OK" "application/json" body).length ≤ cut := by
  have isHead := writtenHead_isHead body.length
  have brings : Exchange.Brings (.sent (chunks.map .chunk ++ ending)) chunks.flatten :=
    ⟨chunks, ending, rfl, nonempty, quiet, rfl⟩
  have only : NeverPartial (.sent (chunks.map .chunk ++ ending)) ↔ EndsWhole chunks.flatten :=
    (never_partial_iff _).trans ⟨fun ends => ends _ brings, fun ends _ other => other.unique brings ▸ ends⟩
  rw [only, arrived, writeResponse_head]
  by_cases short : cut < (writtenHead body.length ++ headerEnd).length
  · refine iff_of_true ?_ (.inl short)
    intro head rest isOther same
    have absent := ApiServer.find_partial isHead (List.take_prefix cut (writtenHead body.length ++ headerEnd ++ body))
      (by rw [List.length_take]; omega)
    rw [same, ApiServer.find_head isOther] at absent
    cases absent
  rw [or_iff_right short, List.take_append, List.take_of_length_le (not_lt.mp short),
    @List.length_append _ _ body]
  generalize (writtenHead body.length ++ headerEnd).length = start at short
  constructor
  · intro ends
    have announced := ends _ _ isHead rfl (by rw [status_written]; rfl)
    rw [announced_written, Option.some.injEq, List.length_take] at announced
    omega
  · intro long head rest isOther same _
    obtain rfl := head_unique isHead isOther same
    obtain rfl := List.append_cancel_left same
    rw [announced_written, List.length_take, Nat.min_eq_right (by omega)]

end GatewayStatusClient
end WhRepeater
