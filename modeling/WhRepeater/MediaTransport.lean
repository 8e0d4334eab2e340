import WhRepeater.ChildRestarts
import WhRepeater.MediaSends
import WhRepeater.Runs

/-! The transport stream on its way through the media parent. Every call is told
with what it does to the stream: the messages the socket takes, in order, and
the backlog dropped behind them. What was written is then these and the buffer. -/
namespace WhRepeater

/-- What a call moves out of the buffer, and what it leaves there. -/
structure Moved where
  messages : List Bytes := []
  dropped : Bytes := []
  left : Bytes

namespace MediaProcess

open ChildRestarts

/-- `flushTransportBuffer`, with the chunks the socket took. -/
def flushTold (send : Send) : (rounds : Nat) → MediaProcess → Option (List Bytes × MediaProcess)
  | 0, process => some ([], process)
  | rounds + 1, process =>
    if process.transportBuffer = [] then some ([], process)
    else do
      let chunk := process.transportBuffer.take maxTransportPayload
      let (taken, process) ← send process ⟨.transportStream, chunk⟩ false
      if taken then
        let (messages, process) ← flushTold send rounds
          { process with transportBuffer := process.transportBuffer.drop maxTransportPayload }
        return (chunk :: messages, process)
      else return ([], process)

/-- What `dropBacklog` drops. -/
def backlog (process : MediaProcess) : Bytes :=
  process.transportBuffer.take (process.transportBuffer.length - process.dropBacklog.transportBuffer.length)

/-- A call, with what it moved. Only ticks and writes flush the buffer. -/
def callTold (script : ChildScript) (fuel : Nat) (process : MediaProcess) : ProcessCall → Option (Moved × MediaProcess)
  | .tick => do
    let process ← drainChildMessages script (sendMessage script fuel) process
    let process := { process with mode := process.believedMode }
    let (messages, process) ← flushTold (sendMessage script fuel) process.transportBuffer.length process
    let (_, process) ← sendMessage script fuel process ⟨.tick, []⟩ false
    let process ← drainChildMessages script (sendMessage script fuel) process
    return ({ messages, left := process.transportBuffer }, process)
  | .write packet =>
    if packet = [] then some ({ left := process.transportBuffer }, process)
    else do
      let process := { process with transportBuffer := process.transportBuffer ++ packet }
      let (messages, process) ← flushTold (sendMessage script fuel) process.transportBuffer.length process
      let dropped := process.backlog
      let process := process.dropBacklog
      return ({ messages, dropped, left := process.transportBuffer }, process)
  | call => (process.call script fuel call).map fun process => ({ left := process.transportBuffer }, process)

variable {script : ChildScript} {fuel : Nat} {send : Send} {process after : MediaProcess}

theorem flushTold_erases (send : Send) (rounds : Nat) (process : MediaProcess) :
    (flushTold send rounds process).map Prod.snd = flushTransportBuffer send rounds process := by
  induction rounds generalizing process with
  | zero => rfl
  | succ rounds ih =>
    unfold flushTold flushTransportBuffer
    split
    · rfl
    · simp only [Option.bind_eq_bind, Option.map_bind]
      congr 1
      funext result
      obtain ⟨taken, next⟩ := result
      cases taken with
      | true =>
        simp only [Function.comp_apply, ↓reduceIte, ← ih, Option.map_bind]
        cases flushTold send rounds { next with transportBuffer := next.transportBuffer.drop maxTransportPayload } <;>
          rfl
      | false => rfl

/-- Telling what a call moves changes nothing else about it. -/
theorem callTold_erases (script : ChildScript) (fuel : Nat) (process : MediaProcess) (call : ProcessCall) :
    (process.callTold script fuel call).map Prod.snd = process.call script fuel call := by
  cases call with
  | tick =>
    simp only [callTold, call, tick, Option.bind_eq_bind, Option.map_bind, ← flushTold_erases, Option.bind_map,
      Function.comp_def, Option.pure_def, Option.map_some, Option.bind_fun_some]
  | write packet =>
    simp only [callTold, call, write]
    split
    · rfl
    · simp only [Option.bind_eq_bind, Option.map_bind, ← flushTold_erases, Option.bind_map, Function.comp_def]
      rfl
  | _ => simp [callTold, Function.comp_def]

/-! ## What a call does to the buffer -/

/-- The parent still has a child, and its buffer is the same. -/
def Stays (process after : MediaProcess) : Prop :=
  after.childRunning = true ∧ after.transportBuffer = process.transportBuffer

theorem stays_of_worked {budget : Nat} (worked : Worked script process budget after) : Stays process after :=
  ⟨worked.running, transportBuffer_of_wishes worked.wishes⟩

theorem sendRemembered_stays {message : ControlMessage}
    (returned : sendRemembered (sendMessage script fuel) process message = some after)
    (running : process.childRunning = true) : Stays process after :=
  stays_of_worked (sendRemembered_worked (sendMessage_accounted script fuel) running returned)

theorem sendIfChanged_stays {message : ControlMessage}
    (returned : sendIfChanged (sendMessage script fuel) process message = some after)
    (running : process.childRunning = true) : Stays process after := by
  unfold sendIfChanged at returned
  split at returned
  · cases returned
    exact ⟨running, rfl⟩
  · exact sendRemembered_stays returned running

theorem startChild_stays (returned : startChild (sendMessage script fuel) process = some after) :
    Stays process after := by
  rw [startChild_eq] at returned
  have worked := @replay_worked _ process.forked _ _ (sendMessage_accounted script fuel) _ rfl returned
  obtain ⟨running, same⟩ := stays_of_worked worked
  exact ⟨running, same⟩

theorem drain_stays (running : process.childRunning = true)
    (returned : drainChildMessages script (sendMessage script fuel) process = some after) : Stays process after := by
  obtain ⟨up, wishes, -⟩ := receiveReports_keep process.looked (script.reports process.clock)
  have buffer := transportBuffer_of_wishes wishes
  rw [drainChildMessages, if_neg (by simp [running])] at returned
  dsimp only at returned
  split at returned
  · obtain ⟨running, same⟩ := startChild_stays returned
    exact ⟨running, same.trans buffer⟩
  · cases returned
    exact ⟨up.trans running, buffer⟩

/-- A transport message as the child expects it. -/
structure FullMessage (message : Bytes) : Prop where
  some : message ≠ []
  whole : message.length % transportPacketBytes = 0
  short : message.length ≤ maxTransportPayload

theorem fullMessage_take {buffer : Bytes} (pending : buffer ≠ []) (whole : buffer.length % transportPacketBytes = 0) :
    FullMessage (buffer.take maxTransportPayload) := by
  have positive : 0 < buffer.length := List.length_pos_iff.mpr pending
  have packet : transportPacketBytes = 188 := rfl
  have payload : maxTransportPayload = 188 * 340 := rfl
  rw [packet] at whole
  constructor
  · rw [ne_eq, List.take_eq_nil_iff]
    simp [pending, payload]
  · rw [List.length_take, packet, payload]
    omega
  · rw [List.length_take]
    omega

/-- Flushing takes full messages from the front, and leaves the rest. -/
theorem flushTold_spec {rounds : Nat} {messages : List Bytes} (running : process.childRunning = true)
    (whole : process.transportBuffer.length % transportPacketBytes = 0)
    (told : flushTold (sendMessage script fuel) rounds process = some (messages, after)) :
    after.childRunning = true ∧ process.transportBuffer = messages.flatten ++ after.transportBuffer ∧
      ∀ message ∈ messages, FullMessage message := by
  induction rounds generalizing process messages with
  | zero =>
    cases told
    exact ⟨running, rfl, nofun⟩
  | succ rounds ih =>
    unfold flushTold at told
    split at told
    · cases told
      exact ⟨running, rfl, nofun⟩
    · rename_i pending
      obtain ⟨⟨taken, sent⟩, returned, told⟩ := Option.bind_eq_some_iff.mp told
      obtain ⟨up, buffer⟩ :=
        stays_of_worked (sendMessage_accounted script fuel process _ false (taken, sent) running returned)
      dsimp only at up buffer told
      cases taken with
      | true =>
        obtain ⟨⟨rest, flushed⟩, more, told⟩ := Option.bind_eq_some_iff.mp told
        cases told
        have full := fullMessage_take pending whole
        have packets : (sent.transportBuffer.drop maxTransportPayload).length % transportPacketBytes = 0 := by
          have packet : transportPacketBytes = 188 := rfl
          have payload : maxTransportPayload = 188 * 340 := rfl
          rw [buffer, List.length_drop, packet, payload]
          rw [packet] at whole
          omega
        obtain ⟨stays, split, fulls⟩ :=
          @ih { sent with transportBuffer := sent.transportBuffer.drop maxTransportPayload } rest up packets more
        refine ⟨stays, ?_, ?_⟩
        · rw [List.flatten_cons, List.append_assoc, ← split, buffer, List.take_append_drop]
        · intro message among
          obtain rfl | later := List.mem_cons.mp among
          · exact full
          · exact fulls message later
      | false =>
        cases told
        exact ⟨up, by rw [buffer]; rfl, nofun⟩

theorem whole_append {front back : Bytes} (first : front.length % transportPacketBytes = 0)
    (second : back.length % transportPacketBytes = 0) : (front ++ back).length % transportPacketBytes = 0 := by
  rw [show transportPacketBytes = 188 from rfl] at *
  rw [List.length_append]
  omega

theorem whole_of_append {front back : Bytes} (first : front.length % transportPacketBytes = 0)
    (both : (front ++ back).length % transportPacketBytes = 0) : back.length % transportPacketBytes = 0 := by
  rw [show transportPacketBytes = 188 from rfl] at *
  rw [List.length_append] at both
  omega

theorem flatten_whole {messages : List Bytes} (full : ∀ message ∈ messages, FullMessage message) :
    messages.flatten.length % transportPacketBytes = 0 := by
  induction messages with
  | nil => rfl
  | cons message rest ih =>
    have first := (full message List.mem_cons_self).whole
    rw [List.flatten_cons]
    exact whole_append first (ih fun other among => full other (List.mem_cons_of_mem _ among))

theorem dropBacklog_childRunning (process : MediaProcess) :
    process.dropBacklog.childRunning = process.childRunning := by
  unfold dropBacklog
  split <;> rfl

/-- The oldest packets go, and only from a buffer that is too long. -/
theorem dropBacklog_spec (whole : process.transportBuffer.length % transportPacketBytes = 0) :
    process.transportBuffer = process.backlog ++ process.dropBacklog.transportBuffer ∧
      process.backlog.length % transportPacketBytes = 0 ∧
      (process.backlog ≠ [] → maxBufferedTransport < process.transportBuffer.length) ∧
      process.dropBacklog.transportBuffer.length ≤ maxBufferedTransport := by
  have packet : transportPacketBytes = 188 := rfl
  have limit : maxBufferedTransport = 188 * 65536 := rfl
  rw [packet] at whole ⊢
  unfold backlog dropBacklog
  split
  · rename_i long
    have kept : maxBufferedTransport / 2 - maxBufferedTransport / 2 % transportPacketBytes = 188 * 32768 := rfl
    simp only [kept, List.length_drop]
    have erased : process.transportBuffer.length -
        (process.transportBuffer.length - (process.transportBuffer.length - 188 * 32768)) =
        process.transportBuffer.length - 188 * 32768 := by omega
    rw [erased, List.take_append_drop, List.length_take]
    exact ⟨rfl, by omega, fun _ => long, by omega⟩
  · rename_i short
    simp only [Nat.sub_self, List.take_zero, List.nil_append, List.length_nil, Nat.zero_mod, ne_eq, not_true_eq_false,
      false_implies, true_and]
    omega

end MediaProcess

/-! ## Runs -/

namespace MediaTransport

open MediaProcess MediaSends ChildRestarts

/-- The bytes a call adds to the stream. -/
def fed : ProcessCall → Bytes
  | .write packet => packet
  | _ => []

/-- What was buffered and is fed comes out in order: taken messages, then what
an overflow drops of the oldest packets still buffered, then what is left. -/
structure Conserves (buffered fed : Bytes) (moved : Moved) : Prop where
  stream : buffered ++ fed = moved.messages.flatten ++ moved.dropped ++ moved.left
  messages : ∀ message ∈ moved.messages, FullMessage message
  packets : moved.dropped.length % transportPacketBytes = 0
  overflow : moved.dropped ≠ [] → maxBufferedTransport < moved.dropped.length + moved.left.length
  bounded : buffered.length ≤ maxBufferedTransport → moved.left.length ≤ maxBufferedTransport

variable {script : ChildScript} {fuel : Nat} {process after : MediaProcess} {call : ProcessCall} {moved : Moved}

theorem conserves_of_same (buffered : Bytes) : Conserves buffered [] { left := buffered } :=
  ⟨by simp, nofun, rfl, fun dropped => absurd rfl dropped, fun bounded => bounded⟩

theorem tickTold_conserves (running : process.childRunning = true)
    (whole : process.transportBuffer.length % transportPacketBytes = 0)
    (told : process.callTold script fuel .tick = some (moved, after)) :
    after.childRunning = true ∧ moved.left = after.transportBuffer ∧ Conserves process.transportBuffer [] moved := by
  obtain ⟨drained, first, told⟩ := Option.bind_eq_some_iff.mp told
  obtain ⟨up, same⟩ := drain_stays running first
  obtain ⟨⟨messages, flushed⟩, second, told⟩ := Option.bind_eq_some_iff.mp told
  have packets : drained.transportBuffer.length % transportPacketBytes = 0 := by rw [same, whole]
  obtain ⟨up, split, full⟩ := @flushTold_spec _ _ { drained with mode := drained.believedMode } _ _ _ up packets second
  obtain ⟨⟨taken, sent⟩, third, told⟩ := Option.bind_eq_some_iff.mp told
  obtain ⟨up, kept⟩ :=
    stays_of_worked (sendMessage_accounted script fuel flushed _ false (taken, sent) up third)
  obtain ⟨last, fourth, told⟩ := Option.bind_eq_some_iff.mp told
  obtain ⟨up, left⟩ := drain_stays up fourth
  cases told
  have buffer : after.transportBuffer = flushed.transportBuffer := left.trans kept
  have conserved : process.transportBuffer = messages.flatten ++ after.transportBuffer := by
    rw [buffer, ← same]
    exact split
  refine ⟨up, rfl, by simpa using conserved, full, rfl, fun dropped => absurd rfl dropped, fun bounded => ?_⟩
  have length := congrArg List.length conserved
  rw [List.length_append] at length
  dsimp only
  omega

theorem writeTold_conserves {packet : Bytes} (running : process.childRunning = true)
    (whole : process.transportBuffer.length % transportPacketBytes = 0)
    (packets : packet.length % transportPacketBytes = 0)
    (told : process.callTold script fuel (.write packet) = some (moved, after)) :
    after.childRunning = true ∧ moved.left = after.transportBuffer ∧
      Conserves process.transportBuffer packet moved := by
  simp only [callTold] at told
  split at told
  · rename_i nothing
    subst nothing
    cases told
    exact ⟨running, rfl, conserves_of_same _⟩
  · obtain ⟨⟨messages, flushed⟩, flushes, told⟩ := Option.bind_eq_some_iff.mp told
    cases told
    have grown := whole_append whole packets
    obtain ⟨up, split, full⟩ :=
      @flushTold_spec _ _ { process with transportBuffer := process.transportBuffer ++ packet } _ _ _ running grown flushes
    have rest : flushed.transportBuffer.length % transportPacketBytes = 0 :=
      whole_of_append (flatten_whole full) (split ▸ grown)
    obtain ⟨dropped, multiple, overflow, bounded⟩ := dropBacklog_spec rest
    refine ⟨(dropBacklog_childRunning flushed).trans up, rfl, ?_, full, multiple, fun drops => ?_, fun _ => bounded⟩
    · rw [List.append_assoc, ← dropped]
      exact split
    · rw [← List.length_append, ← dropped]
      exact overflow drops

/-- The calls that neither tick nor write leave the buffer alone. -/
theorem call_stays (running : process.childRunning = true) (ticks : call ≠ .tick) (writes : ∀ packet, call ≠ .write packet)
    (returned : process.call script fuel call = some after) : Stays process after := by
  have up : (assigned process call).childRunning = true := by cases call <;> exact running
  have same : (assigned process call).transportBuffer = process.transportBuffer := by cases call <;> rfl
  have stays : Stays (assigned process call) after := by
    cases call with
    | tick => exact absurd rfl ticks
    | write packet => exact absurd rfl (writes packet)
    | select input => exact sendIfChanged_stays returned up
    | setBeaconAllowed allowed => exact sendIfChanged_stays returned up
    | setPreviewEnabled enabled => exact sendIfChanged_stays returned up
    | setAccessNotice notice endTone =>
      obtain ⟨noticed, first, second⟩ := Option.bind_eq_some_iff.mp returned
      obtain ⟨running, kept⟩ := sendIfChanged_stays first up
      obtain ⟨running, still⟩ := sendIfChanged_stays second running
      exact ⟨running, still.trans kept⟩
    | playFallbackVideo path => exact sendRemembered_stays returned up
    | stopFallbackVideo => exact sendRemembered_stays returned up
    | seekFallbackVideo position => exact sendRemembered_stays returned up
    | reconfigurePluto transmitEnabled => exact sendRemembered_stays returned up
  exact ⟨stays.1, stays.2.trans same⟩

theorem callTold_conserves (running : process.childRunning = true)
    (whole : process.transportBuffer.length % transportPacketBytes = 0)
    (packets : (fed call).length % transportPacketBytes = 0)
    (told : process.callTold script fuel call = some (moved, after)) :
    after.childRunning = true ∧ moved.left = after.transportBuffer ∧
      Conserves process.transportBuffer (fed call) moved := by
  have other (ticks : call ≠ .tick) (writes : ∀ packet, call ≠ .write packet)
      (nothing : (process.call script fuel call).map (fun process =>
        (({ left := process.transportBuffer } : Moved), process)) = some (moved, after)) :
      after.childRunning = true ∧ moved.left = after.transportBuffer ∧ Conserves process.transportBuffer [] moved := by
    obtain ⟨called, returned, same⟩ := Option.map_eq_some_iff.mp nothing
    obtain ⟨up, buffer⟩ := call_stays running ticks writes returned
    cases same
    refine ⟨up, rfl, ?_⟩
    rw [← buffer]
    exact conserves_of_same _
  cases call with
  | tick => exact tickTold_conserves running whole told
  | write packet => exact writeTold_conserves running whole packets told
  | _ => exact other nofun nofun told

/-- A parent, the stream written to it, and what every call moved. -/
structure TransportHistory where
  process : MediaProcess
  written : Bytes := []
  moved : List Moved := []

def step (script : ChildScript) (fuel : Nat) (history : TransportHistory) (call : ProcessCall) :
    Option TransportHistory :=
  (history.process.callTold script fuel call).map fun (moved, process) =>
    { process, written := history.written ++ fed call, moved := history.moved ++ [moved] }

/-- The stream that was written is what the socket took, what overflows dropped
out of the middle, and what is buffered. -/
structure Conserved (history : TransportHistory) : Prop where
  stream : history.written =
    history.moved.flatMap (fun moved => moved.messages.flatten ++ moved.dropped) ++ history.process.transportBuffer
  messages : ∀ moved ∈ history.moved, ∀ message ∈ moved.messages, FullMessage message
  packets : ∀ moved ∈ history.moved, moved.dropped.length % transportPacketBytes = 0
  overflow : ∀ moved ∈ history.moved, moved.dropped ≠ [] →
    maxBufferedTransport < moved.dropped.length + moved.left.length
  bounded : history.process.transportBuffer.length ≤ maxBufferedTransport

/-- What is kept from call to call. -/
structure Kept (history : TransportHistory) : Prop extends Conserved history where
  running : history.process.childRunning = true
  whole : history.process.transportBuffer.length % transportPacketBytes = 0

theorem step_kept {before after : TransportHistory} (kept : Kept before)
    (packets : (fed call).length % transportPacketBytes = 0) (stepped : step script fuel before call = some after) :
    Kept after := by
  obtain ⟨⟨moved, process⟩, told, rfl⟩ := Option.map_eq_some_iff.mp stepped
  obtain ⟨running, left, conserves⟩ := callTold_conserves kept.running kept.whole packets told
  have rest : process.transportBuffer.length % transportPacketBytes = 0 := by
    have both := whole_append kept.whole packets
    rw [conserves.stream, left] at both
    exact whole_of_append (whole_append (flatten_whole conserves.messages) conserves.packets) both
  refine ⟨⟨?_, ?_, ?_, ?_, ?_⟩, running, rest⟩
  · have stream := conserves.stream
    rw [left] at stream
    simp only [kept.stream, List.append_assoc, stream, List.flatMap_append, List.flatMap_cons, List.flatMap_nil,
      List.nil_append]
  · intro entry among
    obtain earlier | rfl := List.mem_append.mp among |>.imp_right List.mem_singleton.mp
    · exact kept.messages entry earlier
    · exact conserves.messages
  · intro entry among
    obtain earlier | rfl := List.mem_append.mp among |>.imp_right List.mem_singleton.mp
    · exact kept.packets entry earlier
    · exact conserves.packets
  · intro entry among
    obtain earlier | rfl := List.mem_append.mp among |>.imp_right List.mem_singleton.mp
    · exact kept.overflow entry earlier
    · exact conserves.overflow
  · rw [← left]
    exact conserves.bounded kept.bounded

theorem run_kept {before after : TransportHistory} {calls : List ProcessCall} (kept : Kept before)
    (packets : ∀ call ∈ calls, (fed call).length % transportPacketBytes = 0)
    (ran : Runs.run (step script fuel) before calls = some after) : Kept after := by
  induction calls generalizing before with
  | nil =>
    cases ran
    exact kept
  | cons call rest ih =>
    obtain ⟨next, stepped, ran⟩ := Option.bind_eq_some_iff.mp ran
    exact ih (step_kept kept (packets call List.mem_cons_self) stepped)
      (fun other among => packets other (List.mem_cons_of_mem _ among)) ran

/-- The stream that was written is what the socket took, in full messages,
whole packets that overflows dropped where they were the oldest buffered, and a
bounded buffer: nothing is reordered or taken twice. -/
theorem transport_conserved (script : ChildScript) (fuel : Nat) (config : RepeaterConfig) (process : MediaProcess)
    (calls : List ProcessCall) (history : TransportHistory)
    (constructed : construct script fuel config = some process)
    (packets : ∀ call ∈ calls, (fed call).length % transportPacketBytes = 0)
    (ran : Runs.run (step script fuel) { process } calls = some history) :
    Conserved history ∧
      ((history.moved.flatMap Moved.messages).flatten ++ history.process.transportBuffer).Sublist history.written := by
  have started : startChild (sendMessage script fuel) { config } = some process := by
    simpa [construct, ensureRunning, reapChild] using constructed
  obtain ⟨running, buffer⟩ := startChild_stays started
  have empty : process.transportBuffer = [] := buffer
  have initial : Kept { process } :=
    ⟨⟨by simp [empty], by simp, by simp, by simp, by simp [empty]⟩, running, by simp [empty]⟩
  have conserved := (run_kept initial packets ran).toConserved
  refine ⟨conserved, ?_⟩
  rw [conserved.stream]
  refine List.Sublist.append_right ?_ _
  generalize history.moved = moved
  induction moved with
  | nil => exact List.Sublist.refl _
  | cons first rest ih =>
    rw [List.flatMap_cons, List.flatten_append, List.flatMap_cons]
    exact (List.sublist_append_left _ _).append ih

/-- The transport messages among those taken for a child. -/
def transports (messages : List ControlMessage) : List Bytes :=
  (messages.filter (·.type = .transportStream)).map ControlMessage.payload

theorem replayed_not_transport {message : ControlMessage} (among : message ∈ process.replayMessages) :
    message.type ≠ .transportStream := by
  simp only [replayMessages, List.mem_append, List.mem_cons, List.not_mem_nil, or_false, mem_videoMessages] at among
  rcases among with (rfl | rfl | rfl | rfl | rfl) | ⟨path, -, rfl | ⟨position, -, rfl⟩⟩ <;> rintro ⟨⟩

theorem transports_delivered {message : ControlMessage} (other : message.type ≠ .transportStream) :
    transports (process.delivered message).accepted = transports process.accepted := by
  simp [transports, other]

/-- What a send reports as taken is what the child's socket took: a child keeps
its transport messages, and a child started meanwhile has only the new one. -/
theorem sendMessage_transports {message : ControlMessage} {essential taken : Bool} (running : process.childRunning = true)
    (sent : sendMessage script fuel process message essential = some (taken, after)) :
    transports after.accepted =
      (if after.starts = process.starts then transports process.accepted else []) ++
        if taken then transports [message] else [] := by
  -- A child started since has been told no transport.
  let Fresh (other : MediaProcess) : Prop := process.starts < other.starts ∧ transports other.accepted = []
  let Stage (other : MediaProcess) : Prop :=
    (other.starts = process.starts ∧ transports other.accepted = transports process.accepted) ∨ Fresh other
  let Start (other : MediaProcess) : Prop := process.starts ≤ other.starts
  have blind (Held : MediaProcess → Prop) (_ : Held = Fresh ∨ Held = Stage) (one other : MediaProcess)
      (same : other.standing = one.standing) (held : Held one) : Held other := by
    have starts : other.starts = one.starts := by
      simp only [standing, Prod.mk.injEq] at same
      exact same.2.2.2.2.2.2.2.2.2.2.2.2.2.1
    have accepted : other.accepted = one.accepted := by
      simp only [standing, Prod.mk.injEq] at same
      exact same.2.2.2.2.2.2.2.2.2.2.2.2.2.2
    rename_i which
    rcases which with rfl | rfl
    · simpa only [Fresh, starts, accepted] using held
    · simpa only [Stage, Fresh, starts, accepted] using held
  have replays (send : Send) (follows : Follows script Start Fresh send) : Replays Start Fresh send := by
    intro other started at_least starting
    have fresh_stands : Stands Start Fresh Fresh :=
      ⟨blind Fresh (.inl rfl), fun _ fresh => fresh.1.le, fun _ fresh => fresh⟩
    rw [startChild_eq] at starting
    refine messages_keep follows fresh_stands ?_ ?_ rfl starting
    · rintro message among ready ⟨more, none_yet⟩ _
      refine ⟨by simpa using more, ?_⟩
      rw [transports_delivered (replayed_not_transport among), none_yet]
    · exact ⟨Nat.lt_succ_of_le at_least, rfl⟩
  have stands : Stands Start Fresh Stage := by
    refine ⟨blind Stage (.inr rfl), ?_, fun _ fresh => .inr fresh⟩
    rintro other (⟨same, -⟩ | ⟨more, -⟩)
    · exact same.ge
    · exact more.le
  obtain ⟨-, ends⟩ := sendMessage_follows replays fuel Stage stands process message essential (taken, after)
    (.inl ⟨rfl, rfl⟩) running sent
  have split (ready : MediaProcess) (stage : Stage ready) :
      transports ready.accepted = if ready.starts = process.starts then transports process.accepted else [] := by
    obtain ⟨same, kept⟩ | ⟨more, none_yet⟩ := stage
    · rw [if_pos same, kept]
    · rw [if_neg more.ne', none_yet]
  cases ends with
  | through ready stage passed =>
    have front := split ready stage
    simp only [transports, List.filter_append, List.map_append] at front ⊢
    rw [front]
    rfl
  | lost ready stage missed =>
    rw [if_neg Bool.false_ne_true, List.append_nil]
    exact split ready stage
  | restarted after fresh =>
    rw [if_neg Bool.false_ne_true, List.append_nil]
    exact split after (.inr fresh)

/-- A packet is written, and the tick after it finds nothing left. -/
def oneWrite : List ProcessCall := [.write (List.replicate 188 71), .tick]

theorem transport_conserved_oneWrite :
    ∃ process history, construct { exited := fun _ => false } 2 {} = some process ∧
      Runs.run (step { exited := fun _ => false } 2) { process } oneWrite = some history ∧ Conserved history := by
  have constructs : (construct { exited := fun _ => false } 2 {}).isSome = true := by decide +kernel
  obtain ⟨process, constructed⟩ := Option.isSome_iff_exists.mp constructs
  have runs : ((construct { exited := fun _ => false } 2 {}).bind fun process =>
      Runs.run (step { exited := fun _ => false } 2) { process } oneWrite).isSome = true := by decide +kernel
  rw [constructed] at runs
  obtain ⟨history, ran⟩ := Option.isSome_iff_exists.mp runs
  refine ⟨process, history, constructed, ran, ?_⟩
  refine (transport_conserved _ 2 {} process oneWrite history constructed ?_ ran).1
  intro call among
  rcases List.mem_cons.mp among with rfl | later
  · have length : (fed (.write (List.replicate 188 71))).length = 188 := List.length_replicate
    rw [length]
    rfl
  · cases List.mem_singleton.mp later
    rfl

end MediaTransport
end WhRepeater
