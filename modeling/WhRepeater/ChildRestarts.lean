import WhRepeater.MediaProcess
import WhRepeater.Interruptions

/-! When a call of the media parent returns. Every message looks at the child
twice, and every exit found has the parent send the whole state again, five to
seven messages: a call returns exactly if the looks outweigh what the exits
among them add. A child that always exits keeps a call from ever returning. -/
namespace WhRepeater

/-- The looks an exit adds. -/
def MediaProcess.replayLooks (process : MediaProcess) : Nat := 2 * process.replayMessages.length

namespace ChildRestarts
open MediaProcess Interruptions

variable {script : ChildScript} {process middle after : MediaProcess} {send : Send}
  {message : ControlMessage} {essential : Bool}

theorem replayLooks_of_wishes (same : after.wishes = process.wishes) :
    after.replayLooks = process.replayLooks := by
  unfold replayLooks
  rw [replayMessages_of_wishes same]

theorem replayMessages_length (process : MediaProcess) :
    5 ≤ process.replayMessages.length ∧ process.replayMessages.length ≤ 7 := by
  have video : process.videoMessages.length ≤ 2 := by
    unfold videoMessages
    cases process.fallbackVideoPath with
    | none => simp
    | some path => cases process.fallbackVideoSeek <;> simp
  simp only [replayMessages, List.length_append, List.length_cons, List.length_nil]
  omega

/-- From one state to another the parent has done work of `budget` looks and
what the exits added, and has started a child for each exit. -/
structure Worked (script : ChildScript) (process : MediaProcess) (budget : Nat) (after : MediaProcess) : Prop where
  running : after.childRunning = true
  wishes : after.wishes = process.wishes
  spends : Spends script.exited process.replayLooks process.clock budget after.clock
  starts : after.clock + process.replayLooks * process.starts =
    process.clock + budget + process.replayLooks * after.starts

theorem worked_append (first : Worked script process budget middle)
    (second : Worked script middle more after) : Worked script process (budget + more) after := by
  have looks := replayLooks_of_wishes first.wishes
  have spent := second.spends
  have started := second.starts
  rw [looks] at spent started
  refine ⟨second.running, second.wishes.trans first.wishes, spends_append first.spends spent, ?_⟩
  have before := first.starts
  omega

theorem worked_remember (message : ControlMessage) (worked : Worked script process budget after) :
    Worked script process budget (after.remember message) := by
  obtain ⟨running, wishes, spends, starts⟩ := worked
  exact ⟨by simpa using running, by simpa using wishes, by simpa using spends, by simpa using starts⟩

/-- A send that, when it returns, has done its two looks and what they led to. -/
def Accounted (script : ChildScript) (send : Send) : Prop :=
  ∀ process message essential result, process.childRunning = true →
    send process message essential = some result → Worked script process 2 result.2

theorem sendRemembered_worked (accounted : Accounted script send) (running : process.childRunning = true)
    (returned : sendRemembered send process message = some after) : Worked script process 2 after := by
  simp only [sendRemembered, Option.bind_eq_bind, Option.bind_eq_some_iff] at returned
  obtain ⟨⟨taken, next⟩, sent, returned⟩ := returned
  have worked := accounted process message true (taken, next) running sent
  cases taken with
  | true =>
    cases returned
    exact worked_remember message worked
  | false =>
    cases returned
    exact worked

theorem replay_worked (accounted : Accounted script send) (messages : List ControlMessage)
    (running : process.childRunning = true)
    (returned : messages.foldlM (sendRemembered send) process = some after) :
    Worked script process (2 * messages.length) after := by
  induction messages generalizing process with
  | nil =>
    cases returned
    exact ⟨running, rfl, .done, by simp⟩
  | cons message rest ih =>
    simp only [List.foldlM_cons, Option.bind_eq_bind, Option.bind_eq_some_iff] at returned
    obtain ⟨next, sent, returned⟩ := returned
    have first := sendRemembered_worked accounted running sent
    have joined := worked_append first (ih first.running returned)
    rwa [List.length_cons, Nat.mul_add, Nat.add_comm]

/-- An exit found at this look: a child is started and the state replayed. -/
theorem startChild_worked (middle : MediaProcess) (accounted : Accounted script send) (hit : script.exited process.clock = true)
    (same : middle.wishes = process.wishes) (clock : middle.clock = process.clock + 1)
    (starts : middle.starts = process.starts)
    (returned : startChild send middle = some after) : Worked script process 1 after := by
  rw [startChild_eq] at returned
  have worked := replay_worked accounted middle.replayMessages rfl returned
  have wishes : middle.forked.wishes = process.wishes := same
  have looks := replayLooks_of_wishes wishes
  have length : 2 * middle.replayMessages.length = process.replayLooks := by
    rw [replayMessages_of_wishes same, replayLooks]
  have spent := worked.spends
  have started := worked.starts
  rw [looks, length, show middle.forked.clock = process.clock + 1 from clock] at spent started
  rw [show middle.forked.starts = process.starts + 1 from congrArg (· + 1) starts, Nat.mul_add] at started
  refine ⟨worked.running, worked.wishes.trans wishes, .struck hit ?_, by omega⟩
  rwa [Nat.zero_add]

theorem looked_worked (running : process.childRunning = true) (clear : script.exited process.clock = false) :
    Worked script process 1 process.looked :=
  ⟨running, rfl, .calm clear .done, rfl⟩

theorem ensureRunning_worked (accounted : Accounted script send) (running : process.childRunning = true)
    (returned : ensureRunning script send process = some after) : Worked script process 1 after := by
  simp only [ensureRunning, Option.bind_eq_bind, Option.bind_eq_some_iff] at returned
  obtain ⟨next, reaped, returned⟩ := returned
  have worked : Worked script process 1 next := by
    rw [reapChild, if_neg (by simp [running])] at reaped
    split at reaped
    · rename_i hit
      exact startChild_worked process.looked.stopChild accounted hit rfl rfl rfl reaped
    · rename_i clear
      cases reaped
      exact looked_worked running (by simpa using clear)
  rw [if_neg (by simp [worked.running])] at returned
  cases returned
  exact worked

theorem sendNow_worked (accounted : Accounted script send) (running : process.childRunning = true)
    (returned : sendNow script send process message essential = some result) :
    Worked script process 1 result.2 := by
  rw [sendNow, if_neg (by simp [running])] at returned
  split at returned
  · rename_i hit
    obtain ⟨next, started, rfl⟩ := Option.map_eq_some_iff.mp returned
    exact startChild_worked process.looked.stopChild accounted hit rfl rfl rfl started
  · rename_i clear
    have worked := looked_worked running (by simpa using clear)
    obtain ⟨_, wishes, spends, starts⟩ := worked
    split at returned
    · cases returned
      exact ⟨running, wishes, spends, starts⟩
    · cases returned
      exact ⟨running, wishes, spends, starts⟩

/-- Whatever the fuel, a message that returns has done its two looks and what
the exits among them added. -/
theorem sendMessage_accounted (script : ChildScript) (fuel : Nat) :
    Accounted script (sendMessage script fuel) := by
  induction fuel with
  | zero =>
    intro process message essential result running returned
    cases returned
  | succ fuel ih =>
    intro process message essential result running returned
    simp only [sendMessage, Option.bind_eq_bind, Option.bind_eq_some_iff] at returned
    obtain ⟨next, ensured, returned⟩ := returned
    have first := ensureRunning_worked ih running ensured
    exact worked_append first (sendNow_worked ih first.running returned)

/-! ## Returning -/

/-- The send returns from every state whose work is done within `reach` looks. -/
def Reaches (script : ChildScript) (send : Send) (reach : Nat) : Prop :=
  ∀ process message essential stop, process.childRunning = true →
    Spends script.exited process.replayLooks process.clock 2 stop → stop ≤ process.clock + reach →
      ∃ result, send process message essential = some result

theorem sendRemembered_reaches (message : ControlMessage) (reaches : Reaches script send reach) (running : process.childRunning = true)
    (spends : Spends script.exited process.replayLooks process.clock 2 stop)
    (near : stop ≤ process.clock + reach) : ∃ after, sendRemembered send process message = some after := by
  obtain ⟨result, sent⟩ := reaches process message true stop running spends near
  exact ⟨_, by simp only [sendRemembered, sent, Option.bind_eq_bind, Option.bind_some]; rfl⟩

theorem replay_reaches (accounted : Accounted script send) (reaches : Reaches script send reach)
    (messages : List ControlMessage) (running : process.childRunning = true)
    (spends : Spends script.exited process.replayLooks process.clock (2 * messages.length) stop)
    (near : stop ≤ process.clock + reach) :
    ∃ after, messages.foldlM (sendRemembered send) process = some after := by
  induction messages generalizing process with
  | nil => exact ⟨process, rfl⟩
  | cons message rest ih =>
    have cut : 2 * (message :: rest).length = 2 + 2 * rest.length := by
      rw [List.length_cons]
      omega
    obtain ⟨middle, first, second⟩ := spends_split spends cut
    have before := spends_le first
    have behind := spends_le second
    obtain ⟨next, sent⟩ := sendRemembered_reaches message reaches running first (by omega)
    have worked := sendRemembered_worked accounted running sent
    obtain rfl := spends_unique first worked.spends
    rw [← replayLooks_of_wishes worked.wishes] at second
    obtain ⟨after, returned⟩ := ih worked.running second (by omega)
    exact ⟨after, by simp only [List.foldlM_cons, sent, Option.bind_eq_bind, Option.bind_some, returned]⟩

theorem startChild_reaches (accounted : Accounted script send) (reaches : Reaches script send reach)
    (spends : Spends script.exited process.replayLooks (process.clock + 1) process.replayLooks stop)
    (middle : MediaProcess) (same : middle.wishes = process.wishes) (clock : middle.clock = process.clock + 1)
    (near : stop ≤ process.clock + 1 + reach) : ∃ after, startChild send middle = some after := by
  have forked : middle.forked.clock = process.clock + 1 := clock
  have near' : stop ≤ middle.forked.clock + reach := by rwa [forked]
  rw [startChild_eq, replayMessages_of_wishes same]
  refine replay_reaches accounted reaches process.replayMessages rfl ?_ near'
  rw [replayLooks_of_wishes (show middle.forked.wishes = process.wishes from same), forked]
  exact spends

/-- A message whose work ends within the fuel returns: every exit found leaves
a shorter piece of it to the messages of the replay. -/
theorem sendMessage_reaches (script : ChildScript) (reach : Nat) :
    Reaches script (sendMessage script (reach + 1)) (reach + 1) := by
  induction reach with
  | zero =>
    intro process message essential stop running spends near
    have length := spends_le spends
    omega
  | succ reach ih =>
    intro process message essential stop running spends near
    have accounted := sendMessage_accounted script (reach + 1)
    obtain ⟨middle, first, second⟩ := spends_split spends (show 2 = 1 + 1 from rfl)
    have before := spends_le first
    have behind := spends_le second
    have ensured : ∃ next, ensureRunning script (sendMessage script (reach + 1)) process = some next := by
      cases first with
      | calm clear rest =>
        exact ⟨process.looked, by simp [ensureRunning, reapChild, running, clear, looked]⟩
      | struck hit rest =>
        rw [Nat.zero_add] at rest
        obtain ⟨next, started⟩ := startChild_reaches accounted ih rest process.looked.stopChild rfl rfl (by omega)
        have worked := startChild_worked process.looked.stopChild accounted hit rfl rfl rfl started
        exact ⟨next, by simp [ensureRunning, reapChild, running, hit, started, worked.running]⟩
    obtain ⟨next, ensured⟩ := ensured
    have worked := ensureRunning_worked accounted running ensured
    obtain rfl := spends_unique first worked.spends
    have looks := replayLooks_of_wishes worked.wishes
    suffices sends : ∃ result,
        sendNow script (sendMessage script (reach + 1)) next message essential = some result by
      obtain ⟨result, sent⟩ := sends
      refine ⟨result, ?_⟩
      rw [sendMessage]
      simp only [Option.bind_eq_bind, ensured, Option.bind_some, sent]
    rw [← looks] at second
    cases second with
    | calm clear rest =>
      rw [sendNow, if_neg (by simp [worked.running]), if_neg (by simp [clear])]
      split <;> exact ⟨_, rfl⟩
    | struck hit rest =>
      rw [Nat.zero_add] at rest
      obtain ⟨after, started⟩ := startChild_reaches accounted ih rest next.looked.stopChild rfl rfl (by omega)
      rw [sendNow, if_neg (by simp [worked.running]), if_pos hit, started]
      exact ⟨_, rfl⟩

/-- A message returns exactly if some number of looks outweighs its own two
and the replays of the exits among them. -/
theorem sendMessage_returns_iff (running : process.childRunning = true) :
    (∃ fuel result, sendMessage script fuel process message essential = some result) ↔
      ∃ n, 2 + process.replayLooks * count script.exited process.clock n ≤ n := by
  constructor
  · rintro ⟨fuel, result, sent⟩
    have worked := sendMessage_accounted script fuel process message essential result running sent
    obtain ⟨n, -, length⟩ := spends_length worked.spends
    exact ⟨n, by omega⟩
  · rintro ⟨n, outweighed⟩
    obtain ⟨stop, near, spends⟩ := spends_of_outweighed n outweighed
    obtain ⟨result, sent⟩ := sendMessage_reaches script n process message essential stop running spends (by omega)
    exact ⟨n + 1, result, sent⟩

/-! ## Whole calls -/

/-- Every message returns, with a bounded number of children started. -/
def Prompt (send : Send) (bound : Nat) : Prop :=
  ∀ process message essential, process.childRunning = true →
    ∃ result, send process message essential = some result ∧ result.2.childRunning = true ∧
      result.2.wishes = process.wishes ∧ result.2.starts ≤ process.starts + bound

/-- The outcome is a return with at most so many children started. -/
def Within (process : MediaProcess) (bound : Nat) (outcome : Option MediaProcess) : Prop :=
  ∃ after, outcome = some after ∧ after.childRunning = true ∧ after.starts ≤ process.starts + bound

/-- Such a return that leaves what was asked of the child alone. -/
def Settles (process : MediaProcess) (bound : Nat) (outcome : Option MediaProcess) : Prop :=
  ∃ after, outcome = some after ∧ after.childRunning = true ∧ after.wishes = process.wishes ∧
    after.starts ≤ process.starts + bound

/-- Exits are rare enough everywhere: at most `window` looks on, the looks
outweigh a message and seven more for every exit among them. -/
def RareExits (script : ChildScript) (window : Nat) : Prop :=
  ∀ start, ∃ n, n ≤ window ∧ 2 * (1 + 7 * count script.exited start n) ≤ n

theorem sendMessage_prompt (rare : RareExits script window) : Prompt (sendMessage script (window + 1)) window := by
  intro process message essential running
  obtain ⟨n, short, outweighed⟩ := rare process.clock
  obtain ⟨five, seven⟩ := replayMessages_length process
  have looks : process.replayLooks ≤ 14 := by
    unfold replayLooks
    omega
  have cheaper : 2 + process.replayLooks * count script.exited process.clock n ≤ n := by
    have fewer := Nat.mul_le_mul_right (count script.exited process.clock n) looks
    omega
  obtain ⟨stop, near, spends⟩ := spends_of_outweighed n cheaper
  obtain ⟨result, sent⟩ :=
    sendMessage_reaches script window process message essential stop running spends (by omega)
  have worked := sendMessage_accounted script (window + 1) process message essential result running sent
  refine ⟨result, sent, worked.running, worked.wishes, ?_⟩
  obtain rfl := spends_unique spends worked.spends
  have started := worked.starts
  by_contra many
  have more : process.replayLooks * (process.starts + window + 1) ≤ process.replayLooks * result.2.starts :=
    Nat.mul_le_mul_left _ (by omega)
  have least : window + 1 ≤ process.replayLooks * (window + 1) := by
    refine Nat.le_mul_of_pos_left _ ?_
    unfold replayLooks
    omega
  rw [Nat.add_assoc, Nat.mul_add] at more
  omega

/-- What is asked of the child beforehand starts none. -/
theorem within_of_settles (asked : MediaProcess) (same : asked.starts = process.starts) (few : bound ≤ more)
    (settles : Settles asked bound outcome) : Within process more outcome := by
  obtain ⟨after, returned, running, -, starts⟩ := settles
  exact ⟨after, returned, running, by omega⟩

theorem settles_bind {next : MediaProcess → Option MediaProcess} (first : Settles process bound outcome)
    (second : ∀ middle, outcome = some middle → middle.childRunning = true → Settles middle more (next middle)) :
    Settles process (bound + more) (outcome.bind next) := by
  obtain ⟨middle, rfl, running, wishes, starts⟩ := first
  obtain ⟨after, returned, up, same, later⟩ := second middle rfl running
  exact ⟨after, returned, up, same.trans wishes, by omega⟩

theorem sendRemembered_settles (message : ControlMessage) (prompt : Prompt send bound)
    (running : process.childRunning = true) : Settles process bound (sendRemembered send process message) := by
  obtain ⟨⟨taken, next⟩, sent, up, wishes, starts⟩ := prompt process message true running
  refine ⟨if taken then next.remember message else next, ?_, ?_, ?_, ?_⟩
  · simp only [sendRemembered, sent, Option.bind_eq_bind, Option.bind_some]
    rfl
  · cases taken <;> simpa using up
  · cases taken <;> simpa using wishes
  · cases taken <;> simpa using starts

theorem sendIfChanged_settles (message : ControlMessage) (prompt : Prompt send bound)
    (running : process.childRunning = true) : Settles process bound (sendIfChanged send process message) := by
  unfold sendIfChanged
  split
  · exact ⟨process, rfl, running, rfl, by omega⟩
  · exact sendRemembered_settles message prompt running

theorem replay_settles (prompt : Prompt send bound) (messages : List ControlMessage)
    (running : process.childRunning = true) :
    Settles process (bound * messages.length) (messages.foldlM (sendRemembered send) process) := by
  induction messages generalizing process with
  | nil => exact ⟨process, rfl, running, rfl, by omega⟩
  | cons message rest ih =>
    have joined := settles_bind (sendRemembered_settles message prompt running) fun middle _ up => ih up
    rwa [List.length_cons, Nat.mul_add, Nat.mul_one, Nat.add_comm]

theorem startChild_settles (prompt : Prompt send bound) (process : MediaProcess) :
    Settles process (1 + bound * 7) (startChild send process) := by
  obtain ⟨-, seven⟩ := replayMessages_length process
  obtain ⟨after, returned, running, wishes, starts⟩ := replay_settles prompt process.replayMessages
    (show process.forked.childRunning = true from rfl)
  have fewer := Nat.mul_le_mul_left bound seven
  have once : process.forked.starts = process.starts + 1 := rfl
  exact ⟨after, by rw [startChild_eq, returned], running, wishes, by omega⟩

theorem receiveReports_keep (process : MediaProcess) (reports : List ChildReport) :
    (reports.foldl receiveReport process).childRunning = process.childRunning ∧
      (reports.foldl receiveReport process).wishes = process.wishes ∧
      (reports.foldl receiveReport process).starts = process.starts := by
  induction reports generalizing process with
  | nil => exact ⟨rfl, rfl, rfl⟩
  | cons report rest ih =>
    obtain ⟨running, wishes, starts⟩ := ih (process.receiveReport report)
    cases report <;> exact ⟨running, wishes, starts⟩

theorem drain_settles (script : ChildScript) (prompt : Prompt send bound) (running : process.childRunning = true) :
    Settles process (1 + bound * 7) (drainChildMessages script send process) := by
  obtain ⟨up, wishes, starts⟩ := receiveReports_keep process.looked (script.reports process.clock)
  rw [drainChildMessages, if_neg (by simp [running])]
  dsimp only
  split
  · obtain ⟨after, returned, restarted, same, few⟩ := startChild_settles prompt
      ((script.reports process.clock).foldl receiveReport process.looked).stopChild
    have asked : ((script.reports process.clock).foldl receiveReport process.looked).stopChild.wishes =
        process.wishes := wishes
    have before : ((script.reports process.clock).foldl receiveReport process.looked).stopChild.starts =
        process.starts := starts
    exact ⟨after, returned, restarted, same.trans asked, by omega⟩
  · exact ⟨_, rfl, up.trans running, wishes, starts.trans_le (Nat.le_add_right _ _)⟩

/-- The chunks a buffer of the length is sent in. -/
def chunks (length : Nat) : Nat := (length + maxTransportPayload - 1) / maxTransportPayload

theorem chunks_drop (length : Nat) (pending : 0 < length) :
    chunks length = chunks (length - maxTransportPayload) + 1 := by
  have positive : maxTransportPayload = 63920 := rfl
  unfold chunks
  rw [positive]
  omega

theorem flush_within (process : MediaProcess) (prompt : Prompt send bound) (rounds : Nat) (running : process.childRunning = true) :
    Within process (bound * chunks process.transportBuffer.length) (flushTransportBuffer send rounds process) := by
  induction rounds generalizing process with
  | zero => exact ⟨process, rfl, running, by omega⟩
  | succ rounds ih =>
    unfold flushTransportBuffer
    split
    · exact ⟨process, rfl, running, by omega⟩
    · rename_i pending
      have some : 0 < process.transportBuffer.length := List.length_pos_iff.mpr pending
      have fewer := chunks_drop process.transportBuffer.length some
      obtain ⟨⟨taken, next⟩, sent, stays, same, starts⟩ :=
        prompt process ⟨.transportStream, process.transportBuffer.take maxTransportPayload⟩ false running
      have buffer : next.transportBuffer = process.transportBuffer := transportBuffer_of_wishes same
      have started : next.starts ≤ process.starts + bound := starts
      simp only [sent, Option.bind_eq_bind, Option.bind_some]
      rw [fewer, Nat.mul_add, Nat.mul_one]
      cases taken with
      | true =>
        obtain ⟨after, returned, up, few⟩ :=
          ih { next with transportBuffer := next.transportBuffer.drop maxTransportPayload } stays
        simp only [List.length_drop, buffer] at few
        exact ⟨after, by simpa [buffer] using returned, up, by omega⟩
      | false => exact ⟨next, rfl, stays, by omega⟩

/-- The messages a call sends itself, at most, a look at the child's reports
counted as one. -/
def ownMessages (process : MediaProcess) : ProcessCall → Nat
  | .setAccessNotice _ _ => 2
  | .tick => chunks process.transportBuffer.length + 3
  | .write packet => chunks (process.transportBuffer ++ packet).length
  | _ => 1

theorem tick_within (prompt : Prompt (sendMessage script fuel) bound) (running : process.childRunning = true) :
    Within process ((1 + bound * 7) * (chunks process.transportBuffer.length + 3))
      (process.call script fuel .tick) := by
  obtain ⟨drained, returned, up, wishes, first⟩ := drain_settles script prompt running
  have buffer := transportBuffer_of_wishes wishes
  obtain ⟨flushed, sent, stays, second⟩ :=
    flush_within { drained with mode := drained.believedMode } prompt drained.transportBuffer.length up
  obtain ⟨⟨taken, ticked⟩, told, holds, -, third⟩ := prompt flushed ⟨.tick, []⟩ false stays
  obtain ⟨after, last, ends, -, fourth⟩ := drain_settles script prompt holds
  refine ⟨after, ?_, ends, ?_⟩
  · simp only [call, tick, returned, sent, told, last, Option.bind_eq_bind, Option.bind_some]
  · have chunked : bound * chunks process.transportBuffer.length ≤
        (1 + bound * 7) * chunks process.transportBuffer.length := Nat.mul_le_mul_right _ (by omega)
    simp only [buffer] at second third fourth
    rw [Nat.mul_add]
    omega

theorem write_within (prompt : Prompt (sendMessage script fuel) bound) (running : process.childRunning = true)
    (packet : Bytes) :
    Within process ((1 + bound * 7) * chunks (process.transportBuffer ++ packet).length)
      (process.call script fuel (.write packet)) := by
  simp only [call, write]
  split
  · exact ⟨process, rfl, running, by omega⟩
  · obtain ⟨flushed, sent, up, few⟩ := flush_within
      { process with transportBuffer := process.transportBuffer ++ packet } prompt
      (process.transportBuffer ++ packet).length running
    have chunked : bound * chunks (process.transportBuffer ++ packet).length ≤
        (1 + bound * 7) * chunks (process.transportBuffer ++ packet).length := Nat.mul_le_mul_right _ (by omega)
    have kept : flushed.dropBacklog.childRunning = flushed.childRunning ∧
        flushed.dropBacklog.starts = flushed.starts := by
      unfold dropBacklog
      split <;> exact ⟨rfl, rfl⟩
    refine ⟨flushed.dropBacklog, ?_, kept.1.trans up, ?_⟩
    · simp only [sent, Option.bind_eq_bind, Option.bind_some]
      rfl
    · rw [kept.2]
      exact few.trans (Nat.add_le_add_left chunked _)

/-- Under a prompt send every call returns, with a bounded number of children
started for each message of its own. -/
theorem call_within (prompt : Prompt (sendMessage script fuel) bound) (running : process.childRunning = true)
    (call : ProcessCall) :
    Within process ((1 + bound * 7) * ownMessages process call) (process.call script fuel call) := by
  have once : bound ≤ (1 + bound * 7) * 1 := by omega
  cases call with
  | select input =>
    exact within_of_settles { process with active := input } rfl once (sendIfChanged_settles _ prompt running)
  | setBeaconAllowed allowed =>
    exact within_of_settles { process with beaconAllowed := allowed } rfl once
      (sendIfChanged_settles _ prompt running)
  | setAccessNotice notice endTone =>
    have both : Settles (process.noticed notice endTone) (bound + bound) _ :=
      settles_bind (sendIfChanged_settles (process.noticed notice endTone).noticeMessage prompt running)
        fun middle _ up => sendIfChanged_settles middle.toneMessage prompt up
    refine within_of_settles (process.noticed notice endTone) rfl ?_ both
    simp only [ownMessages]
    omega
  | playFallbackVideo path =>
    refine within_of_settles { process with
      fallbackVideoPath := some path, fallbackVideoSeek := none, fallbackVideoStatus := none
      mode := .fallbackVideo } rfl once ?_
    exact sendRemembered_settles _ prompt running
  | stopFallbackVideo =>
    refine within_of_settles { process with
      fallbackVideoPath := none, fallbackVideoSeek := none, fallbackVideoStatus := none
      mode := .fallback } rfl once ?_
    exact sendRemembered_settles _ prompt running
  | seekFallbackVideo position =>
    exact within_of_settles { process with fallbackVideoSeek := some (max 0 position) } rfl once
      (sendRemembered_settles _ prompt running)
  | setPreviewEnabled enabled =>
    exact within_of_settles { process with previewEnabled := enabled } rfl once
      (sendIfChanged_settles _ prompt running)
  | reconfigurePluto transmitEnabled =>
    exact within_of_settles process rfl once (sendRemembered_settles _ prompt running)
  | tick => exact tick_within prompt running
  | write packet => exact write_within prompt running packet

/-- The constructor starts a child, and whatever else its replay makes it start. -/
theorem construct_within (prompt : Prompt (sendMessage script fuel) bound) (config : RepeaterConfig) :
    Within { config } (1 + bound * 7) (construct script fuel config) := by
  obtain ⟨after, returned, up, -, few⟩ := startChild_settles prompt { config }
  exact ⟨after, by simpa [construct, ensureRunning, reapChild] using returned, up, few⟩

/-- The constructor and every call of a parent with a running child return,
with children started in proportion to the messages of the call. -/
def Supervised (script : ChildScript) : Prop :=
  ∃ bound, (∀ config, ∃ fuel, Within { config } bound (construct script fuel config)) ∧
    ∀ process call, process.childRunning = true →
      ∃ fuel, Within process (bound * ownMessages process call) (process.call script fuel call)

/-- A parent in the middle of a video, at a given look. -/
def playing (clock : Nat) : MediaProcess :=
  { config := {}, fallbackVideoPath := some (bytes "/v.mp4"), fallbackVideoSeek := some 0,
    childRunning := true, clock }

theorem playing_replayLooks (clock : Nat) : (playing clock).replayLooks = 14 := rfl

/-- Whatever its children do, the parent's calls return with boundedly many
restarts exactly if exits are rare: if from every look on, within a bounded
number of looks, these outweigh one message and seven more for every exit
found among them. -/
theorem supervised_iff_rare_exits (script : ChildScript) :
    Supervised script ↔ ∃ window, RareExits script window := by
  constructor
  · rintro ⟨bound, -, returns⟩
    refine ⟨2 + 14 * bound, fun start => ?_⟩
    obtain ⟨fuel, after, returned, -, few⟩ := returns (playing start) (.reconfigurePluto true) rfl
    have worked := sendRemembered_worked (sendMessage_accounted script fuel) rfl returned
    obtain ⟨n, reached, length⟩ := spends_length worked.spends
    have started := worked.starts
    rw [playing_replayLooks] at started length
    simp only [ownMessages, playing, Nat.mul_one, Nat.zero_add] at few started length reached
    exact ⟨n, by omega, by omega⟩
  · rintro ⟨window, rare⟩
    have prompt := sendMessage_prompt rare
    exact ⟨1 + window * 7, fun config => ⟨window + 1, construct_within prompt config⟩,
      fun process call running => ⟨window + 1, call_within prompt running call⟩⟩

/-- A child that always exits right after it was started: the constructor
never returns. -/
theorem dying_child_traps_constructor :
    ¬ ∃ fuel after, construct { exited := fun _ => true } fuel {} = some after := by
  rintro ⟨fuel, after, returned⟩
  have replayed : startChild (sendMessage { exited := fun _ => true } fuel) { config := {} } = some after := by
    simpa [construct, ensureRunning, reapChild] using returned
  rw [startChild_eq] at replayed
  have worked := replay_worked (sendMessage_accounted { exited := fun _ => true } fuel) _ rfl replayed
  exact not_spends_always (fun _ => rfl) (by decide) (by decide) worked.spends

end ChildRestarts
end WhRepeater
