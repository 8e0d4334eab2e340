import WhRepeater.Config
import WhRepeater.DueQueues
import WhRepeater.MediaTiming
import WhRepeater.Runs

/-! Which submitted video frame the output muxer shows. The overlays it draws on a
frame do not change which frame it is, and are left out. -/
namespace WhRepeater
open DueQueues (Latest skip)

/-- `pts` is none for `AV_NOPTS_VALUE`. -/
structure SubmittedFrame (Picture : Type) where
  pts : Option Int
  picture : Picture
  deriving Repr, DecidableEq

namespace SubmittedFrame

def relativePts {Picture : Type} (frame : SubmittedFrame Picture) : Int := frame.pts.getD 0

end SubmittedFrame

/-- What an output frame shows: a submitted frame, the black one that stands in for
it, or the generated fallback content. -/
inductive Shown (Picture : Type) where
  | submitted (frame : SubmittedFrame Picture)
  | black
  | generated
  deriving Repr, DecidableEq

/-- `waiting` is a submission that found the queue full, and `encoded` what the
encoder was given, in order. -/
structure SubmittedVideo (Picture : Type) where
  submittedVideoSource : Bytes := bytes "submitted"
  submittedVideoFrames : List (SubmittedFrame Picture) := []
  waiting : Option (SubmittedFrame Picture) := none
  submittedVideoBaseFrame : Option Int := none
  heldSubmittedVideoFrame : Option (SubmittedFrame Picture) := none
  heldRenderedSubmittedVideoFrame : Option (Shown Picture) := none
  lastVideoPts : Option Int := none
  encoded : List (Shown Picture) := []
  deriving Repr, DecidableEq

namespace SubmittedVideo

variable {Picture : Type}

def fallbackVideo : Bytes := bytes "fallback-video"

def nextVideoPts (video : SubmittedVideo Picture) : Int :=
  match video.lastVideoPts with
  | none => 0
  | some last => if last < 0 then 0 else last + 1

/-- On every index an output stream can reach it is that of `nextOutputVideoPts`. -/
theorem toInt_nextOutputVideoPts_eq {last : Int64} (room : last.toInt + 1 < 2 ^ 63) :
    (nextOutputVideoPts last).toInt =
      nextVideoPts ({ lastVideoPts := if last = Int64.minValue then none else some last.toInt } : SubmittedVideo Picture) := by
  by_cases unset : last = Int64.minValue
  · subst unset
    rfl
  by_cases low : last.toInt < 0
  · have below : last < 0 := Int64.lt_iff_toInt_lt.mpr low
    simp [nextOutputVideoPts, nextVideoPts, unset, below, low]
  · rw [toInt_nextOutputVideoPts (Int.not_lt.mp low) room]
    simp [nextVideoPts, unset, low]

def clearSubmittedVideo (video : SubmittedVideo Picture) : SubmittedVideo Picture :=
  { video with
    submittedVideoFrames := []
    heldSubmittedVideoFrame := none
    heldRenderedSubmittedVideoFrame := none
    submittedVideoBaseFrame := none }

def beginSubmittedSource (video : SubmittedVideo Picture) (source : Bytes) : SubmittedVideo Picture :=
  { video.clearSubmittedVideo with
    submittedVideoSource := source
    submittedVideoBaseFrame := some video.nextVideoPts }

def push (video : SubmittedVideo Picture) (frame : SubmittedFrame Picture) : SubmittedVideo Picture :=
  { video with submittedVideoFrames := video.submittedVideoFrames ++ [frame] }

/-- The call up to its wait, or to its end when it does not wait. -/
def submitVideoFrame (video : SubmittedVideo Picture) (source : Bytes) (frame : SubmittedFrame Picture) :
    SubmittedVideo Picture :=
  let video :=
    if video.submittedVideoSource ≠ source then
      { video.clearSubmittedVideo with
        submittedVideoSource := source
        submittedVideoBaseFrame := some video.nextVideoPts }
    else if source = fallbackVideo ∧ video.submittedVideoBaseFrame = none then
      { video with submittedVideoBaseFrame := some video.nextVideoPts }
    else video
  if source = fallbackVideo then
    if 2 ≤ video.submittedVideoFrames.length then { video with waiting := some frame } else video.push frame
  else { video with submittedVideoFrames := [frame] }

/-- The end of a wait: a queue that is still full drops the frame. -/
def wake (video : SubmittedVideo Picture) (frame : SubmittedFrame Picture) : SubmittedVideo Picture :=
  let video := { video with waiting := none }
  if 2 ≤ video.submittedVideoFrames.length then video else video.push frame

def submittedFrameDuePts (video : SubmittedVideo Picture) (frame : SubmittedFrame Picture) : Int :=
  video.submittedVideoBaseFrame.getD video.nextVideoPts + frame.relativePts

def encode (video : SubmittedVideo Picture) (shown : Shown Picture) : SubmittedVideo Picture :=
  { video with lastVideoPts := some video.nextVideoPts, encoded := video.encoded ++ [shown] }

def writeSubmittedVideoFrame (video : SubmittedVideo Picture) (shown : Shown Picture) : SubmittedVideo Picture :=
  let video :=
    if video.submittedVideoSource = fallbackVideo then { video with heldRenderedSubmittedVideoFrame := some shown } else video
  video.encode shown

def writeHeldOrGeneratedSubmittedFrame (video : SubmittedVideo Picture) : SubmittedVideo Picture :=
  match video.heldRenderedSubmittedVideoFrame, video.heldSubmittedVideoFrame with
  | some rendered, _ => video.encode rendered
  | none, some held => video.writeSubmittedVideoFrame (.submitted held)
  | none, none => video.writeSubmittedVideoFrame .black

/-- `audioReady` is `fallbackVideoAudioReadyLocked`, and `recent` says that the last
submission is less than five seconds ago. -/
def submittedVideoFresh (video : SubmittedVideo Picture) (audioReady recent : Bool) : Bool :=
  !video.submittedVideoFrames.isEmpty && if video.submittedVideoSource = fallbackVideo then audioReady else recent

def writeFrame (video : SubmittedVideo Picture) (frameIndex : Int) (preferSubmittedVideo audioReady recent : Bool) :
    SubmittedVideo Picture :=
  if preferSubmittedVideo && video.submittedVideoFresh audioReady recent then
    if video.submittedVideoSource = fallbackVideo then
      match skip video.submittedFrameDuePts frameIndex video.submittedVideoFrames with
      | front :: rest =>
        if frameIndex < video.submittedFrameDuePts front then
          { video with submittedVideoFrames := front :: rest }.writeHeldOrGeneratedSubmittedFrame
        else
          { video with
            submittedVideoFrames := rest
            heldSubmittedVideoFrame := some front
            heldRenderedSubmittedVideoFrame := none }.writeSubmittedVideoFrame (.submitted front)
      | [] => video  -- a fresh queue is not empty
    else
      match video.submittedVideoFrames.getLast? with
      | some last => video.writeSubmittedVideoFrame (.submitted last)
      | none => video
  else if preferSubmittedVideo && video.submittedVideoSource = fallbackVideo &&
      (video.heldSubmittedVideoFrame.isSome || video.heldRenderedSubmittedVideoFrame.isSome) then
    video.writeHeldOrGeneratedSubmittedFrame
  else video.encode .generated

end SubmittedVideo

/-! ## A fallback video played into the muxer -/

/-- The muxer with the index of its next output frame and the last timestamp that
was submitted. -/
structure FallbackPlayback (Picture : Type) where
  video : SubmittedVideo Picture := {}
  frameIndex : Int := 0
  newest : Option Int := none
  deriving Repr, DecidableEq

namespace FallbackPlayback

variable {Picture : Type}

inductive Event (Picture : Type) where
  | submitVideo (frame : SubmittedFrame Picture)
  | wake
  | writeFrame (preferSubmittedVideo audioReady recent : Bool)
  deriving Repr, DecidableEq

/-- One submitting thread, with timestamps that do not go back. -/
def step (playback : FallbackPlayback Picture) : Event Picture → Option (FallbackPlayback Picture)
  | .submitVideo frame =>
    if playback.video.waiting.isNone ∧ ∀ pts ∈ playback.newest, pts ≤ frame.relativePts then
      some { playback with
        video := playback.video.submitVideoFrame SubmittedVideo.fallbackVideo frame
        newest := some frame.relativePts }
    else none
  | .wake => playback.video.waiting.map fun frame => { playback with video := playback.video.wake frame }
  | .writeFrame preferSubmittedVideo audioReady recent =>
    some { playback with
      video := playback.video.writeFrame playback.frameIndex preferSubmittedVideo audioReady recent
      frameIndex := playback.frameIndex + 1 }

/-- The muxer before its first output frame, the source begun or not. -/
def start (begun : Bool) : FallbackPlayback Picture where
  video := if begun then SubmittedVideo.beginSubmittedSource {} SubmittedVideo.fallbackVideo else {}

/-- The submitted frame that was shown last. -/
def lastShown (encoded : List (Shown Picture)) : Option (SubmittedFrame Picture) :=
  encoded.foldl (fun last shown => match shown with | .submitted frame => some frame | _ => last) none

/-- What an output frame that prefers submitted video is asked to show: the latest
queued frame that is due, those before it discarded; else, with the queue as it was,
the submitted frame shown last, or none when there was none. No frame is early. -/
structure Selects (before after : FallbackPlayback Picture) (shown : Shown Picture) : Prop where
  encoded : after.video.encoded = before.video.encoded ++ [shown]
  chosen :
    (∃ older frame newer,
      Latest before.video.submittedFrameDuePts before.frameIndex before.video.submittedVideoFrames older frame newer ∧
        (∀ old ∈ older, old.relativePts ≤ frame.relativePts) ∧
          shown = .submitted frame ∧ after.video.submittedVideoFrames = newer) ∨
      (∀ frame ∈ before.video.submittedVideoFrames, before.frameIndex < before.video.submittedFrameDuePts frame) ∧
        after.video.submittedVideoFrames = before.video.submittedVideoFrames ∧
          match lastShown before.video.encoded with
          | some frame => shown = .submitted frame
          | none => ∀ frame, shown ≠ .submitted frame
  notEarly : ∀ frame, shown = .submitted frame → before.video.submittedFrameDuePts frame ≤ before.frameIndex

/-! ## The invariant -/

variable {playback before after : FallbackPlayback Picture} {video : SubmittedVideo Picture}
variable {frame : SubmittedFrame Picture} {base : Int}

/-- Nothing was submitted yet. -/
structure Idle (playback : FallbackPlayback Picture) : Prop where
  source : playback.video.submittedVideoSource ≠ SubmittedVideo.fallbackVideo
  queue : playback.video.submittedVideoFrames = []
  waiting : playback.video.waiting = none
  shown : lastShown playback.video.encoded = none

/-- The queue and the frame that waits behind it are in order, and what is held is
what was shown last, which was due. -/
structure Playing (playback : FallbackPlayback Picture) : Prop where
  source : playback.video.submittedVideoSource = SubmittedVideo.fallbackVideo
  base : ∃ base, playback.video.submittedVideoBaseFrame = some base
  ordered : DueQueues.InOrder SubmittedFrame.relativePts (playback.video.submittedVideoFrames ++ playback.video.waiting.toList)
  newest : ∀ frame ∈ playback.video.submittedVideoFrames ++ playback.video.waiting.toList,
    ∃ pts, playback.newest = some pts ∧ frame.relativePts ≤ pts
  held : playback.video.heldSubmittedVideoFrame = lastShown playback.video.encoded
  rendered : playback.video.heldRenderedSubmittedVideoFrame = playback.video.heldSubmittedVideoFrame.map .submitted ∨
    playback.video.heldSubmittedVideoFrame = none ∧ playback.video.heldRenderedSubmittedVideoFrame = some .black
  early : ∀ frame, playback.video.heldSubmittedVideoFrame = some frame →
    playback.video.submittedFrameDuePts frame ≤ playback.frameIndex

theorem lastShown_append (encoded : List (Shown Picture)) (shown : Shown Picture) :
    lastShown (encoded ++ [shown]) =
      match shown with
      | .submitted frame => some frame
      | .black | .generated => lastShown encoded := by
  cases shown <;> simp [lastShown]

theorem due_eq (started : video.submittedVideoBaseFrame = some base) :
    video.submittedFrameDuePts frame = base + frame.relativePts := by
  simp [SubmittedVideo.submittedFrameDuePts, started]

/-! ## Output frames -/

/-- What repeats the frame shown last. -/
def standIn (video : SubmittedVideo Picture) : Shown Picture :=
  match video.heldSubmittedVideoFrame with
  | some frame => .submitted frame
  | none => .black

/-- The three outcomes of an output frame; `ready` when it prefers submitted video
and finds the audio of the source ready. -/
inductive Written (playback : FallbackPlayback Picture) (ready : Bool) : SubmittedVideo Picture → Prop where
  | shown {older newer : List (SubmittedFrame Picture)} {frame : SubmittedFrame Picture}
      (latest : Latest playback.video.submittedFrameDuePts playback.frameIndex playback.video.submittedVideoFrames
        older frame newer) :
      Written playback ready
        ({ playback.video with
          submittedVideoFrames := newer
          heldSubmittedVideoFrame := some frame
          heldRenderedSubmittedVideoFrame := some (.submitted frame) }.encode (.submitted frame))
  | again (early : ready → ∀ frame ∈ playback.video.submittedVideoFrames,
        playback.frameIndex < playback.video.submittedFrameDuePts frame) :
      Written playback ready
        ({ playback.video with heldRenderedSubmittedVideoFrame := some (standIn playback.video) }.encode (standIn playback.video))
  | generated (nothing : ready → playback.video.submittedVideoFrames = [] ∧ playback.video.heldSubmittedVideoFrame = none) :
      Written playback ready (playback.video.encode .generated)

theorem Playing.due_ordered (playing : Playing playback) :
    DueQueues.InOrder playback.video.submittedFrameDuePts playback.video.submittedVideoFrames := by
  obtain ⟨base, started⟩ := playing.base
  refine (List.pairwise_append.mp playing.ordered).1.imp fun earlier => ?_
  rw [due_eq started, due_eq started]
  omega

/-- The frame shown last is shown again, or else a black one. -/
theorem Playing.writeHeld (playing : Playing playback) :
    playback.video.writeHeldOrGeneratedSubmittedFrame =
      { playback.video with
        heldRenderedSubmittedVideoFrame := some (standIn playback.video) }.encode (standIn playback.video) := by
  unfold SubmittedVideo.writeHeldOrGeneratedSubmittedFrame SubmittedVideo.writeSubmittedVideoFrame standIn
  obtain same | ⟨nothing, black⟩ := playing.rendered
  · cases held : playback.video.heldSubmittedVideoFrame with
    | some frame =>
      rw [held] at same
      simp [same, SubmittedVideo.encode, SubmittedVideo.nextVideoPts]
    | none =>
      rw [held] at same
      simp [same, playing.source, held]
  · simp [nothing, black, SubmittedVideo.encode, SubmittedVideo.nextVideoPts]

/-- A queue that is not fresh although the audio is ready is empty. -/
theorem Playing.queue_of_stale (playing : Playing playback) {preferSubmittedVideo audioReady recent : Bool}
    (stale : ¬(preferSubmittedVideo && playback.video.submittedVideoFresh audioReady recent) = true)
    (ready : (preferSubmittedVideo && audioReady) = true) : playback.video.submittedVideoFrames = [] := by
  simp only [Bool.and_eq_true] at ready
  simpa [SubmittedVideo.submittedVideoFresh, playing.source, ready.1, ready.2] using stale

theorem Playing.written (playing : Playing playback) (preferSubmittedVideo audioReady recent : Bool) :
    Written playback (preferSubmittedVideo && audioReady)
      (playback.video.writeFrame playback.frameIndex preferSubmittedVideo audioReady recent) := by
  unfold SubmittedVideo.writeFrame
  split
  case isTrue fresh =>
    rw [if_pos playing.source]
    obtain ⟨early, same⟩ | ⟨older, shown, newer, latest, front⟩ :=
      DueQueues.skip_cases playback.frameIndex playing.due_ordered
    · rw [same]
      cases queue : playback.video.submittedVideoFrames with
      | nil => simp [SubmittedVideo.submittedVideoFresh, queue] at fresh
      | cons first rest =>
        have notDue := early first (by simp [queue])
        simp only [if_pos notDue, ← queue]
        rw [playing.writeHeld]
        exact .again fun _ => early
    · simp only [front, if_neg (Int.not_lt.mpr latest.isDue)]
      have written : Written playback (preferSubmittedVideo && audioReady) _ := .shown latest
      simpa [SubmittedVideo.writeSubmittedVideoFrame, playing.source] using written
  case isFalse stale =>
    split
    · rw [playing.writeHeld]
      refine .again fun ready frame member => ?_
      rw [playing.queue_of_stale stale ready] at member
      cases member
    case isFalse unheld =>
      refine .generated fun ready => ⟨playing.queue_of_stale stale ready, ?_⟩
      simp only [Bool.and_eq_true] at ready
      simp only [ready.1, playing.source, decide_true, Bool.true_and, Bool.or_eq_true, not_or] at unheld
      simpa using unheld.1

/-- What an outcome selects, when the frame preferred submitted video. -/
theorem Playing.selects (playing : Playing playback) {video : SubmittedVideo Picture} (written : Written playback true video) :
    ∃ shown, Selects playback { playback with video, frameIndex := playback.frameIndex + 1 } shown := by
  obtain ⟨base, started⟩ := playing.base
  cases written with
  | @shown older newer frame latest =>
    refine ⟨.submitted frame, rfl, .inl ⟨older, frame, newer, latest, fun old member => ?_, rfl, rfl⟩, ?_⟩
    · have left := latest.left_out playing.due_ordered old member
      rw [due_eq started, due_eq started] at left
      omega
    · rintro _ ⟨⟩
      exact latest.isDue
  | again early =>
    refine ⟨standIn playback.video, rfl, .inr ⟨early rfl, rfl, ?_⟩, ?_⟩
    · rw [← playing.held]
      unfold standIn
      cases playback.video.heldSubmittedVideoFrame <;> simp
    · intro frame shown
      cases held : playback.video.heldSubmittedVideoFrame with
      | some last =>
        simp only [standIn, held, Shown.submitted.injEq] at shown
        exact shown ▸ playing.early last held
      | none => simp [standIn, held] at shown
  | generated nothing =>
    obtain ⟨empty, unheld⟩ := nothing rfl
    refine ⟨.generated, rfl, .inr ⟨by simp [empty], rfl, ?_⟩, by simp⟩
    simp [← playing.held, unheld]

/-- Every outcome keeps the invariant. -/
theorem Playing.keeps (playing : Playing playback) {ready : Bool} {video : SubmittedVideo Picture}
    (written : Written playback ready video) : Playing { playback with video, frameIndex := playback.frameIndex + 1 } := by
  obtain ⟨base, started⟩ := playing.base
  have later {frame : SubmittedFrame Picture} (held : playback.video.heldSubmittedVideoFrame = some frame) :
      base + frame.relativePts ≤ playback.frameIndex + 1 := by
    have early := playing.early frame held
    rw [due_eq started] at early
    omega
  cases written with
  | @shown older newer frame latest =>
    have suffix : newer ++ playback.video.waiting.toList <:+
        playback.video.submittedVideoFrames ++ playback.video.waiting.toList := by
      rw [latest.split]
      exact List.suffix_append_self_iff.mpr ⟨older ++ [frame], by simp⟩
    refine ⟨playing.source, ⟨base, started⟩, playing.ordered.sublist suffix.sublist, ?_, ?_, .inl rfl, ?_⟩
    · exact fun entry member => playing.newest entry (suffix.subset member)
    · simp [SubmittedVideo.encode, lastShown_append]
    · rintro _ ⟨⟩
      have due := latest.isDue
      rw [due_eq started] at due
      exact Int.le_trans (Int.le_of_eq (due_eq started)) (by change _ ≤ playback.frameIndex + 1; omega)
  | again =>
    refine ⟨playing.source, ⟨base, started⟩, playing.ordered, playing.newest, ?_, ?_, ?_⟩
    · have held := playing.held
      cases last : playback.video.heldSubmittedVideoFrame with
      | some frame => simp [SubmittedVideo.encode, lastShown_append, standIn, last]
      | none => simp [SubmittedVideo.encode, lastShown_append, standIn, last, ← held]
    · cases last : playback.video.heldSubmittedVideoFrame with
      | some frame => exact .inl (by simp [SubmittedVideo.encode, standIn, last])
      | none => exact .inr (by simp [SubmittedVideo.encode, standIn, last])
    · intro frame held
      exact Int.le_trans (Int.le_of_eq (due_eq started)) (later held)
  | generated =>
    refine ⟨playing.source, ⟨base, started⟩, playing.ordered, playing.newest, ?_, playing.rendered, ?_⟩
    · simpa [SubmittedVideo.encode, lastShown_append] using playing.held
    · intro frame held
      exact Int.le_trans (Int.le_of_eq (due_eq started)) (later held)

/-! ## Submissions -/

/-- A frame that is no older than the newest goes behind the queue. -/
theorem Playing.behind (playing : Playing playback) (alone : playback.video.waiting = none)
    (order : ∀ pts ∈ playback.newest, pts ≤ frame.relativePts) :
    DueQueues.InOrder SubmittedFrame.relativePts (playback.video.submittedVideoFrames ++ [frame]) ∧
      ∀ entry ∈ playback.video.submittedVideoFrames ++ [frame], entry.relativePts ≤ frame.relativePts := by
  have ordered := playing.ordered
  have newest := playing.newest
  simp only [alone, Option.toList_none, List.append_nil] at ordered newest
  have older : ∀ entry ∈ playback.video.submittedVideoFrames, entry.relativePts ≤ frame.relativePts := by
    intro entry member
    obtain ⟨pts, last, le⟩ := newest entry member
    exact Int.le_trans le (order pts last)
  refine ⟨List.pairwise_append.mpr ⟨ordered, List.pairwise_singleton _ _, by simpa using older⟩, ?_⟩
  simp only [List.mem_append, List.mem_singleton]
  rintro entry (member | rfl)
  · exact older entry member
  · exact Int.le_refl _

/-- Once the source plays, a submission joins the queue or waits. -/
theorem Playing.submitVideoFrame_eq (playing : Playing playback) :
    playback.video.submitVideoFrame SubmittedVideo.fallbackVideo frame =
      if 2 ≤ playback.video.submittedVideoFrames.length then { playback.video with waiting := some frame }
      else playback.video.push frame := by
  obtain ⟨base, started⟩ := playing.base
  have based :
      ¬(SubmittedVideo.fallbackVideo = SubmittedVideo.fallbackVideo ∧ playback.video.submittedVideoBaseFrame = none) := by
    simp [started]
  unfold SubmittedVideo.submitVideoFrame
  rw [if_neg (not_not.mpr playing.source), if_neg based, if_pos rfl]

theorem Playing.submit (playing : Playing playback) (alone : playback.video.waiting = none)
    (order : ∀ pts ∈ playback.newest, pts ≤ frame.relativePts) :
    Playing { playback with
      video := playback.video.submitVideoFrame SubmittedVideo.fallbackVideo frame
      newest := some frame.relativePts } := by
  obtain ⟨ordered, newest⟩ := playing.behind alone order
  have known : ∀ entry ∈ playback.video.submittedVideoFrames ++ [frame],
      ∃ pts, some frame.relativePts = some pts ∧ entry.relativePts ≤ pts := fun entry member => ⟨_, rfl, newest entry member⟩
  rw [playing.submitVideoFrame_eq]
  split
  · exact ⟨playing.source, playing.base, ordered, known, playing.held, playing.rendered, playing.early⟩
  · refine ⟨playing.source, playing.base, ?_, ?_, playing.held, playing.rendered, playing.early⟩
    · simpa [SubmittedVideo.push, alone] using ordered
    · simpa [SubmittedVideo.push, alone] using known

theorem Idle.submit (idle : Idle playback) :
    Playing { playback with
      video := playback.video.submitVideoFrame SubmittedVideo.fallbackVideo frame
      newest := some frame.relativePts } := by
  simp only [SubmittedVideo.submitVideoFrame, if_pos idle.source, if_true]
  refine ⟨rfl, ⟨_, rfl⟩, ?_, ?_, idle.shown.symm, .inl rfl, by simp [SubmittedVideo.clearSubmittedVideo, SubmittedVideo.push]⟩
  all_goals simp [SubmittedVideo.clearSubmittedVideo, SubmittedVideo.push, idle.waiting]

theorem Playing.wake (playing : Playing playback) (waits : playback.video.waiting = some frame) :
    Playing { playback with video := playback.video.wake frame } := by
  have ordered := playing.ordered
  have newest := playing.newest
  simp only [waits, Option.toList_some] at ordered newest
  have queued := List.sublist_append_left playback.video.submittedVideoFrames [frame]
  unfold SubmittedVideo.wake
  simp only
  split
  · refine ⟨playing.source, playing.base, ?_, ?_, playing.held, playing.rendered, playing.early⟩
    · simpa using ordered.sublist queued
    · simpa using fun entry member => newest entry (queued.subset member)
  · refine ⟨playing.source, playing.base, ?_, ?_, playing.held, playing.rendered, playing.early⟩
    · simpa [SubmittedVideo.push] using ordered
    · simpa [SubmittedVideo.push] using newest

theorem Idle.write (idle : Idle playback) (preferSubmittedVideo audioReady recent : Bool) :
    playback.video.writeFrame playback.frameIndex preferSubmittedVideo audioReady recent = playback.video.encode .generated := by
  simp [SubmittedVideo.writeFrame, SubmittedVideo.submittedVideoFresh, idle.queue, idle.source]

/-! ## Steps and runs -/

/-- An output frame that prefers submitted video while the audio of the source is
ready selects it; between output frames nothing leaves the queue. -/
structure Asked (before : FallbackPlayback Picture) (event : Event Picture) (after : FallbackPlayback Picture) : Prop where
  selects : ∀ recent, event = .writeFrame true true recent → ∃ shown, Selects before after shown
  queued : (∀ preferSubmittedVideo audioReady recent, event ≠ .writeFrame preferSubmittedVideo audioReady recent) →
    before.video.submittedVideoFrames <+: after.video.submittedVideoFrames

/-- No submission takes a queued frame away. -/
theorem queued_submit (sound : Idle playback ∨ Playing playback) :
    playback.video.submittedVideoFrames <+:
      (playback.video.submitVideoFrame SubmittedVideo.fallbackVideo frame).submittedVideoFrames := by
  rcases sound with idle | playing
  · rw [idle.queue]
    exact List.nil_prefix
  · rw [playing.submitVideoFrame_eq]
    split
    · exact List.prefix_rfl
    · exact List.prefix_append _ _

theorem Idle.selects (idle : Idle playback) :
    Selects playback { playback with video := playback.video.encode .generated, frameIndex := playback.frameIndex + 1 }
      .generated := by
  refine ⟨rfl, .inr ⟨by simp [idle.queue], rfl, ?_⟩, by simp⟩
  simp [idle.shown]

theorem Idle.keeps (idle : Idle playback) :
    Idle { playback with video := playback.video.encode .generated, frameIndex := playback.frameIndex + 1 } := by
  refine ⟨idle.source, idle.queue, idle.waiting, ?_⟩
  simpa [SubmittedVideo.encode, lastShown_append] using idle.shown

theorem sound_step {event : Event Picture} (sound : Idle before ∨ Playing before) (stepped : step before event = some after) :
    (Idle after ∨ Playing after) ∧ Asked before event after := by
  cases event with
  | submitVideo frame =>
    simp only [step, Option.isNone_iff_eq_none] at stepped
    split at stepped
    case isTrue free =>
      obtain ⟨alone, order⟩ := free
      obtain rfl := Option.some.inj stepped
      refine ⟨.inr ?_, ⟨by simp, fun _ => queued_submit sound⟩⟩
      rcases sound with idle | playing
      · exact idle.submit
      · exact playing.submit alone order
    case isFalse => cases stepped
  | wake =>
    obtain ⟨frame, waits, rfl⟩ := Option.map_eq_some_iff.mp stepped
    rcases sound with idle | playing
    · rw [idle.waiting] at waits
      cases waits
    · refine ⟨.inr (playing.wake waits), ⟨by simp, fun _ => ?_⟩⟩
      unfold SubmittedVideo.wake
      simp only
      split
      · exact List.prefix_rfl
      · exact List.prefix_append _ _
  | writeFrame preferSubmittedVideo audioReady recent =>
    obtain rfl := Option.some.inj stepped
    rcases sound with idle | playing
    · rw [idle.write]
      exact ⟨.inl idle.keeps, fun _ _ => ⟨.generated, idle.selects⟩, fun other => absurd rfl (other _ _ _)⟩
    · have written := playing.written preferSubmittedVideo audioReady recent
      refine ⟨.inr (playing.keeps written), ?_, fun other => absurd rfl (other _ _ _)⟩
      rintro _ ⟨⟩
      exact playing.selects written

theorem sound_start (begun : Bool) :
    Idle (start begun : FallbackPlayback Picture) ∨ Playing (start begun : FallbackPlayback Picture) := by
  cases begun with
  | false => exact .inl ⟨show bytes "submitted" ≠ bytes "fallback-video" by decide, rfl, rfl, rfl⟩
  | true =>
    refine .inr ⟨rfl, ⟨_, rfl⟩, .nil, ?_, rfl, .inl rfl, ?_⟩
    all_goals simp [start, SubmittedVideo.beginSubmittedSource, SubmittedVideo.clearSubmittedVideo]

/-- In every run each output frame that prefers submitted video, with the audio of
its source ready, shows the latest queued frame that is due. -/
theorem fallback_frames_selected (begun : Bool) (events : List (Event Picture)) :
    Runs.Throughout step Asked (start begun) events :=
  Runs.throughout_of_invariant (fun playback => Idle playback ∨ Playing playback) (fun _ _ _ => sound_step) (sound_start begun)

end FallbackPlayback
end WhRepeater
