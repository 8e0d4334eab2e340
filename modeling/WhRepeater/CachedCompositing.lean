import WhRepeater.FallbackMuxer
import WhRepeater.ReusedKeys
import WhRepeater.Runs

/-! The generated video of the output muxer: which picture a frame shows, and the
cache of the picture with its overlays. The cache knows a picture by the address of
its frame, which another frame may take once that one is released. -/
namespace WhRepeater
open ReusedKeys (All Distinct Live)

/-- A slate or a testcard is rendered from a template or by the built-in filter. -/
inductive Picture where
  | slate (text : Bytes) (template : Bool)
  | testcard (template : Bool)
  | slide (path : Bytes)
  | ident
  deriving Repr, DecidableEq

inductive Overlay where
  | ident
  | clock (text : Bytes)
  | streamInfo (text : Bytes)
  deriving Repr, DecidableEq

structure Composite where
  picture : Picture
  overlays : List Overlay := []
  deriving Repr, DecidableEq

def Composite.render (composite : Composite) (overlay : Overlay) : Composite :=
  { composite with overlays := composite.overlays ++ [overlay] }

structure PictureFrame where
  address : Nat
  picture : Picture
  deriving Repr, DecidableEq

/-- `AsyncRenderedFrame`: `frame` is none until its thread is ready. -/
structure PendingRender where
  key : Bytes
  frame : Option PictureFrame := none
  deriving Repr, DecidableEq

def identText (config : RepeaterConfig) : Bytes :=
  if config.ident.serviceName ≠ [] then config.ident.serviceName
  else if config.pluto.watermarkText ≠ [] then config.pluto.watermarkText
  else if config.pluto.callsign ≠ [] then config.pluto.callsign
  else bytes "WH Repeater"

/-- What the muxer takes from its configuration. -/
structure FallbackShow where
  frameRate : Int := 25
  identEnabled : Bool := true
  identInterval : Int := 600
  morseUnits : List Bool := []
  morseUnitSamples : Int := 5760
  activeSlidePaths : List Bytes := []
  slideDurationFrames : Int := 250
  deriving Repr, DecidableEq

namespace FallbackShow

/-- The paths are those of the slides that were found. -/
def ofConfig (config : RepeaterConfig) (slides : List Bytes) : FallbackShow :=
  let frameRate := (clampedOutputFrameRate config.pluto.outputFrameRate).toInt
  { frameRate
    identEnabled := config.ident.enabled
    identInterval := config.ident.interval
    morseUnits := morseToneUnits (identText config)
    morseUnitSamples := (WhRepeater.morseUnitSamples config).toInt
    activeSlidePaths := slides
    slideDurationFrames := max 1 ((config.fallback.slideDuration * frameRate).tdiv 1000) }

def secondIndex (settings : FallbackShow) (frameIndex : Int) : Int := frameIndex.tdiv (max 1 settings.frameRate)

end FallbackShow

/-- `encoded` is what the encoder was given, in order. -/
structure GeneratedVideo where
  notice : Option Bytes := none
  cachedSlate : Option PictureFrame := none
  pendingSlateRender : Option PendingRender := none
  noticeUsingBuiltInSlate : Bool := false
  cachedIdent : Option PictureFrame := none
  cachedTestcard : Option PictureFrame := none
  pendingTestcardRender : Option PendingRender := none
  cachedSlide : Option PictureFrame := none
  slideIndex : Nat := 0
  nextSlideFrame : Int := 0
  nextIdentFrame : Int := Int64.maxValue.toInt
  identStartFrame : Int := Int64.maxValue.toInt
  identEndFrame : Int := 0
  firstIdent : Bool := true
  streamInfo : Option Bytes := none
  streamInfoSubmittedVideoOnly : Bool := false
  streamInfoOverlay : Option Bytes := none
  liveInfoFramesRemaining : Int := 0
  clockOverlay : Option Bytes := none
  clockSecondIndex : Int := -1
  cachedComposited : Option Composite := none
  cachedCompositedIdentity : Option Nat := none
  cachedCompositedSecondIndex : Int := -1
  encoded : List Composite := []
  deriving Repr, DecidableEq

namespace GeneratedVideo

def construct (settings : FallbackShow) : GeneratedVideo where
  nextIdentFrame := if settings.identInterval > 0 then 0 else Int64.maxValue.toInt

def setNotice (video : GeneratedVideo) (notice : Option Bytes) : GeneratedVideo :=
  if video.notice = notice then video
  else
    { video with
      notice
      pendingSlateRender := none
      noticeUsingBuiltInSlate := false
      cachedSlate := none }

def setStreamInfoLocked (settings : FallbackShow) (video : GeneratedVideo) (streamInfo : Option Bytes)
    (submittedVideoOnly : Bool) : GeneratedVideo :=
  if video.streamInfo = streamInfo ∧ video.streamInfoSubmittedVideoOnly = submittedVideoOnly then video
  else
    { video with
      streamInfo
      streamInfoSubmittedVideoOnly := submittedVideoOnly
      streamInfoOverlay := none
      liveInfoFramesRemaining :=
        if streamInfo.any fun text => !text.isEmpty then max 1 settings.frameRate * 4 else 0
      cachedComposited := none }

/-! ## The picture of a frame -/

def pollSlateRender (video : GeneratedVideo) (text : Bytes) : GeneratedVideo :=
  match video.pendingSlateRender with
  | some ⟨key, some frame⟩ =>
    if key = text then
      { video with cachedSlate := some frame, pendingSlateRender := none, cachedComposited := none }
    else video
  | _ => video

def startSlateRender (video : GeneratedVideo) (text : Bytes) : GeneratedVideo :=
  { video with pendingSlateRender := some { key := text } }

/-- The slate of a notice; `allocated` is the address of the frame if one is made. -/
def slateFrame (video : GeneratedVideo) (text : Bytes) (allocated : Nat) : GeneratedVideo × PictureFrame :=
  let video := if video.noticeUsingBuiltInSlate then video else video.pollSlateRender text
  let video :=
    if !video.noticeUsingBuiltInSlate && video.pendingSlateRender.isNone then video.startSlateRender text else video
  match video.cachedSlate with
  | some frame => (video, frame)
  | none =>
    let frame := ⟨allocated, .slate text false⟩
    ({ video with
        cachedSlate := some frame
        noticeUsingBuiltInSlate := true
        pendingSlateRender := none
        cachedComposited := none },
      frame)

def pollTestcardRender (video : GeneratedVideo) : GeneratedVideo :=
  match video.pendingTestcardRender with
  | some ⟨_, some frame⟩ =>
    { video with cachedTestcard := some frame, pendingTestcardRender := none, cachedComposited := none }
  | _ => video

def testcardFrame (video : GeneratedVideo) (allocated : Nat) : GeneratedVideo × PictureFrame :=
  let video := video.pollTestcardRender
  let video :=
    if video.pendingTestcardRender.isNone then
      { video with pendingTestcardRender := some { key := bytes "testcard" } }
    else video
  match video.cachedTestcard with
  | some frame => (video, frame)
  | none =>
    let frame := ⟨allocated, .testcard false⟩
    ({ video with cachedTestcard := some frame, cachedComposited := none }, frame)

/-- `decodes` says whether the image of the slide loads. -/
def slideFrame (settings : FallbackShow) (video : GeneratedVideo) (frameIndex : Int) (allocated : Nat) (decodes : Bool) :
    GeneratedVideo × PictureFrame :=
  if settings.activeSlidePaths.isEmpty then
    match video.cachedIdent with
    | some frame => (video, frame)
    | none =>
      let frame := ⟨allocated, .ident⟩
      ({ video with cachedIdent := some frame }, frame)
  else
    match video.cachedSlide.filter fun _ => frameIndex < video.nextSlideFrame with
    | some frame => (video, frame)
    | none =>
      let path := settings.activeSlidePaths.getD (video.slideIndex % settings.activeSlidePaths.length) []
      let frame := ⟨allocated, if decodes then .slide path else .ident⟩
      ({ video with
          cachedSlide := some frame
          cachedComposited := none
          slideIndex := video.slideIndex + 1
          nextSlideFrame := frameIndex + settings.slideDurationFrames },
        frame)

def identActiveForFrame (settings : FallbackShow) (video : GeneratedVideo) (frameIndex : Int) : Bool × GeneratedVideo :=
  if !settings.identEnabled || settings.identInterval ≤ 0 || settings.morseUnits.isEmpty then (false, video)
  else
    let video :=
      if frameIndex ≥ video.nextIdentFrame then
        let morseSamples := settings.morseUnits.length * settings.morseUnitSamples
        let sampleRate := defaultOutputAudioSampleRate.toInt
        let morseFrames :=
          if video.firstIdent then settings.frameRate * 10
          else max (settings.frameRate * 5) ((morseSamples * settings.frameRate + sampleRate - 1).tdiv sampleRate)
        { video with
          identStartFrame := frameIndex
          identEndFrame := frameIndex + morseFrames
          nextIdentFrame := frameIndex + settings.identInterval * settings.frameRate
          firstIdent := false }
      else video
    (video.identStartFrame ≤ frameIndex && frameIndex < video.identEndFrame, video)

/-- The picture and the address that the cache knows it by. -/
def generatedContent (settings : FallbackShow) (video : GeneratedVideo) (frameIndex : Int) (allocated : Nat) (decodes : Bool) :
    GeneratedVideo × Picture × Option Nat :=
  match video.notice with
  | some text =>
    let (video, frame) := video.slateFrame text allocated
    (video, frame.picture, video.cachedSlate.map PictureFrame.address)
  | none =>
    let (identActive, video) := video.identActiveForFrame settings frameIndex
    if identActive then
      let (video, frame) := video.testcardFrame allocated
      (video, frame.picture, video.cachedTestcard.map PictureFrame.address)
    else
      let (video, frame) := video.slideFrame settings frameIndex allocated decodes
      (video, frame.picture, (video.cachedSlide.or video.cachedIdent).map PictureFrame.address)

/-! ## Compositing -/

/-- `now` is the time of day, as the clock overlay would show it. -/
def updateClock (settings : FallbackShow) (video : GeneratedVideo) (frameIndex : Int) (now : Bytes) : GeneratedVideo × Bytes :=
  match video.clockOverlay.filter fun _ => video.clockSecondIndex = settings.secondIndex frameIndex with
  | some text => (video, text)
  | none => ({ video with clockSecondIndex := settings.secondIndex frameIndex, clockOverlay := some now }, now)

/-- The stream information that generated frames show when no notice does. -/
def infoInForce (video : GeneratedVideo) : Option Bytes :=
  if video.streamInfoSubmittedVideoOnly then none else video.streamInfo.filter fun text => !text.isEmpty

def appliedInfo (video : GeneratedVideo) : Option Bytes :=
  if video.notice.isSome then none else video.infoInForce

def compositedFallbackFrame (settings : FallbackShow) (video : GeneratedVideo) (picture : Picture) (identity : Option Nat)
    (frameIndex : Int) (now : Bytes) : GeneratedVideo × Composite :=
  let secondIndex := settings.secondIndex frameIndex
  let cached := video.cachedComposited.filter fun _ =>
    video.cachedCompositedIdentity = identity && video.cachedCompositedSecondIndex = secondIndex
  match cached with
  | some composite => (video, composite)
  | none =>
    let (video, clock) := video.updateClock settings frameIndex now
    let composite := ((Composite.mk picture []).render .ident).render (.clock clock)
    let (video, composite) :=
      match video.appliedInfo with
      | some text =>
        let shown := video.streamInfoOverlay.getD text
        ({ video with streamInfoOverlay := some shown }, composite.render (.streamInfo shown))
      | none => (video, composite)
    ({ video with
        cachedComposited := some composite
        cachedCompositedIdentity := identity
        cachedCompositedSecondIndex := secondIndex },
      composite)

def writeFrame (settings : FallbackShow) (video : GeneratedVideo) (frameIndex : Int) (allocated : Nat) (decodes : Bool)
    (now : Bytes) : GeneratedVideo :=
  let (video, picture, identity) := video.generatedContent settings frameIndex allocated decodes
  let (video, composite) := video.compositedFallbackFrame settings picture identity frameIndex now
  { video with encoded := video.encoded ++ [composite] }

/-! ## Frames and their addresses -/

inductive Slot where
  | slate
  | pendingSlate
  | testcard
  | pendingTestcard
  | slide
  | ident
  deriving Repr, DecidableEq

def held (video : GeneratedVideo) : Slot → Option PictureFrame
  | .slate => video.cachedSlate
  | .pendingSlate => video.pendingSlateRender.bind PendingRender.frame
  | .testcard => video.cachedTestcard
  | .pendingTestcard => video.pendingTestcardRender.bind PendingRender.frame
  | .slide => video.cachedSlide
  | .ident => video.cachedIdent

def addresses (video : GeneratedVideo) : List Nat :=
  [Slot.slate, .pendingSlate, .testcard, .pendingTestcard, .slide, .ident].filterMap fun slot =>
    (video.held slot).map PictureFrame.address

inductive Event where
  | setNotice (notice : Option Bytes)
  | setStreamInfo (streamInfo : Option Bytes)
  | setLiveStreamInfo (streamInfo : Option Bytes)
  | slateRendered (allocated : Nat) (template : Bool)
  | testcardRendered (allocated : Nat) (template : Bool)
  | writeFrame (frameIndex : Int) (allocated : Nat) (decodes : Bool) (now : Bytes)
  deriving Repr, DecidableEq

/-- A frame is made at an address that no other frame has. A rendering that fails
leaves nothing behind. -/
def step (settings : FallbackShow) (video : GeneratedVideo) : Event → Option GeneratedVideo
  | .setNotice notice => some (video.setNotice notice)
  | .setStreamInfo streamInfo => some (video.setStreamInfoLocked settings streamInfo false)
  | .setLiveStreamInfo streamInfo => some (video.setStreamInfoLocked settings streamInfo true)
  | .slateRendered allocated template =>
    match video.pendingSlateRender with
    | some ⟨key, none⟩ =>
      if allocated ∈ video.addresses then none
      else some { video with pendingSlateRender := some ⟨key, some ⟨allocated, .slate key template⟩⟩ }
    | _ => none
  | .testcardRendered allocated template =>
    match video.pendingTestcardRender with
    | some ⟨key, none⟩ =>
      if allocated ∈ video.addresses then none
      else some { video with pendingTestcardRender := some ⟨key, some ⟨allocated, .testcard template⟩⟩ }
    | _ => none
  | .writeFrame frameIndex allocated decodes now =>
    if allocated ∈ video.addresses then none
    else some (video.writeFrame settings frameIndex allocated decodes now)

/-! ## What a frame should show -/

/-- The picture that is current: of the notice, of the ident window, or a slide. -/
def Current (settings : FallbackShow) (video : GeneratedVideo) (frameIndex : Int) (picture : Picture) : Prop :=
  match video.notice with
  | some text => ∃ template, picture = .slate text template
  | none =>
    if (video.identActiveForFrame settings frameIndex).1 then ∃ template, picture = .testcard template
    else picture = .ident ∨ ∃ path ∈ settings.activeSlidePaths, picture = .slide path

def overlaid (picture : Picture) (clock : Bytes) (info : Option Bytes) : Composite :=
  ⟨picture, [.ident, .clock clock] ++ (info.map Overlay.streamInfo).toList⟩

/-- Compositing without the cache. -/
def composed (settings : FallbackShow) (video : GeneratedVideo) (picture : Picture) (frameIndex : Int) (now : Bytes) :
    Composite :=
  overlaid picture (video.updateClock settings frameIndex now).2 video.appliedInfo

/-- What was asked of a generated frame: the current picture, as it would be
composited without the cache. -/
def Fresh (settings : FallbackShow) (before : GeneratedVideo) (event : Event) (after : GeneratedVideo) : Prop :=
  ∀ frameIndex allocated decodes now, event = .writeFrame frameIndex allocated decodes now →
    let (video, picture, _) := before.generatedContent settings frameIndex allocated decodes
    before.Current settings frameIndex picture ∧
      after.encoded = before.encoded ++ [video.composed settings picture frameIndex now]

/-- The frame is the first of the ident picture, which is made for it. -/
def MakesIdent (settings : FallbackShow) (video : GeneratedVideo) (frameIndex : Int) : Prop :=
  settings.activeSlidePaths = [] ∧ video.notice = none ∧ (video.identActiveForFrame settings frameIndex).1 = false ∧
    video.cachedIdent = none

/-- The ident picture is not made at the address by which the cache still knows
another picture of that second. -/
def IdentApart (settings : FallbackShow) (video : GeneratedVideo) (event : Event) : Prop :=
  ∀ frameIndex allocated decodes now, event = .writeFrame frameIndex allocated decodes now →
    video.MakesIdent settings frameIndex → video.cachedComposited ≠ none → video.cachedCompositedIdentity = some allocated →
      video.cachedCompositedSecondIndex ≠ settings.secondIndex frameIndex

/-! ## The invariant -/

/-- The pictures a slot may hold. -/
def Pictures (settings : FallbackShow) (video : GeneratedVideo) : Slot → PictureFrame → Prop
  | .slate, frame | .pendingSlate, frame => ∃ text template, video.notice = some text ∧ frame.picture = .slate text template
  | .testcard, frame | .pendingTestcard, frame => ∃ template, frame.picture = .testcard template
  | .slide, frame => settings.activeSlidePaths ≠ [] ∧
      (frame.picture = .ident ∨ ∃ path ∈ settings.activeSlidePaths, frame.picture = .slide path)
  | .ident, frame => frame.picture = .ident

structure Framed (settings : FallbackShow) (video : GeneratedVideo) : Prop where
  distinct : Distinct PictureFrame.address video.held
  pictured : All video.held (video.Pictures settings)
  pending : ∀ render, video.pendingSlateRender = some render → video.notice = some render.key
  overlay : ∀ text, video.streamInfoOverlay = some text → video.streamInfo = some text

/-- A composite of this picture with this stream information is the one that the
frame in the slot is shown with. A frame that is not shown yet asks for nothing. -/
def Suits (video : GeneratedVideo) (picture : Picture) (info : Option Bytes) : Slot → PictureFrame → Prop
  | .slate, frame => frame.picture = picture ∧ info = none
  | .testcard, frame | .slide, frame | .ident, frame => frame.picture = picture ∧ info = video.infoInForce
  | .pendingSlate, _ | .pendingTestcard, _ => True

/-- What the cache holds, and whom it suits. -/
structure Noted (settings : FallbackShow) (video : GeneratedVideo) (composite : Composite) (picture : Picture)
    (clock : Bytes) (info : Option Bytes) : Prop where
  shape : composite = overlaid picture clock info
  clock : video.clockOverlay = some clock
  second : video.clockSecondIndex = video.cachedCompositedSecondIndex
  suits : All video.held fun slot frame =>
    video.cachedCompositedIdentity = some frame.address → video.Suits picture info slot frame
  ident : settings.activeSlidePaths = [] → picture = .ident → video.cachedIdent.isSome

def Valid (settings : FallbackShow) (video : GeneratedVideo) : Prop :=
  ∀ composite, video.cachedComposited = some composite → ∃ picture clock info, video.Noted settings composite picture clock info

structure Sound (settings : FallbackShow) (video : GeneratedVideo) : Prop where
  framed : video.Framed settings
  valid : video.Valid settings

variable {settings : FallbackShow} {video before after : GeneratedVideo} {text : Bytes} {allocated : Nat}

theorem not_live (free : allocated ∉ video.addresses) : ¬Live PictureFrame.address video.held allocated := by
  rintro ⟨slot, frame, found, rfl⟩
  refine free (List.mem_filterMap.mpr ⟨slot, ?_, by simp [found]⟩)
  cases slot <;> simp

theorem valid_of_reset (reset : video.cachedComposited = none) : video.Valid settings := by
  intro composite cached
  rw [reset] at cached
  cases cached

/-- What the cache holds and depends on, but for the frames. -/
def cacheOf (video : GeneratedVideo) :=
  (video.cachedComposited, video.cachedCompositedIdentity, video.cachedCompositedSecondIndex, video.clockOverlay,
    video.clockSecondIndex, video.infoInForce, video.cachedIdent.isSome)

/-- Frames that come and go leave the cache valid as long as it suits those that come. -/
theorem Valid.kept (valid : Valid settings video) (same : after.cacheOf = video.cacheOf)
    (carried : ∀ picture info,
      All video.held (fun slot frame =>
        video.cachedCompositedIdentity = some frame.address → video.Suits picture info slot frame) →
      All after.held fun slot frame =>
        video.cachedCompositedIdentity = some frame.address → video.Suits picture info slot frame) :
    Valid settings after := by
  simp only [cacheOf, Prod.mk.injEq] at same
  obtain ⟨sameComposite, identity, second, clockOverlay, clockSecond, inForce, ident⟩ := same
  intro composite cached
  obtain ⟨picture, clock, info, noted⟩ := valid composite (sameComposite ▸ cached)
  refine ⟨picture, clock, info, noted.shape, clockOverlay ▸ noted.clock, ?_, ?_, fun none shown => ident ▸ noted.ident none shown⟩
  · rw [clockSecond, second]
    exact noted.second
  · rw [identity]
    intro slot frame found known
    have suits := carried picture info noted.suits found known
    cases slot with
    | slate => exact suits
    | pendingSlate | pendingTestcard => trivial
    | testcard | slide | ident => exact ⟨suits.1, suits.2.trans inForce.symm⟩

/-! ## Notices and stream information -/

theorem held_setNotice {notice : Option Bytes} (changed : video.notice ≠ notice) :
    (video.setNotice notice).held = Function.update (Function.update video.held .slate none) .pendingSlate none := by
  funext slot
  cases slot <;> simp [setNotice, changed, held]

theorem Sound.setNotice (sound : Sound settings video) (notice : Option Bytes) : Sound settings (video.setNotice notice) := by
  by_cases changed : video.notice = notice
  · simpa [GeneratedVideo.setNotice, changed] using sound
  have holds := held_setNotice changed
  have pictured : All (Function.update (Function.update video.held .slate none) .pendingSlate none) (video.Pictures settings) :=
    sound.framed.pictured.release.release
  rw [GeneratedVideo.setNotice, if_neg changed] at holds ⊢
  refine ⟨⟨?_, ?_, by simp, sound.framed.overlay⟩, ?_⟩
  · rw [holds]
    exact sound.framed.distinct.release.release
  · rw [← holds] at pictured
    intro slot frame found
    cases slot with
    | slate | pendingSlate => cases found
    | testcard | pendingTestcard | slide | ident => exact pictured found
  · exact sound.valid.kept rfl fun _ _ suits => holds ▸ suits.release.release

theorem Sound.setStreamInfo (sound : Sound settings video) (streamInfo : Option Bytes) (submittedVideoOnly : Bool) :
    Sound settings (video.setStreamInfoLocked settings streamInfo submittedVideoOnly) := by
  unfold setStreamInfoLocked
  split
  · exact sound
  · exact ⟨⟨sound.framed.distinct, sound.framed.pictured, sound.framed.pending, by simp⟩, valid_of_reset rfl⟩

/-! ## Renderings -/

theorem Sound.slateRendered {key : Bytes} (sound : Sound settings video) (waiting : video.pendingSlateRender = some ⟨key, none⟩)
    (free : allocated ∉ video.addresses) (template : Bool) :
    Sound settings { video with pendingSlateRender := some ⟨key, some ⟨allocated, .slate key template⟩⟩ } := by
  have holds : held { video with pendingSlateRender := some ⟨key, some ⟨allocated, .slate key template⟩⟩ } =
      Function.update video.held .pendingSlate (some ⟨allocated, .slate key template⟩) := by
    funext slot
    cases slot <;> simp [held]
  have noticed := sound.framed.pending _ waiting
  refine ⟨⟨?_, ?_, ?_, sound.framed.overlay⟩, ?_⟩
  · rw [holds]
    exact sound.framed.distinct.take (not_live free)
  · rw [holds]
    exact sound.framed.pictured.take ⟨key, template, noticed, rfl⟩
  · rintro _ ⟨⟩
    exact noticed
  · exact sound.valid.kept rfl fun _ _ suits => holds ▸ suits.take fun _ => trivial

theorem Sound.testcardRendered {key : Bytes} (sound : Sound settings video) (free : allocated ∉ video.addresses)
    (template : Bool) :
    Sound settings { video with pendingTestcardRender := some ⟨key, some ⟨allocated, .testcard template⟩⟩ } := by
  have holds : held { video with pendingTestcardRender := some ⟨key, some ⟨allocated, .testcard template⟩⟩ } =
      Function.update video.held .pendingTestcard (some ⟨allocated, .testcard template⟩) := by
    funext slot
    cases slot <;> simp [held]
  refine ⟨⟨?_, ?_, sound.framed.pending, sound.framed.overlay⟩, ?_⟩
  · rw [holds]
    exact sound.framed.distinct.take (not_live free)
  · rw [holds]
    exact sound.framed.pictured.take ⟨template, rfl⟩
  · exact sound.valid.kept rfl fun _ _ suits => holds ▸ suits.take fun _ => trivial

/-! ## Selecting the picture -/

theorem Sound.pollSlateRender (sound : Sound settings video) (text : Bytes) : Sound settings (video.pollSlateRender text) := by
  unfold GeneratedVideo.pollSlateRender
  split
  case h_1 key frame pending =>
    split
    · have found : video.held .pendingSlate = some frame := by simp [held, pending]
      have holds : held { video with cachedSlate := some frame, pendingSlateRender := none, cachedComposited := none } =
          Function.update (Function.update video.held .pendingSlate none) .slate (some frame) := by
        funext slot
        cases slot <;> simp [held]
      refine ⟨⟨?_, ?_, by simp, sound.framed.overlay⟩, valid_of_reset rfl⟩
      · rw [holds]
        exact sound.framed.distinct.move found
      · rw [holds]
        have right := sound.framed.pictured found
        exact sound.framed.pictured.release.take right
    · exact sound
  case h_2 => exact sound

theorem Sound.startSlateRender (sound : Sound settings video) (idle : video.pendingSlateRender = none)
    (noticed : video.notice = some text) : Sound settings (video.startSlateRender text) := by
  have holds : (video.startSlateRender text).held = video.held := by
    funext slot
    cases slot <;> simp [held, GeneratedVideo.startSlateRender, idle]
  refine ⟨⟨?_, ?_, ?_, sound.framed.overlay⟩, ?_⟩
  · rw [holds]
    exact sound.framed.distinct
  · rw [holds]
    exact sound.framed.pictured
  · rintro _ ⟨⟩
    exact noticed
  · exact sound.valid.kept rfl fun _ _ suits => holds ▸ suits

/-- A built-in slate takes the slot of the slate. -/
theorem Sound.newSlate (sound : Sound settings video) (noticed : video.notice = some text)
    (free : allocated ∉ video.addresses) :
    Sound settings { video with
      cachedSlate := some ⟨allocated, .slate text false⟩
      noticeUsingBuiltInSlate := true
      pendingSlateRender := none
      cachedComposited := none } := by
  have holds : held { video with
      cachedSlate := some ⟨allocated, .slate text false⟩
      noticeUsingBuiltInSlate := true
      pendingSlateRender := none
      cachedComposited := none } =
        Function.update (Function.update video.held .slate (some ⟨allocated, .slate text false⟩)) .pendingSlate none := by
    funext slot
    cases slot <;> simp [held]
  refine ⟨⟨?_, ?_, by simp, sound.framed.overlay⟩, valid_of_reset rfl⟩
  · rw [holds]
    exact (sound.framed.distinct.take (not_live free)).release
  · rw [holds]
    have right : video.Pictures settings .slate ⟨allocated, .slate text false⟩ := ⟨text, false, noticed, rfl⟩
    exact (sound.framed.pictured.take right).release

theorem addresses_start (idle : video.pendingSlateRender = none) : (video.startSlateRender text).addresses = video.addresses := by
  simp [addresses, held, startSlateRender, idle]

/-- A rendering that was not ready leaves all as it was. -/
theorem pollSlateRender_cases (video : GeneratedVideo) (text : Bytes) :
    video.pollSlateRender text = video ∨
      ∃ frame, video.pollSlateRender text =
        { video with cachedSlate := some frame, pendingSlateRender := none, cachedComposited := none } := by
  unfold pollSlateRender
  split
  · split
    · exact .inr ⟨_, rfl⟩
    · exact .inl rfl
  · exact .inl rfl

/-- The slate of the notice is there. -/
theorem Sound.slateFrame (sound : Sound settings video) (noticed : video.notice = some text)
    (free : allocated ∉ video.addresses) :
    Sound settings (video.slateFrame text allocated).1 ∧
      (video.slateFrame text allocated).1.cachedSlate = some (video.slateFrame text allocated).2 ∧
        (video.slateFrame text allocated).1.notice = some text ∧
          (video.slateFrame text allocated).1.encoded = video.encoded := by
  unfold GeneratedVideo.slateFrame
  extract_lets polled started
  have ready : Sound settings polled ∧ polled.notice = some text ∧ polled.encoded = video.encoded ∧
      (polled.cachedSlate = none → allocated ∉ polled.addresses) := by
    unfold polled
    split
    · exact ⟨sound, noticed, rfl, fun _ => free⟩
    · refine ⟨sound.pollSlateRender text, ?_⟩
      obtain same | ⟨frame, moved⟩ := pollSlateRender_cases video text
      · rw [same]
        exact ⟨noticed, rfl, fun _ => free⟩
      · rw [moved]
        exact ⟨noticed, rfl, by simp⟩
  have begun : Sound settings started ∧ started.notice = some text ∧ started.encoded = video.encoded ∧
      (started.cachedSlate = none → allocated ∉ started.addresses) := by
    unfold started
    split
    case isTrue idle =>
      simp only [Bool.and_eq_true, Option.isNone_iff_eq_none] at idle
      obtain ⟨ready, noticed, kept, free⟩ := ready
      refine ⟨ready.startSlateRender idle.2 noticed, noticed, kept, fun none => ?_⟩
      rw [addresses_start idle.2]
      exact free none
    case isFalse => exact ready
  obtain ⟨begun, noticed, kept, free⟩ := begun
  split
  case h_1 frame found => exact ⟨begun, found, noticed, kept⟩
  case h_2 none => exact ⟨begun.newSlate noticed (free none), rfl, noticed, kept⟩

theorem Sound.pollTestcardRender (sound : Sound settings video) : Sound settings video.pollTestcardRender := by
  unfold GeneratedVideo.pollTestcardRender
  split
  case h_1 key frame pending =>
    have found : video.held .pendingTestcard = some frame := by simp [held, pending]
    have holds : held { video with cachedTestcard := some frame, pendingTestcardRender := none, cachedComposited := none } =
        Function.update (Function.update video.held .pendingTestcard none) .testcard (some frame) := by
      funext slot
      cases slot <;> simp [held]
    have right := sound.framed.pictured found
    refine ⟨⟨?_, ?_, sound.framed.pending, sound.framed.overlay⟩, valid_of_reset rfl⟩
    · rw [holds]
      exact sound.framed.distinct.move found
    · rw [holds]
      exact sound.framed.pictured.release.take right
  case h_2 => exact sound

theorem pollTestcardRender_cases (video : GeneratedVideo) :
    video.pollTestcardRender = video ∨
      ∃ frame, video.pollTestcardRender =
        { video with cachedTestcard := some frame, pendingTestcardRender := none, cachedComposited := none } := by
  unfold pollTestcardRender
  split
  · exact .inr ⟨_, rfl⟩
  · exact .inl rfl

theorem Sound.startTestcardRender (sound : Sound settings video) (idle : video.pendingTestcardRender = none) :
    Sound settings { video with pendingTestcardRender := some { key := bytes "testcard" } } := by
  have holds : held { video with pendingTestcardRender := some { key := bytes "testcard" } } = video.held := by
    funext slot
    cases slot <;> simp [held, idle]
  refine ⟨⟨?_, ?_, sound.framed.pending, sound.framed.overlay⟩, ?_⟩
  · rw [holds]
    exact sound.framed.distinct
  · rw [holds]
    exact sound.framed.pictured
  · exact sound.valid.kept rfl fun _ _ suits => holds ▸ suits

/-- A frame under a new address takes a slot, and the cache is reset. -/
theorem Sound.newTestcard (sound : Sound settings video) (free : allocated ∉ video.addresses) :
    Sound settings { video with cachedTestcard := some ⟨allocated, .testcard false⟩, cachedComposited := none } := by
  have holds : held { video with cachedTestcard := some ⟨allocated, .testcard false⟩, cachedComposited := none } =
      Function.update video.held .testcard (some ⟨allocated, .testcard false⟩) := by
    funext slot
    cases slot <;> simp [held]
  have right : video.Pictures settings .testcard ⟨allocated, .testcard false⟩ := ⟨false, rfl⟩
  refine ⟨⟨?_, ?_, sound.framed.pending, sound.framed.overlay⟩, valid_of_reset rfl⟩
  · rw [holds]
    exact sound.framed.distinct.take (not_live free)
  · rw [holds]
    exact sound.framed.pictured.take right

/-- The testcard is there. -/
theorem Sound.testcardFrame (sound : Sound settings video) (free : allocated ∉ video.addresses) :
    Sound settings (video.testcardFrame allocated).1 ∧
      (video.testcardFrame allocated).1.cachedTestcard = some (video.testcardFrame allocated).2 ∧
        (video.testcardFrame allocated).1.notice = video.notice ∧
          (video.testcardFrame allocated).1.encoded = video.encoded := by
  unfold GeneratedVideo.testcardFrame
  extract_lets polled started
  have ready : Sound settings polled ∧ polled.notice = video.notice ∧ polled.encoded = video.encoded ∧
      (polled.cachedTestcard = none → allocated ∉ polled.addresses) := by
    refine ⟨sound.pollTestcardRender, ?_⟩
    obtain same | ⟨frame, moved⟩ := pollTestcardRender_cases video
    · rw [show polled = video from same]
      exact ⟨rfl, rfl, fun _ => free⟩
    · rw [show polled = _ from moved]
      exact ⟨rfl, rfl, by simp⟩
  have begun : Sound settings started ∧ started.notice = video.notice ∧ started.encoded = video.encoded ∧
      (started.cachedTestcard = none → allocated ∉ started.addresses) := by
    unfold started
    split
    case isTrue idle =>
      simp only [Option.isNone_iff_eq_none] at idle
      obtain ⟨ready, noticed, kept, free⟩ := ready
      refine ⟨ready.startTestcardRender idle, noticed, kept, fun none => ?_⟩
      simpa [addresses, held, idle] using free none
    case isFalse => exact ready
  obtain ⟨begun, noticed, kept, free⟩ := begun
  split
  case h_1 frame found => exact ⟨begun, found, noticed, kept⟩
  case h_2 none => exact ⟨begun.newTestcard (free none), rfl, noticed, kept⟩

theorem Sound.newSlide {picture : Picture} (sound : Sound settings video) (free : allocated ∉ video.addresses)
    (right : video.Pictures settings .slide ⟨allocated, picture⟩) (slideIndex : Nat) (nextSlideFrame : Int) :
    Sound settings { video with
      cachedSlide := some ⟨allocated, picture⟩
      cachedComposited := none
      slideIndex
      nextSlideFrame } := by
  have holds : held { video with
      cachedSlide := some ⟨allocated, picture⟩
      cachedComposited := none
      slideIndex
      nextSlideFrame } = Function.update video.held .slide (some ⟨allocated, picture⟩) := by
    funext slot
    cases slot <;> simp [held]
  refine ⟨⟨?_, ?_, sound.framed.pending, sound.framed.overlay⟩, valid_of_reset rfl⟩
  · rw [holds]
    exact sound.framed.distinct.take (not_live free)
  · rw [holds]
    exact sound.framed.pictured.take right

/-- A slide is there. -/
theorem Sound.slideFrame (sound : Sound settings video) (slides : settings.activeSlidePaths ≠ [])
    (free : allocated ∉ video.addresses) (frameIndex : Int) (decodes : Bool) :
    Sound settings (video.slideFrame settings frameIndex allocated decodes).1 ∧
      (video.slideFrame settings frameIndex allocated decodes).1.cachedSlide =
          some (video.slideFrame settings frameIndex allocated decodes).2 ∧
        (video.slideFrame settings frameIndex allocated decodes).1.notice = video.notice ∧
          (video.slideFrame settings frameIndex allocated decodes).1.encoded = video.encoded := by
  have shown : settings.activeSlidePaths.isEmpty = false := by simpa using slides
  unfold GeneratedVideo.slideFrame
  rw [shown, if_neg (by simp)]
  split
  case h_1 frame found => exact ⟨sound, (Option.filter_eq_some_iff.mp found).1, rfl, rfl⟩
  case h_2 none =>
    have inside : video.slideIndex % settings.activeSlidePaths.length < settings.activeSlidePaths.length :=
      Nat.mod_lt _ (List.length_pos_iff.mpr slides)
    have among :
        settings.activeSlidePaths.getD (video.slideIndex % settings.activeSlidePaths.length) [] ∈ settings.activeSlidePaths := by
      rw [List.getD_eq_getElem?_getD, List.getElem?_eq_getElem inside]
      exact List.getElem_mem inside
    refine ⟨sound.newSlide free ⟨slides, ?_⟩ _ _, rfl, rfl, rfl⟩
    cases decodes with
    | true => exact .inr ⟨_, among, rfl⟩
    | false => exact .inl rfl

theorem Framed.noSlide (framed : Framed settings video) (empty : settings.activeSlidePaths = []) : video.cachedSlide = none := by
  cases found : video.cachedSlide with
  | none => rfl
  | some frame =>
    have slides : video.Pictures settings .slide frame := framed.pictured (show video.held .slide = some frame from found)
    exact absurd empty slides.1

theorem held_newIdent (frame : PictureFrame) :
    held { video with cachedIdent := some frame } = Function.update video.held .ident (some frame) := by
  funext slot
  cases slot <;> simp [held]

theorem Framed.newIdent (framed : Framed settings video) (free : allocated ∉ video.addresses) :
    Framed settings { video with cachedIdent := some ⟨allocated, .ident⟩ } := by
  have right : video.Pictures settings .ident ⟨allocated, .ident⟩ := rfl
  refine ⟨?_, ?_, framed.pending, framed.overlay⟩
  · rw [held_newIdent]
    exact framed.distinct.take (not_live free)
  · rw [held_newIdent]
    exact framed.pictured.take right

theorem Sound.identActive (sound : Sound settings video) (frameIndex : Int) :
    Sound settings (video.identActiveForFrame settings frameIndex).2 := by
  unfold identActiveForFrame
  split
  · exact sound
  · dsimp only
    split
    · exact ⟨⟨sound.framed.distinct, sound.framed.pictured, sound.framed.pending, sound.framed.overlay⟩,
        sound.valid.kept rfl fun _ _ suits => suits⟩
    · exact sound

/-! ## Compositing with and without the cache -/

/-- The slot whose frame is shown: the slate under a notice, else another. -/
def Chosen (video : GeneratedVideo) (slot : Slot) : Prop :=
  slot = .slate ∧ video.notice ≠ none ∨ (slot = .testcard ∨ slot = .slide ∨ slot = .ident) ∧ video.notice = none

theorem appliedInfo_of_notice (noticed : video.notice ≠ none) : video.appliedInfo = none := by
  simp [appliedInfo, Option.isSome_iff_ne_none, noticed]

theorem appliedInfo_of_none (quiet : video.notice = none) : video.appliedInfo = video.infoInForce := by
  simp [appliedInfo, quiet]

/-- A frame that is shown suits its own picture with the stream information applied. -/
theorem Chosen.suits {slot : Slot} {frame : PictureFrame} {picture : Picture} {info : Option Bytes} (chosen : video.Chosen slot) :
    video.Suits picture info slot frame ↔ frame.picture = picture ∧ info = video.appliedInfo := by
  obtain ⟨rfl, noticed⟩ | ⟨rfl | rfl | rfl, quiet⟩ := chosen
  · rw [appliedInfo_of_notice noticed]
    exact Iff.rfl
  all_goals
    rw [appliedInfo_of_none quiet]
    exact Iff.rfl

/-- The clock of the second is there, and nothing else has changed. -/
theorem updateClock_eq (frameIndex : Int) (now : Bytes) :
    (video.updateClock settings frameIndex now).1 =
      { video with
        clockSecondIndex := settings.secondIndex frameIndex
        clockOverlay := some (video.updateClock settings frameIndex now).2 } := by
  unfold updateClock
  split
  case h_1 text found =>
    obtain ⟨shown, second⟩ := Option.filter_eq_some_iff.mp found
    simp only [← of_decide_eq_true second, ← shown]
  case h_2 => rfl

/-- The overlay of stream information that applies is that of the text in force. -/
theorem Framed.infoOverlay (framed : Framed settings video) (applied : video.appliedInfo = some text) :
    video.streamInfo = some text ∧ video.streamInfoOverlay.getD text = text := by
  have info : video.streamInfo = some text := by
    simp only [appliedInfo, infoInForce] at applied
    split at applied
    · cases applied
    split at applied
    · cases applied
    · exact (Option.filter_eq_some_iff.mp applied).1
  refine ⟨info, ?_⟩
  cases overlay : video.streamInfoOverlay with
  | none => rfl
  | some shown =>
    have same := framed.overlay shown overlay
    rw [info] at same
    exact (Option.some.inj same).symm

/-- A composite that the cache holds is the one that would be made without it. -/
theorem Noted.composed {composite : Composite} {picture : Picture} {clock : Bytes} {info : Option Bytes} {slot : Slot}
    {frame : PictureFrame} {frameIndex : Int} {now : Bytes} (noted : Noted settings video composite picture clock info)
    (found : video.held slot = some frame) (chosen : video.Chosen slot)
    (known : video.cachedCompositedIdentity = some frame.address)
    (second : video.cachedCompositedSecondIndex = settings.secondIndex frameIndex) :
    composite = video.composed settings frame.picture frameIndex now := by
  obtain ⟨same, applied⟩ := chosen.suits.mp (noted.suits found known)
  have running : (video.updateClock settings frameIndex now).2 = clock := by
    simp [updateClock, noted.clock, noted.second, second, Option.filter]
  rw [noted.shape, GeneratedVideo.composed, running, same, applied]

/-- What the cache is given suits the frame that is shown and no other. -/
theorem Framed.notes (framed : Framed settings video) {slot : Slot} {frame : PictureFrame} (found : video.held slot = some frame)
    (chosen : video.Chosen slot) :
    All video.held fun other another =>
      some frame.address = some another.address → video.Suits frame.picture video.appliedInfo other another := by
  have noted := framed.distinct.noted found (chosen.suits.mpr ⟨rfl, rfl⟩)
  exact fun other another holds same => noted holds (Option.some.inj same)

theorem Framed.identShown (framed : Framed settings video) {slot : Slot} {frame : PictureFrame}
    (found : video.held slot = some frame) (chosen : video.Chosen slot) (empty : settings.activeSlidePaths = [])
    (shown : frame.picture = .ident) : video.cachedIdent.isSome := by
  have pictured := framed.pictured found
  obtain ⟨rfl, _⟩ | ⟨rfl | rfl | rfl, _⟩ := chosen
  · obtain ⟨text, template, _, slate⟩ := pictured
    cases shown.symm.trans slate
  · obtain ⟨template, testcard⟩ := pictured
    cases shown.symm.trans testcard
  · exact absurd empty pictured.1
  · exact Option.isSome_iff_exists.mpr ⟨frame, found⟩

/-- With and without the cache the composite of a frame is the same, as long as what
the cache holds for it is valid. -/
theorem Framed.composite (framed : Framed settings video) {slot : Slot} {frame : PictureFrame} {frameIndex : Int}
    (valid : video.cachedComposited ≠ none → video.cachedCompositedIdentity = some frame.address →
      video.cachedCompositedSecondIndex = settings.secondIndex frameIndex → Valid settings video)
    (found : video.held slot = some frame) (chosen : video.Chosen slot) (now : Bytes) :
    Sound settings (video.compositedFallbackFrame settings frame.picture (some frame.address) frameIndex now).1 ∧
      (video.compositedFallbackFrame settings frame.picture (some frame.address) frameIndex now).2 =
          video.composed settings frame.picture frameIndex now ∧
        (video.compositedFallbackFrame settings frame.picture (some frame.address) frameIndex now).1.encoded = video.encoded := by
  unfold compositedFallbackFrame
  dsimp only
  split
  case h_1 composite hit =>
    obtain ⟨cached, key⟩ := Option.filter_eq_some_iff.mp hit
    simp only [Bool.and_eq_true, decide_eq_true_eq] at key
    have valid := valid (cached ▸ Option.some_ne_none composite) key.1 key.2
    obtain ⟨picture, clock, info, noted⟩ := valid composite cached
    exact ⟨⟨framed, valid⟩, noted.composed found chosen key.1 key.2, rfl⟩
  case h_2 miss =>
    rw [updateClock_eq]
    have suits := framed.notes found chosen
    have ident := framed.identShown found chosen
    split
    case h_1 text applied =>
      have applied : video.appliedInfo = some text := applied
      obtain ⟨info, shown⟩ := framed.infoOverlay applied
      refine ⟨⟨⟨framed.distinct, framed.pictured, framed.pending, ?_⟩, ?_⟩, ?_, rfl⟩
      · rintro _ ⟨⟩
        exact info.trans (congrArg some shown.symm)
      · rintro _ ⟨⟩
        refine ⟨frame.picture, _, video.appliedInfo, ?_, rfl, rfl, suits, ident⟩
        simp [overlaid, Composite.render, applied, shown]
      · simp [GeneratedVideo.composed, overlaid, Composite.render, applied, shown]
    case h_2 applied =>
      have applied : video.appliedInfo = none := applied
      refine ⟨⟨⟨framed.distinct, framed.pictured, framed.pending, framed.overlay⟩, ?_⟩, ?_, rfl⟩
      · rintro _ ⟨⟩
        refine ⟨frame.picture, _, video.appliedInfo, ?_, rfl, rfl, suits, ident⟩
        simp [overlaid, Composite.render, applied]
      · simp [GeneratedVideo.composed, overlaid, Composite.render, applied]

/-! ## Steps and runs -/

/-- What the ident window leaves alone. -/
structure Windowed (video windowed : GeneratedVideo) : Prop where
  notice : windowed.notice = video.notice
  encoded : windowed.encoded = video.encoded
  held : windowed.held = video.held
  cache : windowed.cacheOf = video.cacheOf

theorem windowed (frameIndex : Int) : Windowed video (video.identActiveForFrame settings frameIndex).2 := by
  unfold identActiveForFrame
  split
  · exact ⟨rfl, rfl, rfl, rfl⟩
  · dsimp only
    split
    · exact ⟨rfl, rfl, rfl, rfl⟩
    · exact ⟨rfl, rfl, rfl, rfl⟩

theorem Windowed.free {windowed : GeneratedVideo} (kept : Windowed video windowed) (free : allocated ∉ video.addresses) :
    allocated ∉ windowed.addresses := by
  rwa [addresses, kept.held]

/-- The current picture is that of a frame in the slot for it. -/
structure Selected (settings : FallbackShow) (before : GeneratedVideo) (frameIndex : Int)
    (selected : GeneratedVideo × Picture × Option Nat) : Prop where
  framed : selected.1.Framed settings
  shown : ∃ slot frame,
    selected.1.held slot = some frame ∧ selected.2 = (frame.picture, some frame.address) ∧ selected.1.Chosen slot
  current : before.Current settings frameIndex selected.2.1
  encoded : selected.1.encoded = before.encoded

theorem Sound.selected_of_notice (sound : Sound settings video) (noticed : video.notice = some text)
    (free : allocated ∉ video.addresses) (frameIndex : Int) (decodes : Bool) :
    Selected settings video frameIndex (video.generatedContent settings frameIndex allocated decodes) ∧
      Sound settings (video.generatedContent settings frameIndex allocated decodes).1 := by
  obtain ⟨shown, found, kept, encoded⟩ := sound.slateFrame noticed free
  have shape : video.generatedContent settings frameIndex allocated decodes =
      ((video.slateFrame text allocated).1, (video.slateFrame text allocated).2.picture,
        some (video.slateFrame text allocated).2.address) := by
    simp [generatedContent, noticed, found]
  rw [shape]
  refine ⟨⟨shown.framed, ⟨.slate, _, found, rfl, .inl ⟨rfl, by simp [kept]⟩⟩, ?_, encoded⟩, shown⟩
  obtain ⟨content, template, of, same⟩ := shown.framed.pictured (show held _ .slate = some _ from found)
  obtain rfl := Option.some.inj (kept.symm.trans of)
  simpa only [Current, noticed] using ⟨template, same⟩

theorem Sound.selected_of_ident (sound : Sound settings video) (quiet : video.notice = none) {frameIndex : Int}
    (active : (video.identActiveForFrame settings frameIndex).1 = true) (free : allocated ∉ video.addresses) (decodes : Bool) :
    Selected settings video frameIndex (video.generatedContent settings frameIndex allocated decodes) ∧
      Sound settings (video.generatedContent settings frameIndex allocated decodes).1 := by
  have kept : Windowed video (video.identActiveForFrame settings frameIndex).2 := windowed frameIndex
  obtain ⟨shown, found, same, encoded⟩ := (sound.identActive frameIndex).testcardFrame (kept.free free)
  have shape : video.generatedContent settings frameIndex allocated decodes =
      (((video.identActiveForFrame settings frameIndex).2.testcardFrame allocated).1,
        ((video.identActiveForFrame settings frameIndex).2.testcardFrame allocated).2.picture,
        some ((video.identActiveForFrame settings frameIndex).2.testcardFrame allocated).2.address) := by
    simp [generatedContent, quiet, active, found]
  rw [shape]
  have noNotice := same.trans (kept.notice.trans quiet)
  refine ⟨⟨shown.framed, ⟨.testcard, _, found, rfl, .inr ⟨.inl rfl, noNotice⟩⟩, ?_, encoded.trans kept.encoded⟩, shown⟩
  obtain ⟨template, picture⟩ := shown.framed.pictured (show held _ .testcard = some _ from found)
  simp only [Current, quiet, active]
  exact ⟨template, picture⟩

theorem Sound.selected_of_slides (sound : Sound settings video) (quiet : video.notice = none) {frameIndex : Int}
    (inactive : (video.identActiveForFrame settings frameIndex).1 = false) (slides : settings.activeSlidePaths ≠ [])
    (free : allocated ∉ video.addresses) (decodes : Bool) :
    Selected settings video frameIndex (video.generatedContent settings frameIndex allocated decodes) ∧
      Sound settings (video.generatedContent settings frameIndex allocated decodes).1 := by
  have kept : Windowed video (video.identActiveForFrame settings frameIndex).2 := windowed frameIndex
  obtain ⟨shown, found, same, encoded⟩ := (sound.identActive frameIndex).slideFrame slides (kept.free free) frameIndex decodes
  have shape : video.generatedContent settings frameIndex allocated decodes =
      (((video.identActiveForFrame settings frameIndex).2.slideFrame settings frameIndex allocated decodes).1,
        ((video.identActiveForFrame settings frameIndex).2.slideFrame settings frameIndex allocated decodes).2.picture,
        some ((video.identActiveForFrame settings frameIndex).2.slideFrame settings frameIndex allocated decodes).2.address) := by
    simp [generatedContent, quiet, inactive, found]
  rw [shape]
  have noNotice := same.trans (kept.notice.trans quiet)
  refine ⟨⟨shown.framed, ⟨.slide, _, found, rfl, .inr ⟨.inr (.inl rfl), noNotice⟩⟩, ?_, encoded.trans kept.encoded⟩, shown⟩
  obtain ⟨_, picture⟩ := shown.framed.pictured (show held _ .slide = some _ from found)
  simpa [Current, quiet, inactive] using picture

theorem Sound.selected_again (sound : Sound settings video) (quiet : video.notice = none) {frameIndex : Int}
    (inactive : (video.identActiveForFrame settings frameIndex).1 = false) (empty : settings.activeSlidePaths = [])
    {frame : PictureFrame} (made : video.cachedIdent = some frame) (decodes : Bool) :
    Selected settings video frameIndex (video.generatedContent settings frameIndex allocated decodes) ∧
      Sound settings (video.generatedContent settings frameIndex allocated decodes).1 := by
  have kept : Windowed video (video.identActiveForFrame settings frameIndex).2 := windowed frameIndex
  have found : (video.identActiveForFrame settings frameIndex).2.cachedIdent = some frame :=
    (congrFun kept.held .ident).trans made
  have shown := sound.identActive frameIndex
  have shape : video.generatedContent settings frameIndex allocated decodes =
      ((video.identActiveForFrame settings frameIndex).2, frame.picture, some frame.address) := by
    simp [generatedContent, quiet, inactive, GeneratedVideo.slideFrame, empty, found, shown.framed.noSlide empty]
  have noNotice := kept.notice.trans quiet
  rw [shape]
  refine ⟨⟨shown.framed, ⟨.ident, frame, found, rfl, .inr ⟨.inr (.inr rfl), noNotice⟩⟩, ?_, kept.encoded⟩, shown⟩
  have picture : frame.picture = .ident := shown.framed.pictured (show held _ .ident = some _ from found)
  simp [Current, quiet, inactive, picture]

/-- The muxer with the ident picture that it makes. -/
def withIdent (settings : FallbackShow) (video : GeneratedVideo) (frameIndex : Int) (allocated : Nat) : GeneratedVideo :=
  { (video.identActiveForFrame settings frameIndex).2 with cachedIdent := some ⟨allocated, .ident⟩ }

theorem Sound.generated_ident (sound : Sound settings video) {frameIndex : Int} (makes : video.MakesIdent settings frameIndex)
    (decodes : Bool) :
    video.generatedContent settings frameIndex allocated decodes =
      (video.withIdent settings frameIndex allocated, .ident, some allocated) := by
  obtain ⟨empty, quiet, inactive, unmade⟩ := makes
  have kept : Windowed video (video.identActiveForFrame settings frameIndex).2 := windowed frameIndex
  have missing : (video.identActiveForFrame settings frameIndex).2.cachedIdent = none :=
    (congrFun kept.held .ident).trans unmade
  have noSlide := (sound.identActive frameIndex).framed.noSlide empty
  simp [generatedContent, quiet, inactive, GeneratedVideo.slideFrame, empty, missing, noSlide, withIdent]

theorem Sound.selected_first (sound : Sound settings video) {frameIndex : Int} (makes : video.MakesIdent settings frameIndex)
    (free : allocated ∉ video.addresses) (decodes : Bool) :
    Selected settings video frameIndex (video.generatedContent settings frameIndex allocated decodes) := by
  have kept : Windowed video (video.identActiveForFrame settings frameIndex).2 := windowed frameIndex
  have framed := (sound.identActive frameIndex).framed.newIdent (kept.free free)
  rw [sound.generated_ident makes]
  obtain ⟨_, quiet, inactive, _⟩ := makes
  refine ⟨framed, ⟨.ident, ⟨allocated, .ident⟩, rfl, rfl, .inr ⟨.inr (.inr rfl), kept.notice.trans quiet⟩⟩, ?_, kept.encoded⟩
  simp [Current, quiet, inactive]

/-- Unless the ident picture is made, the cache stays valid as the picture is selected. -/
theorem Sound.selected (sound : Sound settings video) {frameIndex : Int} (other : ¬video.MakesIdent settings frameIndex)
    (free : allocated ∉ video.addresses) (decodes : Bool) :
    Selected settings video frameIndex (video.generatedContent settings frameIndex allocated decodes) ∧
      Sound settings (video.generatedContent settings frameIndex allocated decodes).1 := by
  cases noticed : video.notice with
  | some text => exact sound.selected_of_notice noticed free frameIndex decodes
  | none =>
    cases active : (video.identActiveForFrame settings frameIndex).1 with
    | true => exact sound.selected_of_ident noticed active free decodes
    | false =>
      by_cases empty : settings.activeSlidePaths = []
      · cases made : video.cachedIdent with
        | some frame => exact sound.selected_again noticed active empty made decodes
        | none => exact absurd ⟨empty, noticed, active, made⟩ other
      · exact sound.selected_of_slides noticed active empty free decodes

/-- The cache and the output as they stand when the ident picture is made. -/
theorem withIdent_kept (settings : FallbackShow) (video : GeneratedVideo) (frameIndex : Int) (allocated : Nat) :
    (video.withIdent settings frameIndex allocated).encoded = video.encoded ∧
      (video.withIdent settings frameIndex allocated).cachedComposited = video.cachedComposited ∧
        (video.withIdent settings frameIndex allocated).cachedCompositedIdentity = video.cachedCompositedIdentity ∧
          (video.withIdent settings frameIndex allocated).cachedCompositedSecondIndex = video.cachedCompositedSecondIndex := by
  have kept : Windowed video (video.identActiveForFrame settings frameIndex).2 := windowed frameIndex
  have cache := kept.cache
  simp only [cacheOf, Prod.mk.injEq] at cache
  exact ⟨kept.encoded, cache.1, cache.2.1, cache.2.2.1⟩

/-- A selected picture is composited as it would be without the cache, unless the
cache holds something else for it. -/
theorem Selected.write {frameIndex : Int} {decodes : Bool} {shown : GeneratedVideo} {picture : Picture} {identity : Option Nat}
    (selected : Selected settings video frameIndex (shown, picture, identity))
    (content : video.generatedContent settings frameIndex allocated decodes = (shown, picture, identity))
    (valid : shown.cachedComposited ≠ none → shown.cachedCompositedIdentity = identity →
      shown.cachedCompositedSecondIndex = settings.secondIndex frameIndex → Valid settings shown) (now : Bytes) :
    Sound settings (video.writeFrame settings frameIndex allocated decodes now) ∧
      Fresh settings video (.writeFrame frameIndex allocated decodes now)
        (video.writeFrame settings frameIndex allocated decodes now) := by
  obtain ⟨framed, ⟨slot, frame, found, same, chosen⟩, current, encoded⟩ := selected
  cases same
  obtain ⟨sound, composite, kept⟩ := framed.composite valid found chosen now
  unfold writeFrame
  rw [content]
  refine ⟨⟨?_, ?_⟩, ?_⟩
  · exact ⟨sound.framed.distinct, sound.framed.pictured, sound.framed.pending, sound.framed.overlay⟩
  · exact sound.valid.kept rfl fun _ _ suits => suits
  · rintro _ _ _ _ ⟨⟩
    rw [content]
    refine ⟨current, ?_⟩
    dsimp only
    rw [kept, composite, encoded]

theorem Sound.write (sound : Sound settings video) (free : allocated ∉ video.addresses) {frameIndex : Int} {decodes : Bool}
    {now : Bytes} (apart : IdentApart settings video (.writeFrame frameIndex allocated decodes now)) :
    Sound settings (video.writeFrame settings frameIndex allocated decodes now) ∧
      Fresh settings video (.writeFrame frameIndex allocated decodes now)
        (video.writeFrame settings frameIndex allocated decodes now) := by
  by_cases makes : video.MakesIdent settings frameIndex
  · have selected := sound.selected_first makes free decodes
    have content : video.generatedContent settings frameIndex allocated decodes = _ := sound.generated_ident makes decodes
    obtain ⟨_, composite, identity, second⟩ := withIdent_kept settings video frameIndex allocated
    rw [content] at selected
    refine selected.write content (fun cached known running => ?_) now
    rw [composite] at cached
    exact absurd (second.symm.trans running) (apart _ _ _ _ rfl makes cached (identity.symm.trans known))
  · obtain ⟨selected, shown⟩ := sound.selected makes free decodes
    exact selected.write rfl (fun _ _ _ => shown.valid) now

theorem compositedFallbackFrame_hit {composite : Composite} {identity : Option Nat} {frameIndex : Int} (picture : Picture)
    (held : video.cachedComposited = some composite) (known : video.cachedCompositedIdentity = identity)
    (second : video.cachedCompositedSecondIndex = settings.secondIndex frameIndex) (now : Bytes) :
    video.compositedFallbackFrame settings picture identity frameIndex now = (video, composite) := by
  simp [compositedFallbackFrame, held, known, second, Option.filter]

/-- A composite that was made of another picture is shown in place of the ident picture. -/
theorem Sound.stale (sound : Sound settings video) {frameIndex : Int} {decodes : Bool} {now : Bytes}
    (makes : video.MakesIdent settings frameIndex) (cached : video.cachedComposited ≠ none)
    (known : video.cachedCompositedIdentity = some allocated)
    (second : video.cachedCompositedSecondIndex = settings.secondIndex frameIndex) :
    ¬Fresh settings video (.writeFrame frameIndex allocated decodes now)
      (video.writeFrame settings frameIndex allocated decodes now) := by
  intro fresh
  obtain ⟨composite, held⟩ := Option.ne_none_iff_exists'.mp cached
  obtain ⟨picture, clock, info, noted⟩ := sound.valid composite held
  have other : picture ≠ .ident := by
    intro shown
    have made := noted.ident makes.1 shown
    rw [makes.2.2.2] at made
    cases made
  have content : video.generatedContent settings frameIndex allocated decodes = _ := sound.generated_ident makes decodes
  obtain ⟨before, sameComposite, sameIdentity, sameSecond⟩ := withIdent_kept settings video frameIndex allocated
  have hit := compositedFallbackFrame_hit .ident (sameComposite.trans held) (sameIdentity.trans known)
    (sameSecond.trans second) now
  have shown := fresh _ _ _ _ rfl
  unfold writeFrame at shown
  rw [content] at shown
  obtain ⟨_, encoded⟩ := shown
  dsimp only at encoded
  rw [hit] at encoded
  dsimp only at encoded
  rw [before, List.append_cancel_left_eq, List.singleton_inj, noted.shape] at encoded
  exact other (congrArg Composite.picture encoded)

theorem Sound.step {event : Event} (sound : Sound settings before) (apart : IdentApart settings before event)
    (stepped : step settings before event = some after) : Sound settings after ∧ Fresh settings before event after := by
  cases event with
  | setNotice notice =>
    obtain rfl := Option.some.inj stepped
    exact ⟨sound.setNotice notice, fun _ _ _ _ other => by cases other⟩
  | setStreamInfo streamInfo =>
    obtain rfl := Option.some.inj stepped
    exact ⟨sound.setStreamInfo streamInfo false, fun _ _ _ _ other => by cases other⟩
  | setLiveStreamInfo streamInfo =>
    obtain rfl := Option.some.inj stepped
    exact ⟨sound.setStreamInfo streamInfo true, fun _ _ _ _ other => by cases other⟩
  | slateRendered allocated template =>
    refine ⟨?_, fun _ _ _ _ other => by cases other⟩
    simp only [GeneratedVideo.step] at stepped
    split at stepped
    case h_1 key waiting =>
      split at stepped
      case isTrue => cases stepped
      case isFalse free =>
        obtain rfl := Option.some.inj stepped
        exact sound.slateRendered waiting free template
    case h_2 => cases stepped
  | testcardRendered allocated template =>
    refine ⟨?_, fun _ _ _ _ other => by cases other⟩
    simp only [GeneratedVideo.step] at stepped
    split at stepped
    case h_1 key waiting =>
      split at stepped
      case isTrue => cases stepped
      case isFalse free =>
        obtain rfl := Option.some.inj stepped
        exact sound.testcardRendered free template
    case h_2 => cases stepped
  | writeFrame frameIndex allocated decodes now =>
    simp only [GeneratedVideo.step] at stepped
    split at stepped
    case isTrue => cases stepped
    case isFalse free =>
      obtain rfl := Option.some.inj stepped
      exact sound.write free apart

theorem Sound.fresh_iff {event : Event} (sound : Sound settings before)
    (stepped : GeneratedVideo.step settings before event = some after) :
    Fresh settings before event after ↔ IdentApart settings before event := by
  refine ⟨?_, fun apart => (sound.step apart stepped).2⟩
  rintro fresh frameIndex allocated decodes now rfl makes cached known second
  simp only [GeneratedVideo.step] at stepped
  split at stepped
  case isTrue => cases stepped
  case isFalse =>
    obtain rfl := Option.some.inj stepped
    exact sound.stale makes cached known second fresh

theorem sound_construct (settings : FallbackShow) : Sound settings (construct settings) := by
  have holds : (construct settings).held = fun _ => none := by
    funext slot
    cases slot <;> rfl
  refine ⟨⟨?_, ?_, by simp [construct], by simp [construct]⟩, valid_of_reset rfl⟩
  · rw [holds]
    exact ReusedKeys.distinct_empty
  · rw [holds]
    exact ReusedKeys.all_empty

/-- Generated frames are composited as they would be without the cache exactly as
long as the ident picture is not made at the address by which the cache knows
another picture of that second. -/
theorem composited_fresh_iff (settings : FallbackShow) (events : List Event) :
    Runs.Throughout (step settings) (Fresh settings) (construct settings) events ↔
      Runs.Guarded (step settings) (IdentApart settings) (construct settings) events :=
  Runs.throughout_iff_guarded (Sound settings) (fun _ _ _ sound apart stepped => (sound.step apart stepped).1)
    (fun _ _ _ sound stepped => sound.fresh_iff stepped) (sound_construct settings)

/-- No ident window and no slides. -/
def identAlone : FallbackShow := .ofConfig { ident := { enabled := false } } []

/-- A notice comes to an end, and the ident picture is made where its slate was. -/
theorem stale_slate :
    ¬ Runs.Throughout (step identAlone) (Fresh identAlone) (construct identAlone)
      [.setNotice (some (bytes "Power Saving Mode")), .writeFrame 0 1 true (bytes "12:00:00"), .setNotice none,
        .writeFrame 1 1 true (bytes "12:00:00")] := by
  intro fresh
  have ended := (((fresh _ rfl).2 _ rfl).2 _ rfl).2 _ rfl
  have encoded := (ended.1 _ _ _ _ rfl).2
  exact absurd encoded (by decide +kernel)

end GeneratedVideo
end WhRepeater
