import Mathlib.Tactic.Ring
import WhRepeater.PlutoSink
import WhRepeater.SegmentedInput

/-! The publish packets that the transmitter output sends (`pluto_sink.cpp`) and what
the status worker reads of a connection (`pluto_mqtt_status.cpp`), in whatever segments
it comes. The worker is not told to stop. -/
namespace WhRepeater.Mqtt

open SegmentedInput

/-! ## The sender -/

def appendUint16 (value : UInt16) : Bytes := [(value >>> 8).toUInt8, value.toUInt8]

/-- The length of a text is cut to sixteen bits. -/
def appendString (value : Bytes) : Bytes := appendUint16 (UInt16.ofNat value.length) ++ value

def appendRemainingLength (length : Nat) : Bytes :=
  if length / 128 = 0 then [UInt8.ofNat (length % 128)]
  else (UInt8.ofNat (length % 128) ||| 0x80) :: appendRemainingLength (length / 128)

/-- The packet of `publishMqtt`. -/
def publish (topic payload : Bytes) : Bytes :=
  let publishVariable := appendString topic ++ payload
  0x30 :: (appendRemainingLength publishVariable.length ++ publishVariable)

/-! ## The status worker -/

def readUint16 (data : Bytes) : UInt16 :=
  match data with
  | high :: low :: _ => (high.toUInt16 <<< 8) ||| low.toUInt16
  | _ => 0

/-- The loop over the bytes of the remaining length. -/
def readRemainingLength (multiplier remaining : Nat) : Reader UInt8 Nat := fun incoming =>
  match _taken : next incoming with
  | none => none
  | some (encoded, later) =>
    let remaining := remaining + (encoded &&& 127).toNat * multiplier
    if encoded &&& 128 = 0 then some (remaining, later)
    else if 128 * 128 * 128 < multiplier * 128 then none
    else readRemainingLength (multiplier * 128) remaining later
termination_by incoming => incoming.flatten.length
decreasing_by exact next_shorter _taken

/-- The type and the body of a packet. -/
def readPacket : Reader UInt8 (UInt8 × Bytes) := do
  let header ← next
  let remaining ← readRemainingLength 1 0
  let body ← exactly remaining
  return (header >>> 4, body)

/-- What the loop of the worker records of a packet, if it records one. -/
def recorded (type : UInt8) (body : Bytes) : Option (Bytes × Bytes) :=
  if type ≠ 3 ∨ body.length < 2 then none
  else
    let topicSize := (readUint16 body).toNat
    if body.length < topicSize + 2 then none
    else some ((body.drop 2).take topicSize, body.drop (2 + topicSize))

/-- A turn of the loop. -/
def receive : Reader UInt8 (Option (Bytes × Bytes)) := do
  let (type, body) ← readPacket
  return recorded type body

variable {topic payload : Bytes} {length multiplier remaining : Nat}

theorem readRemainingLength_eq (multiplier remaining : Nat) :
    readRemainingLength multiplier remaining = (do
      let encoded ← next
      if encoded &&& 128 = 0 then return remaining + (encoded &&& 127).toNat * multiplier
      else if 128 * 128 * 128 < multiplier * 128 then failure
      else readRemainingLength (multiplier * 128) (remaining + (encoded &&& 127).toNat * multiplier)) := by
  funext incoming
  rw [readRemainingLength]
  change _ = (next incoming).bind _
  split
  case h_1 ended => rw [ended, Option.bind_none]
  case h_2 encoded later taken =>
    rw [taken, Option.bind_some]
    dsimp only
    split
    · rfl
    · split
      · rfl
      · rfl

/-! ## Remaining lengths -/

/-- The seven bits of a byte, and its continuation bit. -/
theorem length_byte (digit : Nat) (small : digit < 128) :
    (UInt8.ofNat digit &&& 128 = 0 ∧ (UInt8.ofNat digit &&& 127).toNat = digit) ∧
      (UInt8.ofNat digit ||| 0x80) &&& 128 ≠ 0 ∧ ((UInt8.ofNat digit ||| 0x80) &&& 127).toNat = digit := by
  have all : ∀ digit : Fin 128, (UInt8.ofNat digit &&& 128 = 0 ∧ (UInt8.ofNat digit &&& 127).toNat = digit) ∧
      (UInt8.ofNat digit ||| 0x80) &&& 128 ≠ 0 ∧ ((UInt8.ofNat digit ||| 0x80) &&& 127).toNat = digit := by decide +kernel
  exact all ⟨digit, small⟩

/-- A place of the number is read, and its higher places behind it. -/
theorem consumes_remainingLength (length place : Nat) (remaining : Nat) (fits : length * 128 ^ place < 128 ^ 4) :
    Consumes (readRemainingLength (128 ^ place) remaining) (appendRemainingLength length)
      (remaining + length * 128 ^ place) := by
  induction length using Nat.strong_induction_on generalizing place remaining with
  | _ length ih =>
    obtain ⟨⟨last, value⟩, continued, low⟩ := length_byte (length % 128) (Nat.mod_lt _ (by decide))
    rw [readRemainingLength_eq, appendRemainingLength]
    by_cases whole : length / 128 = 0
    · have small : length % 128 = length := by omega
      rw [if_pos whole]
      refine (consumes_next _).bind (show Consumes _ [] _ from ?_)
      rw [if_pos last, value, small]
      exact consumes_pure _
    · have room : 128 ^ (place + 1) * (length / 128) ≤ length * 128 ^ place := by
        rw [Nat.pow_succ, Nat.mul_assoc, Nat.mul_comm length]
        exact Nat.mul_le_mul_left _ (Nat.mul_div_le length 128)
      have further : place + 1 < 4 := by
        refine (Nat.pow_lt_pow_iff_right (by decide : 1 < 128)).mp ?_
        exact Nat.lt_of_le_of_lt (Nat.le_mul_of_pos_right _ (Nat.pos_of_ne_zero whole)) (Nat.lt_of_le_of_lt room fits)
      have within : ¬ 128 * 128 * 128 < 128 ^ place * 128 := by
        rw [← Nat.pow_succ]
        exact Nat.not_lt.mpr (Nat.pow_le_pow_right (by decide) (by omega : place + 1 ≤ 3))
      have places : remaining + length * 128 ^ place =
          remaining + length % 128 * 128 ^ place + length / 128 * 128 ^ (place + 1) := by
        conv_lhs => rw [← Nat.mod_add_div length 128]
        rw [Nat.pow_succ]
        ring
      rw [if_neg whole]
      refine (consumes_next _).bind ?_
      rw [if_neg continued, if_neg within, low, places, ← Nat.pow_succ]
      exact ih (length / 128) (by omega) (place + 1) _ (by omega)

/-- The bytes of a length in the reading loop give the length back. -/
theorem consumes_appended (small : length < 2 ^ 28) :
    Consumes (readRemainingLength 1 0) (appendRemainingLength length) length := by
  have first := consumes_remainingLength length 0 0 (by simpa using small)
  simpa using first

/-- The fourth byte of a length ends it. -/
theorem rejects_fourth {first second third fourth : UInt8} (more : ∀ byte ∈ [first, second, third, fourth], byte &&& 128 ≠ 0) :
    Rejects (readRemainingLength 1 0) [first, second, third, fourth] := by
  simp only [List.mem_cons, List.not_mem_nil, or_false, forall_eq_or_imp, forall_eq] at more
  obtain ⟨one, two, three, four⟩ := more
  rw [readRemainingLength_eq]
  refine (consumes_next first).rejects_bind ?_
  rw [if_neg one, if_neg (by decide), readRemainingLength_eq]
  refine (consumes_next second).rejects_bind ?_
  rw [if_neg two, if_neg (by decide), readRemainingLength_eq]
  refine (consumes_next third).rejects_bind ?_
  rw [if_neg three, if_neg (by decide), readRemainingLength_eq]
  refine (consumes_next fourth).rejects_bind ?_
  rw [if_neg four, if_pos (by decide)]
  exact rejects_failure

/-! ## Packets -/

theorem consumes_packet {header : UInt8} {body : Bytes} (small : body.length < 2 ^ 28) :
    Consumes readPacket (header :: (appendRemainingLength body.length ++ body)) (header >>> 4, body) := by
  unfold readPacket
  refine (consumes_next header).bind ?_
  refine (consumes_appended small).bind ?_
  exact (consumes_exactly body).then_pure _

/-- A length of sixteen bits is read back. -/
theorem readUint16_appended (value : UInt16) (rest : Bytes) : readUint16 (appendUint16 value ++ rest) = value := by
  change (value >>> 8).toUInt8.toUInt16 <<< 8 ||| value.toUInt8.toUInt16 = value
  have high : ((value >>> 8).toUInt8.toUInt16 <<< 8).toNat = 2 ^ 8 * (value.toNat / 2 ^ 8) := by
    have bound := value.toNat_lt
    simp [Nat.shiftRight_eq_div_pow, Nat.shiftLeft_eq]
    omega
  have low : value.toUInt8.toUInt16.toNat = value.toNat % 2 ^ 8 := by simp
  refine UInt16.toNat_inj.mp ?_
  rw [UInt16.toNat_or, high, low, ← Nat.two_pow_add_eq_or_of_lt (Nat.mod_lt _ (by decide)), Nat.div_add_mod]

theorem length_appendString (value : Bytes) : (appendString value).length = value.length + 2 := by
  simp only [appendString, appendUint16, List.length_append, List.length_cons, List.length_nil]
  omega

theorem recorded_published (short : topic.length ≤ 65535) :
    recorded 3 (appendString topic ++ payload) = some (topic, payload) := by
  have whole : (appendString topic ++ payload).length = topic.length + payload.length + 2 := by
    rw [List.length_append, length_appendString]
    omega
  have size : (readUint16 (appendString topic ++ payload)).toNat = topic.length := by
    rw [appendString, List.append_assoc, readUint16_appended, UInt16.toNat_ofNat_of_lt' (by change _ < 65536; omega)]
  have tail : (appendString topic ++ payload).drop 2 = topic ++ payload := rfl
  simp only [recorded, size, whole]
  rw [if_neg (by simp), if_neg (by omega), ← List.drop_drop, tail, List.take_left, List.drop_left]

/-- A packet that was published is received as it was, and no more is taken. -/
theorem consumes_published (short : topic.length ≤ 65535) (small : topic.length + payload.length + 2 < 2 ^ 28) :
    Consumes receive (publish topic payload) (some (topic, payload)) := by
  have whole : (appendString topic ++ payload).length = topic.length + payload.length + 2 := by
    rw [List.length_append, length_appendString]
    omega
  have packet : Consumes readPacket (publish topic payload) (3, appendString topic ++ payload) :=
    consumes_packet (by omega)
  rw [← recorded_published short]
  exact packet.then_pure fun packet => recorded packet.1 packet.2

/-! ## Streams of packets -/

/-- Some turns of the loop. -/
def turns : Nat → Reader UInt8 (List (Option (Bytes × Bytes)))
  | 0 => pure []
  | count + 1 => do
    let first ← receive
    let others ← turns count
    return first :: others

/-- What can be published. -/
def Fits (message : Bytes × Bytes) : Prop :=
  message.1.length ≤ 65535 ∧ message.1.length + message.2.length + 2 < 2 ^ 28

/-- A stream of publish packets is recorded in order, and each once. -/
theorem consumes_stream (messages : List (Bytes × Bytes)) (fit : ∀ message ∈ messages, Fits message) :
    Consumes (turns messages.length) (messages.flatMap fun (topic, payload) => publish topic payload) (messages.map some) := by
  induction messages with
  | nil => exact consumes_pure []
  | cons message messages ih =>
    obtain ⟨first, fit⟩ := List.forall_mem_cons.mp fit
    exact (consumes_published first.1 first.2).bind ((ih fit).then_pure (some message :: ·))

/-- The two ends agree on packets and lengths, and the reading end takes no length of
more than four bytes. -/
theorem publish_framing :
    (∀ topic payload : Bytes, topic.length ≤ 65535 → topic.length + payload.length + 2 < 2 ^ 28 →
        Consumes receive (publish topic payload) (some (topic, payload))) ∧
      (∀ length < 2 ^ 28, Consumes (readRemainingLength 1 0) (appendRemainingLength length) length) ∧
      ∀ header first second third fourth : UInt8, (∀ byte ∈ [first, second, third, fourth], byte &&& 128 ≠ 0) →
        Rejects readPacket [header, first, second, third, fourth] :=
  ⟨fun _ _ => consumes_published, fun _ => consumes_appended, fun header _ _ _ _ more =>
    (consumes_next header).rejects_bind ((rejects_fourth more).bind _)⟩

/-- A gain and an empty text, a length at a boundary, and one of five bytes. -/
theorem gain_framing :
    Consumes receive (publish (bytes "cmd/pluto/GB3GV/tx/gain") (bytes "-40")) (some (bytes "cmd/pluto/GB3GV/tx/gain", bytes "-40")) ∧
      Consumes receive (publish [] []) (some ([], [])) ∧
      Consumes (readRemainingLength 1 0) [0x80, 0x80, 0x01] 16384 ∧ Rejects readPacket [0x30, 0xff, 0xff, 0xff, 0xff] := by
  have more : (0xff : UInt8) &&& 128 ≠ 0 := by decide
  refine ⟨publish_framing.1 _ _ (by decide) (by decide), publish_framing.1 [] [] (by decide) (by decide), ?_,
    publish_framing.2.2 _ _ _ _ _ (by simpa using more)⟩
  have boundary : appendRemainingLength 16384 = [0x80, 0x80, 0x01] := by simp [appendRemainingLength]
  rw [← boundary]
  exact publish_framing.2.1 16384 (by decide)

end WhRepeater.Mqtt
