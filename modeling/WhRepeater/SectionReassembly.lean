import Mathlib.Data.List.TakeWhile
import WhRepeater.SectionCollection

/-! Sections that a multiplexer has put into packets. `appendPayloadSection` takes the
first section that starts in a packet, and nothing else of it: not the end of a section
in front of the pointer, and no second section. What goes on in a packet in which no
section starts is lost where its first byte looks like stuffing. -/
namespace WhRepeater.TsGatewayInspect

/-! ## Packets with sections -/

/-- A section has the length that its head says, and no stuffing for a table. -/
def IsSection (section_ : Bytes) : Prop := announced section_ = some section_.length ∧ section_.head? ≠ some 0xff

/-- What a multiplexer puts into the payload of a packet: the end of a section that
started before, whole sections, the beginning of another one, and stuffing. -/
structure Carried where
  tail : Bytes := []
  complete : List Bytes := []
  begun : Bytes := []
  stuffing : Nat := 0
  deriving DecidableEq

namespace Carried

/-- A section starts in the packet. -/
def starts (packet : Carried) : Bool := !(packet.complete.isEmpty && packet.begun.isEmpty)

/-- With a pointer to the first section that starts. -/
def payload (packet : Carried) : Payload where
  start := packet.starts
  bytes := (if packet.starts then [UInt8.ofNat packet.tail.length] else []) ++
    (packet.tail ++ (packet.complete.flatten ++ packet.begun ++ List.replicate packet.stuffing 0xff))

/-- One section starts in the packet, and nothing is in front of it, or none does and
the first byte is not the one of stuffing. -/
def Plain (packet : Carried) : Prop :=
  if packet.starts then packet.tail = [] ∧ packet.complete.length + (if packet.begun = [] then 0 else 1) = 1
  else packet.tail.head? ≠ some 0xff

end Carried

/-- The packets carry what is left of a section, and then the sections. A section goes
on where the one before it ends, or starts in a later packet behind stuffing. -/
inductive Packetised : Bytes → List Bytes → List Carried → Prop where
  | done : Packetised [] [] []
  | within (some : chunk ≠ []) (more : rest ≠ []) (later : Packetised rest sections packets) :
      Packetised (chunk ++ rest) sections ({ tail := chunk } :: packets)
  | ends (some : tail ≠ []) (later : Packetised [] sections packets) :
      Packetised tail sections ({ tail, stuffing } :: packets)
  | starts (some : complete ≠ []) (later : Packetised [] sections packets) :
      Packetised tail (complete ++ sections) ({ tail, complete, stuffing } :: packets)
  | begins (some : chunk ≠ []) (more : rest ≠ []) (later : Packetised rest sections packets) :
      Packetised tail (complete ++ (chunk ++ rest) :: sections) ({ tail, complete, begun := chunk } :: packets)

variable {buffer : SectionBuffer} {section_ whole rest chunk tail bytes : Bytes} {sections complete : List Bytes}
  {packets : List Carried} {packet : Carried} {stuffing : Nat}

/-! ## One payload -/

theorem announced_append {size : Nat} (known : announced bytes = some size) (others : Bytes) :
    announced (bytes ++ others) = some size := by
  match bytes with
  | [] => cases known
  | [_] => cases known
  | [_, _] => cases known
  | _ :: _ :: _ :: _ => exact known

theorem announced_or (bytes others : Bytes) : (announced bytes).or (announced (bytes ++ others)) = announced (bytes ++ others) := by
  cases known : announced bytes with
  | none => rfl
  | some size => exact (announced_append known others).symm

/-- The beginning of a section says the size of the section, or nothing. -/
theorem announced_prefix (whole : IsSection (bytes ++ rest)) :
    announced bytes = none ∨ announced bytes = some (bytes ++ rest).length := by
  cases known : announced bytes with
  | none => exact .inl rfl
  | some size => exact .inr ((announced_append known rest).symm.trans whole.1)

/-- The buffer with the beginning of a section. -/
def holding (bytes : Bytes) : SectionBuffer := { bytes, expectedSize := announced bytes }

/-- Of a payload in which no section starts nothing is taken, or it completes
something, or all of it is kept. -/
theorem collect_cases (some : bytes ≠ []) :
    (bytes.head? = .some 0xff ∧ buffer.collect bytes = (buffer, none)) ∨
      bytes.head? ≠ .some 0xff ∧
        ((∃ size, buffer.collect bytes = ({}, .some ((buffer.bytes ++ bytes).take size))) ∨
          ∃ expectedSize, buffer.collect bytes = ({ bytes := buffer.bytes ++ bytes, expectedSize }, none)) := by
  unfold SectionBuffer.collect
  by_cases stuffing : bytes.head? = .some 0xff
  · exact .inl ⟨stuffing, if_pos (.inr stuffing)⟩
  · rw [if_neg (not_or.mpr ⟨some, stuffing⟩)]
    refine .inr ⟨stuffing, ?_⟩
    dsimp only
    cases buffer.expectedSize.or (announced (buffer.bytes ++ bytes)) with
    | none => exact .inr ⟨_, rfl⟩
    | some size =>
      by_cases enough : size ≤ (buffer.bytes ++ bytes).length
      · exact .inl ⟨size, if_pos enough⟩
      · exact .inr ⟨_, if_neg enough⟩

/-- A section is complete with its last byte, whatever follows. -/
theorem collect_last (whole : IsSection (bytes ++ rest)) (some : rest ≠ []) (plain : rest.head? ≠ .some 0xff) (others : Bytes) :
    (holding bytes).collect (rest ++ others) = ({}, .some (bytes ++ rest)) := by
  obtain ⟨first, rest, rfl⟩ := List.exists_cons_of_ne_nil some
  have expected := announced_append whole.1 others
  rw [List.append_assoc] at expected
  have kept : ¬ (first :: rest ++ others = [] ∨ (first :: rest ++ others).head? = .some 0xff) :=
    not_or.mpr ⟨List.cons_ne_nil _ _, plain⟩
  rw [SectionBuffer.collect, if_neg kept]
  dsimp only [holding]
  rw [announced_or, expected]
  dsimp only
  rw [← List.append_assoc, if_pos (by simp), List.take_left]

/-- Before its last byte it is not. -/
theorem collect_before (whole : IsSection (bytes ++ chunk ++ rest)) (some : chunk ≠ []) (more : rest ≠ [])
    (plain : chunk.head? ≠ .some 0xff) : (holding bytes).collect chunk = (holding (bytes ++ chunk), none) := by
  have missing : ¬ (bytes ++ chunk ++ rest).length ≤ (bytes ++ chunk).length := by
    have left := List.length_pos_iff.mpr more
    simp only [List.length_append]
    omega
  rw [SectionBuffer.collect, if_neg (not_or.mpr ⟨some, plain⟩)]
  dsimp only [holding]
  rw [announced_or]
  rcases announced_prefix whole with unknown | known
  · rw [unknown]
  · rw [known]
    exact if_neg missing

/-! ## Packets -/

/-- Where a section starts, the pointer leads to it, and the buffer is emptied. -/
theorem accept_starts (starts : packet.starts = true) (short : packet.tail.length < 256) (buffer : SectionBuffer) :
    buffer.accept packet.payload =
      (holding []).collect (packet.complete.flatten ++ packet.begun ++ List.replicate packet.stuffing 0xff) := by
  have pointer : (UInt8.ofNat packet.tail.length).toNat = packet.tail.length := by
    rw [UInt8.toNat_ofNat']
    exact Nat.mod_eq_of_lt short
  unfold SectionBuffer.accept Carried.payload
  rw [starts, if_pos rfl]
  dsimp only [List.cons_append, List.nil_append]
  rw [pointer, if_neg (by simp), List.drop_left]
  rfl

/-- Where none starts, its payload goes on with what there is. -/
theorem accept_tail (tail : Bytes) (stuffing : Nat) (buffer : SectionBuffer) :
    buffer.accept ({ tail, stuffing } : Carried).payload = buffer.collect (tail ++ List.replicate stuffing 0xff) := rfl

theorem starts_complete (some : complete ≠ []) : ({ tail, complete, stuffing } : Carried).starts = true := by
  simp [Carried.starts, some]

theorem starts_begun (some : chunk ≠ []) : ({ tail, complete, begun := chunk } : Carried).starts = true := by
  simp [Carried.starts, some]

/-- With stuffing behind it, one section is alone in a plain packet. -/
theorem plain_complete (some : complete ≠ []) :
    ({ tail, complete, stuffing } : Carried).Plain ↔ tail = [] ∧ ∃ section_, complete = [section_] := by
  rw [Carried.Plain, if_pos (starts_complete some)]
  exact and_congr_right fun _ => List.length_eq_one_iff

/-- A section that goes on has the packet for itself. -/
theorem plain_begun (some : chunk ≠ []) :
    ({ tail, complete, begun := chunk } : Carried).Plain ↔ tail = [] ∧ complete = [] := by
  rw [Carried.Plain, if_pos (starts_begun some)]
  dsimp only
  rw [if_neg some, Nat.add_eq_right, List.length_eq_zero_iff]

/-! ## What is parsed -/

/-- Bytes that do not begin with padding are not moved to the end by padding. -/
theorem padding_nil {α : Type} [DecidableEq α] {front bytes : List α} {pad : α} {count : Nat} (some : bytes ≠ [])
    (plain : bytes.head? ≠ .some pad) (same : front ++ bytes = bytes ++ List.replicate count pad) : count = 0 := by
  -- The padding at the end is counted from behind, as far as the last other byte.
  have stops : (bytes.reverse.takeWhile (· == pad)).length ≠ bytes.reverse.length := by
    intro all
    have padding := List.takeWhile_eq_self_iff.mp ((List.takeWhile_prefix _).eq_of_length all)
    obtain ⟨first, others, rfl⟩ := List.exists_cons_of_ne_nil some
    exact plain (congrArg Option.some (beq_iff_eq.mp (padding first (by simp))))
  have behind := congrArg (fun bytes => (bytes.reverse.takeWhile (· == pad)).length) same
  simp only [List.reverse_append, List.reverse_replicate] at behind
  rw [List.takeWhile_append, if_neg stops, List.takeWhile_append_of_pos (by simp), List.length_append, List.length_replicate] at behind
  omega

/-- Where a section was completed by a payload with its end, no byte was missing: stuffing
does not stand in for it. -/
theorem completed_exact {before : Bytes} {size : Nat} (some : tail ≠ []) (plain : tail.head? ≠ .some 0xff)
    (left : tail <:+ whole) (room : before.length + tail.length ≤ whole.length)
    (taken : whole = (before ++ (tail ++ List.replicate stuffing 0xff)).take size) : before.length + tail.length = whole.length := by
  have begins : whole <+: before ++ tail ++ List.replicate stuffing 0xff := by
    rw [taken, List.append_assoc]
    exact List.take_prefix _ _
  obtain ⟨padding, rfl⟩ := List.prefix_of_prefix_length_le (List.prefix_append _ _) begins (by simpa using room)
  rw [List.prefix_append_right_inj] at begins
  have padded := (List.prefix_replicate_iff.mp begins).2
  rw [List.append_assoc] at left
  obtain ⟨front, same⟩ := List.suffix_of_suffix_length_le left (List.suffix_append before _) (by simp)
  rw [padded] at same
  have none := padding_nil some plain same
  simp only [List.length_append]
  omega

/-- A packet in which sections start, and those behind it. -/
theorem collected_starts (starts : packet.starts = true) (short : packet.tail.length < 256) (buffer : SectionBuffer) :
    collected buffer ((packet :: packets).map Carried.payload) =
      let outcome := (holding []).collect (packet.complete.flatten ++ packet.begun ++ List.replicate packet.stuffing 0xff)
      outcome.2.toList ++ collected outcome.1 (packets.map Carried.payload) := by
  rw [List.map_cons, collected, accept_starts starts short]

/-- Of the sections that start in a packet the first is parsed when it is complete. -/
theorem collect_complete (whole : IsSection section_) (others : Bytes) :
    (holding []).collect (section_ ++ others) = (holding [], .some section_) := by
  have some : section_ ≠ [] := by
    rintro rfl
    cases whole.1
  have alone : IsSection ([] ++ section_) := whole
  exact collect_last alone some whole.2 others

/-- What the packets have parsed ends with the sections only if it is the sections, and
the packets are plain. -/
def Exact (sections : List Bytes) (packets : List Carried) : Prop :=
  ∀ buffer, sections <:+ collected buffer (packets.map Carried.payload) →
    collected buffer (packets.map Carried.payload) = sections ∧ ∀ packet ∈ packets, packet.Plain

/-- The same with a section of which not more is kept than there is in front of what is
left of it. -/
def ExactWithin (rest : Bytes) (sections : List Bytes) (packets : List Carried) : Prop :=
  ∀ (buffer : SectionBuffer) (whole : Bytes), rest <:+ whole → buffer.bytes.length + rest.length ≤ whole.length →
    whole :: sections <:+ collected buffer (packets.map Carried.payload) →
      collected buffer (packets.map Carried.payload) = whole :: sections ∧ buffer.bytes.length + rest.length = whole.length ∧
        ∀ packet ∈ packets, packet.Plain

theorem not_suffix_self {α : Type} {front items : List α} (some : front ≠ []) : ¬ front ++ items <:+ items := by
  intro ends
  have longer := ends.length_le
  have more := List.length_pos_iff.mpr some
  rw [List.length_append] at longer
  omega

theorem Exact.missing (exact : Exact sections packets) {others : List Bytes} (some : others ≠ []) (buffer : SectionBuffer) :
    ¬ others ++ sections <:+ collected buffer (packets.map Carried.payload) := by
  intro ends
  obtain ⟨same, -⟩ := exact buffer (.trans (List.suffix_append _ _) ends)
  rw [same] at ends
  exact not_suffix_self some ends

theorem exactWithin_within (some : chunk ≠ []) (more : rest ≠ []) (later : ExactWithin rest sections packets) :
    ExactWithin (chunk ++ rest) sections ({ tail := chunk } :: packets) := by
  intro buffer whole left room ends
  have behind := List.length_pos_iff.mpr some
  have missing := List.length_pos_iff.mpr more
  have rest_left : rest <:+ whole := .trans (List.suffix_append _ _) left
  rw [List.length_append] at room
  rw [List.map_cons, collected, accept_tail, List.replicate_zero, List.append_nil] at ends ⊢
  rcases collect_cases some with ⟨-, dropped⟩ | ⟨plain, ⟨size, completed⟩ | ⟨expectedSize, kept⟩⟩
  · rw [dropped] at ends
    obtain ⟨-, all, -⟩ := later buffer whole rest_left (by omega) ends
    omega
  · rw [completed] at ends
    rcases List.suffix_cons_iff.mp ends with same | ends
    · have taken := congrArg List.length (List.cons.inj same).1
      simp only [List.length_take, List.length_append] at taken
      omega
    · obtain ⟨-, all, -⟩ := later {} whole rest_left (by simp; omega) ends
      simp at all
      omega
  · rw [kept] at ends ⊢
    obtain ⟨parsed, all, plains⟩ := later _ whole rest_left (by simp; omega) ends
    simp only [List.length_append] at all
    exact ⟨parsed, by rw [List.length_append]; omega, List.forall_mem_cons.mpr ⟨plain, plains⟩⟩

theorem exactWithin_ends (some : tail ≠ []) (later : Exact sections packets) :
    ExactWithin tail sections ({ tail, stuffing } :: packets) := by
  intro buffer whole left room ends
  have payload : tail ++ List.replicate stuffing 0xff ≠ [] := List.append_ne_nil_of_left_ne_nil some _
  rw [List.map_cons, collected, accept_tail] at ends ⊢
  rcases collect_cases payload with ⟨-, dropped⟩ | ⟨plain, ⟨size, completed⟩ | ⟨expectedSize, kept⟩⟩
  · rw [dropped] at ends
    exact absurd ends (later.missing (List.cons_ne_nil whole []) buffer)
  · rw [completed] at ends ⊢
    rw [List.head?_append_of_ne_nil _ some] at plain
    rcases List.suffix_cons_iff.mp ends with same | ends
    · obtain ⟨taken, parsed⟩ := List.cons.inj same
      obtain ⟨-, plains⟩ := later {} (parsed ▸ List.suffix_refl _)
      exact ⟨same.symm, completed_exact some plain left room taken, List.forall_mem_cons.mpr ⟨plain, plains⟩⟩
    · exact absurd ends (later.missing (List.cons_ne_nil whole []) {})
  · rw [kept] at ends
    exact absurd ends (later.missing (List.cons_ne_nil whole []) _)

/-- The sections that start in a packet and behind it, whatever is in front of them. -/
def ExactStarts (sections : List Bytes) (packet : Carried) (packets : List Carried) : Prop :=
  ∀ buffer, sections <:+ collected buffer ((packet :: packets).map Carried.payload) →
    collected buffer ((packet :: packets).map Carried.payload) = sections ∧ (packet.tail = [] → packet.Plain) ∧
      ∀ packet ∈ packets, packet.Plain

theorem ExactStarts.exact (exact : ExactStarts sections packet packets) (alone : packet.tail = []) :
    Exact sections (packet :: packets) := by
  intro buffer ends
  obtain ⟨same, plain, plains⟩ := exact buffer ends
  exact ⟨same, List.forall_mem_cons.mpr ⟨plain alone, plains⟩⟩

/-- The section whose end is in front of the pointer is not parsed. -/
theorem ExactStarts.exactWithin (exact : ExactStarts sections packet packets) : ExactWithin rest sections (packet :: packets) := by
  intro buffer whole _ _ ends
  obtain ⟨same, -⟩ := exact buffer (.trans (List.suffix_cons _ _) ends)
  rw [same] at ends
  exact absurd ends (not_suffix_self (List.cons_ne_nil whole []))

theorem exactStarts_complete (some : complete ≠ []) (short : tail.length < 256) (each : ∀ section_ ∈ complete, IsSection section_)
    (later : Exact sections packets) : ExactStarts (complete ++ sections) { tail, complete, stuffing } packets := by
  intro buffer ends
  obtain ⟨first, complete, rfl⟩ := List.exists_cons_of_ne_nil some
  have begins := collect_complete (each first List.mem_cons_self) (complete.flatten ++ [] ++ List.replicate stuffing 0xff)
  rw [collected_starts (starts_complete some) short] at ends ⊢
  simp only [List.flatten_cons, List.append_assoc] at begins ends ⊢
  rw [begins] at ends ⊢
  simp only [Option.toList_some, List.cons_append, List.nil_append] at ends ⊢
  rcases List.suffix_cons_iff.mp ends with same | ends
  · have others := (List.cons.inj same).2
    obtain ⟨parsed, plains⟩ := later (holding []) (others ▸ List.suffix_append _ _)
    rw [parsed] at others
    have none : complete = [] := List.append_left_eq_self.mp others
    subst none
    exact ⟨congrArg _ parsed, fun alone => (plain_complete some).mpr ⟨alone, first, rfl⟩, plains⟩
  · exact absurd ends (later.missing some _)

theorem exactStarts_begun (some : chunk ≠ []) (more : rest ≠ []) (short : tail.length < 256)
    (each : ∀ section_ ∈ complete ++ [chunk ++ rest], IsSection section_) (later : ExactWithin rest sections packets) :
    ExactStarts (complete ++ (chunk ++ rest) :: sections) { tail, complete, begun := chunk } packets := by
  intro buffer ends
  obtain ⟨before, section_whole⟩ := List.forall_mem_append.mp each
  have whole : IsSection ([] ++ chunk ++ rest) := section_whole _ List.mem_cons_self
  rw [collected_starts (starts_begun some) short] at ends ⊢
  simp only [List.replicate_zero, List.append_nil] at ends ⊢
  cases complete with
  | nil =>
    have plain : chunk.head? ≠ .some 0xff := by
      rw [← List.head?_append_of_ne_nil _ some]
      exact whole.2
    have begins := collect_before whole some more plain
    simp only [List.flatten_nil, List.nil_append] at begins ends ⊢
    rw [begins] at ends ⊢
    obtain ⟨parsed, -, plains⟩ := later (holding chunk) (chunk ++ rest) (List.suffix_append _ _) (by simp [holding]) ends
    exact ⟨parsed, fun alone => (plain_begun some).mpr ⟨alone, rfl⟩, plains⟩
  | cons first complete =>
    have begins := collect_complete (before first List.mem_cons_self) (complete.flatten ++ chunk)
    simp only [List.flatten_cons, List.append_assoc] at begins ends
    rw [begins] at ends
    simp only [Option.toList_some, List.cons_append, List.nil_append] at ends
    -- The section that is begun is parsed behind the first one, of which no byte was kept.
    have behind : (chunk ++ rest) :: sections <:+ collected (holding []) (packets.map Carried.payload) := by
      rcases List.suffix_cons_iff.mp ends with same | ends
      · rw [← (List.cons.inj same).2]
        exact List.suffix_append _ _
      · exact .trans (List.suffix_append (first :: complete) _) ends
    obtain ⟨-, all, -⟩ := later (holding []) _ (List.suffix_append _ _) (by simp [holding]) behind
    have missing := List.length_pos_iff.mpr some
    simp only [holding, List.length_nil, List.length_append] at all
    omega

/-- Packets of which something else than one section is to be taken, or that look like
stuffing, are not made up for. -/
theorem exact_packetised (packetised : Packetised rest sections packets) (short : ∀ packet ∈ packets, packet.tail.length < 256)
    (each : ∀ section_ ∈ sections, IsSection section_) :
    (rest = [] → Exact sections packets) ∧ (rest ≠ [] → ExactWithin rest sections packets) := by
  induction packetised with
  | done => exact ⟨fun _ _ _ => ⟨rfl, nofun⟩, fun some => absurd rfl some⟩
  | within some more later ih =>
    refine ⟨fun none => absurd (List.append_eq_nil_iff.mp none).1 some, fun _ => ?_⟩
    exact exactWithin_within some more ((ih (List.forall_mem_cons.mp short).2 each).2 more)
  | ends some later ih =>
    exact ⟨fun none => absurd none some, fun _ => exactWithin_ends some ((ih (List.forall_mem_cons.mp short).2 each).1 rfl)⟩
  | @starts complete sections packets tail stuffing some later ih =>
    obtain ⟨here, behind⟩ := List.forall_mem_cons.mp short
    obtain ⟨first, others⟩ := List.forall_mem_append.mp each
    have starts : ExactStarts (complete ++ sections) { tail, complete, stuffing } packets :=
      exactStarts_complete some here first ((ih behind others).1 rfl)
    exact ⟨starts.exact, fun _ => starts.exactWithin⟩
  | @begins chunk rest sections packets tail complete some more later ih =>
    obtain ⟨here, behind⟩ := List.forall_mem_cons.mp short
    obtain ⟨first, others⟩ := List.forall_mem_append.mp each
    obtain ⟨whole, others⟩ := List.forall_mem_cons.mp others
    have begun : ∀ section_ ∈ complete ++ [chunk ++ rest], IsSection section_ :=
      List.forall_mem_append.mpr ⟨first, by simpa using whole⟩
    have starts := exactStarts_begun some more here begun ((ih behind others).2 more)
    exact ⟨starts.exact, fun _ => starts.exactWithin⟩

/-- Plain packets have all their sections parsed. -/
theorem parsed_packetised (packetised : Packetised rest sections packets) (short : ∀ packet ∈ packets, packet.tail.length < 256)
    (each : ∀ section_ ∈ sections, IsSection section_) (plain : ∀ packet ∈ packets, packet.Plain) :
    (rest = [] → ∀ buffer, collected buffer (packets.map Carried.payload) = sections) ∧
      (rest ≠ [] → ∀ before, IsSection (before ++ rest) →
        collected (holding before) (packets.map Carried.payload) = (before ++ rest) :: sections) := by
  induction packetised with
  | done => exact ⟨fun _ _ => rfl, fun some => absurd rfl some⟩
  | @within chunk rest sections packets some more later ih =>
    obtain ⟨here, plains⟩ := List.forall_mem_cons.mp plain
    refine ⟨fun none => absurd (List.append_eq_nil_iff.mp none).1 some, fun _ before whole => ?_⟩
    rw [← List.append_assoc] at whole ⊢
    rw [List.map_cons, collected, accept_tail, List.replicate_zero, List.append_nil, collect_before whole some more here]
    exact (ih (List.forall_mem_cons.mp short).2 each plains).2 more (before ++ chunk) whole
  | @ends tail sections packets stuffing some later ih =>
    obtain ⟨here, plains⟩ := List.forall_mem_cons.mp plain
    refine ⟨fun none => absurd none some, fun _ before whole => ?_⟩
    rw [List.map_cons, collected, accept_tail, collect_last whole some here]
    exact congrArg _ ((ih (List.forall_mem_cons.mp short).2 each plains).1 rfl {})
  | @starts complete sections packets tail stuffing some later ih =>
    obtain ⟨here, plains⟩ := List.forall_mem_cons.mp plain
    obtain ⟨near, behind⟩ := List.forall_mem_cons.mp short
    obtain ⟨first, others⟩ := List.forall_mem_append.mp each
    obtain ⟨alone, section_, rfl⟩ := (plain_complete some).mp here
    refine ⟨fun _ buffer => ?_, fun more => absurd alone more⟩
    have begins := collect_complete (first section_ List.mem_cons_self) (List.replicate stuffing 0xff)
    rw [collected_starts (starts_complete some) near]
    simp only [List.flatten_cons, List.flatten_nil, List.append_nil]
    rw [begins]
    exact congrArg _ ((ih behind others plains).1 rfl _)
  | @begins chunk rest sections packets tail complete some more later ih =>
    obtain ⟨here, plains⟩ := List.forall_mem_cons.mp plain
    obtain ⟨near, behind⟩ := List.forall_mem_cons.mp short
    obtain ⟨-, others⟩ := List.forall_mem_append.mp each
    obtain ⟨whole, others⟩ := List.forall_mem_cons.mp others
    obtain ⟨alone, rfl⟩ := (plain_begun some).mp here
    refine ⟨fun _ buffer => ?_, fun more => absurd alone more⟩
    have first : chunk.head? ≠ .some 0xff := by
      rw [← List.head?_append_of_ne_nil _ some]
      exact whole.2
    have begins := @collect_before rest chunk [] whole some more first
    rw [collected_starts (starts_begun some) near]
    simp only [List.flatten_nil, List.nil_append, List.replicate_zero, List.append_nil] at begins ⊢
    rw [begins]
    exact (ih behind others plains).2 more chunk whole

theorem collected_iff (packetised : Packetised [] sections packets) (short : ∀ packet ∈ packets, packet.tail.length < 256)
    (each : ∀ section_ ∈ sections, IsSection section_) (buffer : SectionBuffer) :
    collected buffer (packets.map Carried.payload) = sections ↔ ∀ packet ∈ packets, packet.Plain := by
  constructor
  · intro parsed
    exact ((exact_packetised packetised short each).1 rfl buffer (parsed ▸ List.suffix_refl _)).2
  · intro plain
    exact (parsed_packetised packetised short each plain).1 rfl buffer

/-! ## Streams -/

theorem payloadOn_length {pid : UInt16} {stream : Bytes} {payload : Payload} (found : payloadOn pid stream = some payload) :
    payload.bytes.length ≤ 184 := by
  obtain ⟨⟨other, carried⟩, read, mine⟩ := Option.bind_eq_some_iff.mp found
  obtain rfl : carried = payload := by
    dsimp only at mine
    split at mine
    · exact Option.some.inj mine
    · cases mine
  unfold packetPayload at read
  split at read
  case h_2 => cases read
  case h_1 sync flags low control body =>
    dsimp only at read
    rw [Option.ite_none_right_eq_some] at read
    obtain ⟨⟨size, -⟩, same⟩ := read
    obtain ⟨-, rfl⟩ := Prod.mk.inj (Option.some.inj same)
    dsimp only
    split
    · omega
    · rw [List.length_drop]
      omega

theorem tails_short {pid : UInt16} {stream : List Bytes} (sent : stream.filterMap (payloadOn pid) = packets.map Carried.payload) :
    ∀ packet ∈ packets, packet.tail.length < 256 := by
  intro packet among
  have carried : packet.payload ∈ stream.filterMap (payloadOn pid) := sent ▸ List.mem_map_of_mem among
  obtain ⟨bytes, -, found⟩ := List.mem_filterMap.mp carried
  have size := payloadOn_length found
  simp only [Carried.payload, List.length_append] at size
  omega

/-- The sections of a PID are parsed, each once and in order, exactly when in no packet
there is anything in front of the first section that starts, or a second one, and no
packet in which none starts begins like stuffing. -/
theorem sections_parsed_iff (stats : Stats) {pid : UInt16} {stream : List Bytes} (each : ∀ section_ ∈ sections, IsSection section_)
    (packetised : Packetised [] sections packets) (sent : stream.filterMap (payloadOn pid) = packets.map Carried.payload) :
    ∃ after, inspectPackets stats stream = .ok after ∧
      (after.parsedOn pid = stats.parsedOn pid ++ sections ↔ ∀ packet ∈ packets, packet.Plain) := by
  obtain ⟨after, inspected, parsed⟩ := inspectPackets_collects stats pid stream
  refine ⟨after, inspected, ?_⟩
  rw [parsed, sent, List.append_cancel_left_eq]
  exact collected_iff packetised (tails_short sent) each _

/-- A section of 200 bytes. -/
def longSection : Bytes := 0x42 :: 0xf0 :: 197 :: List.replicate 197 0

/-- The beginning of the section, and a packet behind it with the end. -/
def longCarried (complete : List Bytes) (stuffing : Nat) : List Carried :=
  [{ begun := longSection.take 183 }, { tail := longSection.drop 183, complete, stuffing }]

/-- Packets of the PID of SDT. -/
def sdtPackets (packets : List Carried) : List Bytes :=
  packets.map fun packet => 0x47 :: (if packet.starts then 0x40 else 0x00) :: 0x11 :: 0x10 :: packet.payload.bytes

theorem isSection_long : IsSection longSection := by
  unfold IsSection
  decide +kernel

theorem long_section_parsed :
    ∃ after, inspectPackets {} (sdtPackets (longCarried [] 167)) = .ok after ∧ after.parsedOn 0x11 = [longSection] := by
  have begins : longSection.take 183 ≠ [] := by decide
  have more : longSection.drop 183 ≠ [] := by decide
  have packetised : Packetised [] ([] ++ (longSection.take 183 ++ longSection.drop 183) :: []) (longCarried [] 167) :=
    .begins begins more (.ends more .done)
  rw [List.nil_append, List.take_append_drop] at packetised
  have sent : (sdtPackets (longCarried [] 167)).filterMap (payloadOn 0x11) = (longCarried [] 167).map Carried.payload := by
    decide +kernel
  obtain ⟨after, inspected, exact⟩ := sections_parsed_iff {} (List.forall_mem_singleton.mpr isSection_long) packetised sent
  refine ⟨after, inspected, exact.mpr ?_⟩
  rw [longCarried, List.forall_mem_cons, List.forall_mem_singleton]
  constructor
  · exact (plain_begun begins).mpr ⟨rfl, rfl⟩
  · rw [Carried.Plain, if_neg (by decide)]
    decide

/-- A section of 16 bytes. -/
def shortSection : Bytes := 0x42 :: 0xf0 :: 13 :: List.replicate 13 0

/-- The end of a section in front of the start of another one. -/
theorem end_before_pointer_lost :
    ¬ ∀ (pid : UInt16) (sections : List Bytes) (packets : List Carried) (stream : List Bytes),
      (∀ section_ ∈ sections, IsSection section_) → Packetised [] sections packets →
      stream.filterMap (payloadOn pid) = packets.map Carried.payload →
      ∃ after, inspectPackets {} stream = .ok after ∧ after.parsedOn pid = sections := by
  intro always
  have begins : longSection.take 183 ≠ [] := by decide
  have more : longSection.drop 183 ≠ [] := by decide
  have packetised : Packetised [] ([] ++ (longSection.take 183 ++ longSection.drop 183) :: ([shortSection] ++ []))
      (longCarried [shortSection] 150) := .begins begins more (.starts (List.cons_ne_nil _ _) .done)
  rw [List.nil_append, List.take_append_drop] at packetised
  have sent : (sdtPackets (longCarried [shortSection] 150)).filterMap (payloadOn 0x11) =
      (longCarried [shortSection] 150).map Carried.payload := by decide +kernel
  have each : ∀ section_ ∈ longSection :: ([shortSection] ++ []), IsSection section_ := by
    unfold IsSection
    decide +kernel
  obtain ⟨after, inspected, parsed⟩ := always 0x11 _ _ _ each packetised sent
  obtain ⟨after', inspected', collects⟩ := inspectPackets_collects {} 0x11 (sdtPackets (longCarried [shortSection] 150))
  cases inspected.symm.trans inspected'
  have none : ({} : Stats).parsedOn 0x11 = [] := rfl
  rw [parsed, sent, none, List.nil_append] at collects
  have plain := (collected_iff packetised (tails_short sent) each _).mp collects.symm
  have alone := (plain_complete (List.cons_ne_nil _ _)).mp (plain _ (List.mem_cons_of_mem _ List.mem_cons_self))
  exact more alone.1

end WhRepeater.TsGatewayInspect
