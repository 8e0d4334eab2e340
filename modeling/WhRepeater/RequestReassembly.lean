import WhRepeater.ApiSurvival

/-! What the API server takes for one request (`readHttpRequest`), however the
bytes of the request are cut into chunks. The length of the body is searched in all
that was received, so without a length in the head it may be found behind it. -/
namespace WhRepeater

open TextScan

namespace ApiServer

/-! ## Heads -/

def lengthHeader : Bytes := bytes "Content-Length:"

/-- The bytes up to the blank line. -/
def IsHead (head : Bytes) : Prop := find (head ++ headerEnd) headerEnd 0 = some head.length

/-- The length stands in the head, once, behind white space. -/
def Announces (head : Bytes) (length : Nat) : Prop :=
  ∃ front blank digits rest, head = front ++ lengthHeader ++ (blank ++ digits ++ rest) ∧
    (∀ other later, head = other ++ lengthHeader ++ later → other = front) ∧ blank.all isSpace = true ∧
    digits.all isDigit = true ∧ digits ≠ [] ∧ (∀ next ∈ rest.head?, isDigit next = false) ∧ digitsValue digits = length

/-- No length stands in the head. -/
def Silent (head : Bytes) : Prop := ∀ other later, head ≠ other ++ lengthHeader ++ later

/-- The last of the chunks completes the head, and has the tail behind it. -/
def HeadCompleted (head : Bytes) (chunks : List Bytes) (tail : Bytes) : Prop :=
  ∃ front last, chunks = front ++ [last] ∧ chunks.flatten = head ++ headerEnd ++ tail ∧ tail.length < last.length

/-- The request is what the chunks have, and no more is asked for. -/
def Returns (chunks : List Bytes) : Prop := ∀ later, readHttpRequest [] (chunks ++ later) = .ok chunks.flatten

/-- A request with its length is returned when its body is there, and one without
when its head is. -/
def Reassembled (head : Bytes) (chunks : List Bytes) : Prop :=
  (∀ length body, Announces head length → body.length = length → chunks.flatten = head ++ headerEnd ++ body → Returns chunks) ∧
    (Silent head → ∀ tail, HeadCompleted head chunks tail → Returns chunks)

theorem headerEnd_length : headerEnd.length = 4 := rfl

variable {head body tail received chunk : Bytes} {front chunks : List Bytes} {length : Nat}

theorem contentLengthDigits_eq (request : Bytes) :
    contentLengthDigits request =
      ((behind lengthHeader request).map fun rest => (rest.dropWhile isSpace).takeWhile isDigit).getD [] := by
  rw [contentLengthDigits, find_zero, behind, lengthHeader]
  cases indexOf (bytes "Content-Length:") request <;> rfl

/-- What the head announces is found first. -/
theorem declared_announced (announces : Announces head length) (body : Bytes) :
    declaredLength (head ++ headerEnd ++ body) = length := by
  obtain ⟨front, blank, digits, rest, rfl, once, spaces, all, some, ends, rfl⟩ := announces
  have first : ∀ other later, front ++ lengthHeader = other ++ lengthHeader ++ later → other = front := by
    intro other later same
    exact once other (later ++ (blank ++ digits ++ rest)) (by rw [same, List.append_assoc])
  have there : behind lengthHeader (front ++ lengthHeader ++ (blank ++ digits ++ rest) ++ headerEnd ++ body) =
      Option.some (blank ++ (digits ++ (rest ++ headerEnd ++ body))) := by
    have found := behind_first (by decide) first (blank ++ (digits ++ (rest ++ headerEnd ++ body)))
    simpa only [List.append_assoc] using found
  have started : (digits ++ (rest ++ headerEnd ++ body)).dropWhile isSpace = digits ++ (rest ++ headerEnd ++ body) := by
    obtain ⟨first, later, rfl⟩ := List.exists_cons_of_ne_nil some
    have number : isDigit first = true := List.all_eq_true.mp all first List.mem_cons_self
    rw [List.cons_append, List.dropWhile_cons_of_neg (by simp [JsonParser.not_space_of_digit number])]
  have ended : (rest ++ headerEnd ++ body).takeWhile isDigit = [] := by
    cases rest with
    | nil => rfl
    | cons next rest =>
      rw [List.cons_append, List.cons_append, List.takeWhile_cons_of_neg (by simp [ends next rfl])]
  rw [declaredLength, contentLengthDigits_eq, there, Option.map_some, Option.getD_some,
    JsonParser.dropWhile_blank spaces, started, List.takeWhile_append_of_pos (List.all_eq_true.mp all), ended,
    List.append_nil]

/-- Behind a head without a length the search goes on. -/
theorem declared_silent (silent : Silent head) (tail : Bytes) :
    declaredLength (head ++ headerEnd ++ tail) = declaredLength tail := by
  have passed : behind lengthHeader (head ++ headerEnd ++ tail) = behind lengthHeader tail := by
    have ends : headerEnd = [13, 10, 13, 10] := by decide
    have first := behind_separator (by decide : lengthHeader ≠ []) (by decide : (13 : UInt8) ∉ lengthHeader) silent
      (10 :: 13 :: 10 :: tail)
    have other : ∀ ch : UInt8, ch = 13 ∨ ch = 10 → ∀ rest, behind lengthHeader (ch :: rest) = behind lengthHeader rest := by
      rintro ch (rfl | rfl) rest <;> exact behind_cons fun there => absurd (List.cons_prefix_cons.mp there).1 (by decide)
    rw [ends, List.append_assoc]
    change behind lengthHeader (head ++ 13 :: 10 :: 13 :: 10 :: tail) = _
    rw [first, other 10 (.inr rfl), other 13 (.inl rfl), other 10 (.inr rfl)]
  rw [declaredLength, contentLengthDigits_eq, passed, ← contentLengthDigits_eq, declaredLength]

theorem find_head (isHead : IsHead head) (body : Bytes) : find (head ++ headerEnd ++ body) headerEnd 0 = some head.length := by
  rw [IsHead, find_zero] at isHead
  rw [find_zero]
  exact indexOf_append isHead body

/-- The blank line is not found before it is there. -/
theorem find_partial (isHead : IsHead head) (within : received <+: head ++ headerEnd ++ body)
    (short : received.length < (head ++ headerEnd).length) : find received headerEnd 0 = none := by
  rw [find_zero]
  cases found : indexOf headerEnd received with
  | none => rfl
  | some position =>
    obtain ⟨more, whole⟩ := within
    have same := indexOf_append found more
    have there := find_head isHead body
    rw [find_zero, ← whole, same] at there
    cases there
    obtain ⟨before, behind, split, length⟩ := indexOf_split found
    have lengths := congrArg List.length split
    simp only [List.length_append] at lengths short
    omega

/-! ## Chunks -/

/-- The reader asks for more. -/
def Waits (request : Bytes) : Prop := ¬ Complete request ∧ ¬ Overlong request

theorem complete_iff {bodyStart : Nat} (found : find received headerEnd 0 = some bodyStart) :
    Complete received ↔ declaredLength received ≤ received.length - (bodyStart + 4) := by
  constructor
  · rintro ⟨position, there, enough⟩
    rw [found] at there
    cases there
    exact enough
  · exact fun enough => ⟨bodyStart, found, enough⟩

theorem read_chunk (some : chunk ≠ []) (chunks : List Bytes) :
    (Waits (received ++ chunk) → readHttpRequest received (chunk :: chunks) = readHttpRequest (received ++ chunk) chunks) ∧
      (Complete (received ++ chunk) → ¬ Overlong (received ++ chunk) →
        readHttpRequest received (chunk :: chunks) = .ok (received ++ chunk)) ∧
      (Overlong (received ++ chunk) → readHttpRequest received (chunk :: chunks) = throw "stoul") := by
  rw [readHttpRequest.eq_3 _ _ _ some]
  generalize received ++ chunk = received
  cases headers : find received headerEnd 0 with
  | none =>
    refine ⟨fun _ => rfl, fun complete => ?_, fun overlong => ?_⟩
    · obtain ⟨position, found, -⟩ := complete
      rw [headers] at found
      cases found
    · rw [Overlong, headers] at overlong
      cases overlong.1
  | some bodyStart =>
    have countable : ¬ Overlong received → ¬ 2 ^ 64 ≤ declaredLength received := fun fits long => fits ⟨by rw [headers]; rfl, long⟩
    have counted : ¬ 2 ^ 64 ≤ declaredLength received → (UInt64.ofNat (declaredLength received)).toNat = declaredLength received :=
      fun fits => by rw [UInt64.toNat_ofNat', Nat.mod_eq_of_lt (Nat.not_le.mp fits)]
    simp only [contentLength_eq]
    refine ⟨fun waits => ?_, fun complete fits => ?_, fun overlong => ?_⟩
    · have fits := countable waits.2
      have more := (complete_iff headers).not.mp waits.1
      simp only [if_neg fits, pure_bind, counted fits, if_neg more]
    · have fits := countable fits
      have enough := (complete_iff headers).mp complete
      simp only [if_neg fits, pure_bind, counted fits, if_pos enough]
      rfl
    · rw [if_pos overlong.2]
      rfl

theorem read_waiting (nonempty : ∀ chunk ∈ front, chunk ≠ [])
    (waits : ∀ earlier, earlier <+: front → earlier ≠ [] → Waits (received ++ earlier.flatten)) (later : List Bytes) :
    readHttpRequest received (front ++ later) = readHttpRequest (received ++ front.flatten) later := by
  induction front generalizing received with
  | nil => rw [List.nil_append, List.flatten_nil, List.append_nil]
  | cons chunk front ih =>
    obtain ⟨some, others⟩ := List.forall_mem_cons.mp nonempty
    have first : Waits (received ++ chunk) := by
      have here := waits [chunk] ⟨front, rfl⟩ (List.cons_ne_nil _ _)
      rwa [List.flatten_singleton] at here
    rw [List.cons_append, (read_chunk some _).1 first, List.flatten_cons, ← List.append_assoc]
    refine ih others fun earlier within more => ?_
    have further := waits (chunk :: earlier) (List.cons_prefix_cons.mpr ⟨rfl, within⟩) (List.cons_ne_nil _ _)
    rwa [List.flatten_cons, ← List.append_assoc] at further

/-- What is read of one more byte has the byte. -/
theorem read_one (received : Bytes) : readHttpRequest received [[0]] ≠ .ok received := by
  intro read
  by_cases overlong : Overlong (received ++ [0])
  · rw [(read_chunk (List.cons_ne_nil 0 []) []).2.2 overlong] at read
    cases read
  by_cases complete : Complete (received ++ [0])
  · rw [(read_chunk (List.cons_ne_nil 0 []) []).2.1 complete overlong] at read
    simp at read
  · rw [(read_chunk (List.cons_ne_nil 0 []) []).1 ⟨complete, overlong⟩] at read
    simp [readHttpRequest, pure, Except.pure] at read

/-- Once all that came before has waited, the last chunk decides. -/
theorem returns_iff {last : Bytes} (nonempty : ∀ chunk ∈ front ++ [last], chunk ≠ [])
    (waits : ∀ earlier, earlier <+: front → earlier ≠ [] → Waits earlier.flatten) :
    Returns (front ++ [last]) ↔
      Complete (front ++ [last]).flatten ∧ ¬ Overlong (front ++ [last]).flatten := by
  have some : last ≠ [] := nonempty last (by simp)
  have before : ∀ later, readHttpRequest [] (front ++ [last] ++ later) = readHttpRequest front.flatten (last :: later) := by
    intro later
    have started := @read_waiting [] front (fun chunk among => nonempty chunk (List.mem_append_left _ among)) waits (last :: later)
    rwa [List.nil_append, List.append_cons] at started
  have whole : (front ++ [last]).flatten = front.flatten ++ last := by simp
  unfold Returns
  simp only [before, whole]
  constructor
  · intro returns
    by_cases overlong : Overlong (front.flatten ++ last)
    · have thrown := returns []
      rw [(read_chunk some []).2.2 overlong] at thrown
      cases thrown
    refine ⟨?_, overlong⟩
    by_contra incomplete
    have further := returns [[0]]
    rw [(read_chunk some _).1 ⟨incomplete, overlong⟩] at further
    exact read_one _ further
  · rintro ⟨complete, fits⟩ later
    exact (read_chunk some later).2.1 complete fits

/-! ## Requests -/

theorem waits_partial (isHead : IsHead head) (within : received <+: head ++ headerEnd ++ body)
    (short : received.length < (head ++ headerEnd).length) : Waits received := by
  have absent := find_partial isHead within short
  constructor
  · rintro ⟨position, found, -⟩
    rw [absent] at found
    cases found
  · rintro ⟨found, -⟩
    rw [absent] at found
    cases found

/-- Behind the head the length is known, and the body is not all there. -/
theorem waits_announced (isHead : IsHead head) (announces : Announces head body.length) (fits : body.length < 2 ^ 64)
    (within : received <+: head ++ headerEnd ++ body) (less : received.length < (head ++ headerEnd ++ body).length) :
    Waits received := by
  by_cases short : received.length < (head ++ headerEnd).length
  · exact waits_partial isHead within short
  obtain ⟨part, rfl⟩ := List.prefix_of_prefix_length_le (List.prefix_append _ body) within (not_lt.mp short)
  have declared := declared_announced announces part
  constructor
  · rw [complete_iff (find_head isHead part), declared]
    simp only [List.length_append, headerEnd_length] at less ⊢
    omega
  · rintro ⟨-, long⟩
    rw [declared] at long
    omega

theorem announced_returns (isHead : IsHead head) (nonempty : ∀ chunk ∈ chunks, chunk ≠ [])
    (announces : Announces head body.length) (fits : body.length < 2 ^ 64) (whole : chunks.flatten = head ++ headerEnd ++ body) :
    Returns chunks := by
  rcases List.eq_nil_or_concat chunks with rfl | ⟨front, last, rfl⟩
  · have lengths := congrArg List.length whole
    simp only [List.flatten_nil, List.length_append, List.length_nil, headerEnd_length] at lengths
    omega
  rw [List.concat_eq_append] at nonempty whole ⊢
  have some : last ≠ [] := nonempty last (by simp)
  refine (returns_iff nonempty fun earlier within _ => ?_).mpr ?_
  · obtain ⟨others, rfl⟩ := within
    refine waits_announced isHead announces fits ⟨others.flatten ++ last, by rw [← whole]; simp⟩ ?_
    have positive := List.length_pos_of_ne_nil some
    rw [← whole]
    simp only [List.flatten_append, List.length_append, List.flatten_singleton]
    omega
  · have declared := declared_announced announces body
    rw [whole, complete_iff (find_head isHead body), Overlong, declared]
    simp only [List.length_append, headerEnd_length]
    omega

/-- The chunk that completes a head without a length is the last one exactly when
no more is announced behind the head than there is. -/
theorem silent_returns_iff (isHead : IsHead head) (nonempty : ∀ chunk ∈ chunks, chunk ≠ []) (silent : Silent head)
    (fits : tail.length < 2 ^ 64) (completed : HeadCompleted head chunks tail) :
    Returns chunks ↔ declaredLength tail ≤ tail.length := by
  obtain ⟨front, last, rfl, whole, less⟩ := completed
  have declared := declared_silent silent tail
  have lengths := congrArg List.length whole
  simp only [List.flatten_append, List.flatten_singleton, List.length_append] at lengths
  rw [returns_iff nonempty, whole, complete_iff (find_head isHead tail), Overlong, declared]
  · simp only [List.length_append, headerEnd_length]
    omega
  · intro earlier within _
    obtain ⟨others, rfl⟩ := within
    refine waits_partial isHead ⟨others.flatten ++ last, by rw [← whole]; simp⟩ ?_
    simp only [List.flatten_append, List.length_append] at lengths ⊢
    omega

/-- However a request is cut into chunks, it is returned whole when its head has
the length of its body; and when its head has none, it is returned with the chunk
that completes the head exactly if what came behind the head in that chunk
announces no more than there is of it. -/
theorem request_reassembled_iff (isHead : IsHead head) (nonempty : ∀ chunk ∈ chunks, chunk ≠ [])
    (fits : chunks.flatten.length < 2 ^ 64) :
    Reassembled head chunks ↔
      (Silent head → ∀ tail, HeadCompleted head chunks tail → declaredLength tail ≤ tail.length) := by
  have announced : ∀ length body, Announces head length → body.length = length → chunks.flatten = head ++ headerEnd ++ body →
      Returns chunks := by
    rintro length body announces rfl whole
    refine announced_returns isHead nonempty announces ?_ whole
    rw [whole, List.length_append] at fits
    omega
  have silent : ∀ tail, Silent head → HeadCompleted head chunks tail → (Returns chunks ↔ declaredLength tail ≤ tail.length) := by
    intro tail silent completed
    refine silent_returns_iff isHead nonempty silent ?_ completed
    obtain ⟨-, -, -, whole, -⟩ := completed
    rw [whole, List.length_append] at fits
    omega
  constructor
  · intro reassembled none tail completed
    exact (silent tail none completed).mp (reassembled.2 none tail completed)
  · intro condition
    exact ⟨announced, fun none tail completed => (silent tail none completed).mpr (condition none tail completed)⟩

/-- A save in two segments, with the blank line cut. -/
theorem cut_save_reassembled :
    Reassembled (bytes "POST /api/config HTTP/1.1\r\nContent-Length: 2")
      [bytes "POST /api/config HTTP/1.1\r\nContent-Length: 2\r\n\r", bytes "\n\x7b", bytes "\x7d"] := by
  refine (request_reassembled_iff (by unfold IsHead; decide +kernel) (by decide +kernel) (by decide +kernel)).mpr fun silent => ?_
  exact absurd rfl (silent (bytes "POST /api/config HTTP/1.1\r\n") (bytes " 2"))

def statusHead : Bytes := bytes "GET /api/status HTTP/1.1"

/-- The next request behind it, of which the body is to come. -/
def statusChunk : Bytes := bytes "GET /api/status HTTP/1.1\r\n\r\nPOST /api/config HTTP/1.1\r\nContent-Length: 99\r\n\r\n\x7b"

theorem status_not_reassembled : IsHead statusHead ∧ Silent statusHead ∧ ¬ Reassembled statusHead [statusChunk] := by
  have silent : Silent statusHead := by
    intro other later same
    have inside : lengthHeader <:+: statusHead := ⟨other, later, same.symm⟩
    exact absurd inside (by decide +kernel)
  refine ⟨by unfold IsHead; decide +kernel, silent, fun reassembled => ?_⟩
  have returns := reassembled.2 silent (bytes "POST /api/config HTTP/1.1\r\nContent-Length: 99\r\n\r\n\x7b")
    ⟨[], statusChunk, rfl, by decide +kernel, by decide +kernel⟩ [[0]]
  revert returns
  decide +kernel

end ApiServer
end WhRepeater
