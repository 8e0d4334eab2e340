import WhRepeater.JsonText

/-! Texts searched by hand (`daemon.cpp`, `api_server.cpp`): the searches and
substrings of `std::string_view`, of which a substring throws past the end, and
the members of a JSON object, found by the first occurrence of the quoted name and
taken up to a closing bracket, a closing quote, or a comma. Both files have the
same `jsonMember`. -/
namespace WhRepeater.TextScan

/-- Where the pattern first occurs. -/
def indexOf (pattern : Bytes) : Bytes → Option Nat
  | [] => if pattern = [] then some 0 else none
  | ch :: text => if pattern.isPrefixOf (ch :: text) then some 0 else (indexOf pattern text).map (· + 1)

/-- `find` from a position on, with `none` for `npos`. -/
def find (text pattern : Bytes) (start : Nat) : Option Nat :=
  if text.length < start then none else (indexOf pattern (text.drop start)).map (start + ·)

/-- `rfind` of a character, at the position or before it. -/
def rfind (text : Bytes) (ch : UInt8) (position : Nat) : Option Nat :=
  (indexOf [ch] (text.take (position + 1)).reverse).map fun back => (text.take (position + 1)).length - 1 - back

def substr (text : Bytes) (start count : Nat) : Except String Bytes :=
  if text.length < start then throw "basic_string_view::substr" else return (text.drop start).take count

/-- `substr` up to the end. -/
def substrFrom (text : Bytes) (start : Nat) : Except String Bytes :=
  if text.length < start then throw "basic_string_view::substr" else return text.drop start

/-- How far it is to behind the closing bracket, brackets in strings aside. -/
def enclosed (opening closing : UInt8) (depth : Int) (inString escaped : Bool) : Bytes → Option Nat
  | [] => none
  | ch :: text =>
    if inString then
      if escaped then (enclosed opening closing depth true false text).map (· + 1)
      else if ch = code '\\' then (enclosed opening closing depth true true text).map (· + 1)
      else if ch = code '"' then (enclosed opening closing depth false false text).map (· + 1)
      else (enclosed opening closing depth true false text).map (· + 1)
    else if ch = code '"' then (enclosed opening closing depth true escaped text).map (· + 1)
    else if ch = opening then (enclosed opening closing (depth + 1) false escaped text).map (· + 1)
    else if ch = closing then
      if depth - 1 = 0 then some 1 else (enclosed opening closing (depth - 1) false escaped text).map (· + 1)
    else (enclosed opening closing depth false escaped text).map (· + 1)

theorem pos_of_further {last : Option Nat} {count : Nat} (reached : last.map (· + 1) = some count) : 0 < count := by
  obtain ⟨_, -, rfl⟩ := Option.map_eq_some_iff.mp reached
  exact Nat.succ_pos _

theorem enclosed_pos {opening closing : UInt8} {depth : Int} {inString escaped : Bool} {text : Bytes} {count : Nat}
    (closed : enclosed opening closing depth inString escaped text = some count) : 0 < count := by
  cases text with
  | nil => cases closed
  | cons ch text =>
    unfold enclosed at closed
    repeat' split at closed
    all_goals first
      | exact pos_of_further closed
      | (cases closed; exact Nat.one_pos)

/-- How far it is to behind the closing quote. -/
def stringEnd (escaped : Bool) : Bytes → Option Nat
  | [] => none
  | ch :: text =>
    if escaped then (stringEnd false text).map (· + 1)
    else if ch = code '\\' then (stringEnd true text).map (· + 1)
    else if ch = code '"' then some 1
    else (stringEnd false text).map (· + 1)

/-- How many bytes the value has that the text begins with. -/
def valueLength (text : Bytes) : Option Nat :=
  match text with
  | [] => none
  | opening :: rest =>
    if opening = code '{' ∨ opening = code '[' then
      enclosed opening (if opening = code '{' then code '}' else code ']') 0 false false (opening :: rest)
    else if opening = code '"' then (stringEnd false rest).map (· + 1)
    else
      let value := (opening :: rest).takeWhile fun ch => ch ≠ code ',' && ch ≠ code '}'
      some (value.reverse.dropWhile isSpace).length

def jsonMember (object name : Bytes) : Except String (Option Bytes) :=
  let key := code '"' :: name ++ [code '"']
  match find object key 0 with
  | none => return none
  | some keyPos =>
    match find object [code ':'] (keyPos + key.length) with
    | none => return none
    | some colon =>
      let start := colon + 1 + ((object.drop (colon + 1)).takeWhile isSpace).length
      match valueLength (object.drop start) with
      | none => return none
      | some count => return some (← substr object start count)

/-! ## Searches -/

variable {pattern text front rest : Bytes} {ch : UInt8} {start count position : Nat}

theorem indexOf_cons (pattern : Bytes) (ch : UInt8) (text : Bytes) :
    indexOf pattern (ch :: text) =
      if pattern.isPrefixOf (ch :: text) then some 0 else (indexOf pattern text).map (· + 1) := rfl

/-- What is found is there, and nothing before it. -/
theorem indexOf_split (found : indexOf pattern text = some position) :
    ∃ front behind, text = front ++ pattern ++ behind ∧ front.length = position := by
  induction text generalizing position with
  | nil =>
    simp only [indexOf] at found
    split at found
    · rename_i empty
      cases found
      exact ⟨[], [], by rw [empty]; rfl, rfl⟩
    · cases found
  | cons ch text ih =>
    rw [indexOf_cons] at found
    split at found
    · rename_i there
      cases found
      obtain ⟨behind, split⟩ := List.isPrefixOf_iff_prefix.mp there
      exact ⟨[], behind, split.symm, rfl⟩
    · obtain ⟨position, later, rfl⟩ := Option.map_eq_some_iff.mp found
      obtain ⟨front, behind, rfl, length⟩ := ih later
      exact ⟨ch :: front, behind, rfl, by rw [List.length_cons, length]⟩

theorem find_zero (text pattern : Bytes) : find text pattern 0 = indexOf pattern text := by
  simp [find, Option.map_id']

/-- What is found stays the first with more behind it. -/
theorem indexOf_append (found : indexOf pattern text = some position) (more : Bytes) :
    indexOf pattern (text ++ more) = some position := by
  induction text generalizing position with
  | nil =>
    simp only [indexOf] at found
    split at found
    · rename_i empty
      cases found
      cases more <;> simp [indexOf, empty]
    · cases found
  | cons ch text ih =>
    rw [List.cons_append, indexOf_cons]
    rw [indexOf_cons] at found
    split at found
    · rename_i there
      have longer : pattern.isPrefixOf (ch :: (text ++ more)) = true :=
        List.isPrefixOf_iff_prefix.mpr ((List.isPrefixOf_iff_prefix.mp there).trans (List.prefix_append (ch :: text) more))
      rw [if_pos longer]
      exact found
    · rename_i absent
      obtain ⟨later, there, rfl⟩ := Option.map_eq_some_iff.mp found
      have within : pattern.length ≤ text.length := by
        obtain ⟨front, behind, split, -⟩ := indexOf_split there
        rw [split]
        simp only [List.length_append]
        omega
      have none : ¬ pattern.isPrefixOf (ch :: (text ++ more)) = true := by
        intro longer
        refine absent (List.isPrefixOf_iff_prefix.mpr ?_)
        exact List.prefix_of_prefix_length_le (List.isPrefixOf_iff_prefix.mp longer) (List.prefix_append (ch :: text) more)
          (Nat.le_succ_of_le within)
      rw [if_neg none, ih there]
      rfl

theorem indexOf_there (front pattern rest : Bytes) : ∃ position, indexOf pattern (front ++ pattern ++ rest) = some position := by
  induction front with
  | nil =>
    cases whole : pattern ++ rest with
    | nil =>
      obtain ⟨rfl, rfl⟩ := List.append_eq_nil_iff.mp whole
      exact ⟨0, rfl⟩
    | cons ch text =>
      have there : pattern.isPrefixOf (ch :: text) = true := List.isPrefixOf_iff_prefix.mpr ⟨rest, whole⟩
      exact ⟨0, by rw [List.nil_append, whole, indexOf_cons, if_pos there]⟩
  | cons ch front ih =>
    obtain ⟨position, found⟩ := ih
    rw [List.cons_append, List.cons_append, indexOf_cons]
    split
    · exact ⟨0, rfl⟩
    · exact ⟨position + 1, by rw [found]; rfl⟩

/-- A text without the first character of the pattern is passed. -/
theorem indexOf_passes (absent : ch ∉ text) (pattern rest : Bytes) :
    indexOf (ch :: pattern) (text ++ rest) = (indexOf (ch :: pattern) rest).map (· + text.length) := by
  induction text with
  | nil => simp
  | cons next text ih =>
    have other : ch ≠ next := List.ne_of_not_mem_cons absent
    rw [List.cons_append, indexOf_cons, if_neg (by simp [List.isPrefixOf, other]), ih (List.not_mem_of_not_mem_cons absent),
      Option.map_map]
    rfl

theorem find_bounds (found : find text pattern start = some position) :
    start ≤ position ∧ position + pattern.length ≤ text.length := by
  unfold find at found
  split at found
  · cases found
  · rename_i within
    obtain ⟨offset, there, rfl⟩ := Option.map_eq_some_iff.mp found
    obtain ⟨front, behind, split, length⟩ := indexOf_split there
    have lengths := congrArg List.length split
    simp only [List.length_drop, List.length_append] at lengths
    omega

/-- The first separator is the one that is looked for. -/
theorem find_separator (absent : ch ∉ text) :
    find (front ++ (text ++ ch :: rest)) [ch] front.length = some (front.length + text.length) := by
  have first : indexOf [ch] (ch :: rest) = some 0 := by simp [indexOf_cons, List.isPrefixOf]
  rw [find, if_neg (by simp), List.drop_left, indexOf_passes absent, first, Option.map_some, Option.map_some, Nat.zero_add,
    Nat.add_comm]

theorem find_absent (absent : ch ∉ text) : find (front ++ text) [ch] front.length = none := by
  have never := indexOf_passes absent [] []
  rw [List.append_nil] at never
  rw [find, if_neg (by simp), List.drop_left, never]
  rfl

theorem substr_ok (within : start ≤ text.length) (count : Nat) :
    substr text start count = .ok ((text.drop start).take count) := by
  rw [substr, if_neg (by omega)]
  rfl

theorem substrFrom_ok (within : start ≤ text.length) : substrFrom text start = .ok (text.drop start) := by
  rw [substrFrom, if_neg (by omega)]
  rfl

/-- What is behind the first occurrence. -/
def behind (pattern text : Bytes) : Option Bytes :=
  (indexOf pattern text).map fun position => text.drop (position + pattern.length)

/-- The value the text begins with, behind white space. -/
def valueOf (text : Bytes) : Option Bytes :=
  (valueLength (text.dropWhile isSpace)).map fun count => (text.dropWhile isSpace).take count

theorem not_mem_digits {digits : Bytes} (all : digits.all isDigit = true) (other : isDigit ch = false) : ch ∉ digits := by
  intro among
  have digit := List.all_eq_true.mp all ch among
  rw [other] at digit
  cases digit

theorem drop_takeWhile (keep : UInt8 → Bool) (text : Bytes) :
    text.drop (text.takeWhile keep).length = text.dropWhile keep := by
  have whole := congrArg (List.drop (text.takeWhile keep).length) (@List.takeWhile_append_dropWhile _ keep text)
  rw [List.drop_left] at whole
  exact whole.symm

theorem behind_eq_some {found : Bytes} (there : behind pattern text = some found) :
    ∃ position, indexOf pattern text = some position ∧ position + pattern.length ≤ text.length ∧
      found = text.drop (position + pattern.length) := by
  obtain ⟨position, index, rfl⟩ := Option.map_eq_some_iff.mp there
  obtain ⟨front, later, split, length⟩ := indexOf_split index
  have lengths := congrArg List.length split
  simp only [List.length_append] at lengths
  exact ⟨position, index, by omega, rfl⟩

theorem behind_front (some : pattern ≠ []) (rest : Bytes) : behind pattern (pattern ++ rest) = Option.some rest := by
  obtain ⟨ch, pattern, rfl⟩ := List.exists_cons_of_ne_nil some
  have there : (ch :: pattern).isPrefixOf (ch :: (pattern ++ rest)) = true :=
    List.isPrefixOf_iff_prefix.mpr ⟨rest, rfl⟩
  rw [behind, List.cons_append, indexOf_cons, if_pos there, Option.map_some, Nat.zero_add, ← List.cons_append,
    List.drop_left]

theorem behind_cons (absent : ¬ pattern <+: ch :: text) : behind pattern (ch :: text) = behind pattern text := by
  have never : ¬ pattern.isPrefixOf (ch :: text) = true := fun there => absent (List.isPrefixOf_iff_prefix.mp there)
  rw [behind, indexOf_cons, if_neg never, Option.map_map, behind]
  cases indexOf pattern text with
  | none => rfl
  | some position => simp [Nat.add_right_comm]

/-- A search passes a text without the first character of the pattern. -/
theorem behind_passes (absent : ch ∉ text) (pattern rest : Bytes) :
    behind (ch :: pattern) (text ++ rest) = behind (ch :: pattern) rest := by
  induction text with
  | nil => rfl
  | cons next text ih =>
    have other : ¬ ch :: pattern <+: next :: (text ++ rest) := fun there =>
      List.ne_of_not_mem_cons absent (List.cons_prefix_cons.mp there).1
    rw [List.cons_append, behind_cons other, ih (List.not_mem_of_not_mem_cons absent)]

/-- A search passes a character that the pattern does not have. -/
theorem behind_separator (some : pattern ≠ []) (foreign : ch ∉ pattern) (absent : ∀ other later, text ≠ other ++ pattern ++ later)
    (rest : Bytes) : behind pattern (text ++ ch :: rest) = behind pattern rest := by
  induction text with
  | nil =>
    refine behind_cons fun there => ?_
    obtain ⟨first, pattern, rfl⟩ := List.exists_cons_of_ne_nil some
    exact foreign ((List.cons_prefix_cons.mp there).1 ▸ List.mem_cons_self)
  | cons next text ih =>
    rw [List.cons_append, behind_cons, ih fun other later same => absent (next :: other) later (by rw [same]; rfl)]
    intro there
    by_cases short : pattern.length ≤ text.length + 1
    · obtain ⟨later, split⟩ := List.prefix_of_prefix_length_le there (List.prefix_append (next :: text) (ch :: rest)) short
      exact absent [] later split.symm
    · have longer : next :: text ++ [ch] <+: next :: (text ++ ch :: rest) := ⟨rest, by simp⟩
      have inside := List.prefix_of_prefix_length_le longer there (by simp; omega)
      exact foreign (inside.subset (by simp))

/-- A search ends at the first occurrence. -/
theorem behind_first (some : pattern ≠ []) (first : ∀ other later, front ++ pattern = other ++ pattern ++ later → other = front)
    (rest : Bytes) : behind pattern (front ++ pattern ++ rest) = Option.some rest := by
  induction front with
  | nil => exact behind_front some rest
  | cons next front ih =>
    rw [List.cons_append, List.cons_append, behind_cons, ih]
    · intro other later same
      have earlier := first (next :: other) later (by simp only [List.cons_append, same])
      exact (List.cons.inj earlier).2
    · intro there
      have short : pattern.length ≤ (next :: front ++ pattern).length := by
        simp only [List.length_append]
        omega
      obtain ⟨later, split⟩ := List.prefix_of_prefix_length_le there (List.prefix_append (next :: front ++ pattern) rest) short
      cases first [] later split.symm

/-- A member is what is behind the first colon behind the name, and none of its
substrings throws. -/
theorem jsonMember_eq (object name : Bytes) :
    jsonMember object name =
      .ok (((behind (code '"' :: name ++ [code '"']) object).bind (behind [code ':'])).bind valueOf) := by
  unfold jsonMember
  generalize code '"' :: name ++ [code '"'] = key
  have whole := find_zero object key
  simp only [whole]
  cases found : behind key object with
  | none =>
    have absent : indexOf key object = none := Option.map_eq_none_iff.mp found
    rw [absent]
    rfl
  | some later =>
    obtain ⟨keyPos, index, within, rfl⟩ := behind_eq_some found
    simp only [index, find, if_neg (Nat.not_lt.mpr within), Option.bind_some]
    cases colon : behind [code ':'] (object.drop (keyPos + key.length)) with
    | none =>
      have absent : indexOf [code ':'] (object.drop (keyPos + key.length)) = none := Option.map_eq_none_iff.mp colon
      rw [absent]
      rfl
    | some value =>
      obtain ⟨offset, index, inside, rfl⟩ := behind_eq_some colon
      have same : (object.drop (keyPos + key.length)).drop (offset + [code ':'].length) =
          object.drop (keyPos + key.length + offset + 1) := by
        rw [List.drop_drop, List.length_singleton, ← Nat.add_assoc]
      have blank : object.drop (keyPos + key.length + offset + 1 +
          ((object.drop (keyPos + key.length + offset + 1)).takeWhile isSpace).length) =
            (object.drop (keyPos + key.length + offset + 1)).dropWhile isSpace := by
        rw [← List.drop_drop, drop_takeWhile]
      simp only [index, Option.map_some, Option.bind_some, valueOf, same, blank]
      cases value : valueLength ((object.drop (keyPos + key.length + offset + 1)).dropWhile isSpace) with
      | none => rfl
      | some count =>
        have short : keyPos + key.length + offset + 1 +
            ((object.drop (keyPos + key.length + offset + 1)).takeWhile isSpace).length ≤ object.length := by
          by_contra past
          rw [← blank, List.drop_eq_nil_of_le (by omega)] at value
          cases value
        simp only [substr_ok short, blank, Option.map_some]
        rfl

/-! ## What does not throw -/

def Completes (outcome : Except String α) : Prop := ∃ value, outcome = .ok value

theorem completes_pure (value : α) : Completes (pure value : Except String α) := ⟨value, rfl⟩

theorem completes_bind {first : Except String α} {next : α → Except String γ} (completes : Completes first)
    (later : ∀ value, Completes (next value)) : Completes (first >>= next) := by
  obtain ⟨value, rfl⟩ := completes
  exact later value

theorem completes_jsonMember (object name : Bytes) : Completes (jsonMember object name) := ⟨_, jsonMember_eq object name⟩

theorem completes_substr (within : start ≤ text.length) (count : Nat) : Completes (substr text start count) :=
  ⟨_, substr_ok within count⟩

theorem completes_substrFrom (within : start ≤ text.length) : Completes (substrFrom text start) :=
  ⟨_, substrFrom_ok within⟩

end WhRepeater.TextScan
