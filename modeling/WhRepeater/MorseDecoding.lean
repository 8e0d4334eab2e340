import WhRepeater.FallbackMuxer
import WhRepeater.RunLengths

/-! What a listener makes of the tones of `morseToneUnits`. -/
namespace WhRepeater

open RunLengths

/-! ## The listener -/

/-- The character with these dots and dashes. -/
def morseCharacter (symbols : Bytes) : Option UInt8 :=
  (morseTable.find? fun entry => bytes entry.2 = symbols).map fun entry => code entry.1

/-- Reads marks and gaps by their lengths, with the symbols of the character it is
in. A gap at the end says nothing. -/
def readRuns : List (Bool × Nat) → Bytes → Option Bytes
  | [], symbols => if symbols = [] then some [] else (morseCharacter symbols).map fun ch => [ch]
  | (true, length) :: rest, symbols =>
    if length = 1 then readRuns rest (symbols ++ [code '.'])
    else if length = 3 then readRuns rest (symbols ++ [code '-'])
    else none
  | (false, length) :: rest, symbols =>
    if rest = [] ∨ length = 1 then readRuns rest symbols
    else if length = 3 then do return (← morseCharacter symbols) :: (← readRuns rest [])
    else if 7 ≤ length then do return (← morseCharacter symbols) :: code ' ' :: (← readRuns rest [])
    else none

def decodeMorse (units : List Bool) : Option Bytes := readRuns (runs units) []

/-! ## The text -/

def words (text : Bytes) : List Bytes := (text.splitOnP isSpace).filter (· ≠ [])

def isKeyed (ch : UInt8) : Bool := isSpace ch || morseFor ch ≠ []

/-- The text in upper case, without the characters that have no Morse code, and with
one space between its words. -/
def keyedText (text : Bytes) : Bytes :=
  ([code ' '].intercalate (words (text.filter isKeyed))).map upper

/-- The same as it is keyed: what follows a character, where `spaced` says that a
space has come since. -/
def keyedAfter : Bool → Bytes → Bytes
  | _, [] => []
  | spaced, ch :: rest =>
    if isSpace ch then keyedAfter true rest
    else if morseFor ch = [] then keyedAfter spaced rest
    else (if spaced then [code ' '] else []) ++ upper ch :: keyedAfter false rest

/-- What is keyed after the first character, if there is one. -/
def keyedFrom : Bytes → Bytes
  | [] => []
  | ch :: rest =>
    if isSpace ch then keyedFrom rest
    else if morseFor ch = [] then keyedFrom rest
    else upper ch :: keyedAfter false rest

/-! ## The table -/

theorem morseCharacter_table : ∀ entry ∈ morseTable, morseCharacter (bytes entry.2) = some (code entry.1) := by
  decide +kernel

theorem morseTable_symbols : ∀ entry ∈ morseTable, ∀ symbol ∈ bytes entry.2, symbol = code '.' ∨ symbol = code '-' := by
  decide +kernel

theorem morseFor_cases (ch : UInt8) :
    morseFor ch = [] ∨ ∃ entry ∈ morseTable, morseFor ch = bytes entry.2 ∧ code entry.1 = upper ch := by
  unfold morseFor
  cases found : morseTable.find? fun entry => code entry.1 = upper ch with
  | none => exact .inl rfl
  | some entry => exact .inr ⟨entry, List.mem_of_find?_eq_some found, rfl, by simpa using List.find?_some found⟩

/-- The table gives every character symbols of its own. -/
theorem morseCharacter_morseFor {ch : UInt8} (keyed : morseFor ch ≠ []) : morseCharacter (morseFor ch) = some (upper ch) := by
  obtain ⟨entry, among, same, letter⟩ := (morseFor_cases ch).resolve_left keyed
  rw [same, morseCharacter_table entry among, letter]

theorem morseFor_symbols {ch symbol : UInt8} (among : symbol ∈ morseFor ch) : symbol = code '.' ∨ symbol = code '-' := by
  rcases morseFor_cases ch with none_there | ⟨entry, listed, same, -⟩
  · rw [none_there] at among
    cases among
  · rw [same] at among
    exact morseTable_symbols entry listed symbol among

/-! ## One character -/

theorem head_replicate_append {length : Nat} (positive : 0 < length) (rest : List Bool) (unit : Bool) :
    (List.replicate length unit ++ rest).head? = some unit := by
  cases length with
  | zero => omega
  | succ length => rfl

theorem morseSymbols_cons (symbol next : UInt8) (later : Bytes) :
    morseSymbols (symbol :: next :: later) =
      List.replicate (if symbol = code '-' then 3 else 1) true ++ false :: morseSymbols (next :: later) := rfl

theorem head_morseSymbols {symbols : Bytes} (some_there : symbols ≠ []) (rest : List Bool) :
    (morseSymbols symbols ++ rest).head? = some true := by
  match symbols with
  | [last] =>
    rw [morseSymbols]
    exact head_replicate_append (by split <;> omega) rest true
  | symbol :: next :: later =>
    rw [morseSymbols_cons, List.append_assoc]
    exact head_replicate_append (by split <;> omega) _ true

/-- A mark is read as the symbol it was made of. -/
theorem readRuns_mark {symbol : UInt8} (known : symbol = code '.' ∨ symbol = code '-') {rest : List Bool}
    (gap : rest.head? ≠ some true) (symbols : Bytes) :
    readRuns (runs (List.replicate (if symbol = code '-' then 3 else 1) true ++ rest)) symbols =
      readRuns (runs rest) (symbols ++ [symbol]) := by
  rw [runs_replicate_append gap (by split <;> omega)]
  rcases known with rfl | rfl <;> rfl

theorem readRuns_character {symbols : Bytes} (some_there : symbols ≠ [])
    (known : ∀ symbol ∈ symbols, symbol = code '.' ∨ symbol = code '-') {rest : List Bool}
    (gap : rest.head? ≠ some true) (before : Bytes) :
    readRuns (runs (morseSymbols symbols ++ rest)) before = readRuns (runs rest) (before ++ symbols) := by
  induction symbols generalizing before with
  | nil => exact absurd rfl some_there
  | cons symbol later ih =>
    have here := known symbol (List.mem_cons_self ..)
    cases later with
    | nil =>
      rw [morseSymbols]
      exact readRuns_mark here gap before
    | cons next later =>
      have mark := head_morseSymbols (List.cons_ne_nil next later) rest
      rw [morseSymbols_cons, List.append_assoc, List.cons_append, readRuns_mark here (by simp),
        runs_cons_of_ne (by rw [mark]; simp), readRuns, if_pos (.inr rfl),
        ih (by simp) fun symbol among => known symbol (List.mem_cons_of_mem _ among)]
      simp

/-! ## The text -/

/-- The units that the loop appends, once it has had a symbol or before. -/
def morseTail : Bool → Bytes → List Bool
  | _, [] => []
  | hadSymbol, ch :: rest =>
    if isSpace ch then (if hadSymbol then List.replicate 4 false else []) ++ morseTail hadSymbol rest
    else if morseFor ch = [] then morseTail hadSymbol rest
    else (if hadSymbol then List.replicate 3 false else []) ++ (morseSymbols (morseFor ch) ++ morseTail true rest)

/-- There are units exactly after a symbol. -/
theorem morseTextUnits_eq (text : Bytes) {units : List Bool} {hadSymbol : Bool} (had : hadSymbol = !units.isEmpty) :
    morseTextUnits text units hadSymbol = units ++ morseTail hadSymbol text := by
  induction text generalizing units hadSymbol with
  | nil => simp [morseTextUnits, morseTail]
  | cons ch rest ih =>
    rw [morseTextUnits, morseTail]
    split
    · rw [ih]
      · subst had
        cases units <;> simp
      · subst had
        cases units <;> simp
    · dsimp only
      cases keyed : morseFor ch with
      | nil => simpa using ih had
      | cons symbol later =>
        have mark := head_morseSymbols (List.cons_ne_nil symbol later) []
        rw [List.append_nil] at mark
        simp only [List.isEmpty_cons, Bool.false_eq_true, if_false, reduceCtorEq]
        rw [ih, List.append_assoc, List.append_assoc]
        cases symbols : morseSymbols (symbol :: later) with
        | nil => simp [symbols] at mark
        | cons => simp

/-- What comes after a character begins with a gap. -/
theorem gap_after (text : Bytes) : (morseTail true text ++ List.replicate 7 false).head? = some false := by
  induction text with
  | nil => rfl
  | cons ch rest ih =>
    rw [morseTail]
    split
    · rfl
    · split
      · exact ih
      · rfl

/-- The gaps of the spaces since the last character add up, and with the one before
the next character they come to a gap between words. -/
theorem readRuns_after {ch : UInt8} {symbols : Bytes} (read : morseCharacter symbols = some ch) (text : Bytes) (spaces : Nat) :
    readRuns (runs (List.replicate (4 * spaces) false ++ (morseTail true text ++ List.replicate 7 false))) symbols =
      some (ch :: keyedAfter (0 < spaces) text) := by
  induction text generalizing ch symbols spaces with
  | nil =>
    have some_there : symbols ≠ [] := by
      rintro rfl
      cases (by decide +kernel : morseCharacter [] = none).symm.trans read
    have silence : runs (List.replicate (4 * spaces + 7) false) = [(false, 4 * spaces + 7)] := by
      have nothing : ([] : List Bool).head? ≠ some false := by simp
      simpa [runs] using runs_replicate_append nothing (by omega : 0 < 4 * spaces + 7)
    rw [morseTail, List.nil_append, ← List.replicate_add, silence, readRuns, if_pos (.inl rfl), readRuns, if_neg some_there, read]
    rfl
  | cons next rest ih =>
    rw [morseTail, keyedAfter]
    split
    · have longer := ih read (spaces + 1)
      rw [Nat.mul_succ, List.replicate_add, List.append_assoc] at longer
      simpa using longer
    · split
      · exact ih read spaces
      · rename_i keyed
        have after := ih (morseCharacter_morseFor keyed) 0
        rw [Nat.mul_zero, List.replicate_zero, List.nil_append] at after
        have mark := head_morseSymbols keyed (morseTail true rest ++ List.replicate 7 false)
        have quiet : (morseTail true rest ++ List.replicate 7 false).head? ≠ some true := by
          rw [gap_after rest]
          simp
        have mark_read := readRuns_character keyed (fun symbol => morseFor_symbols) quiet []
        have gap : runs (List.replicate (4 * spaces) false ++ (List.replicate 3 false ++
            (morseSymbols (morseFor next) ++ (morseTail true rest ++ List.replicate 7 false)))) =
            (false, 4 * spaces + 3) :: runs (morseSymbols (morseFor next) ++ (morseTail true rest ++ List.replicate 7 false)) := by
          rw [← List.append_assoc, ← List.replicate_add, runs_replicate_append (by rw [mark]; simp) (by omega)]
        rw [if_pos rfl, List.append_assoc, List.append_assoc, gap, readRuns, if_neg (by simp), read, mark_read,
          List.nil_append, after]
        rcases Nat.eq_zero_or_pos spaces with rfl | positive
        · rfl
        · rw [if_neg (by omega), if_pos (by omega)]
          simp [positive]

/-- Before the first character nothing is appended for a space. -/
theorem readRuns_from (text : Bytes) :
    readRuns (runs (morseTail false text ++ List.replicate 7 false)) [] = some (keyedFrom text) := by
  induction text with
  | nil => rfl
  | cons ch rest ih =>
    rw [morseTail, keyedFrom]
    split
    · exact ih
    · split
      · exact ih
      · rename_i keyed
        have after := readRuns_after (morseCharacter_morseFor keyed) rest 0
        rw [Nat.mul_zero, List.replicate_zero, List.nil_append] at after
        rw [if_neg Bool.false_ne_true, List.nil_append, List.append_assoc,
          readRuns_character keyed (fun symbol => morseFor_symbols) (by rw [gap_after rest]; simp), List.nil_append, after]
        rfl

/-! ## The words -/

theorem intercalate_eq_flatMap (separator : UInt8) (word : Bytes) (later : List Bytes) :
    [separator].intercalate (word :: later) = word ++ later.flatMap (separator :: ·) := by
  induction later generalizing word with
  | nil => simp
  | cons next later ih =>
    rw [List.intercalate_cons_cons, ih]
    simp

/-- A word that is begun, and the words after it. -/
theorem keyedAfter_words (text : Bytes) :
    keyedAfter true text =
        ((words (text.filter isKeyed)).flatMap (code ' ' :: ·)).map upper ∧
      ∀ begun later, (text.filter isKeyed).splitOnP isSpace = begun :: later →
        keyedAfter false text = (begun ++ (later.filter (· ≠ [])).flatMap (code ' ' :: ·)).map upper := by
  induction text with
  | nil =>
    refine ⟨rfl, fun begun later split => ?_⟩
    cases split
    rfl
  | cons ch rest ih =>
    obtain ⟨apart, along⟩ := ih
    obtain ⟨first, others, split_rest⟩ := List.exists_cons_of_ne_nil
      (List.splitOnP_ne_nil isSpace (rest.filter isKeyed))
    rw [keyedAfter, keyedAfter]
    by_cases space : isSpace ch = true
    · rw [if_pos space, if_pos space, List.filter_cons_of_pos (by simp [isKeyed, space])]
      have split := List.splitOnP_cons_eq_if_modifyHead (p := isSpace) ch (rest.filter isKeyed)
      rw [if_pos space] at split
      have same : words (ch :: rest.filter isKeyed) = words (rest.filter isKeyed) := by
        simp [words, split]
      refine ⟨by rw [same, apart], fun begun later found => ?_⟩
      cases split.symm.trans found
      exact apart
    · rw [if_neg space, if_neg space]
      by_cases keyed : morseFor ch = []
      · rw [if_pos keyed, if_pos keyed, List.filter_cons_of_neg (by simp [isKeyed, space, keyed])]
        exact ⟨apart, along⟩
      · rw [if_neg keyed, if_neg keyed, List.filter_cons_of_pos (by simp [isKeyed, keyed])]
        have split := List.splitOnP_cons_eq_if_modifyHead (p := isSpace) ch (rest.filter isKeyed)
        rw [if_neg space, split_rest, List.modifyHead_cons] at split
        have same : words (ch :: rest.filter isKeyed) = (ch :: first) :: others.filter (· ≠ []) := by
          rw [words, split]
          rfl
        rw [along first others split_rest]
        refine ⟨?_, fun begun later found => ?_⟩
        · rw [same]
          rfl
        · cases split.symm.trans found
          rfl

theorem keyedFrom_eq (text : Bytes) : keyedFrom text = keyedText text := by
  rw [keyedText]
  induction text with
  | nil => rfl
  | cons ch rest ih =>
    rw [keyedFrom]
    by_cases space : isSpace ch = true
    · have split := List.splitOnP_cons_eq_if_modifyHead (p := isSpace) ch (rest.filter isKeyed)
      rw [if_pos space] at split
      rw [if_pos space, List.filter_cons_of_pos (by simp [isKeyed, space]), words, split]
      exact ih
    · rw [if_neg space]
      by_cases keyed : morseFor ch = []
      · rw [if_pos keyed, List.filter_cons_of_neg (by simp [isKeyed, space, keyed])]
        exact ih
      · obtain ⟨first, others, split_rest⟩ := List.exists_cons_of_ne_nil
          (List.splitOnP_ne_nil isSpace (rest.filter isKeyed))
        have split := List.splitOnP_cons_eq_if_modifyHead (p := isSpace) ch (rest.filter isKeyed)
        rw [if_neg space, split_rest, List.modifyHead_cons] at split
        rw [if_neg keyed, List.filter_cons_of_pos (by simp [isKeyed, keyed]), words, split,
          (keyedAfter_words rest).2 first others split_rest, List.filter_cons_of_pos (by simp), intercalate_eq_flatMap]
        rfl

/-- Whatever the text is, a listener who goes by the lengths of marks and gaps reads
it back. -/
theorem morse_decodes (text : Bytes) : decodeMorse (morseToneUnits text) = some (keyedText text) := by
  rw [decodeMorse, morseToneUnits, @morseTextUnits_eq text [] false rfl, List.nil_append, readRuns_from, keyedFrom_eq]

example : decodeMorse (morseToneUnits (bytes " gb3 ! \tgv,k ")) = some (bytes "GB3 GVK") := by decide +kernel

end WhRepeater
