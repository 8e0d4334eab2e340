import WhRepeater.Types
import WhRepeater.Binary64

/-! The JSON reader of the configuration (`config.cpp`). Values nest, so the
recursion carries fuel; `none` is a parse that has not finished, and twice the
length of the input is always enough. Numbers are the doubles `std::stod` gives. -/
namespace WhRepeater

/-- Of two members with one name an object keeps the first. -/
inductive Json where
  | null
  | boolean (value : Bool)
  | number (value : Rat)
  | string (value : Bytes)
  | array (items : List Json)
  | object (members : List (Bytes × Json))

/-- What is left of the input; an error carries its `what()`. -/
abbrev JsonParser := StateT Bytes (ExceptT String Option)

def code (ch : Char) : UInt8 := ch.toUInt8

/-- `std::isspace` and `std::isdigit` of the C locale. -/
def isSpace (byte : UInt8) : Bool := byte == 32 || (9 ≤ byte && byte ≤ 13)

def isDigit (byte : UInt8) : Bool := 48 ≤ byte && byte ≤ 57

/-- The number the digits write. -/
def digitsValue (digits : Bytes) : Nat :=
  digits.foldl (fun value digit => 10 * value + (digit.toNat - 48)) 0

/-- `std::stod` of the parts of a number. A point alone is no number; too large
a number, and a subnormal one that is not exact, are out of range. -/
def stod (negative : Bool) (whole fraction : Bytes) : Except String Rat :=
  let written : Rat := digitsValue (whole ++ fraction) / 10 ^ fraction.length
  let value := Binary64.round (if negative then -written else written)
  if whole = [] ∧ fraction = [] then throw "stod"
  else if Binary64.bound ≤ |value| then throw "stod"
  else if written < Binary64.smallestNormal ∧ |value| ≠ written then throw "stod"
  else return value

namespace JsonParser

def unfinished : JsonParser α := fun _ => ExceptT.mk none

def skipSpace : JsonParser Unit := modify fun input => input.dropWhile isSpace

/-- `peek`, and the step over the character that follows where it is there. -/
def accept (ch : Char) : JsonParser Bool :=
  modifyGet fun input => (input.head? = some (code ch), if input.head? = some (code ch) then input.tail else input)

def expect (ch : Char) : JsonParser Unit := do
  skipSpace
  if ← accept ch then return () else throw "unexpected JSON token"

def consumeLiteral (literal : String) : JsonParser Unit := do
  if (← get).take (bytes literal).length = bytes literal then
    modify fun input => input.drop (bytes literal).length
  else throw "invalid JSON literal"

/-- The byte an escape stands for. -/
def unescape (escaped : UInt8) : Option UInt8 :=
  if escaped = code '"' ∨ escaped = code '\\' ∨ escaped = code '/' then some escaped
  else if escaped = code 'b' then some 8
  else if escaped = code 'f' then some 12
  else if escaped = code 'n' then some 10
  else if escaped = code 'r' then some 13
  else if escaped = code 't' then some 9
  else none

/-- The text up to the closing quote, and what is behind it. -/
def stringBody : Bytes → Except String (Bytes × Bytes)
  | [] => throw "unterminated JSON string"
  | ch :: rest =>
    if ch = code '"' then return ([], rest)
    else if ch ≠ code '\\' then (stringBody rest).map fun (text, rest) => (ch :: text, rest)
    else match rest with
      | [] => throw "unterminated JSON escape"
      | escaped :: rest =>
        match unescape escaped with
        | none => throw "unsupported JSON escape"
        | some ch => (stringBody rest).map fun (text, rest) => (ch :: text, rest)

def parseString : JsonParser Bytes := do
  expect '"'
  fun input => ExceptT.mk (some (stringBody input))

def digits : JsonParser Bytes := modifyGet fun input => (input.takeWhile isDigit, input.dropWhile isDigit)

/-- The digits behind the point, where there is one. -/
def fractionDigits (point : Bool) : JsonParser Bytes := if point then digits else pure []

def parseNumber : JsonParser Json := do
  let negative ← accept '-'
  let whole ← digits
  let point ← accept '.'
  let fraction ← fractionDigits point
  if whole = [] ∧ point = false then throw "invalid JSON number"
  else fun input => ExceptT.mk (some ((stod negative whole fraction).map fun value => (.number value, input)))

/-- An array or object from its opening to its closing bracket. -/
def bracketed (opening closing : Char) (contents : JsonParser (List α)) : JsonParser (List α) := do
  expect opening
  skipSpace
  if ← accept closing then return [] else contents

/-- One more item, or the closing bracket. -/
def following (closing : Char) (more : JsonParser (List α)) : JsonParser (List α) := do
  skipSpace
  if ← accept closing then return []
  else do
    expect ','
    more

mutual
def parseValue : (fuel : Nat) → JsonParser Json
  | 0 => unfinished
  | fuel + 1 => do
    skipSpace
    match (← get).head? with
    | none => throw "unexpected end of JSON"
    | some ch =>
      if ch = code 'n' then
        consumeLiteral "null"
        return .null
      else if ch = code 't' then
        consumeLiteral "true"
        return .boolean true
      else if ch = code 'f' then
        consumeLiteral "false"
        return .boolean false
      else if ch = code '"' then return .string (← parseString)
      else if ch = code '[' then return .array (← bracketed '[' ']' (parseElements fuel))
      else if ch = code '{' then return .object (← bracketed '{' '}' (parseMembers fuel))
      else parseNumber

def parseElements : (fuel : Nat) → JsonParser (List Json)
  | 0 => unfinished
  | fuel + 1 => do
    let value ← parseValue fuel
    return value :: (← following ']' (parseElements fuel))

def parseMembers : (fuel : Nat) → JsonParser (List (Bytes × Json))
  | 0 => unfinished
  | fuel + 1 => do
    let key ← parseString
    skipSpace
    expect ':'
    let value ← parseValue fuel
    return (key, value) :: (← following '}' (parseMembers fuel))
end

/-- `JsonParser{text}.parse()`. -/
def parse (text : Bytes) : ExceptT String Option Json := do
  let (value, rest) ← (parseValue (2 * text.length + 1)).run text
  if rest.dropWhile isSpace = [] then return value else throw "unexpected trailing JSON input"

/-! ## How a parse goes -/

variable {parser : JsonParser α} {next : α → JsonParser γ} {input rest last : Bytes} {value : α} {other : γ}
variable {message : String}

/-- The parser takes the value off the input. -/
def Yields (parser : JsonParser α) (input : Bytes) (value : α) (rest : Bytes) : Prop :=
  parser input = some (.ok (value, rest))

def Throws (parser : JsonParser α) (input : Bytes) (message : String) : Prop := parser input = some (.error message)

theorem run_bind (first : Yields parser input value rest) : (parser >>= next) input = next value rest := by
  simp only [Yields] at first
  simp only [Bind.bind, StateT.bind, ExceptT.bind, ExceptT.mk, first]
  rfl

theorem yields_bind (first : Yields parser input value rest) (second : Yields (next value) rest other last) :
    Yields (parser >>= next) input other last := (run_bind first).trans second

theorem throws_bind (first : Throws parser input message) : Throws (parser >>= next) input message := by
  simp only [Throws, Bind.bind, StateT.bind, ExceptT.bind, ExceptT.mk, ExceptT.bindCont] at first ⊢
  rw [first]
  rfl

theorem yields_bind_throws (first : Yields parser input value rest) (second : Throws (next value) rest message) :
    Throws (parser >>= next) input message := (run_bind first).trans second

theorem yields_pure (value : α) (input : Bytes) : Yields (pure value) input value input := rfl

/-- The parser comes to an end, and takes at least so much when it does not
throw. -/
def Finishes (parser : JsonParser α) (input : Bytes) (least : Nat) : Prop :=
  ∃ outcome : Except String (α × Bytes), parser input = some outcome ∧
    ∀ value rest, outcome = .ok (value, rest) → rest.length + least ≤ input.length

theorem finishes_bind {least : Nat} (first : Finishes parser input least)
    (second : ∀ value rest, rest.length + least ≤ input.length → Finishes (next value) rest 0) :
    Finishes (parser >>= next) input least := by
  obtain ⟨outcome, ends, takes⟩ := first
  cases outcome with
  | error message =>
    refine ⟨.error message, throws_bind ends, ?_⟩
    rintro value rest ⟨⟩
  | ok result =>
    obtain ⟨value, rest⟩ := result
    have shorter := takes value rest rfl
    obtain ⟨outcome, ends', takes'⟩ := second value rest shorter
    refine ⟨outcome, ?_, fun other last same => ?_⟩
    · rw [run_bind ends]
      exact ends'
    · have further := takes' other last same
      omega

theorem finishes_pure (value : α) (input : Bytes) : Finishes (pure value) input 0 :=
  ⟨.ok (value, input), rfl, fun _ _ same => by cases same; exact Nat.le_refl _⟩

theorem finishes_throw (message : String) (input : Bytes) (least : Nat) :
    Finishes (throw message : JsonParser α) input least :=
  ⟨.error message, rfl, fun _ _ same => by cases same⟩

/-! ## Every parse comes to an end -/

theorem yields_skipSpace (input : Bytes) : Yields skipSpace input () (input.dropWhile isSpace) := rfl

theorem yields_accept (ch : Char) (rest : Bytes) : Yields (accept ch) (code ch :: rest) true rest := by
  simp [Yields, accept, modifyGet, MonadStateOf.modifyGet, StateT.modifyGet, pure, ExceptT.pure, ExceptT.mk]

theorem yields_accept_false {ch : Char} (absent : input.head? ≠ some (code ch)) :
    Yields (accept ch) input false input := by
  simp [Yields, accept, modifyGet, MonadStateOf.modifyGet, StateT.modifyGet, pure, ExceptT.pure, ExceptT.mk, absent]

theorem finishes_of_yields {least : Nat} (yields : Yields parser input value rest)
    (shorter : rest.length + least ≤ input.length) : Finishes parser input least := by
  refine ⟨.ok (value, rest), yields, ?_⟩
  rintro _ _ ⟨⟩
  exact shorter

theorem finishes_get (input : Bytes) : Finishes get input 0 :=
  ⟨.ok (input, input), rfl, fun _ _ same => by cases same; exact Nat.le_refl _⟩

/-- What takes something ends as well as what may take nothing. -/
theorem finishes_of_some {least : Nat} (finishes : Finishes parser input least) : Finishes parser input 0 := by
  obtain ⟨outcome, ends, takes⟩ := finishes
  exact ⟨outcome, ends, fun value rest same => Nat.le_of_add_right_le (takes value rest same)⟩

theorem finishes_skipSpace (input : Bytes) : Finishes skipSpace input 0 :=
  finishes_of_yields (yields_skipSpace input) (List.dropWhile_sublist _).length_le

theorem accept_splits (ch : Char) (input : Bytes) :
    ∃ taken rest, input = (if taken then [code ch] else []) ++ rest ∧ Yields (accept ch) input taken rest := by
  by_cases there : input.head? = some (code ch)
  · obtain ⟨rest, rfl⟩ := List.head?_eq_some_iff.mp there
    exact ⟨true, rest, rfl, yields_accept ch rest⟩
  · exact ⟨false, input, rfl, yields_accept_false there⟩

theorem digits_splits (input : Bytes) :
    ∃ front rest, input = front ++ rest ∧ front.all isDigit = true ∧ Yields digits input front rest :=
  ⟨_, _, List.takeWhile_append_dropWhile.symm, List.all_takeWhile, rfl⟩

theorem fractionDigits_splits (point : Bool) (input : Bytes) :
    ∃ fraction rest, input = fraction ++ rest ∧ fraction.all isDigit = true ∧ (point = false → fraction = []) ∧
      Yields (fractionDigits point) input fraction rest := by
  cases point with
  | true =>
    obtain ⟨fraction, rest, split, all, yields⟩ := digits_splits input
    exact ⟨fraction, rest, split, all, nofun, yields⟩
  | false => exact ⟨[], input, rfl, rfl, fun _ => rfl, yields_pure [] input⟩

theorem finishes_accept (ch : Char) (input : Bytes) : Finishes (accept ch) input 0 := by
  obtain ⟨taken, rest, split, yields⟩ := accept_splits ch input
  exact finishes_of_yields yields (by simp [split])

theorem finishes_digits (input : Bytes) : Finishes digits input 0 := by
  obtain ⟨front, rest, split, -, yields⟩ := digits_splits input
  exact finishes_of_yields yields (by simp [split])

theorem finishes_fractionDigits (point : Bool) (input : Bytes) : Finishes (fractionDigits point) input 0 := by
  obtain ⟨fraction, rest, split, -, -, yields⟩ := fractionDigits_splits point input
  exact finishes_of_yields yields (by simp [split])

/-- `expect` takes the space and the character, or throws. -/
theorem expect_cases (ch : Char) (input : Bytes) :
    (∃ rest, input.dropWhile isSpace = code ch :: rest ∧ Yields (expect ch) input () rest) ∨
      Throws (expect ch) input "unexpected JSON token" := by
  by_cases there : (input.dropWhile isSpace).head? = some (code ch)
  · obtain ⟨rest, split⟩ := List.head?_eq_some_iff.mp there
    refine .inl ⟨rest, split, yields_bind (yields_skipSpace input) ?_⟩
    rw [split]
    exact yields_bind (yields_accept ch rest) (yields_pure () rest)
  · exact .inr (yields_bind_throws (yields_skipSpace input) (yields_bind_throws (yields_accept_false there) rfl))

theorem finishes_expect (ch : Char) (input : Bytes) : Finishes (expect ch) input 1 := by
  obtain ⟨rest, split, yields⟩ | throws := expect_cases ch input
  · refine finishes_of_yields yields ?_
    have shorter := (List.dropWhile_sublist isSpace : (input.dropWhile isSpace).Sublist input).length_le
    rw [split] at shorter
    exact shorter
  · refine ⟨_, throws, ?_⟩
    rintro _ _ ⟨⟩

theorem finishes_consumeLiteral (literal : String) (input : Bytes) : Finishes (consumeLiteral literal) input 0 := by
  refine finishes_bind (finishes_get input) fun _ rest _ => ?_
  split
  · exact finishes_of_yields rfl (List.drop_sublist _ _).length_le
  · exact finishes_throw _ _ _

theorem stringBody_shorter (input text rest : Bytes) (read : stringBody input = .ok (text, rest)) :
    rest.length ≤ input.length := by
  fun_induction stringBody input generalizing text rest with
  | case1 => cases read
  | case2 =>
    cases read
    exact Nat.le_succ _
  | case3 ch later _ _ ih =>
    cases body : stringBody later with
    | error message => simp [body, Except.map] at read
    | ok result =>
      obtain ⟨front, back⟩ := result
      simp only [body, Except.map, Except.ok.injEq, Prod.mk.injEq] at read
      exact read.2 ▸ Nat.le_succ_of_le (ih front back body)
  | case4 => cases read
  | case5 => cases read
  | case6 _ _ _ escaped later ch _ ih =>
    cases body : stringBody later with
    | error message => simp [body, Except.map] at read
    | ok result =>
      obtain ⟨front, back⟩ := result
      simp only [body, Except.map, Except.ok.injEq, Prod.mk.injEq] at read
      exact read.2 ▸ Nat.le_succ_of_le (Nat.le_succ_of_le (ih front back body))

theorem finishes_parseString (input : Bytes) : Finishes parseString input 1 := by
  refine finishes_bind (finishes_expect '"' input) fun _ rest _ => ?_
  exact ⟨stringBody rest, rfl, fun text last read => stringBody_shorter rest text last read⟩

theorem finishes_parseNumber (input : Bytes) : Finishes parseNumber input 0 := by
  refine finishes_bind (finishes_accept '-' input) fun negative input _ => ?_
  refine finishes_bind (finishes_digits input) fun whole input _ => ?_
  refine finishes_bind (finishes_accept '.' input) fun point input _ => ?_
  refine finishes_bind (finishes_fractionDigits point input) fun fraction input _ => ?_
  split
  · exact finishes_throw _ _ _
  · refine ⟨_, rfl, ?_⟩
    cases stod negative whole fraction with
    | error message => rintro _ _ ⟨⟩
    | ok value =>
      rintro _ _ ⟨⟩
      exact Nat.le_refl _

theorem finishes_following {closing : Char} {more : JsonParser (List α)}
    (inside : ∀ rest : Bytes, rest.length < input.length → Finishes more rest 0) :
    Finishes (following closing more) input 0 := by
  refine finishes_bind (finishes_skipSpace input) fun _ spaced shorter => ?_
  refine finishes_bind (finishes_accept closing spaced) fun closed rest fewer => ?_
  cases closed with
  | true => exact finishes_pure [] rest
  | false =>
    exact finishes_of_some (finishes_bind (finishes_expect ',' rest) fun _ last taken => inside last (by omega))

theorem finishes_bracketed {opening closing : Char} {contents : JsonParser (List α)}
    (inside : ∀ rest : Bytes, rest.length < input.length → Finishes contents rest 0) :
    Finishes (bracketed opening closing contents) input 0 := by
  refine finishes_of_some (finishes_bind (finishes_expect opening input) fun _ rest taken => ?_)
  refine finishes_bind (finishes_skipSpace rest) fun _ spaced shorter => ?_
  refine finishes_bind (finishes_accept closing spaced) fun closed last fewer => ?_
  cases closed with
  | true => exact finishes_pure [] last
  | false => exact inside last (by omega)

/-- Twice the length of the input is fuel enough. -/
theorem values_finish (fuel : Nat) :
    (∀ input : Bytes, 2 * input.length < fuel → Finishes (parseValue fuel) input 0) ∧
    (∀ input : Bytes, 2 * input.length + 1 < fuel → Finishes (parseElements fuel) input 0) ∧
    (∀ input : Bytes, 2 * input.length + 1 < fuel → Finishes (parseMembers fuel) input 0) := by
  induction fuel with
  | zero => exact ⟨fun _ few => absurd few (by omega), fun _ few => absurd few (by omega),
      fun _ few => absurd few (by omega)⟩
  | succ fuel ih =>
    obtain ⟨value, elements, members⟩ := ih
    refine ⟨fun input enough => ?_, fun input enough => ?_, fun input enough => ?_⟩
    · unfold parseValue
      refine finishes_bind (finishes_skipSpace input) fun _ spaced shorter => ?_
      refine finishes_bind (finishes_get spaced) fun seen rest fewer => ?_
      have literal := fun (text : String) (value : Json) =>
        finishes_bind (finishes_consumeLiteral text rest) fun _ last _ => finishes_pure value last
      split
      · exact finishes_throw _ _ _
      · split
        · exact literal "null" .null
        · split
          · exact literal "true" (.boolean true)
          · split
            · exact literal "false" (.boolean false)
            · split
              · exact finishes_of_some (finishes_bind (finishes_parseString rest) fun _ _ _ => finishes_pure _ _)
              · split
                · refine finishes_bind (finishes_bracketed fun last inner => ?_) fun _ _ _ => finishes_pure _ _
                  exact elements last (by omega)
                · split
                  · refine finishes_bind (finishes_bracketed fun last inner => ?_) fun _ _ _ => finishes_pure _ _
                    exact members last (by omega)
                  · exact finishes_parseNumber rest
    · unfold parseElements
      refine finishes_bind (value input (by omega)) fun first rest shorter => ?_
      refine finishes_bind (finishes_following fun last fewer => elements last (by omega)) fun _ _ _ => ?_
      exact finishes_pure _ _
    · unfold parseMembers
      refine finishes_of_some (finishes_bind (finishes_parseString input) fun key rest shorter => ?_)
      refine finishes_bind (finishes_skipSpace rest) fun _ spaced fewer => ?_
      refine finishes_of_some (finishes_bind (finishes_expect ':' spaced) fun _ behind taken => ?_)
      refine finishes_bind (value behind (by omega)) fun first last shorter => ?_
      refine finishes_bind (finishes_following fun more fewer => members more (by omega)) fun _ _ _ => ?_
      exact finishes_pure _ _

theorem parse_of_throws {text : Bytes} (throws : Throws (parseValue (2 * text.length + 1)) text message) :
    parse text = some (.error message) := by
  simp only [Throws] at throws
  simp only [parse, StateT.run, Bind.bind, ExceptT.bind, ExceptT.mk, throws]
  rfl

theorem parse_of_yields {text : Bytes} {json : Json} (yields : Yields (parseValue (2 * text.length + 1)) text json rest) :
    parse text =
      some (if rest.dropWhile isSpace = [] then .ok json else .error "unexpected trailing JSON input") := by
  simp only [Yields] at yields
  simp only [parse, StateT.run, Bind.bind, ExceptT.bind, ExceptT.mk, yields]
  by_cases blank : rest.dropWhile isSpace = []
  · rw [if_pos blank]
    exact if_pos blank
  · rw [if_neg blank]
    exact if_neg blank

/-- Every text is parsed, or rejected. -/
theorem parse_finishes (text : Bytes) : ∃ result : Except String Json, parse text = some result := by
  obtain ⟨outcome, ends, -⟩ := (values_finish (2 * text.length + 1)).1 text (Nat.lt_succ_self _)
  cases outcome with
  | error message => exact ⟨_, parse_of_throws ends⟩
  | ok result => exact ⟨_, parse_of_yields ends⟩

end JsonParser
end WhRepeater
