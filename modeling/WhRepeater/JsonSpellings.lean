import WhRepeater.JsonPrefixes
import WhRepeater.JsonRenderings

/-! The literals of a text. What `JsonParser` takes off the input does not depend
on the numbers it makes of them, so a text it accepts has a tree with the digits
of every number, of which the value that is read is the nearest `double`. -/
namespace WhRepeater

/-- A value with its numbers as they are written. -/
inductive Spelling where
  | null
  | boolean (value : Bool)
  | number (negative : Bool) (whole fraction : Bytes)
  | string (value : Bytes)
  | array (items : List Spelling)
  | object (members : List (Bytes × Spelling))

namespace JsonParser

/-- `parseNumber` up to its conversion. -/
def spellNumber : JsonParser Spelling := do
  let negative ← accept '-'
  let whole ← digits
  let point ← accept '.'
  let fraction ← fractionDigits point
  if whole = [] ∧ point = false then throw "invalid JSON number"
  else return .number negative whole fraction

mutual
def spellValue : (fuel : Nat) → JsonParser Spelling
  | 0 => unfinished
  | fuel + 1 => do
    skipSpace
    match (← get).head? with
    | none => throw "unexpected end of JSON"
    | some ch =>
      if ch = code 'n' then
        consumeLiteral "null"
        return .null
      else if ch = code 't' then
        consumeLiteral "true"
        return .boolean true
      else if ch = code 'f' then
        consumeLiteral "false"
        return .boolean false
      else if ch = code '"' then return .string (← parseString)
      else if ch = code '[' then return .array (← bracketed '[' ']' (spellElements fuel))
      else if ch = code '{' then return .object (← bracketed '{' '}' (spellMembers fuel))
      else spellNumber

def spellElements : (fuel : Nat) → JsonParser (List Spelling)
  | 0 => unfinished
  | fuel + 1 => do
    let value ← spellValue fuel
    return value :: (← following ']' (spellElements fuel))

def spellMembers : (fuel : Nat) → JsonParser (List (Bytes × Spelling))
  | 0 => unfinished
  | fuel + 1 => do
    let key ← parseString
    skipSpace
    expect ':'
    let value ← spellValue fuel
    return (key, value) :: (← following '}' (spellMembers fuel))
end

/-- The literals of a text. -/
def spell (text : Bytes) : ExceptT String Option Spelling := do
  let (spelling, rest) ← (spellValue (2 * text.length + 1)).run text
  if rest.dropWhile isSpace = [] then return spelling else throw "unexpected trailing JSON input"

end JsonParser

/-! ## What a literal stands for -/

open JsonParser (decimalValue Yields)

mutual
/-- The value is what the reader makes of the literals. -/
inductive Spelling.Means : Spelling → Json → Prop where
  | null : Means .null .null
  | boolean (value : Bool) : Means (.boolean value) (.boolean value)
  | number (negative : Bool) (whole fraction : Bytes) (value : Rat) (converted : stod negative whole fraction = .ok value) :
      Means (.number negative whole fraction) (.number value)
  | string (value : Bytes) : Means (.string value) (.string value)
  | array (spellings : List Spelling) (items : List Json) (each : EachMeans spellings items) :
      Means (.array spellings) (.array items)
  | object (spellings : List (Bytes × Spelling)) (members : List (Bytes × Json)) (each : MembersMean spellings members) :
      Means (.object spellings) (.object members)

inductive Spelling.EachMeans : List Spelling → List Json → Prop where
  | nil : EachMeans [] []
  | cons (spelling : Spelling) (value : Json) (spellings : List Spelling) (values : List Json) (means : Means spelling value)
      (others : EachMeans spellings values) : EachMeans (spelling :: spellings) (value :: values)

inductive Spelling.MembersMean : List (Bytes × Spelling) → List (Bytes × Json) → Prop where
  | nil : MembersMean [] []
  | cons (key : Bytes) (spelling : Spelling) (value : Json) (spellings : List (Bytes × Spelling))
      (members : List (Bytes × Json)) (means : Means spelling value) (others : MembersMean spellings members) :
      MembersMean ((key, spelling) :: spellings) ((key, value) :: members)
end

namespace JsonParser

open Spelling (Means EachMeans MembersMean)

/-! ## The two readers take the same -/

/-- What the one reads, the other reads of the same input. -/
def Matches (relation : α → γ → Prop) (parser : JsonParser α) (other : JsonParser γ) : Prop :=
  ∀ input value rest, Yields parser input value rest → ∃ same, Yields other input same rest ∧ relation value same

variable {relation : α → γ → Prop} {parser : JsonParser α} {other : JsonParser γ} {further : δ → ε → Prop}
variable {next : α → JsonParser δ} {next' : γ → JsonParser ε}

theorem matches_self (parser : JsonParser α) : Matches (· = ·) parser parser :=
  fun _ value _ read => ⟨value, read, rfl⟩

theorem matches_bind (first : Matches relation parser other)
    (second : ∀ value same, relation value same → Matches further (next value) (next' same)) :
    Matches further (parser >>= next) (other >>= next') := by
  intro input last rest read
  obtain ⟨value, between, front, back⟩ := bind_yields read
  obtain ⟨same, front', related⟩ := first input value between front
  obtain ⟨end', back', related'⟩ := second value same related between last rest back
  exact ⟨end', yields_bind front' back', related'⟩

/-- A step that both take alike. -/
theorem matches_step {parser : JsonParser α} {next : α → JsonParser δ} {next' : α → JsonParser ε}
    (second : ∀ value, Matches further (next value) (next' value)) :
    Matches further (parser >>= next) (parser >>= next') := by
  refine matches_bind (matches_self parser) ?_
  rintro value _ rfl
  exact second value

theorem matches_pure {value : α} {same : γ} (related : relation value same) :
    Matches relation (pure value) (pure same) := by
  rintro input _ rest ⟨⟩
  exact ⟨same, rfl, related⟩

theorem matches_throw (message : String) : Matches relation (throw message) other := by
  rintro input value rest ⟨⟩

theorem matches_unfinished : Matches relation unfinished other := by
  rintro input value rest ⟨⟩

/-- The bytes that follow decide for both. -/
theorem matches_choice {condition : Prop} [Decidable condition] {absent : JsonParser α} {absent' : JsonParser γ}
    (there : Matches relation parser other) (elsewhere : Matches relation absent absent') :
    Matches relation (if condition then parser else absent) (if condition then other else absent') := by
  by_cases holds : condition
  · rw [if_pos holds, if_pos holds]
    exact there
  · rw [if_neg holds, if_neg holds]
    exact elsewhere

variable {items : List α → List γ → Prop} {contents : JsonParser (List α)} {contents' : JsonParser (List γ)}

theorem matches_bracketed (opening closing : Char) (empty : items [] []) (inside : Matches items contents contents') :
    Matches items (bracketed opening closing contents) (bracketed opening closing contents') := by
  refine matches_step fun _ => matches_step fun _ => matches_step fun closed => ?_
  cases closed with
  | true => exact matches_pure empty
  | false => exact inside

theorem matches_following (closing : Char) (empty : items [] []) (more : Matches items contents contents') :
    Matches items (following closing contents) (following closing contents') := by
  refine matches_step fun _ => matches_step fun closed => ?_
  cases closed with
  | true => exact matches_pure empty
  | false => exact matches_step fun _ => more

/-- The conversion takes nothing off the input. -/
theorem matches_number : Matches (fun value spelling => Means spelling value) parseNumber spellNumber := by
  refine matches_step fun negative => matches_step fun whole => matches_step fun point => matches_step fun fraction => ?_
  split
  · exact matches_throw _
  · intro input value rest read
    cases converted : stod negative whole fraction with
    | error message =>
      rw [converted] at read
      cases read
    | ok number =>
      rw [converted] at read
      cases read
      exact ⟨_, rfl, .number negative whole fraction number converted⟩

theorem values_match (fuel : Nat) :
    Matches (fun value spelling => Means spelling value) (parseValue fuel) (spellValue fuel) ∧
    Matches (fun values spellings => EachMeans spellings values) (parseElements fuel) (spellElements fuel) ∧
    Matches (fun members spellings => MembersMean spellings members) (parseMembers fuel) (spellMembers fuel) := by
  induction fuel with
  | zero => exact ⟨matches_unfinished, matches_unfinished, matches_unfinished⟩
  | succ fuel ih =>
    obtain ⟨value, elements, members⟩ := ih
    refine ⟨?_, ?_, ?_⟩
    · unfold parseValue spellValue
      refine matches_step fun _ => matches_step fun input => ?_
      cases input.head? with
      | none => exact matches_throw _
      | some ch =>
        refine matches_choice (matches_step fun _ => matches_pure .null) ?_
        refine matches_choice (matches_step fun _ => matches_pure (.boolean true)) ?_
        refine matches_choice (matches_step fun _ => matches_pure (.boolean false)) ?_
        refine matches_choice (matches_step fun text => matches_pure (.string text)) ?_
        refine matches_choice ?_ (matches_choice ?_ matches_number)
        · refine matches_bind (matches_bracketed '[' ']' .nil elements) fun items spellings each => ?_
          exact matches_pure (.array spellings items each)
        · refine matches_bind (matches_bracketed '{' '}' .nil members) fun items spellings each => ?_
          exact matches_pure (.object spellings items each)
    · unfold parseElements spellElements
      refine matches_bind value fun first spelling means => ?_
      refine matches_bind (matches_following ']' .nil elements) fun items spellings each => ?_
      exact matches_pure (.cons spelling first spellings items means each)
    · unfold parseMembers spellMembers
      refine matches_step fun key => matches_step fun _ => matches_step fun _ => ?_
      refine matches_bind value fun first spelling means => ?_
      refine matches_bind (matches_following '}' .nil members) fun items spellings each => ?_
      exact matches_pure (.cons key spelling first spellings items means each)

/-- A text that is accepted has its literals. -/
theorem spelled_of_parsed {text : Bytes} {json : Json} (read : parse text = some (.ok json)) :
    ∃ spelling, spell text = some (.ok spelling) ∧ Means spelling json := by
  obtain ⟨rest, yields, nothing⟩ := parse_yields read
  obtain ⟨spelling, same, means⟩ := (values_match (2 * text.length + 1)).1 text json rest yields
  refine ⟨spelling, ?_, means⟩
  simp only [Yields] at same
  simp only [spell, StateT.run, Bind.bind, ExceptT.bind, ExceptT.mk, same]
  exact if_pos nothing

end JsonParser
end WhRepeater
