import WhRepeater.JsonText

/-! The documents the configuration writer puts out (`config.cpp`), as trees of
what is written, and what the reader makes of them: a document whose texts are
all legible is read back as it was written, and every other is rejected. -/
namespace WhRepeater

/-- The white space of an array or object: behind the opening bracket, behind a
comma, behind a colon, and before the closing bracket. -/
structure Layout where
  opening : Bytes
  comma : Bytes
  colon : Bytes
  closing : Bytes
  blank : (opening ++ comma ++ colon ++ closing).all isSpace = true

def newline (indent : Nat) : Bytes := 10 :: List.replicate indent 32

/-- One member a line, at the given indent. -/
def Layout.lines (indent : Nat) : Layout where
  opening := newline indent
  comma := newline indent
  colon := [32]
  closing := newline (indent - 2)
  blank := by simp [newline, isSpace]

/-- All in one line, without white space. -/
def Layout.compact : Layout where
  opening := []
  comma := []
  colon := []
  closing := []
  blank := rfl

/-- All in one line, with a space behind a comma. -/
def Layout.inline : Layout where
  opening := []
  comma := [32]
  colon := [32]
  closing := []
  blank := rfl

/-- What the writer puts out. -/
inductive Document where
  | text (value : Bytes)
  | decimal (value : Int)
  | double (value : Rat)
  | flag (value : Bool)
  | array (layout : Layout) (items : List Document)
  | object (layout : Layout) (members : List (String × Document))

def separated (separator : Bytes) : List Bytes → Bytes
  | [] => []
  | [item] => item
  | item :: items => item ++ separator ++ separated separator items

namespace Document

mutual
/-- The bytes of a document, given how `operator<<` writes a `double`. -/
def print (printDouble : Rat → Bytes) : Document → Bytes
  | .text value => jsonString value
  | .decimal value => printInt value
  | .double value => printDouble value
  | .flag value => if value then bytes "true" else bytes "false"
  | .array layout items =>
    code '[' :: layout.opening ++
      separated (code ',' :: layout.comma) (printItems printDouble items) ++ layout.closing ++ [code ']']
  | .object layout members =>
    code '{' :: layout.opening ++
      separated (code ',' :: layout.comma) (printMembers printDouble layout.colon members) ++ layout.closing ++
        [code '}']

def printItems (printDouble : Rat → Bytes) : List Document → List Bytes
  | [] => []
  | item :: items => print printDouble item :: printItems printDouble items

def printMembers (printDouble : Rat → Bytes) (colon : Bytes) : List (String × Document) → List Bytes
  | [] => []
  | (name, value) :: members =>
    (code '"' :: bytes name ++ code '"' :: code ':' :: colon ++ print printDouble value) ::
      printMembers printDouble colon members
end

mutual
/-- What the reader is to make of a document. -/
def json : Document → Json
  | .text value => .string value
  | .decimal value => .number value
  | .double value => .number value
  | .flag value => .boolean value
  | .array _ items => .array (jsonItems items)
  | .object _ members => .object (jsonMembers members)

def jsonItems : List Document → List Json
  | [] => []
  | item :: items => json item :: jsonItems items

def jsonMembers : List (String × Document) → List (Bytes × Json)
  | [] => []
  | (name, value) :: members => (bytes name, json value) :: jsonMembers members
end

mutual
def texts : Document → List Bytes
  | .text value => [value]
  | .decimal _ => []
  | .double _ => []
  | .flag _ => []
  | .array _ items => textsOfItems items
  | .object _ members => textsOfMembers members

def textsOfItems : List Document → List Bytes
  | [] => []
  | item :: items => texts item ++ textsOfItems items

def textsOfMembers : List (String × Document) → List Bytes
  | [] => []
  | (_, value) :: members => texts value ++ textsOfMembers members
end

/-- Nothing in the name of a member needs an escape. -/
def PlainName (name : String) : Prop := ((bytes name).all fun ch => ch != code '"' && ch != code '\\') = true

instance : Decidable (PlainName name) := inferInstanceAs (Decidable (_ = true))

mutual
/-- The numbers are written so that they are read back, and the names need no
escape. -/
def Proper (printDouble : Rat → Bytes) : Document → Prop
  | .text _ => True
  | .decimal value => |value| < 2 ^ 53
  | .double value => JsonParser.Yields JsonParser.parseNumber (printDouble value) (.number value) []
  | .flag _ => True
  | .array _ items => ProperItems printDouble items
  | .object _ members => ProperMembers printDouble members

def ProperItems (printDouble : Rat → Bytes) : List Document → Prop
  | [] => True
  | item :: items => Proper printDouble item ∧ ProperItems printDouble items

def ProperMembers (printDouble : Rat → Bytes) : List (String × Document) → Prop
  | [] => True
  | (name, value) :: members => PlainName name ∧ Proper printDouble value ∧ ProperMembers printDouble members
end

end Document

namespace JsonParser

/-- The parser takes the value when everything in it is legible, and finds an
escape it does not know otherwise. -/
def Answers (parser : JsonParser α) (input : Bytes) (legible : Prop) (value : α) (rest : Bytes) : Prop :=
  (legible → Yields parser input value rest) ∧ (¬ legible → Throws parser input "unsupported JSON escape")

variable {parser : JsonParser α} {next : α → JsonParser γ} {input rest last : Bytes} {value : α} {other : γ}

theorem answers_of_yields (yields : Yields parser input value rest) : Answers parser input True value rest :=
  ⟨fun _ => yields, fun never => absurd trivial never⟩

theorem answers_bind {front back : Prop} (first : Answers parser input front value rest)
    (second : Answers (next value) rest back other last) : Answers (parser >>= next) input (front ∧ back) other last := by
  refine ⟨fun both => yields_bind (first.1 both.1) (second.1 both.2), fun not_both => ?_⟩
  by_cases read : front
  · exact yields_bind_throws (first.1 read) (second.2 fun readable => not_both ⟨read, readable⟩)
  · exact throws_bind (first.2 read)

theorem Answers.congr {legible same : Prop} (answers : Answers parser input legible value rest)
    (equivalent : legible ↔ same) : Answers parser input same value rest := by
  rw [← equivalent]
  exact answers

/-- The parser goes on with a value it has taken whatever that was. -/
theorem Answers.map {legible : Prop} (answers : Answers parser input legible value rest) (make : α → γ) :
    Answers (parser >>= fun value => pure (make value)) input legible (make value) rest :=
  (answers_bind answers (answers_of_yields (yields_pure (make value) rest))).congr (and_iff_left trivial)

theorem Answers.after {legible : Prop} (answers : Answers (next value) rest legible other last)
    (first : Yields parser input value rest) : Answers (parser >>= next) input legible other last :=
  (answers_bind (answers_of_yields first) answers).congr (and_iff_right trivial)

/-! ## White space and brackets -/

theorem no_blank : ([] : Bytes).all isSpace = true := rfl

theorem dropWhile_blank {blank : Bytes} (spaces : blank.all isSpace = true) (input : Bytes) :
    (blank ++ input).dropWhile isSpace = input.dropWhile isSpace :=
  List.dropWhile_append_of_pos (List.all_eq_true.mp spaces)

theorem yields_skipBlank {blank : Bytes} {ch : UInt8} (spaces : blank.all isSpace = true)
    (start : isSpace ch = false) : Yields skipSpace (blank ++ ch :: rest) () (ch :: rest) := by
  have dropped : (blank ++ ch :: rest).dropWhile isSpace = ch :: rest := by
    rw [dropWhile_blank spaces]
    simp [start]
  simpa only [dropped] using yields_skipSpace (blank ++ ch :: rest)

theorem yields_expect {ch : Char} (start : isSpace (code ch) = false) (rest : Bytes) :
    Yields (expect ch) (code ch :: rest) () rest :=
  yields_bind (yields_skipBlank no_blank start)
    (yields_bind (yields_accept ch rest) (yields_pure () rest))

theorem yields_get (input : Bytes) : Yields get input input input := rfl

/-- Nothing but the closing bracket. -/
theorem bracketed_empty {opening closing : Char} {blank : Bytes} {contents : JsonParser (List α)}
    (spaces : blank.all isSpace = true) (open_start : isSpace (code opening) = false)
    (close_start : isSpace (code closing) = false) :
    Yields (bracketed opening closing contents) (code opening :: (blank ++ code closing :: rest)) [] rest :=
  yields_bind (yields_expect open_start _) (yields_bind (yields_skipBlank spaces close_start)
    (yields_bind (yields_accept closing rest) (yields_pure [] rest)))

/-- The input starts with something, and that is not the closing bracket. -/
def Opens (closing : Char) (input : Bytes) : Prop :=
  ∃ ch tail, input = ch :: tail ∧ isSpace ch = false ∧ ch ≠ code closing

theorem Opens.append {closing : Char} (opens : Opens closing input) (rest : Bytes) : Opens closing (input ++ rest) := by
  obtain ⟨ch, tail, rfl, start, more⟩ := opens
  exact ⟨ch, tail ++ rest, rfl, start, more⟩

theorem answers_bracketed {opening closing : Char} {blank : Bytes} {contents : JsonParser (List α)} {items : List α}
    {legible : Prop} (inside : Answers contents input legible items rest) (spaces : blank.all isSpace = true)
    (open_start : isSpace (code opening) = false) (opens : Opens closing input) :
    Answers (bracketed opening closing contents) (code opening :: (blank ++ input)) legible items rest := by
  obtain ⟨ch, tail, rfl, start, more⟩ := opens
  have differs : (ch :: tail).head? ≠ some (code closing) := by simpa using more
  refine Answers.after ?_ (yields_expect open_start _)
  refine Answers.after ?_ (yields_skipBlank spaces start)
  refine Answers.after ?_ (yields_accept_false differs)
  exact inside

theorem following_close {closing : Char} {blank : Bytes} (more : JsonParser (List α))
    (spaces : blank.all isSpace = true) (close_start : isSpace (code closing) = false) (rest : Bytes) :
    Yields (following closing more) (blank ++ code closing :: rest) [] rest :=
  yields_bind (yields_skipBlank spaces close_start) (yields_bind (yields_accept closing rest) (yields_pure [] rest))

theorem answers_following {closing : Char} {more : JsonParser (List α)} {items : List α} {legible : Prop}
    (others : Answers more input legible items rest) (not_comma : code ',' ≠ code closing) :
    Answers (following closing more) (code ',' :: input) legible items rest := by
  have differs : (code ',' :: input).head? ≠ some (code closing) := by simpa using not_comma
  refine Answers.after ?_ (yields_skipBlank no_blank rfl)
  refine Answers.after ?_ (yields_accept_false differs)
  refine Answers.after ?_ (yields_expect rfl input)
  exact others

/-! ## Values -/

/-- A value is read from behind the space before it. -/
theorem parseValue_blank {blank : Bytes} (spaces : blank.all isSpace = true) (fuel : Nat) (input : Bytes) :
    parseValue fuel (blank ++ input) = parseValue fuel input := by
  cases fuel with
  | zero => rfl
  | succ fuel =>
    unfold parseValue
    rw [run_bind (yields_skipSpace (blank ++ input)), run_bind (yields_skipSpace input), dropWhile_blank spaces]

theorem parseString_blank {blank : Bytes} (spaces : blank.all isSpace = true) (input : Bytes) :
    parseString (blank ++ input) = parseString input := by
  have expects : expect '"' (blank ++ input) = expect '"' input := by
    unfold expect
    rw [run_bind (yields_skipSpace (blank ++ input)), run_bind (yields_skipSpace input), dropWhile_blank spaces]
  simp only [parseString, Bind.bind, StateT.bind, expects]

theorem answers_jsonString (value rest : Bytes) :
    Answers parseString (jsonString value ++ rest) (Legible value) value rest := by
  have opened : Yields (expect '"') (jsonString value ++ rest) () (value.flatMap escape ++ code '"' :: rest) := by
    simpa [jsonString] using @yields_expect '"' rfl (value.flatMap escape ++ code '"' :: rest)
  have body : Answers (fun input => ExceptT.mk (some (stringBody input)) : JsonParser Bytes)
      (value.flatMap escape ++ code '"' :: rest) (Legible value) value rest := by
    constructor
    · intro readable
      simp only [Yields, stringBody_written, readable, if_true]
      rfl
    · intro unreadable
      simp only [Throws, stringBody_written, unreadable, if_false]
      rfl
  exact body.after opened

theorem stringBody_plain {name : Bytes} (plain : (name.all fun ch => ch != code '"' && ch != code '\\') = true)
    (rest : Bytes) : stringBody (name ++ code '"' :: rest) = .ok (name, rest) := by
  induction name with
  | nil =>
    rw [List.nil_append, stringBody.eq_def]
    rfl
  | cons ch name ih =>
    simp only [List.all_cons, Bool.and_eq_true, bne_iff_ne] at plain
    obtain ⟨⟨quote, backslash⟩, others⟩ := plain
    rw [List.cons_append, stringBody.eq_def]
    simp [quote, backslash, ih (by simpa using others), Except.map]

/-- A name that needs no escape is written without one. -/
theorem yields_name {name : String} (plain : Document.PlainName name) (rest : Bytes) :
    Yields parseString (code '"' :: bytes name ++ code '"' :: rest) (bytes name) rest := by
  refine yields_bind (yields_expect rfl (bytes name ++ code '"' :: rest)) ?_
  simp only [Yields, stringBody_plain plain]
  rfl

theorem yields_key {name : String} {blank : Bytes} (plain : Document.PlainName name) (spaces : blank.all isSpace = true)
    (rest : Bytes) : Yields parseString (blank ++ (code '"' :: bytes name ++ code '"' :: rest)) (bytes name) rest := by
  rw [Yields, parseString_blank spaces]
  exact yields_name plain _

/-- A byte a number starts with. -/
def StartsNumber (ch : UInt8) : Prop := ch = code '-' ∨ isDigit ch = true ∨ ch = code '.'

theorem StartsNumber.ne {ch : UInt8} (starts : StartsNumber ch) {other : UInt8}
    (minus : other ≠ code '-') (digit : isDigit other = false) (point : other ≠ code '.') : ch ≠ other := by
  rintro rfl
  rcases starts with same | same | same
  · exact minus same
  · exact Bool.false_ne_true (digit.symm.trans same)
  · exact point same

theorem not_space_of_digit {ch : UInt8} (digit : isDigit ch = true) : isSpace ch = false := by
  simp only [isDigit, isSpace, Bool.and_eq_true, decide_eq_true_eq, Bool.or_eq_false_iff, Bool.and_eq_false_iff,
    decide_eq_false_iff_not, beq_eq_false_iff_ne, UInt8.le_iff_toNat_le, ne_eq, ← UInt8.toNat_inj] at digit ⊢
  simp only [UInt8.reduceToNat] at digit ⊢
  omega

theorem StartsNumber.not_space {ch : UInt8} (starts : StartsNumber ch) : isSpace ch = false := by
  rcases starts with rfl | digit | rfl
  · rfl
  · exact not_space_of_digit digit
  · rfl

theorem numberText_starts {negative point : Bool} {whole fraction : Bytes} (digits : whole.all isDigit = true)
    (number : ¬ (whole = [] ∧ point = false)) :
    ∃ ch tail, numberText negative whole point fraction = ch :: tail ∧ StartsNumber ch := by
  cases negative with
  | true => exact ⟨_, _, rfl, .inl rfl⟩
  | false =>
    cases whole with
    | cons digit whole =>
      simp only [List.all_cons, Bool.and_eq_true] at digits
      exact ⟨digit, _, rfl, .inr (.inl digits.1)⟩
    | nil =>
      cases point with
      | true => exact ⟨_, _, rfl, .inr (.inr rfl)⟩
      | false => exact absurd ⟨rfl, rfl⟩ number

theorem starts_of_yields {text : Bytes} {json : Json} (exact : Yields parseNumber text json []) :
    ∃ ch tail, text = ch :: tail ∧ StartsNumber ch := by
  obtain ⟨negative, point, whole, fraction, split, digits, -, -, number, -⟩ := numberText_of_yields exact
  rw [List.append_nil] at split
  exact split ▸ numberText_starts digits number

/-- A value that starts as a number does is read as one. -/
theorem yields_value_of_number {ch : UInt8} {tail : Bytes} {json : Json} (starts : StartsNumber ch)
    (yields : Yields parseNumber (ch :: tail) json rest) (fuel : Nat) :
    Yields (parseValue (fuel + 1)) (ch :: tail) json rest := by
  unfold parseValue
  rw [← List.nil_append (ch :: tail)]
  refine yields_bind (yields_skipBlank rfl starts.not_space) (yields_bind (yields_get _) ?_)
  simp only [List.head?_cons]
  rw [if_neg (starts.ne (by decide) rfl (by decide)), if_neg (starts.ne (by decide) rfl (by decide)),
    if_neg (starts.ne (by decide) rfl (by decide)), if_neg (starts.ne (by decide) rfl (by decide)),
    if_neg (starts.ne (by decide) rfl (by decide)), if_neg (starts.ne (by decide) rfl (by decide))]
  exact yields

/-- A text that is read as a number in full is a value before anything that
does not go on with it. -/
theorem yields_number {text : Bytes} {json : Json} (exact : Yields parseNumber text json []) (ends : Delimited rest)
    (fuel : Nat) : Yields (parseValue (fuel + 1)) (text ++ rest) json rest := by
  obtain ⟨negative, point, whole, fraction, split, digits, fractionAll, pointed, number, value⟩ :=
    numberText_of_yields exact
  have alone : parseNumber (text ++ rest) = some (.ok (json, rest)) := by
    rw [split, List.append_nil, parseNumber_numberText digits fractionAll pointed number ends]
    cases read : stod negative whole fraction with
    | error message =>
      rw [read] at value
      cases value
    | ok result =>
      rw [read] at value
      cases value
      rfl
  obtain ⟨ch, tail, start, starts⟩ := starts_of_yields exact
  have started : text ++ rest = ch :: (tail ++ rest) := by rw [start]; rfl
  rw [started] at alone ⊢
  exact yields_value_of_number starts alone fuel

theorem parseValue_quote (fuel : Nat) (tail : Bytes) :
    parseValue (fuel + 1) (code '"' :: tail) = (do return Json.string (← parseString)) (code '"' :: tail) := by
  unfold parseValue
  rfl

theorem parseValue_bracket (fuel : Nat) (tail : Bytes) :
    parseValue (fuel + 1) (code '[' :: tail) =
      (do return Json.array (← bracketed '[' ']' (parseElements fuel))) (code '[' :: tail) := by
  unfold parseValue
  rfl

theorem parseValue_brace (fuel : Nat) (tail : Bytes) :
    parseValue (fuel + 1) (code '{' :: tail) =
      (do return Json.object (← bracketed '{' '}' (parseMembers fuel))) (code '{' :: tail) := by
  unfold parseValue
  rfl

theorem yields_flag (value : Bool) (fuel : Nat) (rest : Bytes) :
    Yields (parseValue (fuel + 1)) ((if value then bytes "true" else bytes "false") ++ rest) (.boolean value) rest := by
  unfold parseValue
  cases value <;> rfl

end JsonParser

/-! ## Documents -/

open JsonParser

theorem Document.print_opens {printDouble : Rat → Bytes} {document : Document} (proper : document.Proper printDouble) :
    Opens ']' (document.print printDouble) := by
  cases document with
  | text value => exact ⟨code '"', _, rfl, rfl, by decide⟩
  | decimal value =>
    have exact := @yields_printInt [] value proper (by rintro next ⟨⟩)
    rw [List.append_nil] at exact
    obtain ⟨ch, tail, split, starts⟩ := starts_of_yields exact
    exact ⟨ch, tail, split, starts.not_space, starts.ne (by decide) rfl (by decide)⟩
  | double value =>
    obtain ⟨ch, tail, split, starts⟩ := starts_of_yields proper
    exact ⟨ch, tail, split, starts.not_space, starts.ne (by decide) rfl (by decide)⟩
  | flag value =>
    cases value with
    | true => exact ⟨code 't', _, rfl, rfl, by decide⟩
    | false => exact ⟨code 'f', _, rfl, rfl, by decide⟩
  | array layout items => exact ⟨code '[', _, rfl, rfl, by decide⟩
  | object layout members => exact ⟨code '{', _, rfl, rfl, by decide⟩

theorem delimited_space {space : UInt8} (blank : isSpace space = true) (rest : Bytes) : Delimited (space :: rest) := by
  rintro next ⟨⟩
  constructor
  · by_contra digit
    have never := not_space_of_digit (Bool.eq_true_of_not_eq_false digit)
    exact Bool.false_ne_true (never.symm.trans blank)
  · rintro rfl
    exact absurd blank (by decide)

theorem delimited_blank {blank : Bytes} {ch : UInt8} (spaces : blank.all isSpace = true)
    (ends : isDigit ch = false ∧ ch ≠ code '.') (rest : Bytes) : Delimited (blank ++ ch :: rest) := by
  cases blank with
  | nil =>
    rintro next ⟨⟩
    exact ends
  | cons space blank =>
    simp only [List.all_cons, Bool.and_eq_true] at spaces
    exact delimited_space spaces.1 _

theorem Layout.spaces (layout : Layout) : layout.opening.all isSpace = true ∧ layout.comma.all isSpace = true ∧
    layout.colon.all isSpace = true ∧ layout.closing.all isSpace = true := by
  have blank := layout.blank
  simp only [List.all_append, Bool.and_eq_true] at blank
  exact ⟨blank.1.1.1, blank.1.1.2, blank.1.2, blank.2⟩

namespace JsonParser

variable {input rest last : Bytes} {legible front back : Prop}

theorem answers_text (value rest : Bytes) (fuel : Nat) :
    Answers (parseValue (fuel + 1)) (jsonString value ++ rest) (Legible value) (.string value) rest := by
  have read : Answers (do return Json.string (← parseString)) (jsonString value ++ rest) (Legible value)
      (.string value) rest := (answers_jsonString value rest).map Json.string
  simp only [Answers, Yields, Throws, jsonString, List.cons_append, parseValue_quote]
  exact read

theorem answers_array {items : List Json} {fuel : Nat}
    (contents : Answers (bracketed '[' ']' (parseElements fuel)) (code '[' :: input) legible items rest) :
    Answers (parseValue (fuel + 1)) (code '[' :: input) legible (.array items) rest := by
  have read : Answers (do return Json.array (← bracketed '[' ']' (parseElements fuel))) (code '[' :: input) legible
      (.array items) rest := contents.map Json.array
  simp only [Answers, Yields, Throws, parseValue_bracket]
  exact read

theorem answers_object {members : List (Bytes × Json)} {fuel : Nat}
    (contents : Answers (bracketed '{' '}' (parseMembers fuel)) (code '{' :: input) legible members rest) :
    Answers (parseValue (fuel + 1)) (code '{' :: input) legible (.object members) rest := by
  have read : Answers (do return Json.object (← bracketed '{' '}' (parseMembers fuel))) (code '{' :: input) legible
      (.object members) rest := contents.map Json.object
  simp only [Answers, Yields, Throws, parseValue_brace]
  exact read

theorem answers_element {item : Json} {items : List Json} {fuel : Nat}
    (first : Answers (parseValue fuel) input front item rest)
    (others : Answers (following ']' (parseElements fuel)) rest back items last) :
    Answers (parseElements (fuel + 1)) input (front ∧ back) (item :: items) last := by
  unfold parseElements
  exact answers_bind first (others.map (item :: ·))

theorem answers_member {name : String} {colon : Bytes} {value : Json} {members : List (Bytes × Json)} {fuel : Nat}
    (plain : Document.PlainName name) {blank : Bytes} (spaces : blank.all isSpace = true)
    (first : Answers (parseValue fuel) (colon ++ input) front value rest)
    (others : Answers (following '}' (parseMembers fuel)) rest back members last) :
    Answers (parseMembers (fuel + 1)) (blank ++ (code '"' :: bytes name ++ code '"' :: code ':' :: (colon ++ input)))
      (front ∧ back) ((bytes name, value) :: members) last := by
  unfold parseMembers
  refine Answers.after (Answers.after (Answers.after ?_ (yields_expect rfl _)) (yields_skipSpace _)) (yields_key plain spaces _)
  exact answers_bind first (others.map ((bytes name, value) :: ·))

end JsonParser

namespace Document

variable {printDouble : Rat → Bytes}

theorem separated_cons_cons (separator first next : Bytes) (others : List Bytes) :
    separated separator (first :: next :: others) = first ++ (separator ++ separated separator (next :: others)) :=
  List.append_assoc _ _ _

theorem separated_cons (separator first : Bytes) (others : List Bytes) :
    ∃ tail, separated separator (first :: others) = first ++ tail := by
  cases others with
  | nil => exact ⟨[], (List.append_nil first).symm⟩
  | cons next others => exact ⟨_, separated_cons_cons separator first next others⟩

/-- A member, with what is behind it taken to its value. -/
theorem name_first (name : String) (colon value back : Bytes) :
    code '"' :: bytes name ++ code '"' :: code ':' :: colon ++ value ++ back =
      code '"' :: bytes name ++ code '"' :: code ':' :: (colon ++ (value ++ back)) := by
  simp

mutual
/-- Behind white space, and before anything that ends it, a document of legible
texts is read back, and every other is rejected. -/
theorem value_answers (document : Document) (proper : document.Proper printDouble) {blank rest : Bytes}
    (spaces : blank.all isSpace = true) (ends : Delimited rest) (fuel : Nat)
    (enough : 2 * (blank.length + (document.print printDouble).length + rest.length) < fuel) :
    Answers (parseValue fuel) (blank ++ (document.print printDouble ++ rest))
      (∀ text ∈ document.texts, Legible text) document.json rest := by
  obtain ⟨fuel, rfl⟩ := Nat.exists_eq_succ_of_ne_zero (Nat.ne_of_gt (Nat.zero_lt_of_lt enough))
  simp only [Answers, Yields, Throws, parseValue_blank spaces]
  match document with
  | .text value => exact (answers_text value rest fuel).congr (by simp [texts])
  | .decimal value =>
    have exact := @yields_printInt [] value proper (by rintro next ⟨⟩)
    rw [List.append_nil] at exact
    exact (answers_of_yields (yields_number exact ends fuel)).congr (by simp [texts])
  | .double value => exact (answers_of_yields (yields_number proper ends fuel)).congr (by simp [texts])
  | .flag value => exact (answers_of_yields (yields_flag value fuel rest)).congr (by simp [texts])
  | .array layout items =>
    obtain ⟨opening, comma, -, closing⟩ := layout.spaces
    simp only [print, List.append_assoc, List.cons_append, List.nil_append, List.length_append, List.length_cons,
      List.length_nil] at enough ⊢
    apply answers_array
    match items with
    | [] =>
      have inside : (layout.opening ++ layout.closing).all isSpace = true := by simp [opening, closing]
      rw [printItems, separated, List.nil_append, ← List.append_assoc]
      exact (answers_of_yields (bracketed_empty inside rfl rfl)).congr (by simp [texts, textsOfItems])
    | item :: items =>
      have opens : Opens ']' (separated (code ',' :: layout.comma) (printItems printDouble (item :: items))) := by
        obtain ⟨tail, split⟩ := separated_cons (code ',' :: layout.comma) (item.print printDouble)
          (printItems printDouble items)
        exact split ▸ (print_opens proper.1).append tail
      have contents := items_answers (item :: items) proper (List.cons_ne_nil _ _) no_blank comma closing rest
        fuel (by simp only [List.length_nil]; omega)
      exact answers_bracketed contents opening rfl (opens.append _)
  | .object layout members =>
    obtain ⟨opening, comma, colon, closing⟩ := layout.spaces
    simp only [print, List.append_assoc, List.cons_append, List.nil_append, List.length_append, List.length_cons,
      List.length_nil] at enough ⊢
    apply answers_object
    match members with
    | [] =>
      have inside : (layout.opening ++ layout.closing).all isSpace = true := by simp [opening, closing]
      rw [printMembers, separated, List.nil_append, ← List.append_assoc]
      exact (answers_of_yields (bracketed_empty inside rfl rfl)).congr (by simp [texts, textsOfMembers])
    | (name, value) :: members =>
      have opens : Opens '}' (separated (code ',' :: layout.comma)
          (printMembers printDouble layout.colon ((name, value) :: members))) := by
        obtain ⟨tail, split⟩ := separated_cons (code ',' :: layout.comma) _
          (printMembers printDouble layout.colon members)
        exact split ▸ ⟨code '"', _, rfl, rfl, by decide⟩
      have contents := members_answers ((name, value) :: members) proper (List.cons_ne_nil _ _) no_blank comma
        colon closing rest fuel (by simp only [List.length_nil]; omega)
      exact answers_bracketed contents opening rfl (opens.append _)

theorem items_answers (items : List Document) (proper : ProperItems printDouble items) (some : items ≠ [])
    {blank comma closing : Bytes} (spaces : blank.all isSpace = true) (comma_spaces : comma.all isSpace = true)
    (closing_spaces : closing.all isSpace = true) (rest : Bytes) (fuel : Nat)
    (enough : 2 * (blank.length + (separated (code ',' :: comma) (printItems printDouble items)).length +
      closing.length + rest.length + 1) + 1 < fuel) :
    Answers (parseElements fuel) (blank ++ (separated (code ',' :: comma) (printItems printDouble items) ++
      (closing ++ code ']' :: rest))) (∀ text ∈ textsOfItems items, Legible text) (jsonItems items) rest := by
  obtain ⟨fuel, rfl⟩ := Nat.exists_eq_succ_of_ne_zero (Nat.ne_of_gt (Nat.zero_lt_of_lt enough))
  match items with
  | [] => exact absurd rfl some
  | [item] =>
    simp only [printItems, separated] at enough ⊢
    have close : isDigit (code ']') = false ∧ code ']' ≠ code '.' := by decide
    have first := value_answers item proper.1 spaces (delimited_blank closing_spaces close rest) fuel
      (by simp only [List.length_append, List.length_cons]; omega)
    have others := answers_of_yields (following_close (parseElements fuel) closing_spaces
      (rfl : isSpace (code ']') = false) rest)
    exact (answers_element first others).congr (by simp [textsOfItems])
  | item :: next :: items =>
    rw [printItems, printItems, separated_cons_cons, ← printItems] at enough ⊢
    simp only [List.length_append, List.length_cons, List.append_assoc, List.cons_append] at enough ⊢
    have comma_ends : isDigit (code ',') = false ∧ code ',' ≠ code '.' := by decide
    have first := value_answers item proper.1 spaces (delimited_blank no_blank comma_ends
      (comma ++ (separated (code ',' :: comma) (printItems printDouble (next :: items)) ++
        (closing ++ code ']' :: rest)))) fuel
      (by simp only [List.length_append, List.length_cons, List.length_nil]; omega)
    have more := items_answers (next :: items) proper.2 (List.cons_ne_nil _ _) comma_spaces comma_spaces
      closing_spaces rest fuel (by omega)
    have others := answers_following more (by decide : code ',' ≠ code ']')
    exact (answers_element first others).congr (by simp [textsOfItems, or_imp, forall_and])

theorem members_answers (members : List (String × Document)) (proper : ProperMembers printDouble members)
    (some : members ≠ []) {blank comma colon closing : Bytes} (spaces : blank.all isSpace = true)
    (comma_spaces : comma.all isSpace = true) (colon_spaces : colon.all isSpace = true)
    (closing_spaces : closing.all isSpace = true) (rest : Bytes) (fuel : Nat)
    (enough : 2 * (blank.length + (separated (code ',' :: comma) (printMembers printDouble colon members)).length +
      closing.length + rest.length + 1) + 1 < fuel) :
    Answers (parseMembers fuel) (blank ++ (separated (code ',' :: comma) (printMembers printDouble colon members) ++
      (closing ++ code '}' :: rest))) (∀ text ∈ textsOfMembers members, Legible text) (jsonMembers members) rest := by
  obtain ⟨fuel, rfl⟩ := Nat.exists_eq_succ_of_ne_zero (Nat.ne_of_gt (Nat.zero_lt_of_lt enough))
  match members with
  | [] => exact absurd rfl some
  | [(name, value)] =>
    obtain ⟨plain, proper, -⟩ := proper
    rw [printMembers, printMembers, separated] at enough ⊢
    simp only [List.length_append, List.length_cons] at enough
    have close : isDigit (code '}') = false ∧ code '}' ≠ code '.' := by decide
    have first := value_answers value proper colon_spaces (delimited_blank closing_spaces close rest) fuel
      (by simp only [List.length_append, List.length_cons]; omega)
    have others := answers_of_yields (following_close (parseMembers fuel) closing_spaces
      (rfl : isSpace (code '}') = false) rest)
    rw [name_first]
    exact (answers_member plain spaces first others).congr (by simp [textsOfMembers])
  | (name, value) :: next :: members =>
    obtain ⟨plain, proper, others_proper⟩ := proper
    obtain ⟨next_name, next_value⟩ := next
    rw [printMembers, printMembers, separated_cons_cons, ← printMembers] at enough ⊢
    simp only [List.length_append, List.length_cons] at enough
    have comma_ends : isDigit (code ',') = false ∧ code ',' ≠ code '.' := by decide
    have first := value_answers value proper colon_spaces (delimited_blank no_blank comma_ends
      (comma ++ (separated (code ',' :: comma) (printMembers printDouble colon ((next_name, next_value) :: members)) ++
        (closing ++ code '}' :: rest)))) fuel
      (by simp only [List.length_append, List.length_cons, List.length_nil]; omega)
    have more := members_answers ((next_name, next_value) :: members) others_proper (List.cons_ne_nil _ _)
      comma_spaces comma_spaces colon_spaces closing_spaces rest fuel (by omega)
    have others := answers_following more (by decide : code ',' ≠ code '}')
    rw [List.append_assoc, name_first, List.append_assoc]
    exact (answers_member plain spaces first others).congr (by simp [textsOfMembers, or_imp, forall_and])
end

/-- What the reader makes of a document with white space behind it. -/
theorem print_answers {document : Document} (proper : document.Proper printDouble) {blank : Bytes}
    (spaces : blank.all isSpace = true) :
    Answers (parseValue (2 * (document.print printDouble ++ blank).length + 1)) (document.print printDouble ++ blank)
      (∀ text ∈ document.texts, Legible text) document.json blank := by
  have ends : Delimited blank := by
    cases blank with
    | nil => rintro next ⟨⟩
    | cons space blank =>
      simp only [List.all_cons, Bool.and_eq_true] at spaces
      exact delimited_space spaces.1 blank
  exact value_answers document proper no_blank ends
    (2 * (document.print printDouble ++ blank).length + 1) (by simp only [List.length_append, List.length_nil]; omega)

/-- A document with white space behind it parses to what it says, unless one of
its texts is not legible. -/
theorem parse_print {document : Document} (proper : document.Proper printDouble) {blank : Bytes}
    (spaces : blank.all isSpace = true) :
    parse (document.print printDouble ++ blank) =
      some (if ∀ text ∈ document.texts, Legible text then .ok document.json else .error "unsupported JSON escape") := by
  have answers := print_answers proper spaces
  have dropped : blank.dropWhile isSpace = [] := by
    simpa using dropWhile_blank spaces []
  split
  · rename_i legible
    rw [parse_of_yields (answers.1 legible), if_pos dropped]
  · rename_i unreadable
    exact parse_of_throws (answers.2 unreadable)

end Document
end WhRepeater
