import WhRepeater.JsonDocuments

/-! What the JSON reader makes of a text that was cut short. A value that ends
before the cut is read alike with the rest of the text behind it, so a cut text
is either rejected or read as the whole. -/
namespace WhRepeater

namespace JsonParser

variable {parser parser' : JsonParser α} {next next' : α → JsonParser γ} {input rest last : Bytes} {value : α} {other : γ}

theorem bind_yields (read : Yields (parser >>= next) input other last) :
    ∃ value rest, Yields parser input value rest ∧ Yields (next value) rest other last := by
  cases first : parser input with
  | none =>
    simp only [Yields, Bind.bind, StateT.bind, ExceptT.bind, ExceptT.mk, first] at read
    cases read
  | some outcome =>
    cases outcome with
    | error message =>
      have throws : Throws (parser >>= next) input message := throws_bind first
      cases read.symm.trans throws
    | ok result =>
      obtain ⟨value, rest⟩ := result
      exact ⟨value, rest, first, (run_bind first).symm.trans read⟩

/-- When something is left of the input, the other parser reads alike with more
of it. -/
def Extends (parser parser' : JsonParser α) : Prop :=
  ∀ input value rest, Yields parser input value rest →
    ∃ taken, input = taken ++ rest ∧ (rest ≠ [] → ∀ more, Yields parser' (input ++ more) value (rest ++ more))

/-- The other parser reads alike with more of the input. -/
def Steady (parser parser' : JsonParser α) : Prop :=
  ∀ input value rest, Yields parser input value rest →
    ∃ taken, input = taken ++ rest ∧ ∀ more, Yields parser' (input ++ more) value (rest ++ more)

/-- The parser takes some of the input, and knows by itself where to end. -/
def Closes (parser parser' : JsonParser α) : Prop :=
  Steady parser parser' ∧ ∀ value rest, ¬ Yields parser [] value rest

theorem Steady.extends (steady : Steady parser parser') : Extends parser parser' := by
  intro input value rest read
  obtain ⟨taken, split, longer⟩ := steady input value rest read
  exact ⟨taken, split, fun _ => longer⟩

theorem extends_bind (first : Extends parser parser') (second : ∀ value, Extends (next value) (next' value)) :
    Extends (parser >>= next) (parser' >>= next') := by
  intro input other last read
  obtain ⟨value, rest, front, back⟩ := bind_yields read
  obtain ⟨taken, rfl, longer⟩ := first input value rest front
  obtain ⟨further, rfl, later⟩ := second value rest other last back
  refine ⟨taken ++ further, by simp, fun left more => ?_⟩
  exact yields_bind (longer (by simp [left]) more) (later left more)

theorem steady_bind (first : Steady parser parser') (second : ∀ value, Steady (next value) (next' value)) :
    Steady (parser >>= next) (parser' >>= next') := by
  intro input other last read
  obtain ⟨value, rest, front, back⟩ := bind_yields read
  obtain ⟨taken, rfl, longer⟩ := first input value rest front
  obtain ⟨further, rfl, later⟩ := second value rest other last back
  exact ⟨taken ++ further, by simp, fun more => yields_bind (longer more) (later more)⟩

theorem closes_bind_steady (first : Closes parser parser') (second : ∀ value, Steady (next value) (next' value)) :
    Closes (parser >>= next) (parser' >>= next') := by
  refine ⟨steady_bind first.1 second, ?_⟩
  intro other last read
  obtain ⟨value, rest, front, -⟩ := bind_yields read
  exact first.2 value rest front

/-- What is left for a parser that takes some of the input is not empty. -/
theorem closes_bind (first : Extends parser parser') (second : ∀ value, Closes (next value) (next' value)) :
    Closes (parser >>= next) (parser' >>= next') := by
  constructor
  · intro input other last read
    obtain ⟨value, rest, front, back⟩ := bind_yields read
    obtain ⟨taken, rfl, longer⟩ := first input value rest front
    have left : rest ≠ [] := by
      rintro rfl
      exact (second value).2 other last back
    obtain ⟨further, rfl, later⟩ := (second value).1 rest other last back
    exact ⟨taken ++ further, by simp, fun more => yields_bind (longer left more) (later more)⟩
  · intro other last read
    obtain ⟨value, rest, front, back⟩ := bind_yields read
    obtain ⟨taken, split, -⟩ := first [] value rest front
    obtain ⟨-, rfl⟩ := List.append_eq_nil_iff.mp split.symm
    exact (second value).2 other last back

theorem steady_pure (value : α) : Steady (pure value) (pure value) := by
  intro input same rest read
  cases read
  exact ⟨[], rfl, fun _ => rfl⟩

theorem steady_throw (message : String) : Steady (throw message) parser' := by
  intro input value rest read
  cases read

/-! ## The pieces of a value -/

theorem dropWhile_append_of_left {keep : UInt8 → Bool} (left : input.dropWhile keep ≠ []) (more : Bytes) :
    (input ++ more).dropWhile keep = input.dropWhile keep ++ more := by
  induction input with
  | nil => exact absurd rfl left
  | cons ch input ih =>
    rw [List.cons_append, List.dropWhile_cons, List.dropWhile_cons] at *
    split
    · rename_i kept
      rw [if_pos kept] at left
      exact ih left
    · rfl

theorem extends_skipSpace : Extends skipSpace skipSpace := by
  intro input value rest read
  cases read
  refine ⟨input.takeWhile isSpace, List.takeWhile_append_dropWhile.symm, fun left more => ?_⟩
  refine (yields_skipSpace _).trans ?_
  rw [dropWhile_append_of_left left]

theorem closes_expect (ch : Char) : Closes (expect ch) (expect ch) := by
  constructor
  · intro input value rest read
    obtain ⟨behind, split, yields⟩ | throws := expect_cases ch input
    · cases read.symm.trans yields
      refine ⟨input.takeWhile isSpace ++ [code ch], ?_, fun more => ?_⟩
      · rw [List.append_assoc, List.singleton_append, ← split, List.takeWhile_append_dropWhile]
      · have longer : (input ++ more).dropWhile isSpace = code ch :: (rest ++ more) := by
          rw [dropWhile_append_of_left (by simp [split]), split, List.cons_append]
        obtain ⟨behind, same, yields⟩ | throws := expect_cases ch (input ++ more)
        · cases same.symm.trans longer
          exact yields
        · refine yields_bind (yields_skipSpace _) ?_
          rw [longer]
          exact yields_bind (yields_accept ch _) (yields_pure () _)
    · cases read.symm.trans throws
  · intro value rest read
    obtain ⟨behind, split, -⟩ | throws := expect_cases ch []
    · cases split
    · cases read.symm.trans throws

theorem extends_accept (ch : Char) : Extends (accept ch) (accept ch) := by
  intro input value rest read
  obtain ⟨taken, behind, split, yields⟩ := accept_splits ch input
  cases read.symm.trans yields
  refine ⟨_, split, fun left more => ?_⟩
  rw [split]
  cases value with
  | true => exact yields_accept ch (rest ++ more)
  | false =>
    rw [split] at yields
    refine yields_accept_false ?_
    cases rest with
    | nil => exact absurd rfl left
    | cons first rest =>
      intro there
      have taken : Yields (accept ch) (first :: rest) true rest := by
        obtain rfl : first = code ch := by simpa using there
        exact yields_accept ch rest
      cases taken.symm.trans yields

theorem extends_digits : Extends digits digits := by
  intro input value rest read
  cases read
  refine ⟨_, List.takeWhile_append_dropWhile.symm, fun left more => ?_⟩
  have front : (input ++ more).takeWhile isDigit = input.takeWhile isDigit := by
    have same := List.takeWhile_append_dropWhile (p := isDigit) (l := input ++ more)
    rw [dropWhile_append_of_left left, ← List.append_assoc] at same
    have whole : (input ++ more).takeWhile isDigit ++ input.dropWhile isDigit =
        input.takeWhile isDigit ++ input.dropWhile isDigit :=
      (List.append_cancel_right same).trans List.takeWhile_append_dropWhile.symm
    exact List.append_cancel_right whole
  have yields : Yields digits (input ++ more) ((input ++ more).takeWhile isDigit) ((input ++ more).dropWhile isDigit) := rfl
  rwa [front, dropWhile_append_of_left left] at yields

theorem extends_fractionDigits (point : Bool) : Extends (fractionDigits point) (fractionDigits point) := by
  cases point with
  | true => exact extends_digits
  | false => exact (steady_pure []).extends

theorem extends_parseNumber : Extends parseNumber parseNumber := by
  refine extends_bind (extends_accept '-') fun negative => ?_
  refine extends_bind extends_digits fun whole => ?_
  refine extends_bind (extends_accept '.') fun point => ?_
  refine extends_bind (extends_fractionDigits point) fun fraction => ?_
  split
  · exact (steady_throw _).extends
  · intro input value rest read
    simp only [Yields, ExceptT.mk] at read
    cases number : stod negative whole fraction with
    | error message =>
      rw [number] at read
      cases read
    | ok written =>
      rw [number] at read
      cases read
      refine ⟨[], rfl, fun _ more => ?_⟩
      rfl

theorem stringBody_extends {text : Bytes} (read : stringBody input = .ok (text, rest)) :
    input ≠ [] ∧ ∃ taken, input = taken ++ rest ∧ ∀ more, stringBody (input ++ more) = .ok (text, rest ++ more) := by
  fun_induction stringBody input generalizing text rest with
  | case1 => cases read
  | case2 later =>
    cases read
    exact ⟨List.cons_ne_nil _ _, [code '"'], rfl, fun more => by rw [List.cons_append, stringBody.eq_def]; rfl⟩
  | case3 ch later quote escape ih =>
    cases body : stringBody later with
    | error message => simp [body, Except.map] at read
    | ok result =>
      obtain ⟨front, back⟩ := result
      simp only [body, Except.map, Except.ok.injEq, Prod.mk.injEq] at read
      obtain ⟨rfl, rfl⟩ := read
      obtain ⟨-, taken, split, longer⟩ := ih body
      refine ⟨List.cons_ne_nil _ _, ch :: taken, by rw [split]; rfl, fun more => ?_⟩
      rw [List.cons_append, stringBody.eq_def]
      simp [quote, escape, longer more, Except.map]
  | case4 => cases read
  | case5 => cases read
  | case6 backslash quote escape escaped later ch known ih =>
    cases body : stringBody later with
    | error message => simp [body, Except.map] at read
    | ok result =>
      obtain ⟨front, back⟩ := result
      simp only [body, Except.map, Except.ok.injEq, Prod.mk.injEq] at read
      obtain ⟨rfl, rfl⟩ := read
      obtain ⟨-, taken, split, longer⟩ := ih body
      refine ⟨List.cons_ne_nil _ _, backslash :: escaped :: taken, by rw [split]; rfl, fun more => ?_⟩
      rw [List.cons_append, List.cons_append, stringBody.eq_def]
      simp [quote, escape, known, longer more, Except.map]

theorem closes_parseString : Closes parseString parseString := by
  refine closes_bind_steady (closes_expect '"') fun _ => ?_
  intro input value rest read
  obtain ⟨-, taken, split, longer⟩ := stringBody_extends (Option.some.inj read)
  exact ⟨taken, split, fun more => congrArg some (longer more)⟩

theorem steady_consumeLiteral (literal : String) : Steady (consumeLiteral literal) (consumeLiteral literal) := by
  intro input value rest read
  obtain ⟨seen, same, got, read⟩ := bind_yields read
  cases got
  split at read
  · rename_i there
    cases read
    refine ⟨_, (List.take_append_drop _ input).symm, fun more => ?_⟩
    have long : (bytes literal).length ≤ input.length := by
      have length := congrArg List.length there
      rw [List.length_take] at length
      omega
    refine yields_bind (rfl : Yields get (input ++ more) (input ++ more) (input ++ more)) ?_
    rw [List.take_append_of_le_length long, if_pos there]
    refine Eq.trans (b := some (.ok ((), (input ++ more).drop (bytes literal).length))) rfl ?_
    rw [List.drop_append_of_le_length long]
  · cases read

/-! ## Values -/

/-- A character, and another parser where it is not there. -/
theorem closes_choice {ch : Char} {there there' absent absent' : JsonParser α} (yes : Steady there there')
    (no : Closes absent absent') :
    Closes (do if ← accept ch then there else absent) (do if ← accept ch then there' else absent') := by
  constructor
  · intro input value last read
    obtain ⟨taken, rest, accepted, read⟩ := bind_yields read
    obtain ⟨front, split, longer⟩ := extends_accept ch input taken rest accepted
    cases taken with
    | true =>
      obtain ⟨same, behind, split', yields⟩ := accept_splits ch input
      cases accepted.symm.trans yields
      obtain ⟨back, rfl, later⟩ := yes rest value last read
      refine ⟨code ch :: back, split', fun more => ?_⟩
      rw [split']
      exact yields_bind (yields_accept ch _) (later more)
    | false =>
      obtain ⟨back, rfl, later⟩ := no.1 rest value last read
      have left : back ++ last ≠ [] := by
        intro nothing
        rw [nothing] at read
        exact no.2 value last read
      exact ⟨front ++ back, by rw [split, List.append_assoc], fun more => yields_bind (longer left more) (later more)⟩
  · intro value last read
    obtain ⟨taken, rest, accepted, read⟩ := bind_yields read
    cases accepted
    exact no.2 value last read

theorem closes_following {closing : Char} {more more' : JsonParser (List α)} (contents : Closes more more') :
    Closes (following closing more) (following closing more') := by
  refine closes_bind extends_skipSpace fun _ => ?_
  refine closes_choice (steady_pure []) ?_
  exact closes_bind_steady (closes_expect ',') fun _ => contents.1

theorem closes_bracketed {opening closing : Char} {contents contents' : JsonParser (List α)}
    (inside : Closes contents contents') :
    Closes (bracketed opening closing contents) (bracketed opening closing contents') := by
  refine closes_bind_steady (closes_expect opening) fun _ => ?_
  refine (closes_bind extends_skipSpace fun _ => ?_).1
  exact closes_choice (steady_pure []) inside

/-- The first character of a value, and what it begins. -/
theorem extends_peek {message : String} {body body' : UInt8 → JsonParser α} (bodies : ∀ ch, Extends (body ch) (body' ch)) :
    Extends
      (do
        skipSpace
        match (← get).head? with
        | none => throw message
        | some ch => body ch)
      (do
        skipSpace
        match (← get).head? with
        | none => throw message
        | some ch => body' ch) := by
  intro input value last read
  obtain ⟨done, spaced, skipped, read⟩ := bind_yields read
  obtain ⟨seen, same, got, read⟩ := bind_yields read
  cases got
  obtain ⟨front, split, longer⟩ := extends_skipSpace input _ _ skipped
  cases spaced with
  | nil => cases read
  | cons ch spaced =>
    obtain ⟨back, split', later⟩ := bodies ch _ value last read
    refine ⟨front ++ back, by rw [split, split', List.append_assoc], fun left more => ?_⟩
    refine yields_bind (longer (List.cons_ne_nil _ _) more) (yields_bind rfl ?_)
    exact later left more

/-- With more fuel and more input. -/
theorem values_extend (fuel fuel' : Nat) (enough : fuel ≤ fuel') : Extends (parseValue fuel) (parseValue fuel') ∧
    Closes (parseElements fuel) (parseElements fuel') ∧ Closes (parseMembers fuel) (parseMembers fuel') := by
  induction fuel generalizing fuel' with
  | zero =>
    refine ⟨?_, ⟨?_, ?_⟩, ⟨?_, ?_⟩⟩
    · intro input value rest read
      cases read
    · intro input value rest read
      cases read
    · intro value rest read
      cases read
    · intro input value rest read
      cases read
    · intro value rest read
      cases read
  | succ fuel ih =>
    obtain ⟨fuel', rfl⟩ := Nat.exists_eq_succ_of_ne_zero (Nat.ne_of_gt (Nat.lt_of_lt_of_le fuel.succ_pos enough))
    obtain ⟨value, elements, members⟩ := ih fuel' (Nat.le_of_succ_le_succ enough)
    refine ⟨?_, ?_, ?_⟩
    · unfold parseValue
      refine extends_peek fun ch => ?_
      have literal := fun (text : String) (value : Json) =>
        (steady_bind (steady_consumeLiteral text) fun _ => steady_pure value).extends
      split
      · exact literal "null" .null
      · split
        · exact literal "true" (.boolean true)
        · split
          · exact literal "false" (.boolean false)
          · split
            · exact (closes_bind_steady closes_parseString fun _ => steady_pure _).1.extends
            · split
              · exact (closes_bind_steady (closes_bracketed elements) fun _ => steady_pure _).1.extends
              · split
                · exact (closes_bind_steady (closes_bracketed members) fun _ => steady_pure _).1.extends
                · exact extends_parseNumber
    · unfold parseElements
      refine closes_bind value fun first => ?_
      exact closes_bind_steady (closes_following elements) fun _ => steady_pure _
    · unfold parseMembers
      refine closes_bind_steady closes_parseString fun key => ?_
      refine (closes_bind extends_skipSpace fun _ => ?_).1
      refine closes_bind_steady (closes_expect ':') fun _ => ?_
      refine (closes_bind value fun first => ?_).1
      exact closes_bind_steady (closes_following members) fun _ => steady_pure _

theorem parse_yields {text : Bytes} {json : Json} (read : parse text = some (.ok json)) :
    ∃ rest, Yields (parseValue (2 * text.length + 1)) text json rest ∧ rest.dropWhile isSpace = [] := by
  obtain ⟨outcome, ends, -⟩ := (values_finish (2 * text.length + 1)).1 text (Nat.lt_succ_self _)
  cases outcome with
  | error message => cases read.symm.trans (parse_of_throws ends)
  | ok result =>
    obtain ⟨value, rest⟩ := result
    have same := read.symm.trans (parse_of_yields ends)
    split at same
    · rename_i blank
      cases same
      exact ⟨rest, ends, blank⟩
    · cases same

/-- What is read of a text that was cut is what the whole begins with. -/
theorem yields_of_cut {front : Bytes} {part : Json} (cut : parse (code '{' :: front) = some (.ok part)) (back : Bytes) :
    ∃ rest, Yields (parseValue (2 * (code '{' :: front ++ back).length + 1)) (code '{' :: front ++ back) part rest := by
  obtain ⟨left, early, -⟩ := parse_yields cut
  have more : 2 * (code '{' :: front).length ≤ 2 * (code '{' :: front ++ back).length := by simp
  have closes := closes_bind_steady (@closes_bracketed _ '{' '}' _ _ (values_extend _ _ more).2.2)
    fun members => steady_pure (Json.object members)
  rw [Yields, parseValue_brace] at early
  obtain ⟨taken, -, longer⟩ := closes.1 _ part left early
  refine ⟨left ++ back, ?_⟩
  rw [Yields, List.cons_append, parseValue_brace]
  exact longer back

/-- Where a text that begins with a brace was cut, it is rejected or read as the whole. -/
theorem parse_cut {front back : Bytes} {whole part : Json} (read : parse (code '{' :: front ++ back) = some (.ok whole))
    (cut : parse (code '{' :: front) = some (.ok part)) : part = whole := by
  obtain ⟨rest, yields, -⟩ := parse_yields read
  obtain ⟨left, again⟩ := yields_of_cut cut back
  cases yields.symm.trans again
  rfl

/-- What is read of the first bytes of such a text. -/
theorem yields_of_take {text : Bytes} {received : Nat} {part : Json}
    (cut : parse ((code '{' :: text).take received) = some (.ok part)) :
    ∃ rest, Yields (parseValue (2 * (code '{' :: text).length + 1)) (code '{' :: text) part rest := by
  cases received with
  | zero => cases cut
  | succ received =>
    have yields := yields_of_cut cut (text.drop received)
    rwa [List.cons_append, List.take_append_drop] at yields

/-! ## Exponents

The reader takes the digits before an exponent for the number, and finds the
letter where a comma or a bracket is to be. -/

/-- A number with an exponent. -/
def Exponent (text : Bytes) : Prop := ∃ json rest, Yields parseNumber text json (code 'e' :: rest)

/-- The text has no value, or a letter behind it. -/
def Stuck (parser : JsonParser α) (input : Bytes) : Prop :=
  (∃ message, Throws parser input message) ∨ ∃ value rest, Yields parser input value (code 'e' :: rest)

def Fails (parser : JsonParser α) (input : Bytes) : Prop := ∃ message, Throws parser input message

theorem fails_after (first : Yields parser input value rest) (second : Fails (next value) rest) :
    Fails (parser >>= next) input := by
  obtain ⟨message, throws⟩ := second
  exact ⟨message, yields_bind_throws first throws⟩

theorem fails_first (first : Fails parser input) : Fails (parser >>= next) input := by
  obtain ⟨message, throws⟩ := first
  exact ⟨message, throws_bind throws⟩

theorem stuck_exponent {text : Bytes} (exponent : Exponent text) (fuel : Nat) (rest : Bytes) :
    Stuck (parseValue (fuel + 1)) (text ++ rest) := by
  obtain ⟨json, behind, yields⟩ := exponent
  obtain ⟨negative, point, whole, fraction, split, digits, -, -, number, -⟩ := numberText_of_yields yields
  obtain ⟨ch, tail, start, starts⟩ := @numberText_starts negative point whole fraction digits number
  obtain ⟨-, -, longer⟩ := extends_parseNumber _ _ _ yields
  have alone := longer (List.cons_ne_nil _ _) rest
  have started : text ++ rest = ch :: (tail ++ (code 'e' :: behind ++ rest)) := by rw [split, start]; simp
  right
  refine ⟨json, behind ++ rest, ?_⟩
  rw [started] at alone ⊢
  exact yields_value_of_number starts alone fuel

theorem following_fails {closing : Char} (more : JsonParser (List α)) (other : code closing ≠ code 'e') (rest : Bytes) :
    Fails (following closing more) (code 'e' :: rest) := by
  have letter : isSpace (code 'e') = false := rfl
  refine fails_after (yields_skipBlank no_blank letter) (fails_after (yields_accept_false ?_) ?_)
  · simpa using other.symm
  · refine fails_first ?_
    obtain ⟨behind, split, -⟩ | throws := expect_cases ',' (code 'e' :: rest)
    · simp [letter] at split
      exact absurd split.1 (by decide)
    · exact ⟨_, throws⟩

theorem member_fails {name : String} {colon blank : Bytes} {fuel : Nat} (plain : Document.PlainName name)
    (spaces : blank.all isSpace = true) (stuck : Stuck (parseValue fuel) (colon ++ input)) :
    Fails (parseMembers (fuel + 1)) (blank ++ (code '"' :: bytes name ++ code '"' :: code ':' :: (colon ++ input))) := by
  unfold parseMembers
  refine fails_after (yields_key plain spaces _) (fails_after (yields_skipSpace _) (fails_after (yields_expect rfl _) ?_))
  rcases stuck with throws | ⟨value, rest, yields⟩
  · exact fails_first throws
  · exact fails_after yields (fails_first (following_fails _ (by decide) rest))

theorem later_member_fails {name : String} {colon blank : Bytes} {value : Json} {fuel : Nat}
    (plain : Document.PlainName name) (spaces : blank.all isSpace = true)
    (first : Yields (parseValue fuel) (colon ++ input) value (code ',' :: rest)) (others : Fails (parseMembers fuel) rest) :
    Fails (parseMembers (fuel + 1)) (blank ++ (code '"' :: bytes name ++ code '"' :: code ':' :: (colon ++ input))) := by
  unfold parseMembers
  refine fails_after (yields_key plain spaces _) (fails_after (yields_skipSpace _) (fails_after (yields_expect rfl _) (fails_after first ?_)))
  have differs : (code ',' :: rest).head? ≠ some (code '}') := by simpa using (by decide : code ',' ≠ code '}')
  refine fails_first (fails_after (yields_skipBlank no_blank rfl) (fails_after (yields_accept_false differs) ?_))
  exact fails_after (yields_expect rfl rest) others

end JsonParser

namespace Document

open JsonParser

variable {printDouble : Rat → Bytes}

/-- A member whose text is no value, behind others. -/
theorem members_fail (front : List (String × Document)) {name : String} {value : Document}
    {back : List (String × Document)} (proper : ProperMembers printDouble front) (plain : PlainName name)
    {blank comma colon : Bytes} (spaces : blank.all isSpace = true) (comma_spaces : comma.all isSpace = true)
    (colon_spaces : colon.all isSpace = true) (rest : Bytes) (fuel : Nat)
    (enough : 2 * (blank.length +
      (separated (code ',' :: comma) (printMembers printDouble colon (front ++ (name, value) :: back))).length +
      rest.length) + 1 < fuel)
    (stuck : ∀ fuel rest, 2 * ((value.print printDouble).length + rest.length) < fuel →
      Stuck (parseValue fuel) (value.print printDouble ++ rest)) :
    Fails (parseMembers fuel)
      (blank ++ (separated (code ',' :: comma) (printMembers printDouble colon (front ++ (name, value) :: back)) ++ rest)) := by
  obtain ⟨fuel, rfl⟩ := Nat.exists_eq_succ_of_ne_zero (Nat.ne_of_gt (Nat.zero_lt_of_lt enough))
  induction front generalizing blank fuel with
  | nil =>
    obtain ⟨tail, split⟩ := separated_cons (code ',' :: comma)
      (code '"' :: bytes name ++ code '"' :: code ':' :: colon ++ value.print printDouble) (printMembers printDouble colon back)
    rw [List.nil_append, printMembers, split] at enough ⊢
    simp only [List.length_append, List.length_cons] at enough
    rw [List.append_assoc _ tail rest, name_first]
    refine member_fails plain spaces ?_
    obtain ⟨fuel, rfl⟩ := Nat.exists_eq_succ_of_ne_zero (Nat.ne_of_gt (by omega : 0 < fuel))
    simp only [Stuck, Throws, Yields, parseValue_blank colon_spaces]
    exact stuck _ _ (by simp only [List.length_append]; omega)
  | cons first front ih =>
    obtain ⟨first_name, first_value⟩ := first
    obtain ⟨first_plain, first_proper, others_proper⟩ := proper
    obtain ⟨next, members, same⟩ : ∃ next members, front ++ (name, value) :: back = next :: members := by
      cases front with
      | nil => exact ⟨_, _, rfl⟩
      | cons next front => exact ⟨_, _, rfl⟩
    obtain ⟨next_name, next_value⟩ := next
    rw [List.cons_append, same, printMembers, printMembers, separated_cons_cons, ← printMembers, ← same] at enough ⊢
    simp only [List.length_append, List.length_cons] at enough
    have comma_ends : isDigit (code ',') = false ∧ code ',' ≠ code '.' := by decide
    have answers := value_answers first_value first_proper colon_spaces (delimited_blank no_blank comma_ends
      (comma ++ (separated (code ',' :: comma) (printMembers printDouble colon (front ++ (name, value) :: back)) ++ rest)))
      fuel (by simp only [List.length_append, List.length_cons, List.length_nil]; omega)
    rw [List.append_assoc, name_first, List.append_assoc]
    by_cases legible : ∀ text ∈ first_value.texts, Legible text
    · obtain ⟨fuel, rfl⟩ := Nat.exists_eq_succ_of_ne_zero (Nat.ne_of_gt (by omega : 0 < fuel))
      exact later_member_fails first_plain spaces (answers.1 legible)
        (ih others_proper comma_spaces fuel (by omega))
    · exact member_fails first_plain spaces (.inl ⟨_, answers.2 legible⟩)

/-- An object with such a member is no value. -/
theorem object_fails {layout : Layout} (front : List (String × Document)) {name : String} {value : Document}
    {back : List (String × Document)} (proper : ProperMembers printDouble front) (plain : PlainName name) (rest : Bytes)
    (fuel : Nat)
    (enough : 2 * (((object layout (front ++ (name, value) :: back)).print printDouble).length + rest.length) < fuel)
    (stuck : ∀ fuel rest, 2 * ((value.print printDouble).length + rest.length) < fuel →
      Stuck (parseValue fuel) (value.print printDouble ++ rest)) :
    Fails (parseValue fuel) ((object layout (front ++ (name, value) :: back)).print printDouble ++ rest) := by
  obtain ⟨fuel, rfl⟩ := Nat.exists_eq_succ_of_ne_zero (Nat.ne_of_gt (Nat.zero_lt_of_lt enough))
  obtain ⟨opening, comma, colon, closing⟩ := layout.spaces
  simp only [print, List.append_assoc, List.cons_append, List.nil_append, List.length_append, List.length_cons,
    List.length_nil, Fails, Throws, parseValue_brace] at enough ⊢
  have inside := @members_fail printDouble front name value back proper plain [] _ _ no_blank comma colon
    (layout.closing ++ code '}' :: rest) fuel
    (by simp only [List.length_append, List.length_cons, List.length_nil]; omega) stuck
  obtain ⟨tail, opens⟩ : ∃ tail, separated (code ',' :: layout.comma)
      (printMembers printDouble layout.colon (front ++ (name, value) :: back)) = code '"' :: tail := by
    cases front with
    | nil =>
      obtain ⟨tail, split⟩ := separated_cons (code ',' :: layout.comma)
        (code '"' :: bytes name ++ code '"' :: code ':' :: layout.colon ++ value.print printDouble)
        (printMembers printDouble layout.colon back)
      exact ⟨_, split⟩
    | cons first front =>
      obtain ⟨tail, split⟩ := separated_cons (code ',' :: layout.comma)
        (code '"' :: bytes first.1 ++ code '"' :: code ':' :: layout.colon ++ first.2.print printDouble)
        (printMembers printDouble layout.colon (front ++ (name, value) :: back))
      exact ⟨_, split⟩
  rw [opens] at inside ⊢
  refine fails_first (fails_after (yields_expect rfl _) (fails_after (yields_skipBlank opening rfl) ?_))
  have differs : (code '"' :: (tail ++ (layout.closing ++ code '}' :: rest))).head? ≠ some (code '}') := by
    simpa using (by decide : code '"' ≠ code '}')
  exact fails_after (yields_accept_false differs) inside

end Document
end WhRepeater
