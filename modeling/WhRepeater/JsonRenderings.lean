import WhRepeater.JsonDocuments

/-! Every way to write a JSON value, and what `JsonParser` makes of it
(`config.cpp`). White space may stand between any two tokens, a number may be any
decimal of the value, and strings are those `jsonString` writes. -/
namespace WhRepeater

namespace JsonParser

/-- White space of the reader. That of JSON is space, tab, newline and carriage
return. -/
def Blank (text : Bytes) : Prop := text.all isSpace = true

instance : Decidable (Blank text) := inferInstanceAs (Decidable (_ = true))

/-- What a decimal stands for. -/
def decimalValue (negative : Bool) (whole fraction : Bytes) : Rat :=
  let written : Rat := digitsValue (whole ++ fraction) / 10 ^ fraction.length
  if negative then -written else written

mutual
/-- The text writes the value. -/
inductive Renders : Json → Bytes → Prop where
  | null : Renders .null (bytes "null")
  | boolean (value : Bool) : Renders (.boolean value) (if value then bytes "true" else bytes "false")
  | number (negative point : Bool) (whole fraction : Bytes) (wholeDigits : whole.all isDigit = true)
      (fractionDigits : fraction.all isDigit = true) (number : whole ≠ []) (pointed : point = false → fraction = [])
      (double : Binary64.Represents (decimalValue negative whole fraction)) :
      Renders (.number (decimalValue negative whole fraction)) (numberText negative whole point fraction)
  | string (value : Bytes) (legible : Legible value) : Renders (.string value) (jsonString value)
  | emptyArray (inside : Bytes) (blank : Blank inside) : Renders (.array []) (code '[' :: inside ++ [code ']'])
  | array (items : List Json) (text : Bytes) (contents : RendersItems items text) :
      Renders (.array items) (code '[' :: text ++ [code ']'])
  | emptyObject (inside : Bytes) (blank : Blank inside) : Renders (.object []) (code '{' :: inside ++ [code '}'])
  | object (members : List (Bytes × Json)) (text : Bytes) (distinct : (members.map Prod.fst).Nodup)
      (contents : RendersMembers members text) : Renders (.object members) (code '{' :: text ++ [code '}'])

inductive RendersItems : List Json → Bytes → Prop where
  | last (item : Json) (before text after : Bytes) (front : Blank before) (written : Renders item text)
      (back : Blank after) : RendersItems [item] (before ++ text ++ after)
  | more (item : Json) (before text after : Bytes) (items : List Json) (others : Bytes) (front : Blank before)
      (written : Renders item text) (back : Blank after) (contents : RendersItems items others) :
      RendersItems (item :: items) (before ++ text ++ after ++ code ',' :: others)

inductive RendersMembers : List (Bytes × Json) → Bytes → Prop where
  | last (key : Bytes) (value : Json) (before behind colon text after : Bytes) (front : Blank before)
      (legible : Legible key) (named : Blank behind) (separated : Blank colon) (written : Renders value text)
      (back : Blank after) :
      RendersMembers [(key, value)] (before ++ jsonString key ++ behind ++ code ':' :: (colon ++ text ++ after))
  | more (key : Bytes) (value : Json) (before behind colon text after : Bytes) (members : List (Bytes × Json))
      (others : Bytes) (front : Blank before) (legible : Legible key) (named : Blank behind) (separated : Blank colon)
      (written : Renders value text) (back : Blank after) (contents : RendersMembers members others) :
      RendersMembers ((key, value) :: members)
        (before ++ jsonString key ++ behind ++ code ':' :: (colon ++ text ++ after ++ code ',' :: others))
end

variable {input rest last text blank before after : Bytes} {value : Json} {items : List Json} {members : List (Bytes × Json)}

/-! ## Numbers -/

/-- The sign is all that rounding and the magnitude see of it. -/
theorem abs_decimalValue (negative : Bool) (whole fraction : Bytes) :
    |decimalValue negative whole fraction| = digitsValue (whole ++ fraction) / 10 ^ fraction.length := by
  have written : (0 : Rat) ≤ digitsValue (whole ++ fraction) / 10 ^ fraction.length := by positivity
  cases negative with
  | true => simp only [decimalValue, if_true, abs_neg, abs_of_nonneg written]
  | false => simp only [decimalValue, Bool.false_eq_true, if_false, abs_of_nonneg written]

/-- A decimal that a double represents is what `std::stod` gives. -/
theorem stod_decimal {negative : Bool} {whole fraction : Bytes} (number : whole ≠ [])
    (double : Binary64.Represents (decimalValue negative whole fraction)) :
    stod negative whole fraction = .ok (decimalValue negative whole fraction) := by
  have rounded : Binary64.round (decimalValue negative whole fraction) = decimalValue negative whole fraction :=
    Binary64.round_of_represents double
  have magnitude := abs_decimalValue negative whole fraction
  have bounded := not_le.mpr double.1
  rw [magnitude] at bounded
  unfold decimalValue at rounded magnitude ⊢
  simp only [stod, rounded, number, false_and, if_false, bounded, magnitude, ne_eq, not_true, and_false]
  rfl

theorem yields_decimal {negative point : Bool} {whole fraction : Bytes} (wholeDigits : whole.all isDigit = true)
    (fractionDigits : fraction.all isDigit = true) (number : whole ≠ []) (pointed : point = false → fraction = [])
    (double : Binary64.Represents (decimalValue negative whole fraction)) :
    Yields parseNumber (numberText negative whole point fraction) (.number (decimalValue negative whole fraction)) [] := by
  have read := @parseNumber_numberText negative point whole fraction [] wholeDigits fractionDigits pointed
    (fun none => number none.1) (by rintro next ⟨⟩)
  rw [List.append_nil, stod_decimal number double] at read
  exact read

/-! ## Starts -/

/-- No value starts with white space or a closing bracket. -/
theorem Renders.opens (renders : Renders value text) : Opens ']' text := by
  cases renders with
  | null => exact ⟨code 'n', _, rfl, rfl, by decide⟩
  | boolean value =>
    cases value with
    | true => exact ⟨code 't', _, rfl, rfl, by decide⟩
    | false => exact ⟨code 'f', _, rfl, rfl, by decide⟩
  | number negative point whole fraction wholeDigits fractionDigits number pointed double =>
    obtain ⟨ch, tail, split, starts⟩ := @numberText_starts negative point whole fraction wholeDigits
      fun none => number none.1
    exact ⟨ch, tail, split, starts.not_space, starts.ne (by decide) rfl (by decide)⟩
  | string value legible => exact ⟨code '"', _, rfl, rfl, by decide⟩
  | emptyArray inside blank => exact ⟨code '[', _, rfl, rfl, by decide⟩
  | array items text contents => exact ⟨code '[', _, rfl, rfl, by decide⟩
  | emptyObject inside blank => exact ⟨code '{', _, rfl, rfl, by decide⟩
  | object members text distinct contents => exact ⟨code '{', _, rfl, rfl, by decide⟩

theorem RendersItems.opens (renders : RendersItems items text) :
    ∃ before later, Blank before ∧ text = before ++ later ∧ Opens ']' later := by
  cases renders with
  | last item before text after front written back =>
    exact ⟨before, text ++ after, front, List.append_assoc _ _ _, written.opens.append after⟩
  | more item before text after items others front written back contents =>
    exact ⟨before, text ++ (after ++ code ',' :: others), front, by simp, written.opens.append _⟩

theorem RendersMembers.opens (renders : RendersMembers members text) :
    ∃ before later, Blank before ∧ text = before ++ later ∧ Opens '}' later := by
  have quoted : ∀ key : Bytes, Opens '}' (jsonString key) := fun key => ⟨code '"', _, rfl, rfl, by decide⟩
  cases renders with
  | last key value before behind colon text after front =>
    exact ⟨before, jsonString key ++ (behind ++ code ':' :: (colon ++ text ++ after)), front, by simp, (quoted key).append _⟩
  | more key value before behind colon text after members others front =>
    exact ⟨before, jsonString key ++ (behind ++ code ':' :: (colon ++ text ++ after ++ code ',' :: others)), front, by simp,
      (quoted key).append _⟩

/-! ## Steps of the reader -/

theorem yields_jsonString {key : Bytes} (legible : Legible key) (rest : Bytes) :
    Yields parseString (jsonString key ++ rest) key rest := (answers_jsonString key rest).1 legible

/-- White space, the comma, and what is behind it. -/
theorem following_comma {closing : Char} {more : JsonParser (List α)} {contents : List α} (spaces : Blank blank)
    (not_comma : code ',' ≠ code closing) (others : Yields more input contents rest) :
    Yields (following closing more) (blank ++ code ',' :: input) contents rest := by
  have differs : (code ',' :: input).head? ≠ some (code closing) := by simpa using not_comma
  refine yields_bind (yields_skipBlank spaces rfl) ?_
  refine yields_bind (yields_accept_false differs) ?_
  exact yields_bind (yields_expect rfl input) others

theorem yields_bracketed {opening closing : Char} {parser : JsonParser (List α)} {contents : List α}
    (inside : Yields parser (blank ++ input) contents rest) (anywhere : parser (blank ++ input) = parser input)
    (spaces : Blank blank) (start : isSpace (code opening) = false) (opens : Opens closing input) :
    Yields (bracketed opening closing parser) (code opening :: (blank ++ input)) contents rest := by
  have read : Yields parser input contents rest := anywhere.symm.trans inside
  exact (answers_bracketed (answers_of_yields read) spaces start opens).1 trivial

theorem parseElements_blank (spaces : Blank blank) (fuel : Nat) (input : Bytes) :
    parseElements fuel (blank ++ input) = parseElements fuel input := by
  cases fuel with
  | zero => rfl
  | succ fuel =>
    unfold parseElements
    simp only [Bind.bind, StateT.bind, parseValue_blank spaces]

theorem parseMembers_blank (spaces : Blank blank) (fuel : Nat) (input : Bytes) :
    parseMembers fuel (blank ++ input) = parseMembers fuel input := by
  cases fuel with
  | zero => rfl
  | succ fuel =>
    unfold parseMembers
    simp only [Bind.bind, StateT.bind, parseString_blank spaces]

theorem yields_member {key colon behind : Bytes} {fuel : Nat} (spaces : Blank before) (legible : Legible key)
    (named : Blank behind) (separated : Blank colon) (first : Yields (parseValue fuel) input value rest)
    (others : Yields (following '}' (parseMembers fuel)) rest members last) :
    Yields (parseMembers (fuel + 1)) (before ++ jsonString key ++ behind ++ code ':' :: (colon ++ input))
      ((key, value) :: members) last := by
  rw [List.append_assoc, List.append_assoc, Yields, parseMembers_blank spaces]
  unfold parseMembers
  refine yields_bind (yields_jsonString legible _) ?_
  refine yields_bind (yields_skipBlank named rfl) ?_
  refine yields_bind (yields_expect rfl _) ?_
  have read : Yields (parseValue fuel) (colon ++ input) value rest := (parseValue_blank separated fuel input).trans first
  exact yields_bind read (yields_bind others (yields_pure _ last))

/-! ## Every rendering is read -/

mutual
/-- The value is read, a number before anything that ends it and any other value
before anything. -/
theorem Renders.yields {value : Json} {text : Bytes} (renders : Renders value text) {rest : Bytes}
    (ends : ∀ number, value = .number number → Delimited rest) (fuel : Nat)
    (enough : 2 * (text.length + rest.length) < fuel) : Yields (parseValue fuel) (text ++ rest) value rest := by
  obtain ⟨fuel, rfl⟩ := Nat.exists_eq_succ_of_ne_zero (Nat.ne_of_gt (Nat.zero_lt_of_lt enough))
  match renders with
  | .null =>
    unfold parseValue
    rfl
  | .boolean value => exact yields_flag value fuel rest
  | .number negative point whole fraction wholeDigits fractionDigits number pointed double =>
    exact yields_number (yields_decimal wholeDigits fractionDigits number pointed double) (ends _ rfl) fuel
  | .string value legible => exact (answers_text value rest fuel).1 legible
  | .emptyArray inside blank =>
    simp only [List.cons_append, List.append_assoc]
    exact (answers_array (answers_of_yields (bracketed_empty blank rfl rfl))).1 trivial
  | .array items text contents =>
    simp only [List.cons_append, List.append_assoc, List.length_append, List.length_cons, List.length_nil] at enough ⊢
    have inside := contents.yields rest fuel (by omega)
    obtain ⟨before, later, front, rfl, opens⟩ := contents.opens
    rw [List.append_assoc] at inside ⊢
    have read := @yields_bracketed _ _ _ _ '[' _ _ _ inside (parseElements_blank front fuel _) front rfl (opens.append _)
    exact (answers_array (answers_of_yields read)).1 trivial
  | .emptyObject inside blank =>
    simp only [List.cons_append, List.append_assoc]
    exact (answers_object (answers_of_yields (bracketed_empty blank rfl rfl))).1 trivial
  | .object members text distinct contents =>
    simp only [List.cons_append, List.append_assoc, List.length_append, List.length_cons, List.length_nil] at enough ⊢
    have inside := contents.yields rest fuel (by omega)
    obtain ⟨before, later, front, rfl, opens⟩ := contents.opens
    rw [List.append_assoc] at inside ⊢
    have read := @yields_bracketed _ _ _ _ '{' _ _ _ inside (parseMembers_blank front fuel _) front rfl (opens.append _)
    exact (answers_object (answers_of_yields read)).1 trivial

/-- The elements up to the closing bracket are read. -/
theorem RendersItems.yields {items : List Json} {text : Bytes} (renders : RendersItems items text) (rest : Bytes)
    (fuel : Nat) (enough : 2 * (text.length + rest.length + 1) + 1 < fuel) :
    Yields (parseElements fuel) (text ++ code ']' :: rest) items rest := by
  obtain ⟨fuel, rfl⟩ := Nat.exists_eq_succ_of_ne_zero (Nat.ne_of_gt (Nat.zero_lt_of_lt enough))
  match renders with
  | .last item before text after front written back =>
    simp only [List.append_assoc, List.length_append] at enough ⊢
    rw [Yields, parseElements_blank front]
    have ends := delimited_blank back (by decide : isDigit (code ']') = false ∧ code ']' ≠ code '.') rest
    have first := written.yields (fun _ _ => ends) fuel (by simp only [List.length_append, List.length_cons]; omega)
    have close := following_close (parseElements fuel) back (rfl : isSpace (code ']') = false) rest
    exact (answers_element (answers_of_yields first) (answers_of_yields close)).1 ⟨trivial, trivial⟩
  | .more item before text after items others front written back contents =>
    simp only [List.append_assoc, List.cons_append, List.length_append, List.length_cons] at enough ⊢
    rw [Yields, parseElements_blank front]
    have ends := delimited_blank back (by decide : isDigit (code ',') = false ∧ code ',' ≠ code '.')
      (others ++ code ']' :: rest)
    have first := written.yields (fun _ _ => ends) fuel (by simp only [List.length_append, List.length_cons]; omega)
    have later := following_comma back (by decide : code ',' ≠ code ']') (contents.yields rest fuel (by omega))
    exact (answers_element (answers_of_yields first) (answers_of_yields later)).1 ⟨trivial, trivial⟩

/-- The members up to the closing brace are read. -/
theorem RendersMembers.yields {members : List (Bytes × Json)} {text : Bytes} (renders : RendersMembers members text)
    (rest : Bytes) (fuel : Nat) (enough : 2 * (text.length + rest.length + 1) + 1 < fuel) :
    Yields (parseMembers fuel) (text ++ code '}' :: rest) members rest := by
  obtain ⟨fuel, rfl⟩ := Nat.exists_eq_succ_of_ne_zero (Nat.ne_of_gt (Nat.zero_lt_of_lt enough))
  match renders with
  | .last key value before behind colon text after front legible named separated written back =>
    simp only [List.append_assoc, List.cons_append, List.length_append, List.length_cons] at enough ⊢
    have ends := delimited_blank back (by decide : isDigit (code '}') = false ∧ code '}' ≠ code '.') rest
    have first := written.yields (fun _ _ => ends) fuel (by simp only [List.length_append, List.length_cons]; omega)
    have close := following_close (parseMembers fuel) back (rfl : isSpace (code '}') = false) rest
    simpa only [List.append_assoc] using yields_member front legible named separated first close
  | .more key value before behind colon text after members others front legible named separated written back contents =>
    simp only [List.append_assoc, List.cons_append, List.length_append, List.length_cons] at enough ⊢
    have ends := delimited_blank back (by decide : isDigit (code ',') = false ∧ code ',' ≠ code '.')
      (others ++ code '}' :: rest)
    have first := written.yields (fun _ _ => ends) fuel (by simp only [List.length_append, List.length_cons]; omega)
    have later := following_comma back (by decide : code ',' ≠ code '}') (contents.yields rest fuel (by omega))
    simpa only [List.append_assoc] using yields_member front legible named separated first later
end

/-! ## Whole texts -/

/-- A container ends at its bracket, whatever follows. -/
def Container (value : Json) : Prop := (∃ items, value = .array items) ∨ ∃ members, value = .object members

theorem Container.not_number (container : Container value) (number : Rat) : value ≠ .number number := by
  rcases container with ⟨items, rfl⟩ | ⟨members, rfl⟩ <;> nofun

theorem parse_behind (renders : Renders value text) (front : Blank before)
    (ends : ∀ number, value = .number number → Delimited rest) :
    parse (before ++ text ++ rest) =
      some (if rest.dropWhile isSpace = [] then .ok value else .error "unexpected trailing JSON input") := by
  refine parse_of_yields ?_
  rw [List.append_assoc, Yields, parseValue_blank front]
  exact renders.yields ends _ (by simp only [List.length_append]; omega)

/-- Every way to write a value parses to it, with any white space around it and
between its tokens, at any depth; and a container that anything but white space
follows is rejected. -/
theorem parse_rendering (renders : Renders value text) (front : Blank before) (back : Blank after) :
    parse (before ++ text ++ after) = some (.ok value) ∧
      (Container value → ∀ byte rest, isSpace byte = false →
        parse (before ++ text ++ after ++ byte :: rest) = some (.error "unexpected trailing JSON input")) := by
  constructor
  · have ends : Delimited after := by
      cases after with
      | nil => rintro next ⟨⟩
      | cons space after => exact delimited_space (List.all_eq_true.mp back space List.mem_cons_self) after
    have nothing : after.dropWhile isSpace = [] := by simpa using dropWhile_blank back []
    rw [parse_behind renders front fun _ _ => ends, if_pos nothing]
  · intro container byte rest solid
    have left : (after ++ byte :: rest).dropWhile isSpace = byte :: rest := by
      rw [dropWhile_blank back, List.dropWhile_cons_of_neg (by simp [solid])]
    rw [List.append_assoc, parse_behind renders front fun number same => absurd same (container.not_number number),
      left, if_neg (List.cons_ne_nil _ _)]

theorem represents_three_halves : Binary64.Represents (-3 / 2) := by
  refine ⟨?_, -3, -1, by decide, by decide, by norm_num⟩
  have small : |(-3 / 2 : Rat)| < 2 ^ 1 := by norm_num [abs_lt]
  exact small.trans_le (pow_le_pow_right₀ (by norm_num) (by decide))

theorem nested_value_parsed :
    parse (bytes " [-1.50 ,\t{}]\n") = some (.ok (.array [.number (-3 / 2), .object []])) ∧
      parse (bytes " [-1.50 ,\t{}]\n]") = some (.error "unexpected trailing JSON input") := by
  have digits : digitsValue (bytes "150") = 150 := by decide
  have written : decimalValue true (bytes "1") (bytes "50") = -3 / 2 := by
    change -((digitsValue (bytes "150") : Rat) / 10 ^ 2) = -3 / 2
    rw [digits]
    norm_num
  have number := Renders.number true true (bytes "1") (bytes "50") (by decide) (by decide) (by decide) nofun
    (written ▸ represents_three_halves)
  rw [written] at number
  have tab : Blank [9] := by decide
  have item := RendersItems.last (.object []) [9] _ [] tab (.emptyObject [] rfl) rfl
  have items := RendersItems.more _ [] _ (bytes " ") _ _ rfl number (by decide) item
  obtain ⟨read, rejected⟩ := @parse_rendering _ (bytes " ") (bytes "\n") _ (.array _ _ items) (by decide) (by decide)
  exact ⟨read, rejected (.inl ⟨_, rfl⟩) (code ']') [] rfl⟩

end JsonParser
end WhRepeater
