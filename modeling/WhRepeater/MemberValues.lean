import WhRepeater.SearchedObjects

/-! The values that a search by hand takes out of objects that are written with
`jsonString`. Whatever the strings are, a value is taken as it was written, once
its name was found. -/
namespace WhRepeater.TextScan

open ApiServer (member object array)

variable {ch opening closing : UInt8} {depth : Int} {escaped : Bool} {name text value rest left : Bytes}

/-! ## Strings -/

/-- A distance behind another. -/
theorem map_further {first second both : Nat → Nat} (sum : ∀ count, second (first count) = both count) (found : Option Nat) :
    (found.map first).map second = found.map both := by
  rw [Option.map_map]
  exact congrArg (found.map ·) (funext sum)

theorem stringEnd_plain (plain : ∀ ch ∈ text, ch ≠ code '"' ∧ ch ≠ code '\\') :
    stringEnd false (text ++ rest) = (stringEnd false rest).map (text.length + ·) := by
  induction text with
  | nil => simp
  | cons ch text ih =>
    obtain ⟨⟨quote, backslash⟩, plain⟩ := List.forall_mem_cons.mp plain
    rw [List.cons_append, stringEnd, if_neg Bool.false_ne_true, if_neg backslash, if_neg quote, ih plain]
    exact map_further (fun count => by rw [List.length_cons]; omega) _

theorem stringEnd_escape (ch : UInt8) (rest : Bytes) :
    stringEnd false (escape ch ++ rest) = (stringEnd false rest).map ((escape ch).length + ·) := by
  have behindBackslash : ∀ letter digits, (∀ digit ∈ digits, Spelled digit) →
      stringEnd false (code '\\' :: letter :: digits ++ rest) =
        (stringEnd false rest).map ((code '\\' :: letter :: digits).length + ·) := by
    intro letter digits spelled
    have plain := @stringEnd_plain digits rest fun digit mem =>
      ⟨(spelled digit mem).not_quote, (spelled digit mem).not_backslash⟩
    rw [List.cons_append, stringEnd, if_neg Bool.false_ne_true, if_pos rfl, List.cons_append, stringEnd, if_pos rfl, plain,
      Option.map_map]
    refine map_further (fun count => ?_) _
    simp only [Function.comp_apply, List.length_cons]
    omega
  obtain ⟨written, quote, backslash⟩ | ⟨-, written⟩ | ⟨letter, digits, written, -, -, spelled⟩ := escape_shape ch
  · rw [written]
    exact stringEnd_plain (by simpa using ⟨quote, backslash⟩)
  · rw [written]
    exact behindBackslash (code '"') [] (by simp)
  · rw [written]
    exact behindBackslash letter digits spelled

theorem stringEnd_written (text rest : Bytes) :
    stringEnd false (text.flatMap escape ++ code '"' :: rest) = some ((text.flatMap escape).length + 1) := by
  induction text with
  | nil => rfl
  | cons ch text ih =>
    rw [List.flatMap_cons, List.append_assoc, stringEnd_escape, ih, Option.map_some, List.length_append, Nat.add_assoc]

/-! ## Brackets -/

/-- In a string, the brackets are matched from behind its closing quote on. -/
theorem enclosed_inString (text : Bytes) :
    enclosed opening closing depth true escaped text = (stringEnd escaped text).bind fun count =>
      (enclosed opening closing depth false false (text.drop count)).map (count + ·) := by
  have further : ∀ (first : UInt8) (text : Bytes) (found : Option Nat),
      (found.bind fun count => (enclosed opening closing depth false false (text.drop count)).map (count + ·)).map (· + 1) =
        (found.map (· + 1)).bind fun count =>
          (enclosed opening closing depth false false ((first :: text).drop count)).map (count + ·) := by
    intro first text found
    cases found with
    | none => rfl
    | some count =>
      simp only [Option.bind_some, Option.map_some, List.drop_succ_cons]
      exact map_further (fun more => by omega) _
  induction text generalizing escaped with
  | nil => rfl
  | cons first text ih =>
    rw [enclosed, if_pos rfl, stringEnd]
    cases escaped with
    | true => rw [if_pos rfl, if_pos rfl, ih, further first]
    | false =>
      rw [if_neg Bool.false_ne_true, if_neg Bool.false_ne_true]
      by_cases backslash : first = code '\\'
      · rw [if_pos backslash, if_pos backslash, ih, further first]
      · rw [if_neg backslash, if_neg backslash]
        by_cases quote : first = code '"'
        · rw [if_pos quote, if_pos quote, Option.bind_some, List.drop_one, List.tail_cons]
          simp only [Nat.add_comm]
        · rw [if_neg quote, if_neg quote, ih, further first]

/-- The brackets in the text are closed in it. -/
def Balanced (opening closing : UInt8) (text : Bytes) : Prop :=
  ∀ depth rest, 0 < depth → enclosed opening closing depth false false (text ++ rest) =
    (enclosed opening closing depth false false rest).map (text.length + ·)

theorem balanced_nil : Balanced opening closing [] := by
  intro depth rest _
  simp

theorem balanced_append {front back : Bytes} (first : Balanced opening closing front) (second : Balanced opening closing back) :
    Balanced opening closing (front ++ back) := by
  intro depth rest inside
  rw [List.append_assoc, first depth _ inside, second depth _ inside, List.length_append]
  exact map_further (fun count => by omega) _

theorem balanced_cons (quote : ch ≠ code '"') (opens : ch ≠ opening) (closes : ch ≠ closing)
    (balanced : Balanced opening closing text) : Balanced opening closing (ch :: text) := by
  intro depth rest inside
  rw [List.cons_append, enclosed, if_neg Bool.false_ne_true, if_neg quote, if_neg opens, if_neg closes,
    balanced depth rest inside]
  exact map_further (fun count => by rw [List.length_cons]; omega) _

theorem balanced_string (text : Bytes) : Balanced opening closing (jsonString text) := by
  intro depth rest _
  have left : (text.flatMap escape ++ code '"' :: rest).drop ((text.flatMap escape).length + 1) = rest := by
    rw [← List.drop_drop, List.drop_left]
    rfl
  rw [jsonString, List.cons_append, List.append_assoc, List.singleton_append, enclosed, if_neg Bool.false_ne_true,
    if_pos rfl, enclosed_inString, stringEnd_written, Option.bind_some, left]
  refine map_further (fun count => ?_) _
  simp only [List.length_cons, List.length_append, List.length_nil]
  omega

/-- A pair of brackets, neither of which is a quote. -/
theorem balanced_enclosed (opens : opening ≠ code '"') (closes : closing ≠ code '"') (other : closing ≠ opening)
    (balanced : Balanced opening closing text) : Balanced opening closing (opening :: text ++ [closing]) := by
  intro depth rest inside
  have still : ¬ depth + 1 - 1 = 0 := by omega
  rw [List.cons_append, List.cons_append, enclosed, if_neg Bool.false_ne_true, if_neg opens, if_pos rfl,
    List.append_assoc, List.singleton_append, balanced _ _ (by omega), enclosed, if_neg Bool.false_ne_true, if_neg closes,
    if_neg other, if_pos rfl, if_neg still, Int.add_sub_cancel, Option.map_map]
  refine map_further (fun count => ?_) _
  simp only [Function.comp_apply, List.length_cons, List.length_append, List.length_nil]
  omega

/-! ## What is written of values -/

/-- A byte of a number, or of a word without quotes. -/
def isScalar (ch : UInt8) : Bool := isDigit ch || isLetter ch || ch == code '-' || ch == code '+' || ch == code '.'

def Scalar (text : Bytes) : Prop := text ≠ [] ∧ text.all isScalar = true

instance : Decidable (Scalar text) := inferInstanceAs (Decidable (_ ∧ _))

theorem Scalar.not_mem (scalar : Scalar text) (other : isScalar ch = false) : ch ∉ text := by
  intro mem
  rw [List.all_eq_true.mp scalar.2 ch mem] at other
  cases other

/-- Braces, or square brackets. -/
def Pair (opening closing : UInt8) : Prop :=
  (opening = code '{' ∧ closing = code '}') ∨ (opening = code '[' ∧ closing = code ']')

theorem balanced_plain (plain : ∀ ch ∈ text, ch ≠ code '"' ∧ ch ≠ opening ∧ ch ≠ closing) : Balanced opening closing text := by
  induction text with
  | nil => exact balanced_nil
  | cons ch text ih =>
    obtain ⟨⟨quote, opens, closes⟩, plain⟩ := List.forall_mem_cons.mp plain
    exact balanced_cons quote opens closes (ih plain)

theorem balanced_scalar (pair : Pair opening closing) (scalar : Scalar text) : Balanced opening closing text := by
  refine balanced_plain fun ch mem => ?_
  have other : ∀ special, isScalar special = false → ch ≠ special := by
    rintro special never rfl
    exact scalar.not_mem never mem
  rcases pair with ⟨rfl, rfl⟩ | ⟨rfl, rfl⟩
  · exact ⟨other _ rfl, other _ rfl, other _ rfl⟩
  · exact ⟨other _ rfl, other _ rfl, other _ rfl⟩

theorem balanced_colon (pair : Pair opening closing) (balanced : Balanced opening closing value) :
    Balanced opening closing (code ':' :: value) := by
  rcases pair with ⟨rfl, rfl⟩ | ⟨rfl, rfl⟩
  · exact balanced_cons (by decide) (by decide) (by decide) balanced
  · exact balanced_cons (by decide) (by decide) (by decide) balanced

theorem balanced_comma (pair : Pair opening closing) (balanced : Balanced opening closing value) :
    Balanced opening closing (code ',' :: value) := by
  rcases pair with ⟨rfl, rfl⟩ | ⟨rfl, rfl⟩
  · exact balanced_cons (by decide) (by decide) (by decide) balanced
  · exact balanced_cons (by decide) (by decide) (by decide) balanced

theorem balanced_member {label : String} (pair : Pair opening closing) (letters : (bytes label).all isLetter = true)
    (balanced : Balanced opening closing value) : Balanced opening closing (member label value) := by
  rw [member_written letters]
  exact balanced_append (balanced_string _) (balanced_colon pair balanced)

theorem balanced_separated {members : List Bytes} (pair : Pair opening closing)
    (each : ∀ member ∈ members, Balanced opening closing member) :
    Balanced opening closing (separated [code ','] members) := by
  induction members with
  | nil => exact balanced_nil
  | cons first members ih =>
    obtain ⟨here, each⟩ := List.forall_mem_cons.mp each
    cases members with
    | nil => exact here
    | cons second members =>
      rw [Document.separated_cons_cons]
      exact balanced_append here (balanced_comma pair (ih each))

theorem balanced_object {members : List Bytes} (pair : Pair opening closing)
    (each : ∀ member ∈ members, Balanced opening closing member) : Balanced opening closing (object members) := by
  have inside := balanced_separated pair each
  rcases pair with ⟨rfl, rfl⟩ | ⟨rfl, rfl⟩
  · exact balanced_enclosed (by decide) (by decide) (by decide) inside
  · refine balanced_cons (by decide) (by decide) (by decide) (balanced_append inside ?_)
    exact balanced_cons (by decide) (by decide) (by decide) balanced_nil

/-! ## Values -/

/-- The value is taken as it was written. -/
def Read (value : Bytes) : Prop :=
  ∀ ch rest, ch = code ',' ∨ ch = code '}' → valueOf (value ++ ch :: rest) = some value

theorem enclosed_whole (pair : Pair opening closing) (balanced : Balanced opening closing text) (rest : Bytes) :
    enclosed opening closing 0 false false (opening :: text ++ [closing] ++ rest) =
      some (opening :: text ++ [closing]).length := by
  have opens : opening ≠ code '"' := by rcases pair with ⟨rfl, rfl⟩ | ⟨rfl, rfl⟩ <;> decide
  have closes : closing ≠ code '"' := by rcases pair with ⟨rfl, rfl⟩ | ⟨rfl, rfl⟩ <;> decide
  have other : closing ≠ opening := by rcases pair with ⟨rfl, rfl⟩ | ⟨rfl, rfl⟩ <;> decide
  rw [List.append_assoc, List.cons_append, List.singleton_append, enclosed, if_neg Bool.false_ne_true, if_neg opens,
    if_pos rfl, balanced _ _ (by decide), enclosed, if_neg Bool.false_ne_true, if_neg closes, if_neg other, if_pos rfl,
    if_pos (by decide), Option.map_some, Option.map_some]
  simp

theorem valueOf_enclosed (pair : Pair opening closing) (balanced : Balanced opening closing text) (rest : Bytes) :
    valueOf (opening :: text ++ [closing] ++ rest) = some (opening :: text ++ [closing]) := by
  have whole := enclosed_whole pair balanced rest
  have space : isSpace opening = false := by rcases pair with ⟨rfl, -⟩ | ⟨rfl, -⟩ <;> rfl
  have kept : (opening :: text ++ [closing] ++ rest).dropWhile isSpace = opening :: text ++ [closing] ++ rest := by
    simp [space]
  have length : valueLength (opening :: text ++ [closing] ++ rest) = some (opening :: text ++ [closing]).length := by
    rcases pair with ⟨rfl, rfl⟩ | ⟨rfl, rfl⟩
    · exact whole
    · exact whole
  rw [valueOf, kept, length, Option.map_some, List.take_left]

theorem valueOf_string (text rest : Bytes) : valueOf (jsonString text ++ rest) = some (jsonString text) := by
  have quote : isSpace (code '"') = false := rfl
  have kept : (jsonString text ++ rest).dropWhile isSpace = jsonString text ++ rest := by simp [jsonString, quote]
  have length : valueLength (jsonString text ++ rest) = some (jsonString text).length := by
    have ends := stringEnd_written text rest
    rw [jsonString, List.cons_append, List.append_assoc, List.singleton_append, valueLength, if_neg (by decide),
      if_pos rfl, ends]
    simp
  rw [valueOf, kept, length, Option.map_some, List.take_left]

theorem read_string (text : Bytes) : Read (jsonString text) := fun ch rest _ => valueOf_string text (ch :: rest)

theorem read_object {members : List Bytes} (each : ∀ member ∈ members, Balanced (code '{') (code '}') member) :
    Read (object members) := by
  intro ch rest _
  exact valueOf_enclosed (.inl ⟨rfl, rfl⟩) (balanced_separated (.inl ⟨rfl, rfl⟩) each) (ch :: rest)

theorem read_array {items : List Bytes} (each : ∀ item ∈ items, Balanced (code '[') (code ']') item) :
    Read (array items) := by
  intro ch rest _
  exact valueOf_enclosed (.inr ⟨rfl, rfl⟩) (balanced_separated (.inr ⟨rfl, rfl⟩) each) (ch :: rest)

theorem not_space_of_letter (letter : isLetter ch = true) : isSpace ch = false := by
  have low : code 'a' = 97 := rfl
  have high : code 'A' = 65 := rfl
  simp only [isLetter, isSpace, Bool.and_eq_true, Bool.or_eq_true, decide_eq_true_eq, Bool.or_eq_false_iff,
    Bool.and_eq_false_iff, decide_eq_false_iff_not, beq_eq_false_iff_ne, UInt8.le_iff_toNat_le, ne_eq,
    ← UInt8.toNat_inj, low, high] at letter ⊢
  simp only [UInt8.reduceToNat] at letter ⊢
  omega

theorem not_space_of_scalar (scalar : isScalar ch = true) : isSpace ch = false := by
  simp only [isScalar, Bool.or_eq_true, beq_iff_eq] at scalar
  rcases scalar with (((digit | letter) | rfl) | rfl) | rfl
  · exact JsonParser.not_space_of_digit digit
  · exact not_space_of_letter letter
  · rfl
  · rfl
  · rfl

/-- The white space around a value is left out. -/
theorem valueOf_scalar {before after : Bytes} (scalar : Scalar value) (front : before.all isSpace = true)
    (back : after.all isSpace = true) (closes : ch = code ',' ∨ ch = code '}') (rest : Bytes) :
    valueOf (before ++ value ++ after ++ ch :: rest) = some value := by
  have spaces : ∀ byte ∈ value, isSpace byte = false := fun byte mem =>
    not_space_of_scalar (List.all_eq_true.mp scalar.2 byte mem)
  have blank : ∀ byte ∈ after, isSpace byte = true := List.all_eq_true.mp back
  have separator : ∀ special, isSpace special = false → isScalar special = false → ∀ byte ∈ value ++ after, byte ≠ special := by
    rintro special plain never byte mem rfl
    rcases List.mem_append.mp mem with mem | mem
    · exact scalar.not_mem never mem
    · rw [blank byte mem] at plain
      cases plain
  obtain ⟨first, value, rfl⟩ := List.exists_cons_of_ne_nil scalar.1
  have other : ∀ special, isScalar special = false → first ≠ special := by
    rintro special never rfl
    exact scalar.not_mem never List.mem_cons_self
  have kept : (before ++ (first :: value) ++ after ++ ch :: rest).dropWhile isSpace = first :: value ++ after ++ ch :: rest := by
    rw [List.append_assoc, List.append_assoc, List.dropWhile_append_of_pos (List.all_eq_true.mp front), ← List.append_assoc]
    simp [spaces first List.mem_cons_self]
  have taken : (first :: value ++ after ++ ch :: rest).takeWhile (fun ch => ch ≠ code ',' && ch ≠ code '}') =
      first :: value ++ after := by
    rw [List.takeWhile_append_of_pos]
    · rcases closes with rfl | rfl <;> simp
    · intro byte mem
      simp [separator (code ',') rfl rfl byte mem, separator (code '}') rfl rfl byte mem]
  have trimmed : ((first :: value ++ after).reverse.dropWhile isSpace).length = (first :: value).length := by
    rw [List.reverse_append, List.dropWhile_append_of_pos fun byte mem => blank byte (List.mem_reverse.mp mem)]
    cases reversed : (first :: value).reverse with
    | nil => simp at reversed
    | cons last front =>
      have mem : last ∈ first :: value := List.mem_reverse.mp (by simp [reversed])
      rw [List.dropWhile_cons_of_neg (by simp [spaces last mem]), ← reversed, List.length_reverse]
  have length : valueLength (first :: value ++ after ++ ch :: rest) = some (first :: value).length := by
    rw [List.cons_append, List.cons_append, valueLength, if_neg (not_or.mpr ⟨other _ rfl, other _ rfl⟩), if_neg (other _ rfl),
      ← List.cons_append, ← List.cons_append, taken]
    exact congrArg some trimmed
  rw [valueOf, kept, length, Option.map_some, List.append_assoc, List.take_left]

theorem read_scalar (scalar : Scalar text) : Read text := by
  intro ch rest closes
  have value := @valueOf_scalar ch text [] [] scalar rfl rfl closes rest
  rwa [List.nil_append, List.append_nil] at value

theorem scalar_printNat (value : Nat) : Scalar (printNat value) := by
  refine ⟨JsonParser.printNat_ne_nil value, List.all_eq_true.mpr fun ch mem => ?_⟩
  have digit := List.all_eq_true.mp (JsonParser.isDigit_printNat value) ch mem
  simp [isScalar, digit]

theorem scalar_printInt (value : Int) : Scalar (printInt value) := by
  obtain ⟨some, digits⟩ := scalar_printNat value.natAbs
  by_cases negative : value < 0
  · simp [Scalar, printInt, negative, digits, isScalar]
  · simpa [Scalar, printInt, negative, some] using digits

/-! ## Members -/

/-- A member is what is behind the colon that follows its name. -/
theorem jsonMember_stops {front : List Bytes} (each : ∀ member ∈ front, Passes name [] member) (stops : Stops name value left)
    (back : List Bytes) (rest : Bytes) :
    jsonMember (object (front ++ value :: back) ++ rest) name =
      .ok ((behind [code ':'] (left ++ others back ++ code '}' :: rest)).bind valueOf) := by
  have opening : code '{' ≠ code '"' := by decide
  have found : behind (key name []) (object (front ++ value :: back) ++ rest) =
      some (left ++ others back ++ code '}' :: rest) := by
    rw [object, List.cons_append, List.cons_append, behind_key_cons opening, List.append_assoc, List.singleton_append,
      stops_separated each stops back _ _ (.inr (.inl rfl))]
  rw [jsonMember_eq]
  change Except.ok (((behind (key name []) _).bind _).bind valueOf) = _
  rw [found, Option.bind_some]

theorem behind_colon (rest : Bytes) : behind [code ':'] (code ':' :: rest) = some rest :=
  behind_front (List.cons_ne_nil _ _) rest

/-- The colon is that of the first member. -/
theorem behind_colon_member {label : String} {front : Bytes} (plain : code ':' ∉ front)
    (letters : (bytes label).all isLetter = true) (value rest : Bytes) :
    behind [code ':'] (front ++ (member label value ++ rest)) = some (value ++ rest) := by
  have quoted : code ':' ∉ code '"' :: (bytes label ++ [code '"']) := by
    have colon : code ':' ∉ bytes label := by
      intro mem
      have letter := List.all_eq_true.mp letters _ mem
      cases letter
    have quote : code ':' ≠ code '"' := by decide
    simp [colon, quote]
  have written : member label value ++ rest = code '"' :: (bytes label ++ [code '"']) ++ code ':' :: (value ++ rest) := by
    simp [member]
  rw [behind_passes plain, written, behind_passes quoted, behind_colon]

theorem jsonMember_found {label : String} {front : List Bytes} (word : Word (bytes label))
    (each : ∀ member ∈ front, Passes (bytes label) [] member) (read : Read value) (back : List Bytes) (rest : Bytes) :
    jsonMember (object (front ++ member label value :: back) ++ rest) (bytes label) = .ok (some value) := by
  obtain ⟨next, more, split, closes⟩ := others_next back (code '}') rest
  rw [jsonMember_stops each (stops_key word value), List.cons_append, List.cons_append, behind_colon, Option.bind_some,
    List.append_assoc, split, read next more closes]

end WhRepeater.TextScan
