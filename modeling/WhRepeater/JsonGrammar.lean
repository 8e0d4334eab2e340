import Mathlib.Data.List.Basic

/-! The texts that are JSON, as bytes. A value may have white space around it, and every
control character of a string is escaped. -/
namespace JsonGrammar

abbrev Text := List UInt8

def blank (ch : UInt8) : Bool := ch == 32 || ch == 9 || ch == 10 || ch == 13

def Blank (text : Text) : Prop := ∀ ch ∈ text, blank ch = true

def digit (ch : UInt8) : Bool := 48 ≤ ch && ch ≤ 57

def hexadecimal (ch : UInt8) : Bool := digit ch || (65 ≤ ch && ch ≤ 70) || (97 ≤ ch && ch ≤ 102)

/-- What stands between quotes. -/
inductive Content : Text → Prop where
  | nil : Content []
  | plain (ch : UInt8) (rest : Text) (printable : 32 ≤ ch) (quote : ch ≠ 34) (backslash : ch ≠ 92) (content : Content rest) :
      Content (ch :: rest)
  | escape (letter : UInt8) (rest : Text) (known : letter ∈ [34, 92, 47, 98, 102, 110, 114, 116]) (content : Content rest) :
      Content (92 :: letter :: rest)
  | unit (digits rest : Text) (four : digits.length = 4) (each : ∀ ch ∈ digits, hexadecimal ch = true) (content : Content rest) :
      Content (92 :: 117 :: (digits ++ rest))

def Quoted (text : Text) : Prop := ∃ content, Content content ∧ text = 34 :: (content ++ [34])

def Digits (text : Text) : Prop := text ≠ [] ∧ ∀ ch ∈ text, digit ch = true

/-- No zero stands in front of another digit. -/
def Whole (text : Text) : Prop := Digits text ∧ (text.head? = some 48 → text = [48])

structure Number (sign whole fraction exponent : Text) : Prop where
  sign : sign = [] ∨ sign = [45]
  whole : Whole whole
  fraction : fraction = [] ∨ ∃ digits, Digits digits ∧ fraction = 46 :: digits
  exponent : exponent = [] ∨ ∃ letter sign digits, (letter = 69 ∨ letter = 101) ∧ (sign = [] ∨ sign = [43] ∨ sign = [45]) ∧
    Digits digits ∧ exponent = letter :: (sign ++ digits)

def words : List Text := [[110, 117, 108, 108], [116, 114, 117, 101], [102, 97, 108, 115, 101]]

/-- With commas between them. -/
def joined (items : List Text) : Text := [44].intercalate items

def member (named : Text × Text) : Text := named.1 ++ 58 :: named.2

def array (items : List Text) : Text := 91 :: (joined items ++ [93])

def object (members : List (Text × Text)) : Text := 123 :: (joined (members.map member) ++ [125])

/-- The name of a member, and the white space around it. -/
def Name (text : Text) : Prop := ∃ before quoted after, Blank before ∧ Quoted quoted ∧ Blank after ∧ text = before ++ quoted ++ after

inductive Value : Text → Prop where
  | word (text : Text) (known : text ∈ words) : Value text
  | number (sign whole fraction exponent : Text) (number : Number sign whole fraction exponent) :
      Value (sign ++ whole ++ fraction ++ exponent)
  | string (text : Text) (quoted : Quoted text) : Value text
  | array (items : List Text) (each : ∀ item ∈ items, Value item) : Value (array items)
  | object (members : List (Text × Text)) (names : ∀ named ∈ members, Name named.1) (each : ∀ named ∈ members, Value named.2) :
      Value (object members)
  /-- Brackets with nothing but white space between them. -/
  | empty (opening closing : UInt8) (inside : Text) (pair : (opening, closing) ∈ [(91, 93), (123, 125)]) (blank : Blank inside) :
      Value (opening :: (inside ++ [closing]))
  | spaced (before text after : Text) (front : Blank before) (back : Blank after) (value : Value text) :
      Value (before ++ text ++ after)

variable {ch : UInt8} {text front back before after inside : Text} {items others : List Text}

/-! ## Joined texts -/

theorem joined_nil : joined [] = [] := rfl

theorem joined_singleton (item : Text) : joined [item] = item := List.append_nil item

theorem joined_cons (item next : Text) (items : List Text) : joined (item :: next :: items) = item ++ 44 :: joined (next :: items) := by
  simp [joined, List.intercalate]

theorem joined_concat (some : items ≠ []) (item : Text) : joined (items ++ [item]) = joined items ++ 44 :: item := by
  induction items with
  | nil => exact absurd rfl some
  | cons first items ih =>
    cases items with
    | nil => rw [List.singleton_append, joined_cons, joined_singleton, joined_singleton]
    | cons second items =>
      rw [joined_cons, List.cons_append, List.cons_append, joined_cons, ← List.cons_append, ih (List.cons_ne_nil _ _)]
      simp

/-- White space behind the commas and inside the brackets belongs to what is between the commas. -/
theorem joined_spread {holds : Text → Prop} {before comma after : Text} (front : Blank before) (gap : Blank comma) (back : Blank after)
    (padded : ∀ before text after, Blank before → Blank after → holds text → holds (before ++ text ++ after))
    (some : items ≠ []) (each : ∀ item ∈ items, holds item) :
    ∃ others, (∀ item ∈ others, holds item) ∧ others ≠ [] ∧ before ++ (44 :: comma).intercalate items ++ after = joined others := by
  induction items generalizing before with
  | nil => exact absurd rfl some
  | cons first items ih =>
    obtain ⟨here, later⟩ := List.forall_mem_cons.mp each
    cases items with
    | nil =>
      refine ⟨[before ++ first ++ after], List.forall_mem_singleton.mpr (padded before first after front back here),
        List.cons_ne_nil _ _, ?_⟩
      rw [joined_singleton, List.intercalate_singleton]
    | cons second items =>
      obtain ⟨others, holding, nonempty, split⟩ := ih gap (List.cons_ne_nil _ _) later
      refine ⟨(before ++ first ++ []) :: others,
        List.forall_mem_cons.mpr ⟨padded before first [] front (fun _ among => absurd among List.not_mem_nil) here, holding⟩,
        List.cons_ne_nil _ _, ?_⟩
      obtain ⟨next, others, rfl⟩ := List.exists_cons_of_ne_nil nonempty
      rw [joined_cons, ← split]
      simp [List.intercalate]

/-! ## Strings -/

theorem content_append (first : Content front) (second : Content back) : Content (front ++ back) := by
  induction first with
  | nil => exact second
  | plain ch rest printable quote backslash _ ih => exact .plain ch _ printable quote backslash ih
  | escape letter rest known _ ih => exact .escape letter _ known ih
  | unit digits rest four each _ ih =>
    rw [List.cons_append, List.cons_append, List.append_assoc]
    exact .unit digits _ four each ih

theorem content_flatMap {write : UInt8 → Text} (each : ∀ ch, Content (write ch)) (text : Text) : Content (text.flatMap write) := by
  induction text with
  | nil => exact .nil
  | cons ch text ih =>
    rw [List.flatMap_cons]
    exact content_append (each ch) ih

/-! ## White space around values -/

theorem blank_append (first : Blank front) (second : Blank back) : Blank (front ++ back) := by
  intro ch among
  rcases List.mem_append.mp among with among | among
  · exact first ch among
  · exact second ch among

/-- The text begins and ends with something. -/
structure Bare (text : Text) : Prop where
  first : ∃ ch, text.head? = some ch ∧ blank ch = false
  last : ∃ ch, text.getLast? = some ch ∧ blank ch = false

theorem Bare.ne_nil (bare : Bare text) : text ≠ [] := by
  obtain ⟨ch, first, -⟩ := bare.first
  rintro rfl
  cases first

theorem bare_append {middle : Text} (one : Bare front) (other : Bare back) : Bare (front ++ middle ++ back) := by
  obtain ⟨first, starts, solid⟩ := one.first
  obtain ⟨last, ends, firm⟩ := other.last
  refine ⟨⟨first, ?_, solid⟩, ⟨last, ?_, firm⟩⟩
  · rw [List.append_assoc, List.head?_append_of_ne_nil _ one.ne_nil, starts]
  · rw [List.getLast?_append_of_ne_nil _ other.ne_nil, ends]

theorem bare_enclosed {opening closing : UInt8} (opens : blank opening = false) (closes : blank closing = false) (inside : Text) :
    Bare (opening :: (inside ++ [closing])) := by
  refine ⟨⟨opening, rfl, opens⟩, ⟨closing, ?_, closes⟩⟩
  rw [← List.cons_append, List.getLast?_concat]

theorem bare_solid (some : text ≠ []) (solid : ∀ ch ∈ text, blank ch = false) : Bare text := by
  obtain ⟨first, rest, rfl⟩ := List.exists_cons_of_ne_nil some
  exact ⟨⟨first, rfl, solid first List.mem_cons_self⟩,
    ⟨_, List.getLast?_eq_some_getLast some, solid _ (List.getLast_mem some)⟩⟩

theorem digit_solid (isDigit : digit ch = true) : blank ch = false := by
  have other : ∀ byte, digit byte = false → ch ≠ byte := by
    rintro byte never rfl
    rw [isDigit] at never
    cases never
  simp [blank, other 32 rfl, other 9 rfl, other 10 rfl, other 13 rfl]

/-- What a number is written with. -/
theorem number_bytes {sign whole fraction exponent : Text} (number : Number sign whole fraction exponent) :
    ∀ ch ∈ sign ++ whole ++ fraction ++ exponent, digit ch = true ∨ ch ∈ [45, 43, 46, 69, 101] := by
  have digits_among : ∀ {digits : Text}, Digits digits → ∀ ch ∈ digits, digit ch = true ∨ ch ∈ [45, 43, 46, 69, 101] :=
    fun digits ch among => .inl (digits.2 ch among)
  have signs_among : ∀ {sign : Text}, sign = [] ∨ sign = [43] ∨ sign = [45] → ∀ ch ∈ sign,
      digit ch = true ∨ ch ∈ [45, 43, 46, 69, 101] := by
    rintro sign (rfl | rfl | rfl) ch among
    · cases among
    · exact .inr (by simp [List.mem_singleton.mp among])
    · exact .inr (by simp [List.mem_singleton.mp among])
  intro ch among
  simp only [List.mem_append] at among
  rcases among with ((signed | whole) | fractional) | scaled
  · exact signs_among (number.sign.elim .inl fun minus => .inr (.inr minus)) ch signed
  · exact digits_among number.whole.1 ch whole
  · rcases number.fraction with rfl | ⟨digits, all, rfl⟩
    · cases fractional
    · rcases List.mem_cons.mp fractional with rfl | among
      · exact .inr (by simp)
      · exact digits_among all ch among
  · rcases number.exponent with rfl | ⟨letter, sign, digits, letters, signs, all, rfl⟩
    · cases scaled
    · rcases List.mem_cons.mp scaled with rfl | among
      · rcases letters with rfl | rfl <;> exact .inr (by simp)
      · rcases List.mem_append.mp among with signed | among
        · exact signs_among signs ch signed
        · exact digits_among all ch among

theorem number_solid {sign whole fraction exponent : Text} (number : Number sign whole fraction exponent) :
    ∀ ch ∈ sign ++ whole ++ fraction ++ exponent, blank ch = false := by
  intro ch among
  rcases number_bytes number ch among with isDigit | other
  · exact digit_solid isDigit
  · simp only [List.mem_cons, List.not_mem_nil, or_false] at other
    rcases other with rfl | rfl | rfl | rfl | rfl <;> rfl

/-- A value and the white space around it. -/
theorem Value.core (value : Value text) :
    ∃ before core after, text = before ++ core ++ after ∧ Blank before ∧ Blank after ∧ Value core ∧ Bare core := by
  have itself : ∀ {text : Text}, Value text → Bare text →
      ∃ before core after, text = before ++ core ++ after ∧ Blank before ∧ Blank after ∧ Value core ∧ Bare core := by
    intro text value bare
    exact ⟨[], text, [], by simp, fun _ among => absurd among List.not_mem_nil, fun _ among => absurd among List.not_mem_nil,
      value, bare⟩
  induction value with
  | word text known =>
    refine itself (.word text known) ?_
    simp only [words, List.mem_cons, List.not_mem_nil, or_false] at known
    rcases known with rfl | rfl | rfl <;> exact bare_solid (List.cons_ne_nil _ _) (by decide +kernel)
  | number sign whole fraction exponent number =>
    refine itself (.number sign whole fraction exponent number) (bare_solid ?_ (number_solid number))
    have some := number.whole.1.1
    simp [some]
  | string text quoted =>
    refine itself (.string text quoted) ?_
    obtain ⟨content, -, rfl⟩ := quoted
    exact bare_enclosed rfl rfl content
  | array items each => exact itself (.array items each) (bare_enclosed rfl rfl _)
  | object members names each => exact itself (.object members names each) (bare_enclosed rfl rfl _)
  | empty opening closing inside pair blank =>
    refine itself (.empty opening closing inside pair blank) ?_
    simp only [List.mem_cons, Prod.mk.injEq, List.not_mem_nil, or_false] at pair
    rcases pair with ⟨rfl, rfl⟩ | ⟨rfl, rfl⟩ <;> exact bare_enclosed rfl rfl inside
  | spaced before text after front back _ ih =>
    obtain ⟨inner, core, outer, rfl, first, second, value, bare⟩ := ih
    refine ⟨before ++ inner, core, outer ++ after, by simp, blank_append front first, blank_append second back, value, bare⟩

theorem Bare.not_front (bare : Bare (before ++ text ++ after)) (front : Blank before) : before = [] := by
  cases before with
  | nil => rfl
  | cons ch before =>
    obtain ⟨first, starts, solid⟩ := bare.first
    obtain rfl := Option.some.inj starts
    rw [front _ List.mem_cons_self] at solid
    cases solid

theorem Bare.not_back (bare : Bare (before ++ text ++ after)) (back : Blank after) : after = [] := by
  rcases List.eq_nil_or_concat after with rfl | ⟨after, ch, rfl⟩
  · rfl
  · obtain ⟨last, ends, solid⟩ := bare.last
    rw [List.concat_eq_append, ← List.append_assoc, List.getLast?_concat] at ends
    obtain rfl := Option.some.inj ends
    rw [back _ (by simp)] at solid
    cases solid

/-- What a bare value is of its own. -/
@[elab_as_elim] theorem bare_induction {motive : Text → Prop} (value : Value text) (bare : Bare text)
    (word : ∀ text ∈ words, motive text)
    (number : ∀ {sign whole fraction exponent}, Number sign whole fraction exponent → motive (sign ++ whole ++ fraction ++ exponent))
    (string : ∀ {text}, Quoted text → motive text)
    (bracketed : ∀ {items}, (∀ item ∈ items, Value item) → motive (array items))
    (braced : ∀ {members}, (∀ named ∈ members, Name named.1) → (∀ named ∈ members, Value named.2) → motive (object members))
    (empty : ∀ {opening closing inside}, (opening, closing) ∈ [((91 : UInt8), (93 : UInt8)), (123, 125)] → Blank inside →
      motive (opening :: (inside ++ [closing]))) : motive text := by
  induction value with
  | word text known => exact word text known
  | number sign whole fraction exponent numbered => exact number numbered
  | string text quoted => exact string quoted
  | array items each => exact bracketed each
  | object members names each => exact braced names each
  | empty opening closing inside pair blank => exact empty pair blank
  | spaced before text after front back value ih =>
    obtain rfl := bare.not_front front
    obtain rfl := bare.not_back back
    rw [List.nil_append, List.append_nil] at bare ⊢
    exact ih bare

theorem number_starts {sign whole fraction exponent : Text} (number : Number sign whole fraction exponent) :
    ∃ first rest, sign ++ whole ++ fraction ++ exponent = first :: rest ∧ (first = 45 ∨ digit first = true) := by
  obtain ⟨first, rest, split⟩ := List.exists_cons_of_ne_nil number.whole.1.1
  rcases number.sign with rfl | rfl
  · exact ⟨first, rest ++ fraction ++ exponent, by rw [split]; simp, .inr (number.whole.1.2 first (by simp [split]))⟩
  · exact ⟨45, whole ++ fraction ++ exponent, by simp, .inl rfl⟩

/-- What begins with a square bracket is an array, and what is between its brackets are
values, or nothing. -/
theorem Value.bracketed (value : Value text) (bare : Bare text) (opens : text.head? = some 91) :
    ∃ items inside, (∀ item ∈ items, Value item) ∧ text = 91 :: (inside ++ [93]) ∧
      (inside = joined items ∧ items ≠ [] ∨ Blank inside ∧ items = []) := by
  revert opens
  refine bare_induction value bare ?_ ?_ ?_ ?_ ?_ ?_
  · intro text known opens
    simp only [words, List.mem_cons, List.not_mem_nil, or_false] at known
    rcases known with rfl | rfl | rfl <;> cases opens
  · intro sign whole fraction exponent number opens
    obtain ⟨first, rest, split, kind⟩ := number_starts number
    rw [split] at opens
    obtain rfl := Option.some.inj opens
    rcases kind with kind | kind <;> cases kind
  · rintro text ⟨content, -, rfl⟩ opens
    cases opens
  · intro items each _
    by_cases none : items = []
    · exact ⟨[], [], List.forall_mem_nil _, by rw [none]; rfl, .inr ⟨List.forall_mem_nil _, rfl⟩⟩
    · exact ⟨items, joined items, each, rfl, .inl ⟨rfl, none⟩⟩
  · intro members _ _ opens
    cases opens
  · intro opening closing inside pair blank opens
    simp only [List.mem_cons, Prod.mk.injEq, List.not_mem_nil, or_false] at pair
    rcases pair with ⟨rfl, rfl⟩ | ⟨rfl, rfl⟩
    · exact ⟨[], inside, List.forall_mem_nil _, rfl, .inr ⟨blank, rfl⟩⟩
    · cases opens

theorem joined_front (front item : Text) (items : List Text) : joined ((front ++ item) :: items) = front ++ joined (item :: items) := by
  cases items with
  | nil => rw [joined_singleton, joined_singleton]
  | cons next items => rw [joined_cons, joined_cons, List.append_assoc]

/-- Some values with commas between them, and the white space around all of them. -/
theorem joined_core (some : items ≠ []) (each : ∀ item ∈ items, Value item) :
    ∃ before others after, joined items = before ++ joined others ++ after ∧ Blank before ∧ Blank after ∧ others ≠ [] ∧
      (∀ item ∈ others, Value item) ∧ Bare (joined others) := by
  obtain ⟨first, rest, rfl⟩ := List.exists_cons_of_ne_nil some
  obtain ⟨before, core, after, rfl, front, back, value, bare⟩ := (each first List.mem_cons_self).core
  rcases List.eq_nil_or_concat rest with rfl | ⟨middle, last, rfl⟩
  · exact ⟨before, [core], after, by rw [joined_singleton, joined_singleton], front, back, List.cons_ne_nil _ _,
      List.forall_mem_singleton.mpr value, by rwa [joined_singleton]⟩
  · rw [List.concat_eq_append] at each ⊢
    obtain ⟨inner, ending, outer, rfl, leading, trailing, ended, closes⟩ := (each last (by simp)).core
    have opened : Value (core ++ after) := by
      have spaced := Value.spaced [] core after (List.forall_mem_nil _) back value
      rwa [List.nil_append] at spaced
    have closed : Value (inner ++ ending) := by
      have spaced := Value.spaced inner ending [] leading (List.forall_mem_nil _) ended
      rwa [List.append_nil] at spaced
    have written : ∀ tail, joined ((core ++ after) :: (middle ++ [tail])) = joined ((core ++ after) :: middle) ++ 44 :: tail :=
      fun tail => joined_concat (List.cons_ne_nil _ middle) tail
    refine ⟨before, (core ++ after) :: (middle ++ [inner ++ ending]), outer, ?_, front, trailing, List.cons_ne_nil _ _, ?_, ?_⟩
    · rw [List.append_assoc before, joined_front, written, written]
      simp
    · rw [List.forall_mem_cons, List.forall_mem_append, List.forall_mem_singleton]
      exact ⟨opened, fun item among => each item (by simp [among]), closed⟩
    · have split : joined ((core ++ after) :: (middle ++ [inner ++ ending])) =
          core ++ (joined (after :: middle) ++ 44 :: inner) ++ ending := by
        rw [written, joined_front]
        simp
      rw [split]
      exact bare_append bare closes

/-- No value begins with a comma or a closing bracket. -/
theorem Value.starts (value : Value text) (bare : Bare text) :
    ∃ first rest, text = first :: rest ∧ 32 < first ∧ first ≠ 44 ∧ first ≠ 93 := by
  refine bare_induction value bare ?_ ?_ ?_ ?_ ?_ ?_
  · intro text known
    simp only [words, List.mem_cons, List.not_mem_nil, or_false] at known
    rcases known with rfl | rfl | rfl <;> exact ⟨_, _, rfl, by decide⟩
  · intro sign whole fraction exponent number
    obtain ⟨first, rest, split, kind⟩ := number_starts number
    refine ⟨first, rest, split, ?_⟩
    rcases kind with rfl | kind
    · decide
    · simp only [digit, Bool.and_eq_true, decide_eq_true_eq, UInt8.le_iff_toNat_le, UInt8.reduceToNat] at kind
      have other : ∀ byte : UInt8, byte.toNat < 48 ∨ 57 < byte.toNat → first ≠ byte := by
        rintro byte outside rfl
        omega
      exact ⟨UInt8.lt_iff_toNat_lt.mpr (Nat.lt_of_lt_of_le (by decide) kind.1), other 44 (by decide), other 93 (by decide)⟩
  · rintro text ⟨content, -, rfl⟩
    exact ⟨_, _, rfl, by decide⟩
  · exact fun _ => ⟨_, _, rfl, by decide⟩
  · exact fun _ _ => ⟨_, _, rfl, by decide⟩
  · intro opening closing inside pair _
    simp only [List.mem_cons, Prod.mk.injEq, List.not_mem_nil, or_false] at pair
    rcases pair with ⟨rfl, rfl⟩ | ⟨rfl, rfl⟩ <;> exact ⟨_, _, rfl, by decide⟩

end JsonGrammar
