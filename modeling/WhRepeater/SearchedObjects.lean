import WhRepeater.ApiStatus

/-! What a search by hand finds in the objects that are written with `jsonString`.
Brackets and closing quotes are matched right, whatever the strings are; but a
quoted name is also found in a string that is the name, or that ends with a quote
and the name, and then the colon of a later member follows. -/
namespace WhRepeater.TextScan

open ApiServer (member object array)

variable {ch : UInt8} {name suffix text value rest left pattern : Bytes}

/-! ## Escapes -/

theorem hexDigit_bounds {digit : UInt8} (small : digit < 16) :
    48 ≤ (hexDigit digit).toNat ∧ (hexDigit digit).toNat ≠ 92 := by
  rw [UInt8.lt_iff_toNat_lt] at small
  unfold hexDigit
  split
  · rename_i decimal
    rw [UInt8.lt_iff_toNat_lt] at decimal
    rw [UInt8.toNat_add]
    simp only [UInt8.reduceToNat] at *
    omega
  · rename_i letter
    rw [UInt8.lt_iff_toNat_lt] at letter
    rw [UInt8.toNat_add]
    simp only [UInt8.reduceToNat] at *
    omega

/-- A byte that is in an escape by number. -/
def Spelled (ch : UInt8) : Prop := 48 ≤ ch.toNat ∧ ch.toNat ≠ 92

/-- The bytes with an escape of one letter. -/
def lettered : List (UInt8 × UInt8) :=
  [(code '\\', code '\\'), (8, code 'b'), (12, code 'f'), (10, code 'n'), (13, code 'r'), (9, code 't')]

theorem escape_forms (ch : UInt8) :
    (escape ch = [ch] ∧ 0x20 ≤ ch ∧ ch ≠ code '"' ∧ ch ≠ code '\\') ∨ (ch = code '"' ∧ escape ch = [code '\\', code '"']) ∨
      (∃ letter, (ch, letter) ∈ lettered ∧ escape ch = [code '\\', letter]) ∨
      (ch < 0x20 ∧ ch ≠ 9 ∧ ch ≠ 10 ∧
        ∃ digits, escape ch = code '\\' :: code 'u' :: digits ∧ ∀ digit ∈ digits, Spelled digit) := by
  by_cases quote : ch = code '"'
  · exact .inr (.inl ⟨quote, by rw [quote]; rfl⟩)
  · by_cases special : ch = code '\\' ∨ ch = 8 ∨ ch = 12 ∨ ch = 10 ∨ ch = 13 ∨ ch = 9
    · right
      right
      left
      rcases special with rfl | rfl | rfl | rfl | rfl | rfl <;> exact ⟨_, by decide, rfl⟩
    · simp only [not_or] at special
      obtain ⟨backslash, backspace, feed, line, carriage, tab⟩ := special
      by_cases control : ch < 0x20
      · right
        right
        right
        refine ⟨control, tab, line,
          [code '0', code '0', hexDigit ((ch >>> 4) &&& 0x0f), hexDigit (ch &&& 0x0f)], ?_, ?_⟩
        · simp only [escape, quote, backslash, backspace, feed, line, carriage, tab, control, if_true, if_false]
        · have nibble : ∀ digits : UInt8, digits &&& 0x0f < 16 := by
            intro digits
            rw [UInt8.lt_iff_toNat_lt, UInt8.toNat_and]
            exact Nat.lt_of_le_of_lt Nat.and_le_right (by decide)
          have zero : Spelled (code '0') := ⟨by decide, by decide⟩
          simp only [List.forall_mem_cons]
          exact ⟨zero, zero, hexDigit_bounds (nibble _), hexDigit_bounds (nibble _), by simp⟩
      · left
        exact ⟨by simp only [escape, quote, backslash, backspace, feed, line, carriage, tab, control, if_false],
          UInt8.not_lt.mp control, quote, backslash⟩

/-- The byte itself, the quote behind a backslash, or another escape. -/
theorem escape_shape (ch : UInt8) :
    (escape ch = [ch] ∧ ch ≠ code '"' ∧ ch ≠ code '\\') ∨ (ch = code '"' ∧ escape ch = [code '\\', code '"']) ∨
      ∃ letter digits, escape ch = code '\\' :: letter :: digits ∧ ch ≠ code '"' ∧ letter ≠ code '"' ∧
        ∀ digit ∈ digits, Spelled digit := by
  obtain ⟨written, -, other⟩ | quote | ⟨letter, among, written⟩ | ⟨control, -, -, digits, written, spelled⟩ := escape_forms ch
  · exact .inl ⟨written, other⟩
  · exact .inr (.inl quote)
  · have each : (lettered.all fun pair => decide (pair.1 ≠ code '"' ∧ pair.2 ≠ code '"')) = true := rfl
    obtain ⟨first, second⟩ := of_decide_eq_true (List.all_eq_true.mp each _ among)
    exact .inr (.inr ⟨letter, [], written, first, second, by simp⟩)
  · refine .inr (.inr ⟨code 'u', digits, written, ?_, by decide, spelled⟩)
    rintro rfl
    exact absurd control (by decide)

theorem Spelled.not_quote (spelled : Spelled ch) : ch ≠ code '"' := by
  rintro rfl
  exact absurd spelled.1 (by decide)

theorem Spelled.not_backslash (spelled : Spelled ch) : ch ≠ code '\\' := by
  rintro rfl
  exact absurd spelled.2 (by decide)

/-! ## A quoted name -/

def isLetter (ch : UInt8) : Bool := (code 'a' ≤ ch && ch ≤ code 'z') || (code 'A' ≤ ch && ch ≤ code 'Z')

/-- The name of a member, and no more than letters. -/
def Word (name : Bytes) : Prop := name ≠ [] ∧ name.all isLetter = true

instance : Decidable (Word name) := inferInstanceAs (Decidable (_ ∧ _))

/-- The quoted name, and what is to follow it. -/
def key (name suffix : Bytes) : Bytes := code '"' :: (name ++ code '"' :: suffix)

theorem key_ne_nil : key name suffix ≠ [] := List.cons_ne_nil _ _

/-- The name is found within the quotes of the text. -/
def Hits (name text : Bytes) : Prop := text = name ∨ (code '"' :: name) <:+ text

instance : Decidable (Hits name text) := inferInstanceAs (Decidable (_ ∨ _))

theorem escape_letter (letter : isLetter ch = true) : escape ch = [ch] := by
  have other : ∀ special, isLetter special = false → ch ≠ special := by
    rintro special never rfl
    rw [letter] at never
    cases never
  have printable : ¬ ch < 0x20 := by
    intro control
    simp only [isLetter, Bool.or_eq_true, Bool.and_eq_true, decide_eq_true_eq] at letter
    rcases letter with ⟨low, -⟩ | ⟨low, -⟩
    · exact absurd (UInt8.lt_of_le_of_lt low control) (by decide)
    · exact absurd (UInt8.lt_of_le_of_lt low control) (by decide)
  rw [escape, if_neg (other _ rfl), if_neg (other _ rfl), if_neg (other _ rfl), if_neg (other _ rfl),
    if_neg (other _ rfl), if_neg (other _ rfl), if_neg (other _ rfl), if_neg printable]

theorem flatMap_word (letters : name.all isLetter = true) : name.flatMap escape = name := by
  induction name with
  | nil => rfl
  | cons ch name ih =>
    obtain ⟨letter, letters⟩ : isLetter ch = true ∧ name.all isLetter = true := by simpa using letters
    rw [List.flatMap_cons, escape_letter letter, ih letters]
    rfl

theorem behind_key_cons (other : ch ≠ code '"') : behind (key name suffix) (ch :: rest) = behind (key name suffix) rest :=
  behind_cons fun there => other (List.cons_prefix_cons.mp there).1.symm

/-- No quote, no name. -/
theorem behind_key_append (plain : code '"' ∉ text) :
    behind (key name suffix) (text ++ rest) = behind (key name suffix) rest := behind_passes plain _ rest

/-- A name and its closing quote are at the front of a text only if it is the name. -/
theorem name_prefix_iff (letters : name.all isLetter = true) :
    name ++ code '"' :: suffix <+: text.flatMap escape ++ code '"' :: rest ↔ text = name ∧ suffix <+: rest := by
  induction text generalizing name with
  | nil =>
    rw [List.flatMap_nil, List.nil_append]
    cases name with
    | nil => simp
    | cons first name =>
      have letter : isLetter first = true := (List.all_eq_true.mp letters) first List.mem_cons_self
      have other : first ≠ code '"' := by
        rintro rfl
        cases letter
      simp [other]
  | cons ch text ih =>
    rw [List.flatMap_cons, List.append_assoc]
    cases name with
    | nil =>
      obtain ⟨written, quote, -⟩ | ⟨rfl, written⟩ | ⟨letter, digits, written, -⟩ := escape_shape ch
      · simp [written, quote.symm]
      · simp [written, show code '"' ≠ code '\\' by decide]
      · simp [written, show code '"' ≠ code '\\' by decide]
    | cons first name =>
      obtain ⟨letter, letters⟩ : isLetter first = true ∧ name.all isLetter = true := by simpa using letters
      have backslash : first ≠ code '\\' := by
        rintro rfl
        cases letter
      by_cases same : ch = first
      · rw [same, escape_letter letter, List.singleton_append, List.cons_append, List.cons_prefix_cons, ih letters]
        simp
      · have never : ch :: text ≠ first :: name := fun equal => same (List.cons.inj equal).1
        obtain ⟨written, -, -⟩ | ⟨-, written⟩ | ⟨escaped, digits, written, -⟩ := escape_shape ch
        · simp [written, never, Ne.symm same]
        · simp [written, never, backslash]
        · simp [written, never, backslash]

/-- Behind a quote the name is there, or what is behind the quote is searched. -/
theorem behind_quote (word : Word name) (inside rest : Bytes) :
    behind (key name suffix) (code '"' :: (inside.flatMap escape ++ code '"' :: rest)) =
      if inside = name ∧ suffix <+: rest then some (rest.drop suffix.length)
      else behind (key name suffix) (inside.flatMap escape ++ code '"' :: rest) := by
  have found := @name_prefix_iff name suffix inside rest word.2
  by_cases there : inside = name ∧ suffix <+: rest
  · obtain ⟨rfl, rest, rfl⟩ := there
    have split : code '"' :: (inside.flatMap escape ++ code '"' :: (suffix ++ rest)) = key inside suffix ++ rest := by
      rw [flatMap_word word.2, key, List.cons_append, List.append_assoc, List.cons_append]
    rw [if_pos ⟨rfl, List.prefix_append suffix rest⟩, split, behind_front key_ne_nil, List.drop_left]
  · have absent : ¬ key name suffix <+: code '"' :: (inside.flatMap escape ++ code '"' :: rest) :=
      fun front => there (found.mp (List.cons_prefix_cons.mp front).2)
    rw [if_neg there, behind_cons absent]

theorem behind_inside (word : Word name) (other : isLetter ch = false) (inside rest : Bytes) :
    behind (key name suffix) (inside.flatMap escape ++ code '"' :: ch :: rest) =
      if (code '"' :: name) <:+ inside ∧ suffix <+: ch :: rest then some ((ch :: rest).drop suffix.length)
      else behind (key name suffix) (ch :: rest) := by
  induction inside with
  | nil =>
    have absent : ¬ key name suffix <+: code '"' :: ch :: rest := by
      intro there
      obtain ⟨first, name, rfl⟩ := List.exists_cons_of_ne_nil word.1
      have same : first = ch := (List.cons_prefix_cons.mp (List.cons_prefix_cons.mp there).2).1
      have letter := List.all_eq_true.mp word.2 first List.mem_cons_self
      rw [same, other] at letter
      cases letter
    have never : ¬ (code '"' :: name) <:+ [] := by simp
    rw [if_neg fun hit => never hit.1]
    exact behind_cons absent
  | cons byte inside ih =>
    have longer : (code '"' :: name) <:+ byte :: inside ↔
        (code '"' = byte ∧ name = inside) ∨ (code '"' :: name) <:+ inside := by
      rw [List.suffix_cons_iff, List.cons_eq_cons]
    rw [List.flatMap_cons, List.append_assoc]
    obtain ⟨written, quote, -⟩ | ⟨rfl, written⟩ | ⟨letter, digits, written, quote, escaped, spelled⟩ := escape_shape byte
    · rw [written, List.singleton_append, behind_key_cons quote, ih]
      simp only [longer, quote.symm, false_and, false_or]
    · rw [written, List.cons_append, behind_key_cons (by decide), List.singleton_append, behind_quote word, ih]
      by_cases hit : inside = name ∧ suffix <+: ch :: rest
      · simp [hit]
      · rw [if_neg hit]
        by_cases ends : suffix <+: ch :: rest
        · have never : name ≠ inside := fun same => hit ⟨same.symm, ends⟩
          simp only [longer, never, and_false, false_or]
        · simp only [ends, and_false]
    · have backslash : code '\\' ≠ code '"' := by decide
      have plain : code '"' ∉ digits := fun mem => (spelled _ mem).not_quote rfl
      rw [written, List.cons_append, behind_key_cons backslash, List.cons_append, behind_key_cons escaped,
        behind_key_append plain, ih]
      simp only [longer, quote.symm, false_and, false_or]

/-- A string is passed over, unless the name is found at its end. -/
theorem behind_string (word : Word name) (other : isLetter ch = false) (text rest : Bytes) :
    behind (key name suffix) (jsonString text ++ ch :: rest) =
      if Hits name text ∧ suffix <+: ch :: rest then some ((ch :: rest).drop suffix.length)
      else behind (key name suffix) (ch :: rest) := by
  rw [jsonString, List.cons_append, List.append_assoc, List.singleton_append, behind_quote word, behind_inside word other]
  by_cases hit : text = name ∧ suffix <+: ch :: rest
  · simp [Hits, hit]
  · rw [if_neg hit]
    by_cases ends : suffix <+: ch :: rest
    · have never : text ≠ name := fun same => hit ⟨same, ends⟩
      simp only [Hits, never, false_or]
    · simp only [ends, and_false]

/-! ## Members -/

/-- What can come behind a value. -/
def Ends (ch : UInt8) : Prop := ch = code ',' ∨ ch = code '}' ∨ ch = code ']'

theorem Ends.not_letter (ends : Ends ch) : isLetter ch = false := by
  rcases ends with rfl | rfl | rfl <;> rfl

theorem Ends.not_quote (ends : Ends ch) : ch ≠ code '"' := by
  rcases ends with rfl | rfl | rfl <;> decide

theorem Ends.not_colon (ends : Ends ch) : ch ≠ code ':' := by
  rcases ends with rfl | rfl | rfl <;> decide

/-- The search goes on behind the text. -/
def Passes (name suffix text : Bytes) : Prop :=
  ∀ ch rest, Ends ch → behind (key name suffix) (text ++ ch :: rest) = behind (key name suffix) rest

/-- The search ends in the text, and this is left of it. -/
def Stops (name text left : Bytes) : Prop :=
  ∀ ch rest, Ends ch → behind (key name []) (text ++ ch :: rest) = some (left ++ ch :: rest)

theorem passes_plain (plain : code '"' ∉ text) : Passes name suffix text := by
  intro ch rest ends
  rw [behind_key_append plain, behind_key_cons ends.not_quote]

theorem passes_string (word : Word name) (missed : ¬ Hits name text ∨ suffix = [code ':']) :
    Passes name suffix (jsonString text) := by
  intro ch rest ends
  rw [behind_string word ends.not_letter, if_neg, behind_key_cons ends.not_quote]
  rintro ⟨hit, follows⟩
  rcases missed with missed | rfl
  · exact missed hit
  · exact ends.not_colon (List.cons_prefix_cons.mp follows).1.symm

theorem stops_string (word : Word name) (hit : Hits name text) : Stops name (jsonString text) [] := by
  intro ch rest ends
  rw [behind_string word ends.not_letter, if_pos ⟨hit, List.nil_prefix⟩]
  rfl

/-- A text without quotes is found only as a whole. -/
theorem hits_plain (plain : code '"' ∉ text) : Hits name text ↔ text = name := by
  refine or_iff_left fun ends => plain ?_
  exact ends.subset List.mem_cons_self

theorem not_quote_of_letters (letters : name.all isLetter = true) : code '"' ∉ name := by
  intro mem
  have letter := List.all_eq_true.mp letters _ mem
  cases letter

theorem member_written {label : String} (letters : (bytes label).all isLetter = true) (value : Bytes) :
    member label value = jsonString (bytes label) ++ code ':' :: value := by
  rw [member, jsonString, flatMap_word letters]
  simp

theorem behind_member {label : String} (word : Word name) (letters : (bytes label).all isLetter = true) (value : Bytes) :
    behind (key name suffix) (member label value) =
      if bytes label = name ∧ suffix <+: code ':' :: value then some ((code ':' :: value).drop suffix.length)
      else behind (key name suffix) value := by
  have colon : isLetter (code ':') = false := rfl
  have other : code ':' ≠ code '"' := by decide
  rw [member_written letters, behind_string word colon, behind_key_cons other]
  simp only [hits_plain (not_quote_of_letters letters)]

theorem member_append (label : String) (value rest : Bytes) : member label value ++ rest = member label (value ++ rest) := by
  simp [member]

theorem passes_member {label : String} (word : Word name) (letters : (bytes label).all isLetter = true)
    (other : bytes label ≠ name) (passes : Passes name suffix value) : Passes name suffix (member label value) := by
  intro ch rest ends
  rw [member_append, behind_member word letters, if_neg fun found => other found.1]
  exact passes ch rest ends

theorem stops_member {label : String} (word : Word name) (letters : (bytes label).all isLetter = true)
    (other : bytes label ≠ name) (stops : Stops name value left) : Stops name (member label value) left := by
  intro ch rest ends
  rw [member_append, behind_member word letters, if_neg fun found => other found.1]
  exact stops ch rest ends

theorem stops_key {label : String} (word : Word (bytes label)) (value : Bytes) :
    Stops (bytes label) (member label value) (code ':' :: value) := by
  intro ch rest ends
  rw [member_append, behind_member word word.2, if_pos ⟨rfl, List.nil_prefix⟩]
  rfl

/-! ## Objects -/

/-- What follows the first of some members. -/
def others (members : List Bytes) : Bytes := members.flatMap fun member => code ',' :: member

theorem separated_eq (first : Bytes) (members : List Bytes) :
    separated [code ','] (first :: members) = first ++ others members := by
  induction members generalizing first with
  | nil => simp [separated, others]
  | cons second members ih =>
    rw [Document.separated_cons_cons, ih second, others, others, List.flatMap_cons]
    simp

theorem others_next (members : List Bytes) (ch : UInt8) (rest : Bytes) :
    ∃ first more, others members ++ ch :: rest = first :: more ∧ (first = code ',' ∨ first = ch) := by
  cases members with
  | nil => exact ⟨ch, rest, rfl, .inr rfl⟩
  | cons first members => exact ⟨code ',', first ++ others members ++ ch :: rest, by simp [others], .inl rfl⟩

theorem others_ends (members : List Bytes) (ends : Ends ch) (rest : Bytes) :
    ∃ first more, others members ++ ch :: rest = first :: more ∧ Ends first := by
  obtain ⟨first, more, split, rfl | rfl⟩ := others_next members ch rest
  · exact ⟨_, more, split, .inl rfl⟩
  · exact ⟨_, more, split, ends⟩

theorem passes_others {members : List Bytes} (each : ∀ member ∈ members, Passes name suffix member) (ends : Ends ch)
    (rest : Bytes) : behind (key name suffix) (others members ++ ch :: rest) = behind (key name suffix) rest := by
  induction members with
  | nil => exact behind_key_cons ends.not_quote
  | cons first members ih =>
    obtain ⟨here, each⟩ := List.forall_mem_cons.mp each
    obtain ⟨next, more, split, further⟩ := others_ends members ends rest
    have comma : code ',' ≠ code '"' := by decide
    have written : others (first :: members) ++ ch :: rest = code ',' :: (first ++ (others members ++ ch :: rest)) := by
      simp [others]
    rw [written, behind_key_cons comma, split, here _ _ further, ← ih each, split, behind_key_cons further.not_quote]

theorem passes_separated {members : List Bytes} (each : ∀ member ∈ members, Passes name suffix member) :
    Passes name suffix (separated [code ','] members) := by
  intro ch rest ends
  cases members with
  | nil => exact behind_key_cons ends.not_quote
  | cons first members =>
    obtain ⟨here, each⟩ := List.forall_mem_cons.mp each
    obtain ⟨next, more, split, further⟩ := others_ends members ends rest
    rw [separated_eq, List.append_assoc, split, here _ _ further, ← passes_others each ends rest, split,
      behind_key_cons further.not_quote]

theorem stops_separated {front : List Bytes} (each : ∀ member ∈ front, Passes name [] member)
    (stops : Stops name value left) (back : List Bytes) :
    Stops name (separated [code ','] (front ++ value :: back)) (left ++ others back) := by
  intro ch rest ends
  induction front with
  | nil =>
    obtain ⟨next, more, split, further⟩ := others_ends back ends rest
    rw [List.nil_append, separated_eq, List.append_assoc, split, stops _ _ further, ← split, List.append_assoc]
  | cons first front ih =>
    obtain ⟨here, each⟩ := List.forall_mem_cons.mp each
    have written : separated [code ','] (first :: front ++ value :: back) ++ ch :: rest =
        first ++ code ',' :: (separated [code ','] (front ++ value :: back) ++ ch :: rest) := by
      obtain ⟨second, members, same⟩ := List.exists_cons_of_ne_nil (List.append_ne_nil_of_right_ne_nil front
        (List.cons_ne_nil value back))
      rw [List.cons_append, same, Document.separated_cons_cons]
      simp
    rw [written, here _ _ (.inl rfl), ih each]

theorem passes_enclosed {opening closing : UInt8} (opens : opening ≠ code '"') (closes : Ends closing)
    (passes : Passes name suffix text) : Passes name suffix (opening :: text ++ [closing]) := by
  intro ch rest ends
  rw [List.cons_append, List.cons_append, behind_key_cons opens, List.append_assoc, List.singleton_append,
    passes _ _ closes, behind_key_cons ends.not_quote]

theorem passes_object {members : List Bytes} (each : ∀ member ∈ members, Passes name suffix member) :
    Passes name suffix (object members) :=
  passes_enclosed (by decide) (.inr (.inl rfl)) (passes_separated each)

theorem stops_object {front : List Bytes} (each : ∀ member ∈ front, Passes name [] member)
    (stops : Stops name value left) (back : List Bytes) :
    Stops name (object (front ++ value :: back)) (left ++ others back ++ [code '}']) := by
  intro ch rest ends
  have opening : code '{' ≠ code '"' := by decide
  rw [object, List.cons_append, List.cons_append, behind_key_cons opening, List.append_assoc, List.singleton_append,
    stops_separated each stops back _ _ (.inr (.inl rfl))]
  simp

end WhRepeater.TextScan
