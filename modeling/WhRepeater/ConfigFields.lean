import WhRepeater.ConfigText

/-! What becomes of a value of the configuration that is written and read again,
field by field. A free text has to be legible; the other texts are checked against
texts that are, and a bounded number is within its bounds from the first reading on. -/
namespace WhRepeater

open JsonParser (Legible)
open Document

theorem bind_eq_ok {first : Except String α} {next : α → Except String γ} {result : γ} :
    (first >>= next) = .ok result ↔ ∃ value, first = .ok value ∧ next value = .ok result := by
  cases first <;> simp [bind, Except.bind]

theorem pure_eq_ok {value result : α} : (pure value : Except String α) = .ok result ↔ value = result := by
  simp [pure, Except.pure]

theorem ok_bind (value : α) (next : α → Except String γ) : (Except.ok value >>= next) = next value := rfl

/-! ## What is kept -/

/-- The condition on the member, where there is one. -/
def Within (source : Json) (name : String) (condition : Json → Prop) : Prop :=
  ∀ value, optionalMember source name = some value → condition value

def LegibleText (value : Json) : Prop := ∀ text, value = .string text → Legible text

/-- The value can be written, what is written is legible under the one
condition, and under the other the value is read again from it. -/
structure Kept (printDouble : Rat → Bytes) (read : Json → Except String α) (write : α → Document) (value : α)
    (legible lasting : Prop) : Prop where
  proper : (write value).Proper printDouble
  texts : (∀ text ∈ (write value).texts, Legible text) ↔ legible
  again : lasting → read (write value).json = .ok value

variable {printDouble : Rat → Bytes} {read : Json → Except String α} {write : α → Document} {value standing : α}
variable {source json : Json} {name path : String} {lasting : Prop}

theorem Kept.congr {legible same : Prop} (kept : Kept printDouble read write value legible lasting)
    (equivalent : legible ↔ same) : Kept printDouble read write value same lasting :=
  ⟨kept.proper, kept.texts.trans equivalent, kept.again⟩

theorem Kept.weaken {legible harder : Prop} (kept : Kept printDouble read write value legible lasting)
    (lasts : harder → lasting) : Kept printDouble read write value legible harder :=
  ⟨kept.proper, kept.texts, fun holds => kept.again (lasts holds)⟩

theorem optional_cases (found : optional source name standing read = .ok value) :
    (optionalMember source name = none ∧ value = standing) ∨
      ∃ json, optionalMember source name = some json ∧ read json = .ok value := by
  cases member : optionalMember source name with
  | none =>
    simp only [optional, member, pure_eq_ok] at found
    exact .inl ⟨rfl, found.symm⟩
  | some json =>
    simp only [optional, member] at found
    exact .inr ⟨json, rfl, found⟩

/-- What may be absent keeps what stands for it. -/
theorem kept_optional {legible : Json → Prop} (found : optional source name standing read = .ok value)
    (present : ∀ json, optionalMember source name = some json → read json = .ok value →
      Kept printDouble read write value (legible json) lasting)
    (absent : optionalMember source name = none → Kept printDouble read write standing True lasting) :
    Kept printDouble read write value (Within source name legible) lasting := by
  obtain ⟨none, rfl⟩ | ⟨json, member, found⟩ := optional_cases found
  · exact (absent none).congr (by simp [Within, none])
  · exact (present json member found).congr (by simp [Within, member])

/-- What is kept whatever it was read from. -/
theorem kept_anyway (found : optional source name standing read = .ok value)
    (present : ∀ json, read json = .ok value → Kept printDouble read write value True lasting)
    (absent : Kept printDouble read write standing True lasting) : Kept printDouble read write value True lasting := by
  obtain ⟨-, rfl⟩ | ⟨json, -, found⟩ := optional_cases found
  · exact absent
  · exact present json found

theorem required_found (found : required source name read = .ok value) :
    ∃ json, optionalMember source name = some json ∧ read json = .ok value := by
  simp only [required, bind_eq_ok] at found
  obtain ⟨json, member, found⟩ := found
  refine ⟨json, ?_, found⟩
  cases source with
  | object members =>
    cases lookup : members.lookup (bytes name) with
    | none => simp [requiredMember, lookup, throw, throwThe, MonadExceptOf.throw] at member
    | some value => simpa [requiredMember, optionalMember, lookup, pure, Except.pure] using member
  | _ => cases member

theorem required_of_member (member : optionalMember source name = some json) :
    required source name read = read json := by
  cases source with
  | object members =>
    simp only [optionalMember] at member
    simp only [required, requiredMember, member]
    rfl
  | _ => cases member

theorem kept_required {legible : Json → Prop} (found : required source name read = .ok value)
    (present : ∀ json, read json = .ok value → Kept printDouble read write value (legible json) lasting) :
    Kept printDouble read write value (Within source name legible) lasting := by
  obtain ⟨json, member, found⟩ := required_found found
  exact (present json found).congr (by simp [Within, member])

/-! ## Objects -/

/-- The members are what is written of a value, and its reader looks for no
others. -/
structure Keeps (printDouble : Rat → Bytes) (read : Json → Except String α) (members : List (String × Document))
    (value : α) (legible lasting : Prop) : Prop where
  proper : ∀ member ∈ members, member.2.Proper printDouble
  texts : (∀ member ∈ members, ∀ text ∈ member.2.texts, Legible text) ↔ legible
  again : lasting → ∀ json, (∀ member ∈ members, optionalMember json member.1 = some member.2.json) →
    read json = .ok value

theorem Keeps.done (same : Except.ok value = result) : Keeps printDouble (fun _ => result) [] value True lasting :=
  ⟨by simp, by simp, fun _ _ _ => same.symm⟩

variable {legible others : Prop} {members : List (String × Document)} {taken : γ} {take : Json → Except String γ}
variable {put : γ → Document}

theorem Keeps.cons {first : Json → Except String γ} {next : γ → Json → Except String α}
    (kept : Kept printDouble take put taken legible lasting)
    (keeps : Keeps printDouble (next taken) members value others lasting)
    (takes : ∀ json item, optionalMember json name = some item → first json = take item) :
    Keeps printDouble (fun json => first json >>= fun taken => next taken json) ((name, put taken) :: members) value
      (legible ∧ others) lasting := by
  refine ⟨?_, ?_, fun lasts json written => ?_⟩
  · rintro member (_ | ⟨_, among⟩)
    · exact kept.proper
    · exact keeps.proper member among
  · rw [List.forall_mem_cons, kept.texts, keeps.texts]
  · have here := written (name, put taken) List.mem_cons_self
    simp only [takes json _ here, kept.again lasts, ok_bind]
    exact keeps.again lasts json fun member among => written member (List.mem_cons_of_mem _ among)

/-- One optional member more. -/
theorem Keeps.field {stands : Json → γ} {next : γ → Json → Except String α}
    (kept : Kept printDouble take put taken legible lasting)
    (keeps : Keeps printDouble (next taken) members value others lasting) :
    Keeps printDouble (fun json => optional json name (stands json) take >>= fun taken => next taken json)
      ((name, put taken) :: members) value (legible ∧ others) lasting :=
  Keeps.cons kept keeps fun json item member => by simp only [optional, member]

/-- One member more that may not be absent. -/
theorem Keeps.requiredField {next : γ → Json → Except String α}
    (kept : Kept printDouble take put taken legible lasting)
    (keeps : Keeps printDouble (next taken) members value others lasting) :
    Keeps printDouble (fun json => required json name take >>= fun taken => next taken json)
      ((name, put taken) :: members) value (legible ∧ others) lasting :=
  Keeps.cons kept keeps fun _ _ member => required_of_member member

/-- The members may be written in another order than they are read. -/
theorem Keeps.perm {same : List (String × Document)} (order : members.Perm same)
    (keeps : Keeps printDouble read members value legible lasting) : Keeps printDouble read same value legible lasting := by
  refine ⟨fun member among => keeps.proper member (order.mem_iff.mpr among), ?_, fun lasts json written => ?_⟩
  · rw [← keeps.texts]
    exact ⟨fun all member among => all member (order.mem_iff.mp among),
      fun all member among => all member (order.mem_iff.mpr among)⟩
  · exact keeps.again lasts json fun member among => written member (order.mem_iff.mp among)

/-- Names that differ and need no escape. -/
def named (names : List String) : Bool := names.Nodup ∧ ∀ name ∈ names, PlainName name

theorem optionalMember_of_mem {layout : Layout} (distinct : (members.map Prod.fst).Nodup) {member : String × Document}
    (among : member ∈ members) : optionalMember (object layout members).json member.1 = some member.2.json := by
  simp only [Document.json, optionalMember]
  induction members with
  | nil => cases among
  | cons first members ih =>
    obtain ⟨name, value⟩ := first
    simp only [List.map_cons, List.nodup_cons] at distinct
    rw [jsonMembers, List.lookup_cons]
    rcases List.mem_cons.mp among with rfl | among
    · simp
    · have differs : member.1 ≠ name := fun same => distinct.1 (same ▸ List.mem_map_of_mem among)
      have apart : (bytes member.1 == bytes name) = false := by simpa using differs
      simp only [apart]
      exact ih distinct.2 among

theorem proper_object {layout : Layout} (plain : ∀ name ∈ members.map Prod.fst, PlainName name)
    (proper : ∀ member ∈ members, member.2.Proper printDouble) : (object layout members).Proper printDouble := by
  simp only [Proper]
  induction members with
  | nil => trivial
  | cons first members ih =>
    obtain ⟨name, value⟩ := first
    simp only [List.map_cons, List.forall_mem_cons] at plain proper
    exact ⟨plain.1, proper.1, ih plain.2 proper.2⟩

theorem texts_object {layout : Layout} : (∀ text ∈ (object layout members).texts, Legible text) ↔
    ∀ member ∈ members, ∀ text ∈ member.2.texts, Legible text := by
  simp only [texts]
  induction members with
  | nil => simp [textsOfMembers]
  | cons first members ih =>
    obtain ⟨name, value⟩ := first
    simp only [textsOfMembers, List.mem_append, or_imp, forall_and, List.forall_mem_cons, ih]

/-- An object of which every member is kept. -/
theorem kept_object {layout : Layout} {same : Prop} (written : write value = object layout members)
    (keeps : Keeps printDouble read members value legible lasting) (names : named (members.map Prod.fst) = true)
    (equivalent : legible ↔ same) : Kept printDouble read write value same lasting := by
  obtain ⟨distinct, plain⟩ := of_decide_eq_true names
  refine ⟨?_, ?_, fun lasts => ?_⟩
  · rw [written]
    exact proper_object plain keeps.proper
  · rw [written, texts_object, keeps.texts, equivalent]
  · rw [written]
    exact keeps.again lasts _ fun member among => optionalMember_of_mem distinct among

/-! ## Texts and flags -/

theorem kept_text_legible {value : Bytes} (legible : Legible value) :
    Kept printDouble (jsonText · path) Document.text value True lasting :=
  ⟨trivial, by simp [texts, legible], fun _ => rfl⟩

theorem kept_item_text {value : Bytes} (read : jsonText json path = .ok value) :
    Kept printDouble (jsonText · path) Document.text value (LegibleText json) lasting := by
  cases json with
  | string text =>
    cases read
    exact ⟨trivial, by simp [texts, LegibleText], fun _ => rfl⟩
  | _ => cases read

/-- A text that nothing checks. -/
theorem kept_text {value standing : Bytes} (found : optional source name standing (jsonText · path) = .ok value)
    (legible : Legible standing) :
    Kept printDouble (jsonText · path) Document.text value (Within source name LegibleText) lasting :=
  kept_optional found (fun _ _ => kept_item_text) fun _ => kept_text_legible legible

/-- A text that is taken as it is, and only if it is legible. -/
def Strict (check : Bytes → Except String Bytes) : Prop := ∀ text value, check text = .ok value → value = text ∧ Legible text

theorem kept_checked {value standing : Bytes} {check : Bytes → Except String Bytes}
    (found : optional source name standing (fun json => do check (← jsonText json path)) = .ok value)
    (strict : Strict check) (stands : check standing = .ok standing) :
    Kept printDouble (fun json => do check (← jsonText json path)) Document.text value True lasting := by
  have kept : ∀ value, check value = .ok value →
      Kept printDouble (fun json => do check (← jsonText json path)) Document.text value True lasting := by
    intro value checked
    exact ⟨trivial, by simp [texts, (strict value value checked).2], fun _ => checked⟩
  refine kept_anyway found (fun json read => ?_) (kept standing stands)
  rw [bind_eq_ok] at read
  obtain ⟨text, -, checked⟩ := read
  obtain ⟨rfl, -⟩ := strict text value checked
  exact kept value checked

theorem strict_oneOf {allowed : List String} {message : String} (legible : ∀ text ∈ allowed.map bytes, Legible text) :
    Strict (oneOf allowed message) := by
  intro text value checked
  unfold oneOf at checked
  split at checked
  · rename_i among
    cases checked
    exact ⟨rfl, legible text among⟩
  · cases checked

theorem kept_flag {value standing : Bool} (_found : optional source name standing (jsonBool · path) = .ok value) :
    Kept printDouble (jsonBool · path) flag value True lasting :=
  ⟨trivial, by simp [texts], fun _ => rfl⟩

theorem kept_double {value standing : Rat} (_found : optional source name standing (jsonDouble · path) = .ok value)
    (exact : JsonParser.Yields JsonParser.parseNumber (printDouble value) (.number value) []) :
    Kept printDouble (jsonDouble · path) double value True lasting :=
  ⟨exact, by simp [texts], fun _ => rfl⟩

/-! ## Numbers -/

variable {arithmetic : Arithmetic}

theorem jsonUint32_decimal (value : UInt32) (path : String) :
    jsonUint32 arithmetic (decimal value.toNat).json path = .ok value := by
  have unsigned : ¬ ((value.toNat : Int) : Rat) < 0 := by
    push_cast
    exact not_lt.mpr (Nat.cast_nonneg _)
  simp only [Document.json, jsonUint32, if_neg unsigned]
  rw [arithmetic.toUint32_truncates value _ (Binary64.truncate_intCast _)]
  rfl

theorem jsonInt_decimal (value : Int32) (path : String) :
    jsonInt arithmetic (decimal value.toInt).json path = .ok value := by
  simp only [Document.json, jsonInt]
  rw [arithmetic.toInt_truncates value _ (Binary64.truncate_intCast _)]
  rfl

/-- What is taken from an unsigned number is written as one from which the same
is taken. -/
def Unsigned (finish : UInt32 → Except String α) (write : α → Document) (value : α) : Prop :=
  ∃ number : UInt32, write value = decimal number.toNat ∧ finish number = .ok value

theorem Unsigned.kept {finish : UInt32 → Except String α} (written : Unsigned finish write value) :
    Kept printDouble (fun json => do finish (← jsonUint32 arithmetic json path)) write value True lasting := by
  obtain ⟨number, written, finished⟩ := written
  have small : |(number.toNat : Int)| < 2 ^ 53 := by
    have := number.toNat_lt
    rw [abs_of_nonneg (by omega)]
    omega
  refine ⟨?_, ?_, fun _ => ?_⟩
  · rw [written]
    exact small
  · simp [written, texts]
  · rw [written]
    simp only [jsonUint32_decimal, ok_bind, finished]

theorem kept_unsigned {finish : UInt32 → Except String α}
    (found : optional source name standing (fun json => do finish (← jsonUint32 arithmetic json path)) = .ok value)
    (strict : ∀ number, finish number = .ok value → Unsigned finish write value)
    (stands : Unsigned finish write standing) :
    Kept printDouble (fun json => do finish (← jsonUint32 arithmetic json path)) write value True lasting := by
  refine kept_anyway found (fun json read => ?_) stands.kept
  rw [bind_eq_ok] at read
  obtain ⟨number, -, finished⟩ := read
  exact (strict number finished).kept

/-- The same of a signed number. -/
def Signed (finish : Int32 → Except String α) (write : α → Document) (value : α) : Prop :=
  ∃ number : Int32, write value = decimal number.toInt ∧ finish number = .ok value

theorem abs_toInt_lt (number : Int32) : |number.toInt| < 2 ^ 53 := by
  have low := number.le_toInt
  have high := number.toInt_lt
  rw [abs_lt]
  omega

theorem Signed.kept {finish : Int32 → Except String α} (written : Signed finish write value) :
    Kept printDouble (fun json => do finish (← jsonInt arithmetic json path)) write value True lasting := by
  obtain ⟨number, written, finished⟩ := written
  refine ⟨?_, ?_, fun _ => ?_⟩
  · rw [written]
    exact abs_toInt_lt number
  · simp [written, texts]
  · rw [written]
    simp only [jsonInt_decimal, ok_bind, finished]

theorem kept_signed {finish : Int32 → Except String α}
    (found : optional source name standing (fun json => do finish (← jsonInt arithmetic json path)) = .ok value)
    (strict : ∀ number, finish number = .ok value → Signed finish write value)
    (stands : Signed finish write standing) :
    Kept printDouble (fun json => do finish (← jsonInt arithmetic json path)) write value True lasting := by
  refine kept_anyway found (fun json read => ?_) stands.kept
  rw [bind_eq_ok] at read
  obtain ⟨number, -, finished⟩ := read
  exact (strict number finished).kept

/-! ## Kinds of numbers -/

theorem kept_uint32 (value : UInt32) :
    Kept printDouble (jsonUint32 arithmetic · path) (fun value => decimal value.toNat) value True lasting := by
  have written : Unsigned pure (fun value : UInt32 => decimal value.toNat) value := ⟨value, rfl, rfl⟩
  have kept := @Unsigned.kept _ printDouble _ value path lasting arithmetic _ written
  simpa only [bind_pure] using kept

theorem kept_int (value : Int32) :
    Kept printDouble (jsonInt arithmetic · path) (fun value => decimal value.toInt) value True lasting := by
  have written : Signed pure (fun value : Int32 => decimal value.toInt) value := ⟨value, rfl, rfl⟩
  have kept := @Signed.kept _ printDouble _ value path lasting arithmetic _ written
  simpa only [bind_pure] using kept

/-- A port that is cut to its width. -/
theorem kept_uint16 (value : UInt16) :
    Kept printDouble (fun json => do return (← jsonUint32 arithmetic json path).toUInt16)
      (fun value => decimal value.toNat) value True lasting := by
  have written : Unsigned (fun number => pure number.toUInt16) (fun value : UInt16 => decimal value.toNat) value :=
    ⟨value.toUInt32, by simp, by simp [pure, Except.pure]⟩
  exact written.kept

theorem kept_uint64 {value standing : UInt64}
    (found : optional source name standing (fun json => do return (← jsonUint32 arithmetic json path).toUInt64) = .ok value)
    (stands : standing.toUInt32.toUInt64 = standing) :
    Kept printDouble (fun json => do return (← jsonUint32 arithmetic json path).toUInt64)
      (fun value => decimal value.toNat) value True lasting := by
  refine kept_unsigned found (fun number finished => ?_) ⟨standing.toUInt32, ?_, pure_eq_ok.mpr stands⟩
  · rw [pure_eq_ok] at finished
    subst finished
    exact ⟨number, by simp, rfl⟩
  · rw [← UInt32.toNat_toUInt64, stands]

theorem clamp_clamp {α : Type} [LT α] [DecidableLT α] {low high : α} (irreflexive : ∀ value : α, ¬ value < value)
    (ordered : ¬ high < low) (value : α) : clamp (clamp value low high) low high = clamp value low high := by
  unfold clamp
  by_cases below : value < low
  · simp [below, irreflexive low, ordered]
  · by_cases above : high < value
    · simp [below, above, irreflexive high, ordered]
    · simp [below, above]

/-- A number that is brought into its bounds, or otherwise made one that stays
as it is. -/
theorem kept_adjusted {value standing : UInt32} {adjust : UInt32 → UInt32}
    (found : optional source name standing (fun json => do return adjust (← jsonUint32 arithmetic json path)) = .ok value)
    (settled : ∀ number, adjust (adjust number) = adjust number) (stands : adjust standing = standing) :
    Kept printDouble (fun json => do return adjust (← jsonUint32 arithmetic json path))
      (fun value => decimal value.toNat) value True lasting := by
  refine kept_unsigned found (fun number finished => ?_) ⟨standing, rfl, pure_eq_ok.mpr stands⟩
  rw [pure_eq_ok] at finished
  subst finished
  exact ⟨adjust number, rfl, pure_eq_ok.mpr (settled number)⟩

theorem kept_clamped {value standing low high : UInt32}
    (found : optional source name standing
      (fun json => do return clamp (← jsonUint32 arithmetic json path) low high) = .ok value)
    (ordered : ¬ high < low) (stands : clamp standing low high = standing) :
    Kept printDouble (fun json => do return clamp (← jsonUint32 arithmetic json path) low high)
      (fun value => decimal value.toNat) value True lasting :=
  kept_adjusted found (clamp_clamp UInt32.lt_irrefl ordered) stands

/-- Cutting the last bit. -/
theorem toNat_and_not_one (value : UInt32) : (value &&& ~~~1).toNat = value.toNat / 2 * 2 := by
  have small := value.toNat_lt
  have mask : (~~~1 : UInt32).toNat = 4294967294 := by decide
  have halves : (value.toNat &&& 4294967294) / 2 = value.toNat / 2 := by
    rw [Nat.and_div_two, show 4294967294 / 2 = 2 ^ 31 - 1 by rfl, Nat.and_two_pow_sub_one_eq_mod]
    omega
  have even : (value.toNat &&& 4294967294) % 2 = 0 := by
    rcases Nat.mod_two_eq_zero_or_one (value.toNat &&& 4294967294) with even | odd
    · exact even
    · rw [Nat.and_mod_two_eq_one] at odd
      omega
  rw [UInt32.toNat_and, mask]
  omega

/-- An even number within even bounds stays as it is. -/
theorem clamp_even {low high : UInt32} (ordered : low ≤ high) (low_even : low.toNat % 2 = 0)
    (high_even : high.toNat % 2 = 0) (number : UInt32) :
    clamp (clamp number low high &&& ~~~1) low high &&& ~~~1 = clamp number low high &&& ~~~1 := by
  obtain ⟨bounded, bounded_eq⟩ : ∃ bounded, clamp number low high = bounded := ⟨_, rfl⟩
  have within : low.toNat ≤ bounded.toNat ∧ bounded.toNat ≤ high.toNat := by
    subst bounded_eq
    simp only [UInt32.le_iff_toNat_le] at ordered
    unfold clamp
    split
    · exact ⟨Nat.le_refl _, ordered⟩
    split
    · exact ⟨ordered, Nat.le_refl _⟩
    · rename_i above below
      simp only [UInt32.lt_iff_toNat_lt] at above below
      omega
  have cut := toNat_and_not_one bounded
  have same : clamp (bounded &&& ~~~1) low high = bounded &&& ~~~1 := by
    have above : ¬ (bounded &&& ~~~1) < low := by
      rw [UInt32.lt_iff_toNat_lt, cut]
      omega
    have below : ¬ high < (bounded &&& ~~~1) := by
      rw [UInt32.lt_iff_toNat_lt, cut]
      omega
    rw [clamp, if_neg above, if_neg below]
  rw [bounded_eq, same, UInt32.and_assoc, UInt32.and_self]

theorem kept_duration {value standing : Int}
    (found : optional source name standing (fun json => do return (← jsonInt arithmetic json path).toInt) = .ok value)
    (stands : (Int32.ofInt standing).toInt = standing) :
    Kept printDouble (fun json => do return (← jsonInt arithmetic json path).toInt) decimal value True lasting := by
  refine kept_signed found (fun number finished => ?_) ⟨Int32.ofInt standing, by rw [stands], pure_eq_ok.mpr stands⟩
  rw [pure_eq_ok] at finished
  subst finished
  exact ⟨number, rfl, rfl⟩

/-- A signed number that is made one that stays as it is. -/
theorem kept_adjusted_int {value standing : Int32} {adjust : Int32 → Int32}
    (found : optional source name standing (fun json => do return adjust (← jsonInt arithmetic json path)) = .ok value)
    (settled : ∀ number, adjust (adjust number) = adjust number) (stands : adjust standing = standing) :
    Kept printDouble (fun json => do return adjust (← jsonInt arithmetic json path))
      (fun value => decimal value.toInt) value True lasting := by
  refine kept_signed found (fun number finished => ?_) ⟨standing, rfl, pure_eq_ok.mpr stands⟩
  rw [pure_eq_ok] at finished
  subst finished
  exact ⟨adjust number, rfl, pure_eq_ok.mpr (settled number)⟩

theorem kept_port {value standing : UInt16}
    (found : optional source name standing (jsonPort arithmetic · path) = .ok value) (stands : standing ≠ 0) :
    Kept printDouble (jsonPort arithmetic · path) (fun value => decimal value.toNat) value True lasting := by
  have written : ∀ value : UInt16, value ≠ 0 → Unsigned
      (fun value => if value = 0 ∨ 65535 < value then throw (path ++ " must be between 1 and 65535")
        else return value.toUInt16) (fun value => decimal value.toNat) value := by
    intro value positive
    refine ⟨value.toUInt32, by simp, ?_⟩
    have small := value.toNat_lt
    have sound : ¬ (value.toUInt32 = 0 ∨ 65535 < value.toUInt32) := by
      rw [← UInt32.toNat_inj, UInt32.lt_iff_toNat_lt]
      simp only [UInt16.toNat_toUInt32, UInt32.toNat_zero, ne_eq, ← UInt16.toNat_inj, UInt16.toNat_zero] at positive ⊢
      rw [show (65535 : UInt32).toNat = 65535 by rfl]
      omega
    simp only [if_neg sound, UInt16.toUInt16_toUInt32]
    rfl
  refine kept_unsigned found (fun number finished => ?_) (written standing stands)
  split at finished
  · cases finished
  · rename_i sound
    rw [pure_eq_ok] at finished
    subst finished
    apply written
    simp only [not_or, UInt32.lt_iff_toNat_lt, ← UInt32.toNat_inj, ne_eq, ← UInt16.toNat_inj] at sound ⊢
    simp only [UInt32.reduceToNat, UInt32.toNat_zero, UInt32.toNat_toUInt16, UInt16.toNat_zero] at sound ⊢
    omega

theorem max_int32 (low number : Int32) : max low number = if low ≤ number then number else low := rfl

theorem toInt_max (low number : Int32) : (max low number).toInt = max low.toInt number.toInt := by
  rw [max_int32, Int.max_def]
  simp only [Int32.le_iff_toInt_le]
  split <;> rfl

theorem max_max (low number : Int32) : max low (max low number) = max low number := by
  by_cases above : low ≤ number <;> simp [max_int32, above]

/-- A duration that is no shorter than the bound. -/
theorem kept_bounded_duration {value standing : Int} {low : Int32}
    (found : optional source name standing (fun json => do return (max low (← jsonInt arithmetic json path)).toInt) = .ok value)
    (stands : (max low (Int32.ofInt standing)).toInt = standing) :
    Kept printDouble (fun json => do return (max low (← jsonInt arithmetic json path)).toInt) decimal value True lasting := by
  refine kept_signed found (fun number finished => ?_) ⟨max low (Int32.ofInt standing), by rw [stands], ?_⟩
  · rw [pure_eq_ok] at finished
    subst finished
    exact ⟨max low number, rfl, by rw [pure_eq_ok, max_max]⟩
  · rw [pure_eq_ok, max_max, stands]

/-! ## Arrays -/

/-- The condition on every item, where there is an array. -/
def EachItem (condition : Json → Prop) (json : Json) : Prop :=
  ∀ items, json = .array items → ∀ item ∈ items, condition item

theorem mapM_ok {items : List Json} {values : List α} :
    items.mapM read = .ok values ↔ List.Forall₂ (fun item value => read item = .ok value) items values := by
  induction items generalizing values with
  | nil => rw [List.mapM_nil, pure_eq_ok, List.forall₂_nil_left_iff, eq_comm]
  | cons item items ih =>
    simp only [List.mapM_cons, bind_eq_ok, pure_eq_ok, ih, List.forall₂_cons_left_iff]
    constructor
    · rintro ⟨value, read_item, others, read_others, rfl⟩
      exact ⟨value, others, read_item, read_others, rfl⟩
    · rintro ⟨value, others, read_item, read_others, rfl⟩
      exact ⟨value, read_item, others, read_others, rfl⟩

theorem kept_array {message : String} {values : List α} {layout : List α → Layout} {condition : Json → Prop}
    (found : jsonArray message read json = .ok values)
    (kept : ∀ item value, read item = .ok value → Kept printDouble read write value (condition item) lasting) :
    Kept printDouble (jsonArray message read) (fun values => array (layout values) (values.map write)) values
      (EachItem condition json) lasting := by
  cases json with
  | array items =>
    simp only [jsonArray, mapM_ok] at found
    have each : EachItem condition (.array items) ↔ ∀ item ∈ items, condition item := by simp [EachItem]
    rw [each]
    refine ⟨?_, ?_, fun lasts => ?_⟩
    · simp only [Proper]
      induction found with
      | nil => trivial
      | cons read_item _ ih => exact ⟨(kept _ _ read_item).proper, ih (by simp [EachItem])⟩
    · simp only [texts]
      induction found with
      | nil => simp [textsOfItems]
      | cons read_item _ ih =>
        rw [List.map_cons, textsOfItems, List.forall_mem_append, List.forall_mem_cons, (kept _ _ read_item).texts,
          ih (by simp [EachItem])]
    · simp only [Document.json, jsonArray, mapM_ok]
      induction found with
      | nil => exact .nil
      | cons read_item _ ih => exact .cons ((kept _ _ read_item).again lasts) (ih (by simp [EachItem]))
  | _ => cases found

end WhRepeater
