import Mathlib.Data.List.Nodup
import WhRepeater.DigitLoops
import WhRepeater.JsonRenderings
import WhRepeater.MemberValues

/-! The receivers that the status of a gateway tells of (`filterReceiverArrayByConfig`
of `api_server.cpp`). Their objects are found by counting braces outside of strings,
in whatever spelling the text has, and kept byte for byte unless the configuration
disables the receiver. -/
namespace WhRepeater

open TextScan
open JsonParser (Blank)
open ApiServer (Denotes isBlank trimmed jsonInteger jsonIntValue)

/-! ## Spellings of JSON -/

/-- What is between the quotes of a string, with any escapes. -/
inductive Quoted : Bytes → Prop
  | nil : Quoted []
  | plain {ch : UInt8} {text : Bytes} (quote : ch ≠ code '"') (backslash : ch ≠ code '\\') (others : Quoted text) :
      Quoted (ch :: text)
  | escaped (ch : UInt8) {text : Bytes} (others : Quoted text) : Quoted (code '\\' :: ch :: text)

mutual
/-- A JSON value in any spelling: a number or a word, a string, an array or an object. -/
inductive ValueText : Bytes → Prop
  | scalar {text : Bytes} (scalar : Scalar text) : ValueText text
  | string {inside : Bytes} (quoted : Quoted inside) : ValueText (code '"' :: inside ++ [code '"'])
  | emptyArray {inside : Bytes} (blank : Blank inside) : ValueText (code '[' :: inside ++ [code ']'])
  | array {inside : Bytes} (contents : ItemsText inside) : ValueText (code '[' :: inside ++ [code ']'])
  | emptyObject {inside : Bytes} (blank : Blank inside) : ValueText (code '{' :: inside ++ [code '}'])
  | object {inside : Bytes} (contents : MembersText inside) : ValueText (code '{' :: inside ++ [code '}'])

inductive ItemsText : Bytes → Prop
  | last {before text after : Bytes} (front : Blank before) (item : ValueText text) (back : Blank after) :
      ItemsText (before ++ text ++ after)
  | more {before text after others : Bytes} (front : Blank before) (item : ValueText text) (back : Blank after)
      (contents : ItemsText others) : ItemsText (before ++ text ++ after ++ code ',' :: others)

inductive MembersText : Bytes → Prop
  | last {before name behind colon text after : Bytes} (front : Blank before) (quoted : Quoted name) (named : Blank behind)
      (separated : Blank colon) (value : ValueText text) (back : Blank after) :
      MembersText (before ++ (code '"' :: name ++ [code '"']) ++ behind ++ code ':' :: (colon ++ text ++ after))
  | more {before name behind colon text after others : Bytes} (front : Blank before) (quoted : Quoted name)
      (named : Blank behind) (separated : Blank colon) (value : ValueText text) (back : Blank after)
      (contents : MembersText others) :
      MembersText (before ++ (code '"' :: name ++ [code '"']) ++ behind ++ code ':' :: (colon ++ text ++ after ++ code ',' :: others))
end

namespace TextScan

variable {opening closing : UInt8} {text : Bytes}

theorem stringEnd_quoted (quoted : Quoted text) (rest : Bytes) :
    stringEnd false (text ++ code '"' :: rest) = some (text.length + 1) := by
  induction quoted with
  | nil => rfl
  | plain quote backslash others ih =>
    rw [List.cons_append, stringEnd, if_neg Bool.false_ne_true, if_neg backslash, if_neg quote, ih]
    rfl
  | escaped ch others ih =>
    rw [List.cons_append, stringEnd, if_neg Bool.false_ne_true, if_pos rfl, List.cons_append, stringEnd, if_pos rfl, ih]
    rfl

/-- No bracket in a string counts. -/
theorem balanced_quoted (quoted : Quoted text) : Balanced opening closing (code '"' :: text ++ [code '"']) := by
  intro depth rest _
  have left : (text ++ code '"' :: rest).drop (text.length + 1) = rest := by
    rw [← List.drop_drop, List.drop_left]
    rfl
  rw [List.cons_append, List.cons_append, List.append_assoc, List.singleton_append, enclosed, if_neg Bool.false_ne_true,
    if_pos rfl, enclosed_inString, stringEnd_quoted quoted, Option.bind_some, left]
  refine map_further (fun count => ?_) _
  simp only [List.length_cons, List.length_append, List.length_nil]
  omega

theorem balanced_blank (pair : Pair opening closing) (blank : Blank text) : Balanced opening closing text := by
  refine balanced_plain fun ch among => ?_
  have space := List.all_eq_true.mp blank ch among
  have other : ∀ special, isSpace special = false → ch ≠ special := by
    rintro special never rfl
    rw [space] at never
    cases never
  rcases pair with ⟨rfl, rfl⟩ | ⟨rfl, rfl⟩
  · exact ⟨other _ rfl, other _ rfl, other _ rfl⟩
  · exact ⟨other _ rfl, other _ rfl, other _ rfl⟩

/-- A bracket of the one kind is closed in a text that is balanced for the other kind too. -/
theorem balanced_bracketed {left right : UInt8} (pair : Pair opening closing) (other : Pair left right)
    (inside : Balanced opening closing text) : Balanced opening closing (left :: text ++ [right]) := by
  have plain : ∀ ch : UInt8, ch ≠ code '"' → ch ≠ opening → ch ≠ closing → Balanced opening closing [ch] :=
    fun ch quote opens closes => balanced_cons quote opens closes balanced_nil
  rcases pair with ⟨rfl, rfl⟩ | ⟨rfl, rfl⟩ <;> rcases other with ⟨rfl, rfl⟩ | ⟨rfl, rfl⟩
  · exact balanced_enclosed (by decide) (by decide) (by decide) inside
  · exact balanced_cons (by decide) (by decide) (by decide) (balanced_append inside (plain _ (by decide) (by decide) (by decide)))
  · exact balanced_cons (by decide) (by decide) (by decide) (balanced_append inside (plain _ (by decide) (by decide) (by decide)))
  · exact balanced_enclosed (by decide) (by decide) (by decide) inside

end TextScan

variable {opening closing : UInt8}

mutual
theorem ValueText.balanced {text : Bytes} (value : ValueText text) (pair : Pair opening closing) :
    Balanced opening closing text := by
  match value with
  | .scalar scalar => exact balanced_scalar pair scalar
  | .string quoted => exact balanced_quoted quoted
  | .emptyArray blank => exact balanced_bracketed pair (.inr ⟨rfl, rfl⟩) (balanced_blank pair blank)
  | .array contents => exact balanced_bracketed pair (.inr ⟨rfl, rfl⟩) (contents.balanced pair)
  | .emptyObject blank => exact balanced_bracketed pair (.inl ⟨rfl, rfl⟩) (balanced_blank pair blank)
  | .object contents => exact balanced_bracketed pair (.inl ⟨rfl, rfl⟩) (contents.balanced pair)

theorem ItemsText.balanced {text : Bytes} (items : ItemsText text) (pair : Pair opening closing) :
    Balanced opening closing text := by
  match items with
  | .last front item back =>
    exact balanced_append (balanced_append (balanced_blank pair front) (item.balanced pair)) (balanced_blank pair back)
  | .more front item back contents =>
    refine balanced_append (balanced_append (balanced_append (balanced_blank pair front) (item.balanced pair))
      (balanced_blank pair back)) (balanced_comma pair (contents.balanced pair))

theorem MembersText.balanced {text : Bytes} (members : MembersText text) (pair : Pair opening closing) :
    Balanced opening closing text := by
  match members with
  | .last front quoted named separated value back =>
    refine balanced_append (balanced_append (balanced_append (balanced_blank pair front) (balanced_quoted quoted))
      (balanced_blank pair named)) (balanced_colon pair ?_)
    exact balanced_append (balanced_append (balanced_blank pair separated) (value.balanced pair)) (balanced_blank pair back)
  | .more front quoted named separated value back contents =>
    refine balanced_append (balanced_append (balanced_append (balanced_blank pair front) (balanced_quoted quoted))
      (balanced_blank pair named)) (balanced_colon pair ?_)
    exact balanced_append (balanced_append (balanced_append (balanced_blank pair separated) (value.balanced pair))
      (balanced_blank pair back)) (balanced_comma pair (contents.balanced pair))
end

/-! ## Objects of receivers -/

/-- What follows the first member of an object, up to the brace. -/
inductive FurtherMembers : Bytes → Prop
  | none : FurtherMembers []
  | some {members : Bytes} (contents : MembersText members) : FurtherMembers (code ',' :: members)

/-- An object that begins with an integer as its `id`. -/
inductive ReceiverText : Bytes → Int32 → Prop
  | object {before behind colon digits after further : Bytes} {id : Int32} (front : Blank before) (named : Blank behind)
      (separated : Blank colon) (denotes : Denotes digits id.toInt) (back : Blank after) (others : FurtherMembers further) :
      ReceiverText (code '{' :: (before ++ bytes "\"id\"" ++ behind ++ code ':' :: (colon ++ digits ++ after ++ further)) ++
        [code '}']) id

/-- The receivers between the brackets of an array, with the objects that write them. -/
inductive ReceiversText : List (Bytes × Int32) → Bytes → Prop
  | last {before object after : Bytes} {id : Int32} (front : Blank before) (receiver : ReceiverText object id)
      (back : Blank after) : ReceiversText [(object, id)] (before ++ object ++ after)
  | more {before object after others : Bytes} {id : Int32} {receivers : List (Bytes × Int32)} (front : Blank before)
      (receiver : ReceiverText object id) (back : Blank after) (contents : ReceiversText receivers others) :
      ReceiversText ((object, id) :: receivers) (before ++ object ++ after ++ code ',' :: others)

/-- An array of such objects, and blanks around it. -/
inductive ReceiverArray : List (Bytes × Int32) → Bytes → Prop
  | empty {front inside back : Bytes} (before : front.all isBlank = true) (blank : Blank inside)
      (after : back.all isBlank = true) : ReceiverArray [] (front ++ (code '[' :: inside ++ [code ']']) ++ back)
  | array {front inside back : Bytes} {receivers : List (Bytes × Int32)} (before : front.all isBlank = true)
      (contents : ReceiversText receivers inside) (after : back.all isBlank = true) :
      ReceiverArray receivers (front ++ (code '[' :: inside ++ [code ']']) ++ back)

theorem FurtherMembers.balanced {text : Bytes} (further : FurtherMembers text) (pair : Pair opening closing) :
    Balanced opening closing text := by
  cases further with
  | none => exact balanced_nil
  | some contents => exact balanced_comma pair (contents.balanced pair)

theorem scalar_denotes {digits : Bytes} {number : Int} (denotes : Denotes digits number) : Scalar digits := by
  have digit : ∀ {digits : Bytes}, digits.all isDigit = true → digits.all isScalar = true := fun all =>
    List.all_eq_true.mpr fun ch among => by simp [isScalar, List.all_eq_true.mp all ch among]
  cases denotes with
  | positive numeral => exact ⟨numeral.1, digit numeral.2⟩
  | negative numeral => exact ⟨List.cons_ne_nil _ _, by rw [List.all_cons, digit numeral.2]; rfl⟩

theorem jsonIntValue_denotes {digits : Bytes} {id : Int32} (denotes : Denotes digits id.toInt) :
    jsonIntValue digits = .ok (some id) := by
  have whole : trimmed digits = digits := ApiServer.trimmed_self fun ch among => by
    have space := not_space_of_scalar (List.all_eq_true.mp (scalar_denotes denotes).2 ch among)
    have other : ∀ special, isSpace special = true → ch ≠ special := by
      rintro special blank rfl
      rw [space] at blank
      cases blank
    simp [isBlank, other 32 rfl, other 9 rfl, other 13 rfl, other 10 rfl]
  unfold jsonIntValue
  rw [ApiServer.jsonInteger_denotes (by rwa [whole])]
  exact congrArg (fun id => Except.ok (some id)) (Int32.ofInt_toInt id)

theorem not_mem_blank {blank : Bytes} (spaces : Blank blank) {ch : UInt8} (other : isSpace ch = false) : ch ∉ blank := by
  intro among
  rw [List.all_eq_true.mp spaces ch among] at other
  cases other

/-- The first member of the object is found by its name. -/
theorem identifier_found {object : Bytes} {id : Int32} (receiver : ReceiverText object id) :
    ∃ digits, jsonMember object (bytes "id") = .ok (some digits) ∧ jsonIntValue digits = .ok (some id) := by
  cases receiver with
  | @object before named colon digits after further id front blank separated denotes back others =>
    refine ⟨digits, ?_, jsonIntValue_denotes denotes⟩
    have key : bytes "\"id\"" = code '"' :: bytes "id" ++ [code '"'] := by decide
    have opening : code '"' ∉ code '{' :: before :=
      List.not_mem_cons_of_ne_of_not_mem (by decide) (not_mem_blank front rfl)
    have name : behind (code '"' :: bytes "id" ++ [code '"'])
        (code '{' :: (before ++ bytes "\"id\"" ++ named ++ code ':' :: (colon ++ digits ++ after ++ further)) ++ [code '}']) =
          some (named ++ code ':' :: (colon ++ digits ++ after ++ (further ++ [code '}']))) := by
      have found := behind_front (List.cons_ne_nil (code '"') (bytes "id" ++ [code '"']))
        (named ++ code ':' :: (colon ++ digits ++ after ++ (further ++ [code '}'])))
      have skipped := behind_passes opening (bytes "id" ++ [code '"'])
        ((code '"' :: (bytes "id" ++ [code '"'])) ++ (named ++ code ':' :: (colon ++ digits ++ after ++ (further ++ [code '}']))))
      rw [key, ← found, ← skipped]
      simp only [List.append_assoc, List.cons_append, List.nil_append]
    have value : valueOf (colon ++ digits ++ after ++ (further ++ [code '}'])) = some digits := by
      cases others with
      | none => exact valueOf_scalar (scalar_denotes denotes) separated back (.inr rfl) []
      | @some members contents => exact valueOf_scalar (scalar_denotes denotes) separated back (.inl rfl) (members ++ [code '}'])
    rw [jsonMember_eq, name, Option.bind_some, behind_passes (not_mem_blank blank rfl), behind_colon, Option.bind_some, value]

/-- The object is closed by its own brace. -/
theorem enclosed_receiver {object : Bytes} {id : Int32} (receiver : ReceiverText object id) (rest : Bytes) :
    enclosed (code '{') (code '}') 0 false false (object ++ rest) = some object.length := by
  cases receiver with
  | object front named separated denotes back others =>
    have braces : Pair (code '{') (code '}') := .inl ⟨rfl, rfl⟩
    have key : bytes "\"id\"" = code '"' :: bytes "id" ++ [code '"'] := by decide
    have quoted : Quoted (bytes "id") := .plain (by decide) (by decide) (.plain (by decide) (by decide) .nil)
    refine enclosed_whole braces ?_ rest
    rw [key]
    refine balanced_append (balanced_append (balanced_append (balanced_blank braces front) (balanced_quoted quoted))
      (balanced_blank braces named)) (balanced_colon braces ?_)
    exact balanced_append (balanced_append (balanced_append (balanced_blank braces separated)
      (balanced_scalar braces (scalar_denotes denotes))) (balanced_blank braces back)) (others.balanced braces)

theorem braced_receiver {object : Bytes} {id : Int32} (receiver : ReceiverText object id) :
    ∃ inside, object = code '{' :: (inside ++ [code '}']) := by
  cases receiver with
  | object => exact ⟨_, rfl⟩

namespace ApiServer

/-! ## The filter -/

/-- What is written of the objects that are kept. -/
def writtenObjects (wrote : Bool) (objects : List Bytes) : Bytes :=
  if wrote then others objects else separated [code ','] objects

/-- The objects of the receivers that are enabled. -/
def enabledObjects (config : RepeaterConfig) (receivers : List (Bytes × Int32)) : List Bytes :=
  (receivers.filter fun receiver => receiverEnabled config ⟨receiver.2⟩).map Prod.fst

/-- Blanks and commas are passed. -/
def isSeparator (ch : UInt8) : Bool := isSpace ch || ch = code ','

theorem takeWhile_separators {lead : Bytes} (separators : lead.all isSeparator = true) {ch : UInt8} (other : isSeparator ch = false)
    (rest : Bytes) : ((lead ++ ch :: rest).takeWhile isSeparator).length = lead.length := by
  rw [List.takeWhile_append_of_pos (List.all_eq_true.mp separators), List.takeWhile_cons_of_neg (by simp [other]), List.append_nil]

/-- Behind the last object, the array is closed. -/
theorem filterReceivers_end (config : RepeaterConfig) {lead : Bytes} (separators : lead.all isSeparator = true) (front : Bytes)
    (wrote : Bool) : filterReceivers config (front ++ (lead ++ [code ']'])) front.length wrote = .ok (some (bytes "]")) := by
  unfold filterReceivers
  split
  · have start := takeWhile_separators separators (rfl : isSeparator (code ']') = false) []
    have rest : (front ++ (lead ++ [code ']'])).drop (front.length + lead.length) = [code ']'] := by
      rw [← List.drop_drop, List.drop_left, List.drop_left]
    unfold isSeparator at start
    dsimp only
    rw [List.drop_left, start, rest]
    rfl
  · rfl

/-- An object is kept where its receiver is enabled, and the search goes on behind it. -/
theorem filterReceivers_object (config : RepeaterConfig) {lead object : Bytes} {id : Int32} (separators : lead.all isSeparator = true)
    (receiver : ReceiverText object id) (front rest : Bytes) (wrote : Bool) :
    filterReceivers config (front ++ (lead ++ (object ++ rest))) front.length wrote =
      (do
        let others ← filterReceivers config (front ++ (lead ++ (object ++ rest))) (front ++ lead ++ object).length
          (wrote || receiverEnabled config ⟨id⟩)
        return others.map ((if receiverEnabled config ⟨id⟩ = false then [] else
          if wrote then code ',' :: object else object) ++ ·)) := by
  obtain ⟨inside, spelled⟩ := braced_receiver receiver
  obtain ⟨digits, found, read⟩ := identifier_found receiver
  have length : object.length = inside.length + 2 := by simp [spelled]
  have within : front.length + 1 < (front ++ (lead ++ (object ++ rest))).length := by
    simp only [List.length_append]
    omega
  have start := takeWhile_separators separators (rfl : isSeparator (code '{') = false) (inside ++ [code '}'] ++ rest)
  rw [← List.cons_append, ← spelled] at start
  have behind : (front ++ (lead ++ (object ++ rest))).drop (front.length + lead.length) = object ++ rest := by
    rw [← List.drop_drop, List.drop_left, List.drop_left]
  have closed := enclosed_receiver receiver rest
  have taken : substr (front ++ (lead ++ (object ++ rest))) (front.length + lead.length) object.length = .ok object := by
    rw [substr_ok (by simp only [List.length_append]; omega), behind, List.take_left]
  have next : front.length + lead.length + object.length = (front ++ lead ++ object).length := by simp [Nat.add_assoc]
  unfold isSeparator at start
  conv_lhs => unfold filterReceivers
  rw [dif_pos within]
  dsimp only
  rw [List.drop_left, start, behind]
  split
  · rename_i nothing
    rw [spelled] at nothing
    cases nothing
  · rename_i ch others first
    rw [first] at closed
    have brace : ch = code '{' := by
      rw [spelled] at first
      exact (List.cons.inj first).1.symm
    subst brace
    rw [if_neg (by decide), if_neg (by simp)]
    split
    · rename_i never
      rw [closed] at never
      cases never
    · rename_i count ends
      rw [closed] at ends
      cases ends
      rw [taken, next]
      dsimp only [bind, Except.bind]
      rw [found]
      dsimp only
      rw [read]

theorem writtenObjects_cons (config : RepeaterConfig) (wrote : Bool) (object : Bytes) (id : Int32) (receivers : List (Bytes × Int32)) :
    writtenObjects wrote (enabledObjects config ((object, id) :: receivers)) =
      (if receiverEnabled config ⟨id⟩ = false then [] else if wrote then code ',' :: object else object) ++
        writtenObjects (wrote || receiverEnabled config ⟨id⟩) (enabledObjects config receivers) := by
  cases enabled : receiverEnabled config ⟨id⟩ with
  | false => simp [enabledObjects, enabled]
  | true =>
    have first : enabledObjects config ((object, id) :: receivers) = object :: enabledObjects config receivers := by
      simp [enabledObjects, enabled]
    rw [first]
    cases wrote with
    | false => exact separated_eq object _
    | true => rfl

theorem separators_blank {text : Bytes} (blank : Blank text) : text.all isSeparator = true :=
  List.all_eq_true.mpr fun ch among => by simp [isSeparator, List.all_eq_true.mp blank ch among]

/-- From the separators in front of the first object on, the enabled ones are kept. -/
theorem filterReceivers_contents (config : RepeaterConfig) {receivers : List (Bytes × Int32)} {text : Bytes}
    (contents : ReceiversText receivers text) {lead : Bytes} (separators : lead.all isSeparator = true) (front : Bytes)
    (wrote : Bool) :
    filterReceivers config (front ++ (lead ++ (text ++ [code ']']))) front.length wrote =
      .ok (some (writtenObjects wrote (enabledObjects config receivers) ++ bytes "]")) := by
  induction contents generalizing lead front wrote with
  | @last before object after id blank receiver back =>
    have leading : (lead ++ before).all isSeparator = true := by
      rw [List.all_append, separators, separators_blank blank]
      rfl
    have here := filterReceivers_object config leading receiver front (after ++ [code ']']) wrote
    have ends := filterReceivers_end config (separators_blank back) (front ++ (lead ++ before) ++ object)
      (wrote || receiverEnabled config ⟨id⟩)
    have none : writtenObjects (wrote || receiverEnabled config ⟨id⟩) (enabledObjects config []) = [] := by
      cases wrote || receiverEnabled config ⟨id⟩ <;> rfl
    rw [writtenObjects_cons, none, List.append_nil]
    simp only [List.append_assoc] at here ends ⊢
    rw [here, ends]
    rfl
  | @more before object after others id receivers blank receiver back contents ih =>
    have leading : (lead ++ before).all isSeparator = true := by
      rw [List.all_append, separators, separators_blank blank]
      rfl
    have between : (after ++ [code ',']).all isSeparator = true := by
      rw [List.all_append, separators_blank back]
      rfl
    have here := filterReceivers_object config leading receiver front (after ++ code ',' :: (others ++ [code ']'])) wrote
    have later := ih between (front ++ (lead ++ before) ++ object) (wrote || receiverEnabled config ⟨id⟩)
    rw [writtenObjects_cons]
    simp only [List.append_assoc, List.cons_append, List.nil_append] at here later ⊢
    rw [here, later]
    rfl

theorem trimmed_bracketed {front inside back : Bytes} (before : front.all isBlank = true) (after : back.all isBlank = true) :
    trimmed (front ++ (code '[' :: inside ++ [code ']']) ++ back) = code '[' :: (inside ++ [code ']']) := by
  have kept : (code '[' :: (inside ++ [code ']'])).rdropWhile isBlank = code '[' :: (inside ++ [code ']']) :=
    List.rdropWhile_concat_neg isBlank (code '[' :: inside) (code ']') (by decide)
  rw [trimmed, List.append_assoc, List.dropWhile_append_of_pos (List.all_eq_true.mp before), List.cons_append, List.cons_append,
    List.dropWhile_cons_of_neg (by decide), List.rdropWhile, ← List.cons_append, List.reverse_append,
    List.dropWhile_append_of_pos fun ch among => List.all_eq_true.mp after ch (List.mem_reverse.mp among)]
  exact kept

/-- What is filtered behind the bracket is the array, whatever blanks stand around it. -/
theorem filterReceiverArray_bracketed {config : RepeaterConfig} {objects : List Bytes} {front inside back : Bytes}
    (before : front.all isBlank = true) (after : back.all isBlank = true)
    (filtered : filterReceivers config (code '[' :: (inside ++ [code ']'])) 1 false =
      .ok (some (writtenObjects false objects ++ bytes "]"))) :
    filterReceiverArrayByConfig (front ++ (code '[' :: inside ++ [code ']']) ++ back) config = .ok (array objects) := by
  have last : (code '[' :: (inside ++ [code ']'])).getLast? = some (code ']') := by
    rw [← List.cons_append, List.getLast?_append]
    rfl
  have whole : ¬ ((code '[' :: (inside ++ [code ']'])).length < 2 ∨ (code '[' :: (inside ++ [code ']'])).head? ≠ some (code '[') ∨
      (code '[' :: (inside ++ [code ']'])).getLast? ≠ some (code ']')) := by
    simp [last]
  unfold filterReceiverArrayByConfig
  rw [trimJson_eq, trimmed_bracketed before after]
  dsimp only [bind, Except.bind]
  rw [if_neg whole, filtered]
  rfl

/-- What is filtered of an array in any spelling. -/
theorem filterReceiverArray_eq (config : RepeaterConfig) {receivers : List (Bytes × Int32)} {text : Bytes}
    (written : ReceiverArray receivers text) :
    filterReceiverArrayByConfig text config = .ok (array (enabledObjects config receivers)) := by
  cases written with
  | empty before blank after =>
    refine filterReceiverArray_bracketed before after ?_
    exact filterReceivers_end config (separators_blank blank) [code '['] false
  | array before contents after =>
    refine filterReceiverArray_bracketed before after ?_
    exact @filterReceivers_contents config _ _ contents [] rfl [code '['] false

end ApiServer

/-! ## Receivers that are disabled -/

/-- The entry of the receiver that the configuration has first is a disabled one. -/
def DisabledFirst (config : RepeaterConfig) (id : Int32) : Prop :=
  ∃ configured, (config.receivers.find? fun configured => configured.receiver = ⟨id⟩) = some configured ∧ configured.enabled = false

/-- Some entry of the receiver is a disabled one. -/
def Disabled (config : RepeaterConfig) (id : Int32) : Prop :=
  ∃ configured ∈ config.receivers, configured.receiver = ⟨id⟩ ∧ configured.enabled = false

instance (config : RepeaterConfig) (id : Int32) : Decidable (Disabled config id) := inferInstanceAs (Decidable (∃ _ ∈ _, _ ∧ _))

theorem receiverEnabled_iff (config : RepeaterConfig) (id : Int32) :
    ApiServer.receiverEnabled config ⟨id⟩ = true ↔ ¬ DisabledFirst config id := by
  unfold ApiServer.receiverEnabled DisabledFirst
  cases config.receivers.find? fun configured => configured.receiver = ⟨id⟩ with
  | none => simp
  | some configured => simp

instance (config : RepeaterConfig) (id : Int32) : Decidable (DisabledFirst config id) :=
  decidable_of_iff (¬ ApiServer.receiverEnabled config ⟨id⟩ = true) ((not_congr (receiverEnabled_iff config id)).trans not_not)

/-- Where no two entries are of one receiver, the first one is the only one. -/
theorem disabledFirst_iff {config : RepeaterConfig} (distinct : (config.receivers.map (·.receiver)).Nodup) (id : Int32) :
    DisabledFirst config id ↔ Disabled config id := by
  constructor
  · intro ⟨configured, first, disabled⟩
    exact ⟨configured, List.mem_of_find?_eq_some first, of_decide_eq_true (List.find?_eq_some_iff_append.mp first).1, disabled⟩
  · intro ⟨configured, among, named, disabled⟩
    have found : (config.receivers.find? fun configured => configured.receiver = ⟨id⟩).isSome :=
      List.find?_isSome.mpr ⟨configured, among, decide_eq_true named⟩
    obtain ⟨first, here⟩ := Option.isSome_iff_exists.mp found
    have named_first := of_decide_eq_true (List.find?_eq_some_iff_append.mp here).1
    have same : first = configured :=
      List.inj_on_of_nodup_map distinct (List.mem_of_find?_eq_some here) among (named_first.trans named.symm)
    exact ⟨first, here, same ▸ disabled⟩

/-- The objects that are left when those of some receivers are taken away. -/
def without (away : Int32 → Prop) [DecidablePred away] (receivers : List (Bytes × Int32)) : List Bytes :=
  (receivers.filter fun receiver => ¬ away receiver.2).map Prod.fst

/-- The objects of a receiver array, in any spelling, are kept as they are, but for those of the receivers whose first entry in
the configuration is disabled; these are all that are disabled where no two entries are of one receiver. -/
theorem filtered_receivers (config : RepeaterConfig) {receivers : List (Bytes × Int32)} {text : Bytes}
    (written : ReceiverArray receivers text) :
    ApiServer.filterReceiverArrayByConfig text config =
        .ok (ApiServer.array (without (DisabledFirst config) receivers)) ∧
      ((config.receivers.map (·.receiver)).Nodup →
        without (DisabledFirst config) receivers = without (Disabled config) receivers) := by
  constructor
  · rw [ApiServer.filterReceiverArray_eq config written, ApiServer.enabledObjects, without]
    simp only [← receiverEnabled_iff, Bool.decide_eq_true]
  · intro distinct
    simp only [without, disabledFirst_iff distinct]

/-- An array of one object, with a brace and a quote in a string. -/
theorem one_receiver : ReceiverArray [(bytes "\x7b\"id\" : 1, \"n\":\"\x7d\\\"\" \x7d", 1)]
    (bytes "[\x7b\"id\" : 1, \"n\":\"\x7d\\\"\" \x7d]") := by
  have one : Denotes (bytes "1") (1 : Int32).toInt := .positive ⟨by decide, by decide⟩
  have value : Quoted (bytes "\x7d\\\"") := .plain (by decide) (by decide) (.escaped _ .nil)
  have member : MembersText (bytes " \"n\":\"\x7d\\\"\" ") :=
    @MembersText.last (bytes " ") (bytes "n") [] [] _ (bytes " ") rfl (.plain (by decide) (by decide) .nil) rfl rfl (.string value) rfl
  have object : ReceiverText (bytes "\x7b\"id\" : 1, \"n\":\"\x7d\\\"\" \x7d") 1 :=
    @ReceiverText.object [] (bytes " ") (bytes " ") (bytes "1") [] _ 1 rfl rfl rfl one rfl (.some member)
  exact @ReceiverArray.array [] _ [] _ rfl (@ReceiversText.last [] _ [] 1 rfl object rfl) rfl

/-- A disabled receiver, and one more entry of it that is enabled. -/
def twiceConfigured : RepeaterConfig where
  receivers := [{ receiver := ⟨1⟩, enabled := true }, { receiver := ⟨1⟩, enabled := false }]

/-- A disabled receiver is kept where an enabled entry of it is in front. -/
theorem disabled_receiver_kept :
    ¬ ∀ config receivers text, ReceiverArray receivers text →
      ApiServer.filterReceiverArrayByConfig text config = .ok (ApiServer.array (without (Disabled config) receivers)) := by
  intro every
  have wrong := every twiceConfigured _ _ one_receiver
  rw [ApiServer.filterReceiverArray_eq twiceConfigured one_receiver] at wrong
  exact absurd wrong (by decide)

theorem one_receiver_filtered :
    ApiServer.filterReceiverArrayByConfig (bytes "[\x7b\"id\" : 1, \"n\":\"\x7d\\\"\" \x7d]")
        { receivers := [{ receiver := ⟨1⟩, enabled := false }] } = .ok (bytes "[]") ∧
      without (Disabled { receivers := [{ receiver := ⟨1⟩, enabled := false }] })
        [(bytes "\x7b\"id\" : 1, \"n\":\"\x7d\\\"\" \x7d", 1)] = [] := by
  have filtered := filtered_receivers { receivers := [{ receiver := ⟨1⟩, enabled := false }] } one_receiver
  have same := filtered.2 (by decide)
  exact ⟨filtered.1.trans (by decide), same ▸ (by decide)⟩

end WhRepeater
