import WhRepeater.Types
import Mathlib.Data.List.Infix

/-! Where the parameter sets of H.264 are found in a keyframe
(`extractAnnexBH264ParameterSets`). Offsets are numbers here: a packet is shorter
than an `int` can say. -/
namespace WhRepeater

/-- The length of the start code at an offset. -/
def startCodeAt (data : Bytes) (offset : Nat) : Option Nat :=
  if offset + 3 ≤ data.length ∧ data[offset]? = some 0 ∧ data[offset + 1]? = some 0 ∧ data[offset + 2]? = some 1 then some 3
  else if offset + 4 ≤ data.length ∧ data[offset]? = some 0 ∧ data[offset + 1]? = some 0 ∧ data[offset + 2]? = some 0 ∧
    data[offset + 3]? = some 1 then some 4
  else none

/-- The first start code from an offset on, with its length. -/
def findStartCode (data : Bytes) (start : Nat) : Option (Nat × Nat) :=
  (List.range' start (data.length - 2 - start)).findSome? fun index =>
    (startCodeAt data index).map fun prefixSize => (index, prefixSize)

/-- `data[nalStart] & 0x1f`. -/
def nalType (unit : Bytes) : UInt8 := unit.headD 0 &&& 0x1f

def annexBPrefix : Bytes := [0, 0, 0, 1]

/-- What the loop has found. -/
structure ParameterSets where
  result : Bytes := []
  haveSps : Bool := false
  havePps : Bool := false
  deriving Repr, DecidableEq

namespace ParameterSets

/-- A parameter set is taken when it is the first of its kind. -/
def wants (sets : ParameterSets) (unit : Bytes) : Bool :=
  (nalType unit = 7 && !sets.haveSps) || (nalType unit = 8 && !sets.havePps)

def take (sets : ParameterSets) (unit : Bytes) : ParameterSets where
  result := sets.result ++ annexBPrefix ++ unit
  haveSps := sets.haveSps || nalType unit = 7
  havePps := sets.havePps || nalType unit = 8

/-- The result of the source. -/
def finish (sets : ParameterSets) : Bytes := if !sets.haveSps || !sets.havePps then [] else sets.result

end ParameterSets

/-- The loop, from a start code on. `none` when the turns run out. -/
def collectParameterSets (data : Bytes) : Nat → Option (Nat × Nat) → ParameterSets → Option ParameterSets
  | 0, _, _ => none
  | _ + 1, none, sets => some sets
  | turns + 1, some (start, prefixSize), sets =>
    let nalStart := start + prefixSize
    let next := findStartCode data nalStart
    let nalEnd := (next.map Prod.fst).getD data.length
    let unit := (data.drop nalStart).take (nalEnd - nalStart)
    if nalStart < nalEnd ∧ sets.wants unit then
      let taken := sets.take unit
      if taken.haveSps && taken.havePps then some taken else collectParameterSets data turns next taken
    else collectParameterSets data turns next sets

/-- Each turn begins behind the start code of the one before. -/
def extractAnnexBH264ParameterSets (data : Bytes) : Option Bytes :=
  if data = [] then some []
  else (collectParameterSets data (data.length + 1) (findStartCode data 0) {}).map ParameterSets.finish

/-! ## Units in Annex B -/

/-- What the encoder writes between start codes. -/
structure NalUnit where
  bytes : Bytes
  nonempty : bytes ≠ []
  clean : ¬ [0, 0, 1] <:+: bytes
  ends : bytes.getLast? ≠ some 0

/-- A start code of four bytes or of three. -/
def startCode (long : Bool) : Bytes := if long then [0, 0, 0, 1] else [0, 0, 1]

def annexB (units : List (Bool × NalUnit)) : Bytes := units.flatMap fun unit => startCode unit.1 ++ unit.2.bytes

def isSps (unit : NalUnit) : Bool := nalType unit.bytes = 7

def isPps (unit : NalUnit) : Bool := nalType unit.bytes = 8

/-- The first of each kind in the order they are in, or nothing without both. -/
def firstParameterSets (units : List NalUnit) : Bytes :=
  match units.find? isSps, units.find? isPps with
  | some sps, some pps =>
    if units.findIdx isSps < units.findIdx isPps then annexBPrefix ++ sps.bytes ++ annexBPrefix ++ pps.bytes
    else annexBPrefix ++ pps.bytes ++ annexBPrefix ++ sps.bytes
  | _, _ => []

/-! ## Finding a start code -/

/-- The start code at the beginning of what is left. -/
def startCodeOf (left : Bytes) : Option Nat :=
  if [0, 0, 1] <+: left then some 3 else if [0, 0, 0, 1] <+: left then some 4 else none

/-- The first one in what is left, which begins at the index. -/
def findIn : Bytes → Nat → Option (Nat × Nat)
  | [], _ => none
  | byte :: rest, index =>
    match startCodeOf (byte :: rest) with
    | some prefixSize => some (index, prefixSize)
    | none => findIn rest (index + 1)

theorem startCodeAt_eq (data : Bytes) (offset : Nat) : startCodeAt data offset = startCodeOf (data.drop offset) := by
  have left : (data.drop offset).length = data.length - offset := List.length_drop ..
  have three : offset + 3 ≤ data.length ↔ 3 ≤ (data.drop offset).length := by omega
  have four : offset + 4 ≤ data.length ↔ 4 ≤ (data.drop offset).length := by omega
  have at_offset : data[offset]? = (data.drop offset)[0]? := by rw [List.getElem?_drop, Nat.add_zero]
  simp only [startCodeAt, startCodeOf, three, four, at_offset, ← List.getElem?_drop]
  generalize data.drop offset = left
  match left with
  | [] => rfl
  | [_] => simp
  | [_, _] => simp
  | [_, _, _] => simp [eq_comm]
  | _ :: _ :: _ :: _ :: _ => simp [eq_comm]

theorem startCodeOf_short {left : Bytes} (short : left.length < 3) : startCodeOf left = none := by
  rw [startCodeOf, if_neg fun found => absurd found.length_le (by simp; omega),
    if_neg fun found => absurd found.length_le (by simp; omega)]

theorem findIn_short {left : Bytes} (short : left.length < 3) (index : Nat) : findIn left index = none := by
  induction left generalizing index with
  | nil => rfl
  | cons byte rest ih =>
    rw [List.length_cons] at short
    rw [findIn, startCodeOf_short (by simpa using short)]
    exact ih (by omega) (index + 1)

theorem findStartCode_eq (data : Bytes) (start : Nat) : findStartCode data start = findIn (data.drop start) start := by
  rw [findStartCode]
  generalize turns : data.length - 2 - start = count
  induction count generalizing start with
  | zero =>
    rw [findIn_short (by rw [List.length_drop]; omega)]
    rfl
  | succ count ih =>
    have inside : start < data.length := by omega
    have again := ih (start + 1) (by omega)
    rw [List.range'_succ, List.findSome?_cons, List.drop_eq_getElem_cons inside, findIn, ← List.drop_eq_getElem_cons inside,
      ← startCodeAt_eq]
    cases startCodeAt data start with
    | none => exact again
    | some prefixSize => rfl

/-! ## Between the units -/

/-- A part of a unit up to its end. -/
structure Tail (bytes : Bytes) : Prop where
  clean : ¬ [0, 0, 1] <:+: bytes
  ends : bytes.getLast? ≠ some 0

theorem Tail.rest {byte : UInt8} {rest : Bytes} (tail : Tail (byte :: rest)) : Tail rest := by
  refine ⟨fun within => tail.clean (within.trans (List.suffix_cons ..).isInfix), fun zero => tail.ends ?_⟩
  rw [List.getLast?_cons, zero]
  rfl

/-- A start code that began in a unit would lie in it, or the unit would end in a
zero. -/
theorem startCodeOf_tail {byte : UInt8} {rest : Bytes} (tail : Tail (byte :: rest)) (after : Bytes) :
    startCodeOf (byte :: rest ++ after) = none := by
  have here : (byte :: rest) <+: byte :: rest ++ after := List.prefix_append ..
  have short : ¬ [0, 0, 1] <+: byte :: rest ++ after := by
    intro found
    rcases List.prefix_or_prefix_of_prefix found here with whole | part
    · exact tail.clean whole.isInfix
    · have among : byte :: rest = [0] ∨ byte :: rest = [0, 0] ∨ byte :: rest = [0, 0, 1] := by
        simpa using (List.mem_inits _ _).mpr part
      rcases among with same | same | same
      · exact tail.ends (by rw [same]; rfl)
      · exact tail.ends (by rw [same]; rfl)
      · exact tail.clean (by rw [same])
  have long : ¬ [0, 0, 0, 1] <+: byte :: rest ++ after := by
    intro found
    have inner : [0, 0, 1] <:+: [0, 0, 0, (1 : UInt8)] := (List.suffix_cons ..).isInfix
    rcases List.prefix_or_prefix_of_prefix found here with whole | part
    · exact tail.clean (inner.trans whole.isInfix)
    · have among : byte :: rest = [0] ∨ byte :: rest = [0, 0] ∨ byte :: rest = [0, 0, 0] ∨ byte :: rest = [0, 0, 0, 1] := by
        simpa using (List.mem_inits _ _).mpr part
      rcases among with same | same | same | same
      · exact tail.ends (by rw [same]; rfl)
      · exact tail.ends (by rw [same]; rfl)
      · exact tail.ends (by rw [same]; rfl)
      · exact tail.clean (by rw [same]; exact inner)
  rw [startCodeOf, if_neg short, if_neg long]

theorem findIn_tail {bytes : Bytes} (tail : Tail bytes) (after : Bytes) (index : Nat) :
    findIn (bytes ++ after) index = findIn after (index + bytes.length) := by
  induction bytes generalizing index with
  | nil => rfl
  | cons byte rest ih =>
    rw [List.cons_append, findIn, ← List.cons_append, startCodeOf_tail tail]
    dsimp only
    rw [ih tail.rest, List.length_cons, Nat.add_assoc, Nat.add_comm 1]

theorem NalUnit.tail (unit : NalUnit) : Tail unit.bytes := ⟨unit.clean, unit.ends⟩

theorem startCodeOf_startCode (long : Bool) (after : Bytes) :
    startCodeOf (startCode long ++ after) = some (startCode long).length := by
  cases long <;> simp [startCode, startCodeOf]

/-- Where the next unit begins: at once. -/
theorem findIn_annexB (units : List (Bool × NalUnit)) (index : Nat) :
    findIn (annexB units) index = units.head?.map fun unit => (index, (startCode unit.1).length) := by
  cases units with
  | nil => rfl
  | cons unit later =>
    obtain ⟨byte, rest, made⟩ := List.exists_cons_of_ne_nil (l := annexB (unit :: later)) (by
      obtain ⟨long, unit⟩ := unit
      cases long <;> simp [annexB, startCode])
    have coded := startCodeOf_startCode unit.1 (unit.2.bytes ++ annexB later)
    rw [← List.append_assoc] at coded
    rw [show startCode unit.1 ++ unit.2.bytes ++ annexB later = annexB (unit :: later) from rfl, made] at coded
    rw [made, findIn, coded]
    rfl

/-! ## The loop -/

/-- The loop, as it goes through the units. -/
def ParameterSets.collect : List NalUnit → ParameterSets → ParameterSets
  | [], sets => sets
  | unit :: later, sets =>
    if sets.wants unit.bytes then
      if (sets.take unit.bytes).haveSps && (sets.take unit.bytes).havePps then sets.take unit.bytes
      else ParameterSets.collect later (sets.take unit.bytes)
    else ParameterSets.collect later sets

/-- The end of a unit is the start code of the next one, or the end of the data. -/
theorem collectParameterSets_eq {data : Bytes} (units : List (Bool × NalUnit)) {before : Bytes}
    (made : data = before ++ annexB units) {turns : Nat} (enough : units.length < turns) (sets : ParameterSets) :
    collectParameterSets data turns (findIn (annexB units) before.length) sets =
      some (ParameterSets.collect (units.map Prod.snd) sets) := by
  induction units generalizing before turns sets with
  | nil =>
    cases turns with
    | zero => omega
    | succ turns => rfl
  | cons unit later ih =>
    cases turns with
    | zero => omega
    | succ turns =>
      obtain ⟨long, unit⟩ := unit
      have shape : data = before ++ startCode long ++ unit.bytes ++ annexB later := by
        rw [made]
        simp [annexB]
      have after : data.drop (before.length + (startCode long).length) = unit.bytes ++ annexB later := by
        rw [shape, List.append_assoc _ unit.bytes, ← List.length_append, List.drop_left]
      have next : findStartCode data (before.length + (startCode long).length) =
          findIn (annexB later) (before ++ startCode long ++ unit.bytes).length := by
        rw [findStartCode_eq, after, findIn_tail unit.tail]
        simp [Nat.add_assoc]
      have nalEnd : ((findStartCode data (before.length + (startCode long).length)).map Prod.fst).getD data.length =
          before.length + (startCode long).length + unit.bytes.length := by
        rw [next, findIn_annexB]
        cases later with
        | nil =>
          rw [shape]
          simp [annexB, Nat.add_assoc]
        | cons => simp [Nat.add_assoc]
      have some_there : 0 < unit.bytes.length := List.length_pos_iff.mpr unit.nonempty
      have cut : (data.drop (before.length + (startCode long).length)).take
          (before.length + (startCode long).length + unit.bytes.length - (before.length + (startCode long).length)) =
          unit.bytes := by
        rw [after, Nat.add_sub_cancel_left, List.take_left]
      have inner := fun sets => @ih (before ++ startCode long ++ unit.bytes) shape turns (Nat.lt_of_succ_lt_succ enough) sets
      rw [findIn_annexB, List.head?_cons, Option.map_some, collectParameterSets, List.map_cons, ParameterSets.collect]
      dsimp only
      rw [nalEnd, cut, next]
      by_cases wanted : sets.wants unit.bytes = true
      · rw [if_pos ⟨by omega, wanted⟩, if_pos wanted]
        split
        · rfl
        · exact inner _
      · rw [if_neg fun found => wanted found.2, if_neg wanted]
        exact inner sets

namespace ParameterSets

theorem collect_after_sps (result : Bytes) (units : List NalUnit) :
    (collect units { result, haveSps := true }).finish =
      ((units.find? isPps).map fun pps => result ++ annexBPrefix ++ pps.bytes).getD [] := by
  induction units with
  | nil => rfl
  | cons unit later ih =>
    rw [collect, List.find?_cons]
    by_cases pps : nalType unit.bytes = 8
    · simp [wants, take, finish, isPps, pps]
    · simpa [wants, isPps, pps] using ih

theorem collect_after_pps (result : Bytes) (units : List NalUnit) :
    (collect units { result, havePps := true }).finish =
      ((units.find? isSps).map fun sps => result ++ annexBPrefix ++ sps.bytes).getD [] := by
  induction units with
  | nil => rfl
  | cons unit later ih =>
    rw [collect, List.find?_cons]
    by_cases sps : nalType unit.bytes = 7
    · simp [wants, take, finish, isSps, sps]
    · simpa [wants, isSps, sps] using ih

theorem firstParameterSets_sps {unit : NalUnit} {later : List NalUnit} (sps : isSps unit = true) (other : isPps unit = false) :
    firstParameterSets (unit :: later) =
      ((later.find? isPps).map fun pps => annexBPrefix ++ unit.bytes ++ annexBPrefix ++ pps.bytes).getD [] := by
  rw [firstParameterSets, List.find?_cons, List.find?_cons, List.findIdx_cons, List.findIdx_cons, sps, other]
  cases later.find? isPps with
  | none => rfl
  | some pps => simp

theorem firstParameterSets_pps {unit : NalUnit} {later : List NalUnit} (other : isSps unit = false) (pps : isPps unit = true) :
    firstParameterSets (unit :: later) =
      ((later.find? isSps).map fun sps => annexBPrefix ++ unit.bytes ++ annexBPrefix ++ sps.bytes).getD [] := by
  rw [firstParameterSets, List.find?_cons, List.find?_cons, List.findIdx_cons, List.findIdx_cons, other, pps]
  cases later.find? isSps with
  | none => rfl
  | some sps => simp

theorem firstParameterSets_other {unit : NalUnit} {later : List NalUnit} (neither : isSps unit = false ∧ isPps unit = false) :
    firstParameterSets (unit :: later) = firstParameterSets later := by
  rw [firstParameterSets, firstParameterSets, List.find?_cons, List.find?_cons, List.findIdx_cons, List.findIdx_cons,
    neither.1, neither.2]
  simp

theorem collect_eq (units : List NalUnit) : (collect units {}).finish = firstParameterSets units := by
  induction units with
  | nil => rfl
  | cons unit later ih =>
    rw [collect]
    by_cases sps : nalType unit.bytes = 7
    · have other : ¬ nalType unit.bytes = 8 := by
        rw [sps]
        decide
      have taken : ({} : ParameterSets).take unit.bytes = { result := annexBPrefix ++ unit.bytes, haveSps := true } := by
        simp [take, sps]
      rw [if_pos (by simp [wants, sps]), taken, firstParameterSets_sps (by simpa [isSps]) (by simpa [isPps])]
      exact collect_after_sps _ later
    · by_cases pps : nalType unit.bytes = 8
      · have taken : ({} : ParameterSets).take unit.bytes = { result := annexBPrefix ++ unit.bytes, havePps := true } := by
          simp [take, pps]
        rw [if_pos (by simp [wants, pps]), taken, firstParameterSets_pps (by simpa [isSps]) (by simpa [isPps])]
        exact collect_after_pps _ later
      · rw [if_neg (by simp [wants, sps, pps]), ih, firstParameterSets_other (by simp [isSps, isPps, sps, pps])]

end ParameterSets

theorem length_annexB (units : List (Bool × NalUnit)) : units.length ≤ (annexB units).length := by
  induction units with
  | nil => rfl
  | cons unit later ih =>
    have some_there := List.length_pos_iff.mpr unit.2.nonempty
    simp only [annexB, List.flatMap_cons, List.length_append, List.length_cons] at ih ⊢
    omega

/-- Of whatever units a keyframe is made, with start codes of either length, the
parameter sets are found whole and in their order. -/
theorem parameterSets_of_annexB (units : List (Bool × NalUnit)) :
    extractAnnexBH264ParameterSets (annexB units) = some (firstParameterSets (units.map Prod.snd)) := by
  rw [extractAnnexBH264ParameterSets]
  cases units with
  | nil => rfl
  | cons unit later =>
    have some_there : annexB (unit :: later) ≠ [] := by
      intro nothing
      have longer := length_annexB (unit :: later)
      rw [nothing] at longer
      simp at longer
    have enough := length_annexB (unit :: later)
    have collected := @collectParameterSets_eq (annexB (unit :: later)) (unit :: later) [] rfl _ (Nat.lt_succ_of_le enough) {}
    rw [if_neg some_there, findStartCode_eq, List.drop_zero]
    rw [List.length_nil] at collected
    rw [collected, Option.map_some, ParameterSets.collect_eq]

example : extractAnnexBH264ParameterSets [0, 0, 1, 9, 16, 0, 0, 0, 1, 104, 206, 0, 0, 1, 103, 66, 0, 0, 0, 1, 101] =
    some [0, 0, 0, 1, 104, 206, 0, 0, 0, 1, 103, 66] := by
  decide +kernel

end WhRepeater
