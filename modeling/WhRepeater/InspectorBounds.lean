import WhRepeater.TsGatewayInspect

/-! The parsers of `ts_gateway_inspect.cpp` stay in their sections and packets, whatever
lengths are in them. Their loops are recursions of which each goes on behind where it
was, and in front of the end of the section only. -/
namespace WhRepeater.TsGatewayInspect

open CheckedSpans

variable {section_ : Bytes} {last offset : Nat}

theorem length12_lt (high low : UInt8) : length12 high low < 4096 := by
  have nibble : (high &&& 0x0f).toNat ≤ 15 := by
    rw [UInt8.toNat_and]
    exact Nat.and_le_right
  have shifted : ((high &&& 0x0f).toUInt16 <<< 8).toNat < 2 ^ 12 := by
    rw [UInt16.toNat_shiftLeft, UInt8.toNat_toUInt16, Nat.shiftLeft_eq]
    refine Nat.lt_of_le_of_lt (Nat.mod_le _ _) ?_
    calc (high &&& 0x0f).toNat * 2 ^ ((8 : UInt16).toNat % 16) ≤ 15 * 2 ^ 8 := Nat.mul_le_mul_right _ nibble
      _ < 2 ^ 12 := by decide
  have byte : low.toUInt16.toNat < 2 ^ 12 := by
    rw [UInt8.toNat_toUInt16]
    exact Nat.lt_trans low.toNat_lt (by decide)
  rw [length12, masked, UInt16.toNat_or]
  exact Nat.or_lt_two_pow shifted byte

theorem faultless_readMasked {mask : UInt8} (inside : offset + 1 < section_.length) :
    Faultless (readMasked mask section_ offset) :=
  faultless_bind (faultless_read (by omega)) fun _ _ => faultless_bind (faultless_read inside) fun _ _ => faultless_pure _

theorem faultless_readLength (inside : offset + 1 < section_.length) : Faultless (readLength section_ offset) :=
  faultless_bind (faultless_read (by omega)) fun _ _ => faultless_bind (faultless_read inside) fun _ _ => faultless_pure _

theorem readLength_lt {length : Nat} (found : readLength section_ offset = .ok length) : length < 4096 := by
  cases high : read section_ offset with
  | error fault =>
    rw [readLength, high] at found
    cases found
  | ok high' =>
    cases low : read section_ (offset + 1) with
    | error fault =>
      rw [readLength, high, low] at found
      cases found
    | ok low' =>
      rw [readLength, high, low] at found
      cases found
      exact length12_lt high' low'

/-- Where the loops of a section end. -/
structure Inside (section_ : Bytes) (last : Nat) : Prop where
  inside : last ≤ section_.length
  bounded : last < 2 ^ 13

theorem faultless_parsePrograms (limit : Inside section_ last) (offset : Nat) (near : offset < 2 ^ 14) (programs : Programs) :
    Faultless (parsePrograms section_ last offset programs) := by
  obtain ⟨inside, bounded⟩ := limit
  induction offset using walk_induction last generalizing programs with
  | step offset ih =>
    rw [parsePrograms]
    refine faultless_bind (faultless_fits (by omega)) fun _ _ => faultless_if (fun more => ?_) fun _ => faultless_pure _
    refine faultless_bind (faultless_readMasked (by omega)) fun serviceId _ => ?_
    refine faultless_bind (faultless_readMasked (by omega)) fun pid _ => ?_
    exact faultless_if (fun _ => ih _ (by omega) (by omega) (by omega) _) fun _ => ih _ (by omega) (by omega) (by omega) _

theorem faultless_parseStreams (limit : Inside section_ last) (offset : Nat) (near : offset < 2 ^ 14) (streamTypes : List UInt8) :
    Faultless (parseStreams section_ last offset streamTypes) := by
  obtain ⟨inside, bounded⟩ := limit
  induction offset using walk_induction last generalizing streamTypes with
  | step offset ih =>
    rw [parseStreams]
    refine faultless_bind (faultless_fits (by omega)) fun _ _ => faultless_if (fun more => ?_) fun _ => faultless_pure _
    refine faultless_bind (faultless_read (by omega)) fun streamType _ => ?_
    refine faultless_bind (faultless_readLength (by omega)) fun esInfoLength found => ?_
    have short := readLength_lt found
    exact ih _ (by omega) (by omega) (by omega) _

/-- The names of a descriptor are in its body. -/
theorem faultless_parseService {serviceId : UInt16} {body length : Nat} (inside : body + length ≤ section_.length)
    (near : body < 2 ^ 14) (names : length ≥ 3) (programs : Programs) :
    Faultless (parseService section_ serviceId body length programs) := by
  unfold parseService
  refine faultless_bind (faultless_read (by omega)) fun providerLength _ => ?_
  have short := providerLength.toNat_lt
  refine faultless_bind (faultless_fits (by omega)) fun _ _ => faultless_if (fun within => ?_) fun _ => faultless_pure _
  refine faultless_bind (faultless_read (by omega)) fun serviceLength _ => ?_
  have short' := serviceLength.toNat_lt
  refine faultless_bind (faultless_subspan (by omega)) fun provider _ => ?_
  refine faultless_bind (faultless_fits (by omega)) fun _ _ => faultless_if (fun within => ?_) fun _ => faultless_pure _
  exact faultless_bind (faultless_subspan (by omega)) fun serviceName _ => faultless_pure _

theorem faultless_parseDescriptors (limit : Inside section_ last) {serviceId : UInt16} {descEnd : Nat} (desc : Nat)
    (near : desc < 2 ^ 14) (programs : Programs) :
    Faultless (parseDescriptors section_ serviceId last descEnd desc programs) := by
  obtain ⟨inside, bounded⟩ := limit
  induction desc using walk_induction descEnd generalizing programs with
  | step desc ih =>
    rw [parseDescriptors]
    refine faultless_bind (faultless_fits (by omega)) fun _ _ => faultless_if (fun more => ?_) fun _ => faultless_pure _
    refine faultless_bind (faultless_read (by omega)) fun tag _ => ?_
    refine faultless_bind (faultless_read (by omega)) fun length _ => ?_
    have short := length.toNat_lt
    refine faultless_bind (faultless_fits (by omega)) fun _ _ => faultless_if (fun service => ?_) fun _ => ?_
    · refine faultless_bind (faultless_parseService (by omega) (by omega) service.2.2 programs) fun programs _ => ?_
      exact ih _ (by omega) (by omega) (by omega) programs
    · exact ih _ (by omega) (by omega) (by omega) programs

theorem faultless_parseServices (limit : Inside section_ last) (offset : Nat) (near : offset < 2 ^ 14) (programs : Programs) :
    Faultless (parseServices section_ last offset programs) := by
  have inside := limit.inside
  have bounded := limit.bounded
  induction offset using walk_induction last generalizing programs with
  | step offset ih =>
    rw [parseServices]
    refine faultless_bind (faultless_fits (by omega)) fun _ _ => faultless_if (fun more => ?_) fun _ => faultless_pure _
    refine faultless_bind (faultless_readMasked (by omega)) fun serviceId _ => ?_
    refine faultless_bind (faultless_readLength (by omega)) fun descriptorLength found => ?_
    have short := readLength_lt found
    refine faultless_bind (faultless_parseDescriptors limit _ (by omega) programs) fun programs _ => ?_
    exact ih _ (by omega) (by omega) (by omega) programs

/-- A section that has its length is read up to its CRC. -/
theorem faultless_last {sectionLength : Nat} {next : Nat → Except Fault Programs} (short : sectionLength < 4096)
    (whole : ¬ (section_.length < 3 + sectionLength ∨ 3 + sectionLength < 4))
    (reads : ∀ last, Inside section_ last → Faultless (next last)) : Faultless (difference (3 + sectionLength) 4 >>= next) :=
  faultless_difference (by omega) (reads _ ⟨by omega, by omega⟩)

theorem faultless_parsePat (section_ : Bytes) (programs : Programs) : Faultless (parsePat section_ programs) := by
  unfold parsePat
  refine faultless_if (fun _ => faultless_pure _) fun header => ?_
  refine faultless_bind (faultless_read (by omega)) fun table _ => faultless_if (fun _ => faultless_pure _) fun _ => ?_
  refine faultless_bind (faultless_readLength (by omega)) fun sectionLength found => ?_
  refine faultless_if (fun _ => faultless_pure _) fun whole => ?_
  exact faultless_last (readLength_lt found) whole fun last limit => faultless_parsePrograms limit 8 (by decide) programs

theorem faultless_parsePmt (pid : UInt16) (section_ : Bytes) (programs : Programs) : Faultless (parsePmt pid section_ programs) := by
  unfold parsePmt
  refine faultless_if (fun _ => faultless_pure _) fun header => ?_
  refine faultless_bind (faultless_read (by omega)) fun table _ => faultless_if (fun _ => faultless_pure _) fun _ => ?_
  refine faultless_bind (faultless_readMasked (by omega)) fun serviceId _ => ?_
  refine faultless_bind (faultless_readLength (by omega)) fun sectionLength found => ?_
  refine faultless_if (fun _ => faultless_pure _) fun whole => ?_
  refine faultless_bind (faultless_readMasked (by omega)) fun pcrPid _ => ?_
  refine faultless_bind (faultless_readLength (by omega)) fun programInfoLength info => ?_
  have short := readLength_lt info
  refine faultless_last (readLength_lt found) whole fun last limit => ?_
  exact faultless_bind (faultless_parseStreams limit _ (by omega) []) fun streamTypes _ => faultless_pure _

theorem faultless_parseSdt (section_ : Bytes) (programs : Programs) : Faultless (parseSdt section_ programs) := by
  unfold parseSdt
  refine faultless_if (fun _ => faultless_pure _) fun header => ?_
  refine faultless_bind (faultless_read (by omega)) fun table _ => faultless_if (fun _ => faultless_pure _) fun _ => ?_
  refine faultless_bind (faultless_readLength (by omega)) fun sectionLength found => ?_
  refine faultless_if (fun _ => faultless_pure _) fun whole => ?_
  exact faultless_last (readLength_lt found) whole fun last limit => faultless_parseServices limit 11 (by decide) programs

/-! ## Packets -/

theorem faultless_parseSection (stats : Stats) (pid : UInt16) (section_ : Bytes) : Faultless (parseSection stats pid section_) := by
  unfold parseSection
  refine faultless_if (fun _ => ?_) fun _ => faultless_if (fun _ => ?_) fun _ => faultless_if (fun _ => ?_) fun _ => faultless_pure _
  · exact faultless_bind (faultless_parsePat section_ _) fun programs _ => faultless_pure _
  · exact faultless_bind (faultless_parseSdt section_ _) fun programs _ => faultless_pure _
  · exact faultless_bind (faultless_parsePmt pid section_ _) fun programs _ => faultless_pure _

theorem faultless_expected (buffer : SectionBuffer) : Faultless buffer.expected := by
  unfold SectionBuffer.expected
  refine faultless_if (fun header => ?_) fun _ => faultless_pure _
  exact faultless_bind (faultless_readLength (by omega)) fun sectionLength _ => faultless_pure _

theorem faultless_appendSection (stats : Stats) (pid : UInt16) (buffer : SectionBuffer) (payload : Bytes) :
    Faultless (appendSection stats pid buffer payload) := by
  unfold appendSection
  refine faultless_if (fun _ => faultless_pure _) fun some => ?_
  have inside : 0 < payload.length := List.length_pos_iff.mpr fun none => some (by rw [none]; rfl)
  refine faultless_bind (faultless_read inside) fun first _ => faultless_if (fun _ => faultless_pure _) fun _ => ?_
  refine faultless_bind (faultless_expected _) fun expectedSize _ => ?_
  cases expectedSize with
  | none => exact faultless_pure _
  | some size =>
    refine faultless_if (fun whole => ?_) fun _ => faultless_pure _
    refine faultless_bind (faultless_subspan (by omega)) fun section_ _ => ?_
    exact faultless_bind (faultless_parseSection stats pid section_) fun stats _ => faultless_pure _

theorem faultless_appendPayloadSection (stats : Stats) (pid : UInt16) (payloadStart : Bool) (payload : Bytes) :
    Faultless (appendPayloadSection stats pid payloadStart payload) := by
  unfold appendPayloadSection
  refine faultless_if (fun _ => faultless_pure _) fun some => ?_
  have inside : 0 < payload.length := List.length_pos_iff.mpr fun none => some (by rw [none]; rfl)
  refine faultless_if (fun _ => ?_) fun _ => faultless_appendSection ..
  refine faultless_bind (faultless_read inside) fun pointer _ => faultless_if (fun _ => faultless_pure _) fun behind => ?_
  exact faultless_bind (faultless_subspanFrom (by omega)) fun payload _ => faultless_appendSection ..

theorem faultless_payloadOffset {packet : Bytes} (inside : 4 < packet.length) (adaptationControl : UInt8) :
    Faultless (payloadOffset packet adaptationControl) :=
  faultless_if (fun _ => faultless_bind (faultless_read inside) fun _ _ => faultless_pure _) fun _ => faultless_pure _

theorem faultless_inspectPacket (stats : Stats) (packet : Bytes) : Faultless (inspectPacket stats packet) := by
  unfold inspectPacket
  refine faultless_if (fun _ => faultless_pure _) fun whole => ?_
  have size : packet.length = 188 := not_not.mp whole
  refine faultless_bind (faultless_read (by omega)) fun sync _ => faultless_if (fun _ => faultless_pure _) fun _ => ?_
  refine faultless_bind (faultless_read (by omega)) fun flags _ => faultless_bind (faultless_readMasked (by omega)) fun pid _ => ?_
  refine faultless_bind (faultless_read (by omega)) fun control _ => faultless_bind (faultless_read (by omega)) fun counter _ => ?_
  refine faultless_bind (faultless_payloadOffset (by omega) _) fun offset _ => ?_
  refine faultless_if (fun inside => ?_) fun _ => faultless_pure _
  exact faultless_bind (faultless_subspanFrom (by omega)) fun payload _ => faultless_appendPayloadSection ..

/-- No bytes and no packets make a parser read outside of them, or compute a size that
is not one. -/
theorem inspector_in_bounds :
    (∀ section_ programs, Faultless (parsePat section_ programs)) ∧
      (∀ pid section_ programs, Faultless (parsePmt pid section_ programs)) ∧
      (∀ section_ programs, Faultless (parseSdt section_ programs)) ∧
      ∀ stats packets, Faultless (inspectPackets stats packets) :=
  ⟨faultless_parsePat, faultless_parsePmt, faultless_parseSdt, fun stats packets =>
    faultless_foldlM faultless_inspectPacket packets stats⟩

end WhRepeater.TsGatewayInspect
