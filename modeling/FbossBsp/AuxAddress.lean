import FbossBsp.BulkMmio

/-!
# Bus addresses of auxiliary devices

A user names the registers and the data buffer of a new controller by offsets
into the BAR of the FPGA. The ioctl translates them in place to bus addresses,
which the controller drivers then map. The base of the BAR has 64 bits, while
the fields have 32 and one value of them means that there is no buffer.
-/

namespace FbossBsp

/-- `FBIOB_INVALID_OFFSET`. -/
def fbiobInvalidOffset : BitVec 32 := -1

/-- The BAR as `struct fbiob_cdev_desc` records it. -/
structure FbiobCdevDesc where
  baseBusAddr : BitVec 64
  maxOffset : BitVec 64

/-- The offsets of `struct fbiob_aux_data`. -/
structure FbiobAuxData where
  csrOffset : BitVec 32
  iobufOffset : BitVec 32
  deriving DecidableEq

/-- `offset += cdesc->base_bus_addr` on a `u32`. -/
def translateOffset (cdesc : FbiobCdevDesc) (offset : BitVec 32) : BitVec 32 :=
  (offset.setWidth 64 + cdesc.baseBusAddr).setWidth 32

/-- `aux_data_validate`: the return value and the data it leaves. -/
def auxDataValidate (cdesc : FbiobCdevDesc) (auxData : FbiobAuxData) : Int × FbiobAuxData :=
  if auxData.csrOffset = fbiobInvalidOffset ∨
      auxData.csrOffset.setWidth 64 ≥ cdesc.maxOffset then (-einval, auxData)
  else
    let auxData := { auxData with csrOffset := translateOffset cdesc auxData.csrOffset }
    if auxData.iobufOffset ≠ fbiobInvalidOffset then
      if auxData.iobufOffset.setWidth 64 ≥ cdesc.maxOffset then (-einval, auxData)
      else (0, { auxData with iobufOffset := translateOffset cdesc auxData.iobufOffset })
    else (0, auxData)

/-! ## Exact translation -/

/-- The address of an offset into the BAR, as an integer inside the BAR. -/
def ExactAddress (cdesc : FbiobCdevDesc) (offset addr : BitVec 32) : Prop :=
  addr.toNat = cdesc.baseBusAddr.toNat + offset.toNat ∧
    InWindow cdesc.baseBusAddr.toNat cdesc.maxOffset.toNat addr.toNat

/-- Both offsets are translated exactly; an absent buffer stays absent and a
present one stays present. -/
def Translated (cdesc : FbiobCdevDesc) (given result : FbiobAuxData) : Prop :=
  ExactAddress cdesc given.csrOffset result.csrOffset ∧
    (given.iobufOffset = fbiobInvalidOffset ∧ result.iobufOffset = fbiobInvalidOffset ∨
      ExactAddress cdesc given.iobufOffset result.iobufOffset ∧
        result.iobufOffset ≠ fbiobInvalidOffset)

/-- The request has no register offset, or an offset beyond the BAR. -/
def Refused (cdesc : FbiobCdevDesc) (auxData : FbiobAuxData) : Prop :=
  auxData.csrOffset = fbiobInvalidOffset ∨
    cdesc.maxOffset.toNat ≤ auxData.csrOffset.toNat ∨
    auxData.iobufOffset ≠ fbiobInvalidOffset ∧
      cdesc.maxOffset.toNat ≤ auxData.iobufOffset.toNat

/-- Both addresses fit 32 bits, and that of a present buffer is not the sentinel. -/
def Addressable (cdesc : FbiobCdevDesc) (auxData : FbiobAuxData) : Prop :=
  cdesc.baseBusAddr.toNat + auxData.csrOffset.toNat < 2 ^ 32 ∧
    (auxData.iobufOffset = fbiobInvalidOffset ∨
      cdesc.baseBusAddr.toNat + auxData.iobufOffset.toNat < 2 ^ 32 - 1)

/-- The stored address is the sum modulo `2 ^ 32`. -/
theorem translate_offset_value (cdesc : FbiobCdevDesc) (offset : BitVec 32) :
    (translateOffset cdesc offset).toNat =
      (cdesc.baseBusAddr.toNat + offset.toNat) % 2 ^ 32 := by
  have offsetBound := offset.isLt
  simp only [translateOffset, BitVec.toNat_setWidth, BitVec.toNat_add]
  omega

/-- An offset inside the BAR has an exact address exactly when that fits 32 bits. -/
theorem translate_offset_exact (cdesc : FbiobCdevDesc) (offset : BitVec 32)
    (inside : offset.toNat < cdesc.maxOffset.toNat) :
    ExactAddress cdesc offset (translateOffset cdesc offset) ↔
      cdesc.baseBusAddr.toNat + offset.toNat < 2 ^ 32 := by
  unfold ExactAddress InWindow
  rw [translate_offset_value]
  constructor
  · rintro ⟨exact, _⟩
    omega
  · intro fits
    rw [Nat.mod_eq_of_lt fits]
    exact ⟨rfl, by omega, by omega⟩

/-- The comparison with the BAR size is a comparison of naturals. -/
theorem beyond_bar (cdesc : FbiobCdevDesc) (offset : BitVec 32) :
    offset.setWidth 64 ≥ cdesc.maxOffset ↔ cdesc.maxOffset.toNat ≤ offset.toNat := by
  have offsetBound := offset.isLt
  have widened : (offset.setWidth 64).toNat = offset.toNat := by
    rw [BitVec.toNat_setWidth]
    omega
  rw [ge_iff_le, BitVec.le_def, widened]

/-- A refused request fails. -/
theorem aux_data_validate_refuses (cdesc : FbiobCdevDesc) (auxData : FbiobAuxData)
    (refused : Refused cdesc auxData) : (auxDataValidate cdesc auxData).1 = -einval := by
  simp only [auxDataValidate, beyond_bar]
  rcases refused with absent | beyond | ⟨present, beyond⟩
  · simp [absent]
  · simp [beyond]
  · simp only [present, beyond, ne_eq, not_false_eq_true, if_true]
    split_ifs <;> rfl

/-- An accepted request succeeds with both offsets translated. -/
theorem aux_data_validate_accepts (cdesc : FbiobCdevDesc) (auxData : FbiobAuxData)
    (accepted : ¬Refused cdesc auxData) :
    auxDataValidate cdesc auxData =
      (0, ⟨translateOffset cdesc auxData.csrOffset,
        if auxData.iobufOffset = fbiobInvalidOffset then fbiobInvalidOffset
        else translateOffset cdesc auxData.iobufOffset⟩) := by
  simp only [Refused, not_or, not_and] at accepted
  obtain ⟨given, inside, buffer⟩ := accepted
  simp only [auxDataValidate, beyond_bar, given, inside, or_self, if_false]
  by_cases absent : auxData.iobufOffset = fbiobInvalidOffset
  · simp [absent]
  · simp [absent, buffer absent]

/-- A present buffer keeps an exact address apart from the sentinel exactly when
that address is below the largest 32-bit value. -/
theorem iobuf_exact (cdesc : FbiobCdevDesc) (offset : BitVec 32)
    (inside : offset.toNat < cdesc.maxOffset.toNat) :
    ExactAddress cdesc offset (translateOffset cdesc offset) ∧
        translateOffset cdesc offset ≠ fbiobInvalidOffset ↔
      cdesc.baseBusAddr.toNat + offset.toNat < 2 ^ 32 - 1 := by
  have sentinel : fbiobInvalidOffset.toNat = 2 ^ 32 - 1 := rfl
  rw [translate_offset_exact cdesc offset inside, ne_eq, ← BitVec.toNat_inj, sentinel,
    translate_offset_value]
  constructor
  · rintro ⟨fits, apart⟩
    rw [Nat.mod_eq_of_lt fits] at apart
    omega
  · intro below
    have fits : cdesc.baseBusAddr.toNat + offset.toNat < 2 ^ 32 := by omega
    rw [Nat.mod_eq_of_lt fits]
    exact ⟨fits, by omega⟩

/-- For every BAR and every request, `aux_data_validate` translates exactly when
it succeeds, if and only if the request is refused or the addresses fit 32 bits
and the one of a present buffer is not the sentinel. -/
theorem aux_data_validate_exact_iff (cdesc : FbiobCdevDesc) (auxData : FbiobAuxData) :
    ((auxDataValidate cdesc auxData).1 = 0 →
        Translated cdesc auxData (auxDataValidate cdesc auxData).2) ↔
      Refused cdesc auxData ∨ Addressable cdesc auxData := by
  by_cases refused : Refused cdesc auxData
  · have failed : (auxDataValidate cdesc auxData).1 ≠ 0 := by
      rw [aux_data_validate_refuses cdesc auxData refused]
      decide
    simp [refused, failed]
  · have inside : auxData.csrOffset.toNat < cdesc.maxOffset.toNat :=
      Nat.not_le.mp fun beyond => refused (Or.inr (Or.inl beyond))
    rw [aux_data_validate_accepts cdesc auxData refused]
    simp only [refused, false_or, forall_const, Translated, Addressable]
    rw [translate_offset_exact cdesc auxData.csrOffset inside]
    apply and_congr_right
    intro _
    by_cases absent : auxData.iobufOffset = fbiobInvalidOffset
    · simp [absent]
    · have within : auxData.iobufOffset.toNat < cdesc.maxOffset.toNat :=
        Nat.not_le.mp fun beyond => refused (Or.inr (Or.inr ⟨absent, beyond⟩))
      simp only [absent, if_false, false_and, false_or]
      exact iobuf_exact cdesc auxData.iobufOffset within

/-- With a BAR right above 4 GiB the register offset 0x100 is accepted and stays
what it was: the base is lost. -/
theorem high_bar_wraps :
    (auxDataValidate ⟨0x100000000, 0x10000⟩ ⟨0x100, fbiobInvalidOffset⟩).1 = 0 ∧
      ¬Translated ⟨0x100000000, 0x10000⟩ ⟨0x100, fbiobInvalidOffset⟩
        (auxDataValidate ⟨0x100000000, 0x10000⟩ ⟨0x100, fbiobInvalidOffset⟩).2 := by
  constructor
  · decide
  · rintro ⟨⟨exact, _⟩, _⟩
    exact absurd exact (by decide)

end FbossBsp
