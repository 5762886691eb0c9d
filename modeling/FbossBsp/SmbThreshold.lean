import FbossBsp.SmbTemperature

/-!
# The over-temperature threshold of the SMB CPLD drivers

Two drivers let user space set the temperature at which the CPLD protects the
ASIC. The threshold comes in degrees and is stored in two registers as the count
that `input_temp_read` converts back to millidegrees. The count is computed in
`long` and assigned to a `u16`.
-/

namespace FbossBsp

open Interaction

namespace SmbTemperature

/-! ## Writing -/

/-- `freq = 7942600 / (952 - 2 * val)`; a zero divisor, which would trap, takes
an overflow of `2 * val`. -/
def thresholdFreq (val : Int) : BitVec 16 :=
  BitVec.ofInt 16 ((7942600 : Int).tdiv (wrapLong (952 - wrapLong (2 * val))))

/-- `smbcpld_write`. -/
def smbcpldWrite (regH regL : BitVec 8) (type : SensorType) (attr : TempAttr) (val : Int) :
    Smbus Int :=
  match type, attr with
  | .temp, .tempMaxHyst =>
    if val ≥ 476 then return -einval
    else do
      let freq := thresholdFreq val
      let regvalH := ((freq >>> 8) &&& 0xFF).setWidth 8
      let regvalL := (freq &&& 0xFF).setWidth 8
      let ret ← i2cSmbusWriteByteData regH.toNat regvalH.toNat
      if ret < 0 then return -eio
      let ret ← i2cSmbusWriteByteData regL.toNat regvalL.toNat
      if ret < 0 then return -eio
      return 0
  | _, _ => return -eopnotsupp

end SmbTemperature

open SmbTemperature

namespace JangaSmbcpld

/-- `smbcpld_write`. -/
def smbcpldWrite (type : SensorType) (attr : TempAttr) (val : Int) : Smbus Int :=
  SmbTemperature.smbcpldWrite smbRegAsicOverTempHByte smbRegAsicOverTempLByte type attr val

end JangaSmbcpld

namespace TahanSmbcpld

/-- `smbcpld_write`. -/
def smbcpldWrite (type : SensorType) (attr : TempAttr) (val : Int) : Smbus Int :=
  SmbTemperature.smbcpldWrite smbRegAsicOverTempHByte smbRegAsicOverTempLByte type attr val

end TahanSmbcpld

namespace SmbTemperature

/-- A driver with a threshold. -/
inductive ThresholdDriver where
  | janga
  | tahan

namespace ThresholdDriver

variable (driver : ThresholdDriver)

def regH : BitVec 8 :=
  match driver with
  | .janga => JangaSmbcpld.smbRegAsicOverTempHByte
  | .tahan => TahanSmbcpld.smbRegAsicOverTempHByte

def regL : BitVec 8 :=
  match driver with
  | .janga => JangaSmbcpld.smbRegAsicOverTempLByte
  | .tahan => TahanSmbcpld.smbRegAsicOverTempLByte

/-- `smbcpld_write` of the threshold. -/
def write (val : Int) : Smbus Int :=
  match driver with
  | .janga => JangaSmbcpld.smbcpldWrite .temp .tempMaxHyst val
  | .tahan => TahanSmbcpld.smbcpldWrite .temp .tempMaxHyst val

/-- `smbcpld_read` of the threshold. -/
def read (channel val : Int) : Smbus Reading :=
  match driver with
  | .janga => JangaSmbcpld.smbcpldRead .temp .tempMaxHyst channel val
  | .tahan => TahanSmbcpld.smbcpldRead .temp .tempMaxHyst val

/-- The count in the register pair. -/
def stored (registers : BitVec 8 → BitVec 8) : Nat :=
  count (registers driver.regH) (registers driver.regL)

/-- The registers hold the exact quotient, and a threshold that is not negative
reads back within a degree. -/
structure Holds (channel old val : Int) (registers : BitVec 8 → BitVec 8) : Prop where
  exact : (driver.stored registers : Int) = (7942600 : Int).tdiv (952 - 2 * val)
  nonzero : driver.stored registers ≠ 0
  readBack : 0 ≤ val →
    ((driver.read channel old).result answeringCpld fun reg => .ok (registers reg)).ret = 0 ∧
      |((driver.read channel old).result answeringCpld fun reg => .ok (registers reg)).val -
        1000 * val| ≤ 1000

/-- The threshold is refused before anything is written, or it is stored, if both
transfers succeed. -/
def Sound (channel old val : Int) (s : Cpld) : Prop :=
  ((driver.write val).result cpld s < 0 ∧ (driver.write val).events cpld s = []) ∨
    (s.outcome = none → s.passed.outcome = none →
      driver.Holds channel old val ((driver.write val).final cpld s).registers)

end ThresholdDriver

/-- The thresholds whose count is neither zero nor wider than 16 bits. -/
def Fits (val : Int) : Prop := -3970824 ≤ val ∧ val ≤ 415

/-! ## The count -/

/-- The quotient fits the registers exactly for the thresholds that fit. -/
theorem quotient_fits_iff {val : Int} (small : val < 476) :
    0 < (7942600 : Int).tdiv (952 - 2 * val) ∧ (7942600 : Int).tdiv (952 - 2 * val) < 2 ^ 16 ↔
      Fits val := by
  have divisor : 0 < 952 - 2 * val := by omega
  rw [Int.tdiv_eq_ediv_of_nonneg (by decide), Int.ediv_lt_iff_lt_mul divisor, Fits]
  have positive : 0 < 7942600 / (952 - 2 * val) ↔ 1 * (952 - 2 * val) ≤ 7942600 :=
    Int.le_ediv_iff_mul_le divisor
  rw [positive]
  omega

/-- A threshold that fits is converted without truncation. -/
theorem threshold_freq_exact {val : Int} (fits : Fits val) :
    ((thresholdFreq val).toNat : Int) = (7942600 : Int).tdiv (952 - 2 * val) := by
  obtain ⟨lower, upper⟩ := fits
  have doubled : wrapLong (2 * val) = 2 * val := wrap_long_exact (by omega) (by omega)
  have divisor : wrapLong (952 - 2 * val) = 952 - 2 * val := wrap_long_exact (by omega) (by omega)
  obtain ⟨positive, narrow⟩ := (quotient_fits_iff (by omega)).mpr ⟨lower, upper⟩
  rw [thresholdFreq, doubled, divisor, BitVec.toNat_ofInt]
  omega

/-- The two bytes of a count. -/
theorem count_bytes (freq : BitVec 16) :
    count (((freq >>> 8) &&& 0xFF).setWidth 8) ((freq &&& 0xFF).setWidth 8) = freq.toNat := by
  have mask : (0xFF : BitVec 16).setWidth 8 = BitVec.allOnes 8 := by decide
  have bounded : freq.toNat < 2 ^ 16 := freq.isLt
  rw [BitVec.setWidth_and, BitVec.setWidth_and, mask, BitVec.and_allOnes, BitVec.and_allOnes, count,
    BitVec.toNat_setWidth, BitVec.toNat_setWidth, BitVec.toNat_ushiftRight, Nat.shiftRight_eq_div_pow]
  omega

/-- Higher thresholds have higher counts. -/
theorem quotient_monotone {lower upper : Int} (order : lower ≤ upper) (small : upper < 476) :
    (7942600 : Int).tdiv (952 - 2 * lower) ≤ (7942600 : Int).tdiv (952 - 2 * upper) := by
  rw [Int.tdiv_eq_ediv_of_nonneg (by decide), Int.tdiv_eq_ediv_of_nonneg (by decide)]
  rw [Int.le_ediv_iff_mul_le (by omega)]
  have quotient : 7942600 / (952 - 2 * lower) * (952 - 2 * lower) ≤ 7942600 :=
    Int.ediv_mul_le 7942600 (by omega)
  have nonnegative : 0 ≤ 7942600 / (952 - 2 * lower) := Int.ediv_nonneg (by decide) (by omega)
  nlinarith

/-- The count of a threshold from zero on converts back to the threshold, within a
degree. -/
theorem round_trip {val : Int} (nonnegative : 0 ≤ val) (fits : Fits val) {n : Int}
    (quotient : n = (7942600 : Int).tdiv (952 - 2 * val)) :
    2 ≤ n ∧ 0 ≤ 476359 - (3971300000 : Int).tdiv n ∧
      |476359 - (3971300000 : Int).tdiv n - 1000 * val| ≤ 1000 := by
  obtain ⟨_, upper⟩ := fits
  have divisor : 0 < 952 - 2 * val := by omega
  rw [Int.tdiv_eq_ediv_of_nonneg (by decide)] at quotient
  have large : 8343 ≤ n := by
    rw [quotient, Int.le_ediv_iff_mul_le divisor]
    omega
  have below : n * (952 - 2 * val) ≤ 7942600 := quotient ▸ Int.ediv_mul_le 7942600 divisor.ne'
  have above : 7942600 < n * (952 - 2 * val) + (952 - 2 * val) := by
    rw [quotient, mul_comm]
    exact Int.lt_mul_ediv_self_add divisor
  -- 3971300000 is 500 times 7942600, so the second division nearly undoes the first.
  have back : 500 * (952 - 2 * val) ≤ 3971300000 / n := by
    rw [Int.le_ediv_iff_mul_le (by omega)]
    linarith
  have near : 3971300000 / n < 500 * (952 - 2 * val) + 60 := by
    rw [Int.ediv_lt_iff_lt_mul (by omega)]
    linarith
  rw [Int.tdiv_eq_ediv_of_nonneg (by decide), abs_le]
  omega

/-! ## Registers -/

section Registers

variable (driver : ThresholdDriver)

/-- The registers after both bytes of a count are written. -/
def ThresholdDriver.storeFreq (freq : BitVec 16) (registers : BitVec 8 → BitVec 8) :
    BitVec 8 → BitVec 8 :=
  Function.update (Function.update registers driver.regH (((freq >>> 8) &&& 0xFF).setWidth 8))
    driver.regL ((freq &&& 0xFF).setWidth 8)

/-- The threshold that is stored is the one that is read back. -/
theorem stored_store_freq (freq : BitVec 16) (registers : BitVec 8 → BitVec 8) :
    driver.stored (driver.storeFreq freq registers) = freq.toNat := by
  have apart : driver.regH ≠ driver.regL := by cases driver <;> decide
  rw [ThresholdDriver.stored, ThresholdDriver.storeFreq, Function.update_self,
    Function.update_of_ne apart, Function.update_self, count_bytes]

/-- A threshold that is refused is refused before anything is written. -/
theorem write_refused {val : Int} (large : 476 ≤ val) :
    driver.write val = .done (-einval) := by
  have refused : smbcpldWrite driver.regH driver.regL .temp .tempMaxHyst val = .done (-einval) :=
    if_pos large
  cases driver <;> exact refused

/-- A threshold that is not refused is written byte by byte. -/
theorem write_performs {val : Int} (small : val < 476) :
    driver.write val =
      .perform (.writeByteData driver.regH (((thresholdFreq val >>> 8) &&& 0xFF).setWidth 8))
        fun high => if writeResult high < 0 then .done (-eio) else
          .perform (.writeByteData driver.regL ((thresholdFreq val &&& 0xFF).setWidth 8))
            fun low => if writeResult low < 0 then .done (-eio) else .done 0 := by
  have accepted : smbcpldWrite driver.regH driver.regL .temp .tempMaxHyst val = (do
      let ret ← i2cSmbusWriteByteData driver.regH.toNat
        (((thresholdFreq val >>> 8) &&& 0xFF).setWidth 8).toNat
      if ret < 0 then return -eio
      let ret ← i2cSmbusWriteByteData driver.regL.toNat
        ((thresholdFreq val &&& 0xFF).setWidth 8).toNat
      if ret < 0 then return -eio
      return 0) := if_neg (Int.not_le.mpr small)
  have named : driver.write val = smbcpldWrite driver.regH driver.regL .temp .tempMaxHyst val := by
    cases driver <;> rfl
  rw [named, accepted, write_byte_data_eq, write_byte_data_eq]
  rfl

/-- A threshold that is not refused is stored, if both transfers succeed. -/
theorem write_stores {val : Int} (small : val < 476) {s : Cpld} (first : s.outcome = none)
    (second : s.passed.outcome = none) :
    (driver.write val).result cpld s = 0 ∧ ((driver.write val).final cpld s).registers =
      driver.storeFreq (thresholdFreq val) s.registers := by
  have success : ¬writeResult (.ok ()) < 0 := Int.lt_irrefl 0
  have later (registers : BitVec 8 → BitVec 8) :
      Cpld.outcome { s.passed with registers := registers } = none := second
  rw [write_performs driver small]
  simp only [Program.result, Program.final, cpld, first, later, success, if_false]
  exact ⟨trivial, rfl⟩

/-- The count that is stored reads back. -/
theorem read_stored (channel old : Int) (registers : BitVec 8 → BitVec 8) {temp : Int}
    (large : 2 ≤ driver.stored registers) (nonnegative : 0 ≤ temp)
    (converted : 476359 - (3971300000 : Int).tdiv (driver.stored registers) = temp) :
    (driver.read channel old).result answeringCpld (fun reg => .ok (registers reg)) =
      ⟨0, temp, false⟩ := by
  have value := temp_var_to_nat (registers driver.regH) (registers driver.regL)
  change _ = driver.stored registers at value
  have nonzero : tempVar (registers driver.regH) (registers driver.regL) ≠ 0 := by
    intro zero
    rw [zero] at value
    change 0 = _ at value
    omega
  cases driver with
  | janga =>
    have run := calculate_run nonzero
    rw [value, converted] at run
    have bytes := janga_read_result (fun reg => .ok (registers reg))
      JangaSmbcpld.smbRegAsicOverTempHByte JangaSmbcpld.smbRegAsicOverTempLByte
    have succeeded : ¬(readResult (.ok (registers JangaSmbcpld.smbRegAsicOverTempHByte)) < 0 ∨
        readResult (.ok (registers JangaSmbcpld.smbRegAsicOverTempLByte)) < 0) := by
      simp only [readResult]
      omega
    rw [if_neg succeeded] at bytes
    have taken : (JangaSmbcpld.inputTempRead JangaSmbcpld.smbRegAsicOverTempHByte
        JangaSmbcpld.smbRegAsicOverTempLByte).result answeringCpld
          (fun reg => .ok (registers reg)) = (temp, false) := bytes.trans run
    change (JangaSmbcpld.storeTemp (JangaSmbcpld.inputTempRead _ _)).result _ _ = _
    rw [janga_store_result, taken, if_neg (Int.not_lt.mpr nonnegative)]
  | tahan =>
    have run := tahan_run (value ▸ large)
    rw [value, converted] at run
    have bytes := kept_bytes_result (fun reg => .ok (registers reg)) TahanSmbcpld.convert
      TahanSmbcpld.smbRegAsicOverTempHByte TahanSmbcpld.smbRegAsicOverTempLByte
    rw [kept_ok, kept_ok] at bytes
    have taken : (TahanSmbcpld.inputTempRead TahanSmbcpld.smbRegAsicOverTempHByte
        TahanSmbcpld.smbRegAsicOverTempLByte).result answeringCpld
          (fun reg => .ok (registers reg)) = (temp, false) :=
      (bytes.trans (if_neg nonzero)).trans run
    have unmarked : temp ≠ -esmbreginval := by
      simp only [esmbreginval]
      omega
    change (storeTemp (TahanSmbcpld.inputTempRead _ _)).result _ _ = _
    rw [store_temp_result, taken, if_neg unmarked]

/-- A driver stores a threshold soundly from every state of the CPLD exactly when
the threshold is refused or fits. -/
theorem threshold_sound_iff (channel old val : Int) :
    (∀ s, driver.Sound channel old val s) ↔ 476 ≤ val ∨ Fits val := by
  constructor
  · intro sound
    by_contra beyond
    obtain ⟨small, misfits⟩ := not_or.mp beyond
    have accepted : val < 476 := Int.not_le.mp small
    obtain ⟨ret, registers⟩ :=
      write_stores driver accepted (s := ⟨fun _ => 0, []⟩) rfl rfl
    obtain ⟨refused, _⟩ | stores := sound ⟨fun _ => 0, []⟩
    · rw [ret] at refused
      exact absurd refused (Int.lt_irrefl 0)
    · have holds := stores rfl rfl
      rw [registers] at holds
      have exact := holds.exact
      have nonzero := holds.nonzero
      rw [stored_store_freq] at exact nonzero
      have bounded : (thresholdFreq val).toNat < 2 ^ 16 := (thresholdFreq val).isLt
      apply misfits
      rw [← quotient_fits_iff accepted, ← exact]
      omega
  · intro condition s
    by_cases large : 476 ≤ val
    · left
      rw [write_refused driver large]
      exact ⟨(by decide : -einval < 0), rfl⟩
    · right
      intro first second
      have fits := condition.resolve_left large
      obtain ⟨_, registers⟩ := write_stores driver (Int.not_le.mp large) first second
      have stored := stored_store_freq driver (thresholdFreq val) s.registers
      have exact := threshold_freq_exact fits
      obtain ⟨positive, _⟩ := (quotient_fits_iff (Int.not_le.mp large)).mpr fits
      rw [registers]
      refine ⟨by rw [stored, exact], by rw [stored]; omega, fun nonnegative => ?_⟩
      obtain ⟨two, temp, near⟩ := round_trip nonnegative fits exact
      have read := read_stored driver channel old
        (driver.storeFreq (thresholdFreq val) s.registers) (by rw [stored]; omega) temp
        (by rw [stored])
      rw [read]
      exact ⟨rfl, near⟩

/-- A driver stores a threshold soundly, from every state of the CPLD, exactly when
the threshold is refused or fits; and of two thresholds that fit, the higher one
has the higher count. -/
theorem threshold_kept_iff (channel old val : Int) :
    ((∀ s, driver.Sound channel old val s) ↔ 476 ≤ val ∨ Fits val) ∧
      ∀ lower ≤ val, Fits lower → Fits val → ∀ s : Cpld, s.outcome = none →
        s.passed.outcome = none →
        driver.stored ((driver.write lower).final cpld s).registers ≤
          driver.stored ((driver.write val).final cpld s).registers := by
  refine ⟨threshold_sound_iff driver channel old val, ?_⟩
  intro lower order lowerFits fits s first second
  have lowerSmall : lower < 476 := by
    have upper := lowerFits.2
    omega
  have small : val < 476 := by
    have upper := fits.2
    omega
  obtain ⟨_, lowerRegisters⟩ := write_stores driver lowerSmall first second
  obtain ⟨_, registers⟩ := write_stores driver small first second
  have monotone := quotient_monotone order small
  rw [← threshold_freq_exact lowerFits, ← threshold_freq_exact fits] at monotone
  rw [lowerRegisters, registers, stored_store_freq, stored_store_freq]
  exact_mod_cast monotone

end Registers

/-! ## Thresholds that do not fit -/

/-- The count of 416 degrees loses its top bit and is below that of 415 degrees;
the count of -3970825 degrees is zero. -/
theorem threshold_truncated :
    let written (val : Int) := ThresholdDriver.janga.stored
      ((ThresholdDriver.janga.write val).final cpld ⟨fun _ => 0, []⟩).registers
    written 415 = 65103 ∧ written 416 = 652 ∧ written (-3970825) = 0 ∧
      ¬ThresholdDriver.janga.Sound 0 0 416 ⟨fun _ => 0, []⟩ ∧
      ¬ThresholdDriver.janga.Sound 0 0 (-3970825) ⟨fun _ => 0, []⟩ := by
  have unsound {val : Int} (ret : (ThresholdDriver.janga.write val).result cpld ⟨fun _ => 0, []⟩ = 0)
      (wrong : (ThresholdDriver.janga.stored
        ((ThresholdDriver.janga.write val).final cpld ⟨fun _ => 0, []⟩).registers : Int) ≠
          (7942600 : Int).tdiv (952 - 2 * val) ∨ ThresholdDriver.janga.stored
        ((ThresholdDriver.janga.write val).final cpld ⟨fun _ => 0, []⟩).registers = 0) :
      ¬ThresholdDriver.janga.Sound 0 0 val ⟨fun _ => 0, []⟩ := by
    rintro (⟨refused, _⟩ | stores)
    · rw [ret] at refused
      exact absurd refused (Int.lt_irrefl 0)
    · obtain inexact | zero := wrong
      · exact inexact (stores rfl rfl).exact
      · exact (stores rfl rfl).nonzero zero
  refine ⟨by decide +kernel, by decide +kernel, by decide +kernel, ?_, ?_⟩
  · exact unsound (by decide +kernel) (Or.inl (by decide +kernel))
  · exact unsound (by decide +kernel) (Or.inr (by decide +kernel))

end SmbTemperature

end FbossBsp
