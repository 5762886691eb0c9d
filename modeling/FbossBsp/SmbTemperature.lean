import FbossBsp.FanDriver
import Mathlib.Algebra.Order.Field.Rat
import Mathlib.Tactic.Linarith

/-!
# The ASIC temperature of the SMB CPLD drivers

Four drivers read a 16-bit count from two registers and report
`476359 - 3971300000 / count` millidegrees. They differ in the variables that
hold the bytes, in the value that stands for an error and in the width of the
arithmetic. Two of them store the bytes in a `u8`, which forgets that a read has
failed.

An expression is computed with a note whether an intermediate value has left
its type.
-/

namespace FbossBsp

open Interaction

namespace SmbTemperature

/-! ## Expressions -/

/-- A C expression: its value, and whether it or an expression before has
overflowed. -/
abbrev Arith := StateM Bool

/-- A value of type `int`. -/
def int (value : Int) : Arith Int := fun overflowed =>
  (wrapInt value, overflowed || decide (wrapInt value ≠ value))

/-- A value of type `long` or `s64`. -/
def long (value : Int) : Arith Int := fun overflowed =>
  (wrapLong value, overflowed || decide (wrapLong value ≠ value))

/-! ## Reading -/

inductive SensorType where
  | temp
  | other
  deriving DecidableEq

inductive TempAttr where
  | tempInput
  | tempMaxHyst
  | other

/-- The outcome of a read: what it returns, what it leaves in `*val`, and whether
the computation overflowed. -/
structure Reading where
  ret : Int
  val : Int
  overflowed : Bool

def smbRegMaxTempClkHByte : BitVec 8 := 0xb8
def smbRegMaxTempClkLByte : BitVec 8 := 0xb9

def esmbreginval : Int := 0xFFFF

/-- `input_temp_read` with both bytes in a `u8`. -/
def inputTempRead (convert : BitVec 16 → Arith Int) (regH regL : BitVec 8) :
    Smbus (Int × Bool) := do
  let high ← i2cSmbusReadByteData regH.toNat
  let regTempH := BitVec.ofInt 8 high
  let low ← i2cSmbusReadByteData regL.toNat
  let regTempL := BitVec.ofInt 8 low
  -- never taken: a `u8` is not negative
  if (regTempH.toNat : Int) < 0 ∨ (regTempL.toNat : Int) < 0 then return (-esmbreginval, false)
  let tempVar := BitVec.ofInt 16 (regTempH.toNat * 2 ^ 8 + regTempL.toNat)
  if tempVar = 0 then return (-esmbreginval, false)
  return convert tempVar false

/-- `*val = input_temp_read(..)`, and the error where it is the sentinel. -/
def storeTemp (read : Smbus (Int × Bool)) : Smbus Reading := do
  let (temp, overflowed) ← read
  return ⟨if temp = -esmbreginval then -einval else 0, temp, overflowed⟩

/-- `calculate_sensor_value`. -/
def calculateSensorValue (tempVar : BitVec 16) : Arith Int := do
  if tempVar = 0 then return -einval
  let quotient ← long ((3971300000 : Int).tdiv tempVar.toNat)
  long (476359 - quotient)

end SmbTemperature

open SmbTemperature

namespace TahanSmbcpld

def smbRegAsicOverTempHByte : BitVec 8 := 0xbd
def smbRegAsicOverTempLByte : BitVec 8 := 0xbe

/-- The conversion of `input_temp_read`, in `long` and then assigned to an `int`. -/
def convert (tempVar : BitVec 16) : Arith Int := do
  let quotient ← long ((3971300000 : Int).tdiv tempVar.toNat)
  let temp ← long (476359 - quotient)
  int temp

/-- `input_temp_read`. -/
def inputTempRead (regH regL : BitVec 8) : Smbus (Int × Bool) :=
  SmbTemperature.inputTempRead convert regH regL

/-- `smbcpld_read`. -/
def smbcpldRead (type : SensorType) (attr : TempAttr) (val : Int) : Smbus Reading :=
  if type ≠ .temp then return ⟨-eopnotsupp, val, false⟩
  else match attr with
    | .tempInput => storeTemp (inputTempRead smbRegMaxTempClkHByte smbRegMaxTempClkLByte)
    | .tempMaxHyst => storeTemp (inputTempRead smbRegAsicOverTempHByte smbRegAsicOverTempLByte)
    | .other => return ⟨-eopnotsupp, val, false⟩

end TahanSmbcpld

namespace W800bSmbcpld

/-- The conversion of `input_temp_read`, in `int`. -/
def convert (tempVar : BitVec 16) : Arith Int := do
  let scale ← int (317704 * 25)
  let divisor ← int (tempVar.toNat * 2)
  let scaled ← int (scale.tdiv divisor * 1000)
  int (476359 - scaled)

/-- `input_temp_read`. -/
def inputTempRead (regH regL : BitVec 8) : Smbus (Int × Bool) :=
  SmbTemperature.inputTempRead convert regH regL

/-- `smbcpld_read`; the sensor type is not checked. -/
def smbcpldRead (attr : TempAttr) (val : Int) : Smbus Reading :=
  match attr with
  | .tempInput => storeTemp (inputTempRead smbRegMaxTempClkHByte smbRegMaxTempClkLByte)
  | _ => return ⟨-eopnotsupp, val, false⟩

end W800bSmbcpld

namespace Mp3Smbcpld

/-- `input_temp_read`. -/
def inputTempRead (regH regL : BitVec 8) (val : Int) : Smbus Reading := do
  let regTempH ← i2cSmbusReadByteData regH.toNat
  if regTempH < 0 then return ⟨regTempH, val, false⟩
  let regTempL ← i2cSmbusReadByteData regL.toNat
  if regTempL < 0 then return ⟨regTempL, val, false⟩
  let tempVar := BitVec.ofInt 16 (regTempH * 2 ^ 8 + regTempL)
  let (res, overflowed) := calculateSensorValue tempVar false
  return ⟨0, res, overflowed⟩

/-- `smbcpld_read`. -/
def smbcpldRead (type : SensorType) (attr : TempAttr) (val : Int) : Smbus Reading :=
  if type ≠ .temp then return ⟨-eopnotsupp, val, false⟩
  else match attr with
    | .tempInput => inputTempRead smbRegMaxTempClkHByte smbRegMaxTempClkLByte val
    | _ => return ⟨-eopnotsupp, val, false⟩

end Mp3Smbcpld

namespace JangaSmbcpld

/-- `input_temp_read`. -/
def inputTempRead (regH regL : BitVec 8) : Smbus (Int × Bool) := do
  let regTempH ← i2cSmbusReadByteData regH.toNat
  let regTempL ← i2cSmbusReadByteData regL.toNat
  if regTempH < 0 ∨ regTempL < 0 then return (-eio, false)
  let tempVar := BitVec.ofInt 16 (regTempH * 2 ^ 8 + regTempL)
  return calculateSensorValue tempVar false

/-- `*val = input_temp_read(..)`, and the error where it is negative. -/
def storeTemp (read : Smbus (Int × Bool)) : Smbus Reading := do
  let (temp, overflowed) ← read
  return ⟨if temp < 0 then -einval else 0, temp, overflowed⟩

def j3aRegMaxTempClkHByte : BitVec 8 := 0xb8
def j3aRegMaxTempClkLByte : BitVec 8 := 0xb9
def j3bRegMaxTempClkHByte : BitVec 8 := 0xbc
def j3bRegMaxTempClkLByte : BitVec 8 := 0xbd
def smbRegAsicOverTempHByte : BitVec 8 := 0xcd
def smbRegAsicOverTempLByte : BitVec 8 := 0xce

/-- `smbcpld_read`. -/
def smbcpldRead (type : SensorType) (attr : TempAttr) (channel : Int) (val : Int) : Smbus Reading :=
  if type ≠ .temp then return ⟨-eopnotsupp, val, false⟩
  else match attr with
    | .tempInput =>
        if channel = 0 then storeTemp (inputTempRead j3aRegMaxTempClkHByte j3aRegMaxTempClkLByte)
        else storeTemp (inputTempRead j3bRegMaxTempClkHByte j3bRegMaxTempClkLByte)
    | .tempMaxHyst => storeTemp (inputTempRead smbRegAsicOverTempHByte smbRegAsicOverTempLByte)
    | .other => return ⟨-eopnotsupp, val, false⟩

end JangaSmbcpld

namespace SmbTemperature

/-! ## Honest readings -/

/-- The count that two bytes make. -/
def count (high low : BitVec 8) : Nat := high.toNat * 2 ^ 8 + low.toNat

/-- An error is returned where a read has failed or the count is zero, and what
is returned otherwise is the temperature, computed without overflow. -/
def Reading.Honest (reading : Reading) : Except Errno (BitVec 8) → Except Errno (BitVec 8) → Prop
  | .ok high, .ok low =>
      (count high low = 0 → reading.ret < 0) ∧
        (reading.ret = 0 → reading.overflowed = false ∧
          |(reading.val : ℚ) - (476359 - 3971300000 / count high low)| ≤ 1000)
  | _, _ => reading.ret < 0

/-- A driver that reports the ASIC temperature. -/
inductive SmbDriver where
  | janga
  | tahan
  | mp3
  | w800b

namespace SmbDriver

/-- `smbcpld_read` of the temperature input. -/
def readInput (driver : SmbDriver) (channel val : Int) : Smbus Reading :=
  match driver with
  | .janga => JangaSmbcpld.smbcpldRead .temp .tempInput channel val
  | .tahan => TahanSmbcpld.smbcpldRead .temp .tempInput val
  | .mp3 => Mp3Smbcpld.smbcpldRead .temp .tempInput val
  | .w800b => W800bSmbcpld.smbcpldRead .tempInput val

/-- The registers of the two bytes. -/
def regH (driver : SmbDriver) (channel : Int) : BitVec 8 :=
  match driver with
  | .janga => if channel = 0 then 0xb8 else 0xbc
  | .tahan | .mp3 | .w800b => 0xb8

def regL (driver : SmbDriver) (channel : Int) : BitVec 8 :=
  match driver with
  | .janga => if channel = 0 then 0xb9 else 0xbd
  | .tahan | .mp3 | .w800b => 0xb9

/-- Which results of the two reads the driver handles. -/
def Handles (driver : SmbDriver) :
    Except Errno (BitVec 8) → Except Errno (BitVec 8) → Prop
  | .ok high, .ok low =>
      match driver with
      | .janga => True
      | .mp3 => count high low ≠ 0
      | .tahan | .w800b => count high low ≠ 1
  | high, low =>
      match driver with
      | .janga | .mp3 => True
      -- what is left of an error in a `u8` must look like a zero byte
      | .tahan | .w800b =>
          BitVec.ofInt 8 (readResult high) = 0 ∧ BitVec.ofInt 8 (readResult low) = 0

end SmbDriver

/-! ## Conversions -/

/-- A scaled reciprocal that is rounded down to a multiple of at most a thousand
is within a thousand. -/
theorem reciprocal_within {n q : Int} (positive : 0 < n) (lower : n * q ≤ 3971300000)
    (upper : 3971300000 ≤ n * (q + 1000)) :
    |((476359 - q : Int) : ℚ) - (476359 - 3971300000 / n)| ≤ 1000 := by
  have divisor : (0 : ℚ) < n := by exact_mod_cast positive
  have below : (q : ℚ) ≤ 3971300000 / n := by
    rw [le_div_iff₀ divisor, mul_comm]
    exact_mod_cast lower
  have above : (3971300000 / n : ℚ) ≤ q + 1000 := by
    rw [div_le_iff₀ divisor, mul_comm]
    exact_mod_cast upper
  rw [abs_le]
  push_cast
  constructor <;> linarith

/-- The quotient that the drivers compute. -/
theorem quotient_bounds {n : Int} (positive : 0 < n) {scale : Int} (nonnegative : 0 ≤ scale) :
    0 ≤ scale.tdiv n ∧ n * scale.tdiv n ≤ scale ∧ scale < n * scale.tdiv n + n := by
  rw [Int.tdiv_eq_ediv_of_nonneg nonnegative]
  exact ⟨Int.ediv_nonneg nonnegative positive.le, Int.mul_ediv_self_le positive.ne',
    Int.lt_mul_ediv_self_add positive⟩

/-- What makes the conversion of a count sound: it stays in its types, is close
to the formula, and is not the sentinel. -/
structure Converts (convert : BitVec 16 → Arith Int) (n : BitVec 16) : Prop where
  exact : (convert n false).2 = false
  near : |((convert n false).1 : ℚ) - (476359 - 3971300000 / n.toNat)| ≤ 1000
  unmarked : (convert n false).1 ≠ -esmbreginval

/-- A conversion that computes the rounded reciprocal, with the quotient rounded
down to a multiple of at most a thousand. -/
theorem converts_of_run {convert : BitVec 16 → Arith Int} {n : BitVec 16} {q : Int}
    (nonzero : n ≠ 0) (run : convert n false = (476359 - q, false))
    (lower : n.toNat * q ≤ 3971300000) (upper : 3971300000 ≤ n.toNat * (q + 1000))
    (unmarked : q ≠ 541894) : Converts convert n := by
  have positive : 0 < n.toNat := by bv_omega
  constructor
  case exact => rw [run]
  case near =>
    rw [run]
    exact reciprocal_within (by exact_mod_cast positive) lower upper
  case unmarked =>
    rw [run]
    simp only [esmbreginval]
    omega

/-- The conversion in `s64` computes the rounded reciprocal. -/
theorem calculate_run {n : BitVec 16} (nonzero : n ≠ 0) :
    calculateSensorValue n false = (476359 - (3971300000 : Int).tdiv n.toNat, false) := by
  have positive : 0 < n.toNat := by bv_omega
  obtain ⟨nonnegative, lower, upper⟩ :=
    quotient_bounds (show 0 < (n.toNat : Int) by omega) (show (0 : Int) ≤ 3971300000 by decide)
  have small : (3971300000 : Int).tdiv n.toNat ≤ 3971300000 := by nlinarith
  have quotient : wrapLong ((3971300000 : Int).tdiv n.toNat) = (3971300000 : Int).tdiv n.toNat :=
    wrap_long_exact (by omega) (by omega)
  have difference : wrapLong (476359 - (3971300000 : Int).tdiv n.toNat) =
      476359 - (3971300000 : Int).tdiv n.toNat := wrap_long_exact (by omega) (by omega)
  have divided : calculateSensorValue n = (do
      let quotient ← long ((3971300000 : Int).tdiv n.toNat)
      long (476359 - quotient)) := if_neg nonzero
  have unfolded : calculateSensorValue n false = (wrapLong (476359 -
      wrapLong ((3971300000 : Int).tdiv n.toNat)), _) := congrFun divided false
  rw [unfolded]
  simp [quotient, difference]

/-- The conversion in `s64` is sound for every count. -/
theorem calculate_converts {n : BitVec 16} (nonzero : n ≠ 0) : Converts calculateSensorValue n := by
  have positive : 0 < n.toNat := by bv_omega
  obtain ⟨_, lower, upper⟩ :=
    quotient_bounds (show 0 < (n.toNat : Int) by omega) (show (0 : Int) ≤ 3971300000 by decide)
  apply converts_of_run nonzero (calculate_run nonzero) lower (by nlinarith)
  intro marked
  rw [marked] at lower upper
  omega

/-- The conversion through an `int` computes the rounded reciprocal from the count
two on. -/
theorem tahan_run {n : BitVec 16} (large : 2 ≤ n.toNat) :
    TahanSmbcpld.convert n false = (476359 - (3971300000 : Int).tdiv n.toNat, false) := by
  obtain ⟨nonnegative, lower, upper⟩ :=
    quotient_bounds (show 0 < (n.toNat : Int) by omega) (show (0 : Int) ≤ 3971300000 by decide)
  have small : (3971300000 : Int).tdiv n.toNat ≤ 1985650000 := by nlinarith
  have quotient : wrapLong ((3971300000 : Int).tdiv n.toNat) = (3971300000 : Int).tdiv n.toNat :=
    wrap_long_exact (by omega) (by omega)
  have difference : wrapLong (476359 - (3971300000 : Int).tdiv n.toNat) =
      476359 - (3971300000 : Int).tdiv n.toNat := wrap_long_exact (by omega) (by omega)
  have stored : wrapInt (476359 - (3971300000 : Int).tdiv n.toNat) =
      476359 - (3971300000 : Int).tdiv n.toNat := wrap_int_exact (by omega) (by omega)
  have unfolded : TahanSmbcpld.convert n false = (wrapInt (wrapLong (476359 -
      wrapLong ((3971300000 : Int).tdiv n.toNat))), _) := rfl
  rw [unfolded]
  simp [quotient, difference, stored]

/-- The conversion through an `int` is sound from the count two on. -/
theorem tahan_converts {n : BitVec 16} (large : 2 ≤ n.toNat) : Converts TahanSmbcpld.convert n := by
  obtain ⟨_, lower, upper⟩ :=
    quotient_bounds (show 0 < (n.toNat : Int) by omega) (show (0 : Int) ≤ 3971300000 by decide)
  apply converts_of_run (by rintro rfl; contradiction) (tahan_run large) lower (by nlinarith)
  intro marked
  rw [marked] at lower upper
  omega

/-- The conversion in `int` is sound from the count two on. -/
theorem w800b_converts {n : BitVec 16} (large : 2 ≤ n.toNat) : Converts W800bSmbcpld.convert n := by
  have bounded : n.toNat < 2 ^ 16 := n.isLt
  obtain ⟨nonnegative, lower, upper⟩ :=
    quotient_bounds (show 0 < (n.toNat * 2 : Int) by omega) (show (0 : Int) ≤ 7942600 by decide)
  have small : (7942600 : Int).tdiv (n.toNat * 2) ≤ 1985650 := by nlinarith
  have scale : wrapInt 7942600 = 7942600 := by decide
  have divisor : wrapInt (n.toNat * 2) = n.toNat * 2 := wrap_int_exact (by omega) (by omega)
  have scaled : wrapInt ((7942600 : Int).tdiv (n.toNat * 2) * 1000) =
      (7942600 : Int).tdiv (n.toNat * 2) * 1000 := wrap_int_exact (by omega) (by omega)
  have stored : wrapInt (476359 - (7942600 : Int).tdiv (n.toNat * 2) * 1000) =
      476359 - (7942600 : Int).tdiv (n.toNat * 2) * 1000 := wrap_int_exact (by omega) (by omega)
  have run : W800bSmbcpld.convert n false =
      (476359 - (7942600 : Int).tdiv (n.toNat * 2) * 1000, false) := by
    have unfolded : W800bSmbcpld.convert n false = (wrapInt (476359 -
        wrapInt ((wrapInt (317704 * 25)).tdiv (wrapInt (n.toNat * 2)) * 1000)), _) := rfl
    rw [unfolded]
    simp [scale, divisor, scaled, stored]
  apply converts_of_run (by rintro rfl; contradiction) run (by nlinarith) (by nlinarith)
  omega

/-- The count one overflows an `int`, and what is left is no sentinel. -/
theorem tahan_one : (TahanSmbcpld.convert 1 false).2 = true ∧
    (TahanSmbcpld.convert 1 false).1 ≠ -esmbreginval := by
  decide +kernel

/-- The conversion of the count one overflows, and does not yield the sentinel. -/
theorem w800b_one : (W800bSmbcpld.convert 1 false).2 = true ∧
    (W800bSmbcpld.convert 1 false).1 ≠ -esmbreginval := by
  decide +kernel

/-! ## Routines -/

section Routines

/-- What a `u8` keeps of a result. -/
def kept (result : Except Errno (BitVec 8)) : BitVec 8 := BitVec.ofInt 8 (readResult result)

/-- A byte that is read is kept. -/
theorem kept_ok (byte : BitVec 8) : kept (.ok byte) = byte := of_int_passed byte

/-- The `u16` that is made of two bytes. -/
def tempVar (high low : BitVec 8) : BitVec 16 :=
  BitVec.ofInt 16 ((high.toNat : Int) * 2 ^ 8 + low.toNat)

/-- The word of two bytes is their count. -/
theorem temp_var_to_nat (high low : BitVec 8) : (tempVar high low).toNat = count high low := by
  have highBound : high.toNat < 2 ^ 8 := high.isLt
  have lowBound : low.toNat < 2 ^ 8 := low.isLt
  have natural : (high.toNat : Int) * 2 ^ 8 + low.toNat = (count high low : Nat) := by
    simp [count]
  rw [tempVar, natural, BitVec.ofInt_natCast, BitVec.toNat_ofNat]
  exact Nat.mod_eq_of_lt (by simp only [count]; omega)

/-- The word of two bytes is zero exactly when both are. -/
theorem temp_var_eq_zero_iff (high low : BitVec 8) :
    tempVar high low = 0 ↔ high = 0 ∧ low = 0 := by
  have value := temp_var_to_nat high low
  simp only [count] at value
  bv_omega

/-- A word other than zero has a count other than zero. -/
theorem count_ne_zero {high low : BitVec 8} (nonzero : tempVar high low ≠ 0) :
    count high low ≠ 0 := by
  have value := temp_var_to_nat high low
  bv_omega

/-- What is calculated from a nonzero count is an honest temperature. -/
theorem calculate_honest {high low : BitVec 8} (nonzero : tempVar high low ≠ 0) (ret : Int) :
    Reading.Honest ⟨ret, (calculateSensorValue (tempVar high low) false).1,
      (calculateSensorValue (tempVar high low) false).2⟩ (.ok high) (.ok low) := by
  have converts := calculate_converts nonzero
  have near := converts.near
  rw [temp_var_to_nat] at near
  exact ⟨fun none => absurd none (count_ne_zero nonzero), fun _ => ⟨converts.exact, near⟩⟩

variable (answers : BitVec 8 → Except Errno (BitVec 8))

/-- A routine with `u8` variables sees what they keep of the results. -/
theorem kept_bytes_result (convert : BitVec 16 → Arith Int) (regH regL : BitVec 8) :
    (inputTempRead convert regH regL).result answeringCpld answers =
      if tempVar (kept (answers regH)) (kept (answers regL)) = 0 then (-esmbreginval, false)
      else convert (tempVar (kept (answers regH)) (kept (answers regL))) false := by
  have nonnegative : ¬(((kept (answers regH)).toNat : Int) < 0 ∨
      ((kept (answers regL)).toNat : Int) < 0) := by omega
  rw [inputTempRead, answered_read, answered_read]
  change Program.result answeringCpld (if ((kept (answers regH)).toNat : Int) < 0 ∨
      ((kept (answers regL)).toNat : Int) < 0 then .done (-esmbreginval, false)
    else if tempVar (kept (answers regH)) (kept (answers regL)) = 0 then .done (-esmbreginval, false)
    else .done (convert (tempVar (kept (answers regH)) (kept (answers regL))) false)) answers = _
  rw [if_neg nonnegative]
  by_cases zero : tempVar (kept (answers regH)) (kept (answers regL)) = 0
  · rw [if_pos zero, if_pos zero]
    rfl
  · rw [if_neg zero, if_neg zero]
    rfl

/-- The reading is an error exactly when the temperature is the sentinel. -/
theorem store_temp_result (read : Smbus (Int × Bool)) :
    (storeTemp read).result answeringCpld answers =
      ⟨if (read.result answeringCpld answers).1 = -esmbreginval then -einval else 0,
        (read.result answeringCpld answers).1, (read.result answeringCpld answers).2⟩ := by
  rw [storeTemp, Program.result_bind]
  rfl

/-- A driver without the sentinel among its temperatures refuses exactly two
bytes that the `u8` variables see as zero. -/
theorem store_temp_refuses_iff {convert : BitVec 16 → Arith Int}
    (unmarked : ∀ n : BitVec 16, n ≠ 0 → (convert n false).1 ≠ -esmbreginval)
    (regH regL : BitVec 8) :
    ((storeTemp (inputTempRead convert regH regL)).result answeringCpld answers).ret < 0 ↔
      kept (answers regH) = 0 ∧ kept (answers regL) = 0 := by
  rw [store_temp_result, kept_bytes_result, ← temp_var_eq_zero_iff]
  by_cases zero : tempVar (kept (answers regH)) (kept (answers regL)) = 0
  · rw [if_pos zero]
    exact iff_of_true (by decide : -einval < 0) zero
  · rw [if_neg zero]
    simp only [unmarked _ zero, if_false, zero, iff_false]
    decide

/-- Such a driver is honest exactly where it handles the results. -/
theorem kept_bytes_honest_iff {convert : BitVec 16 → Arith Int}
    (sound : ∀ n : BitVec 16, 2 ≤ n.toNat → Converts convert n)
    (one : (convert 1 false).2 = true ∧ (convert 1 false).1 ≠ -esmbreginval)
    (regH regL : BitVec 8) :
    ((storeTemp (inputTempRead convert regH regL)).result answeringCpld answers).Honest
        (answers regH) (answers regL) ↔
      SmbDriver.tahan.Handles (answers regH) (answers regL) := by
  have unmarked (n : BitVec 16) (nonzero : n ≠ 0) : (convert n false).1 ≠ -esmbreginval := by
    by_cases single : n = 1
    · rw [single]
      exact one.2
    · exact (sound n (by bv_omega)).unmarked
  have refused : -einval < 0 := by decide
  have ret := store_temp_refuses_iff answers unmarked regH regL
  cases high : answers regH with
  | error errno =>
    rw [high] at ret
    exact ret
  | ok high' =>
    cases low : answers regL with
    | error errno =>
      rw [high, low] at ret
      exact ret
    | ok low' =>
      rw [store_temp_result, kept_bytes_result, high, low, kept_ok, kept_ok]
      have value := temp_var_to_nat high' low'
      by_cases zero : tempVar high' low' = 0
      · rw [if_pos zero]
        rw [zero] at value
        have other : count high' low' ≠ 1 := by rw [← value]; decide
        exact iff_of_true ⟨fun _ => refused, fun returned => absurd returned refused.ne⟩ other
      · have nonzero : count high' low' ≠ 0 := count_ne_zero zero
        rw [if_neg zero]
        simp only [Reading.Honest, unmarked _ zero, if_false, nonzero, false_implies, true_implies,
          true_and]
        by_cases single : count high' low' = 1
        · have one' : tempVar high' low' = 1 := by
            rw [single] at value
            bv_omega
          rw [one', one.1]
          exact iff_of_false (fun both => nomatch both.1) (fun other => other single)
        · have converts := sound (tempVar high' low') (by omega)
          rw [← value]
          exact iff_of_true ⟨converts.exact, converts.near⟩ single

/-- The driver that returns the errors of the reads is honest but for the count zero. -/
theorem mp3_honest_iff (val : Int) (regH regL : BitVec 8) :
    ((Mp3Smbcpld.inputTempRead regH regL val).result answeringCpld answers).Honest
        (answers regH) (answers regL) ↔
      SmbDriver.mp3.Handles (answers regH) (answers regL) := by
  rw [Mp3Smbcpld.inputTempRead, answered_read]
  cases high : answers regH with
  | error errno =>
    have negative : readResult (.error errno) < 0 := errno_negative errno
    rw [if_pos negative]
    exact iff_of_true negative trivial
  | ok high' =>
    have nonnegative : ¬readResult (.ok high') < 0 := Int.not_lt.mpr (Int.natCast_nonneg _)
    rw [if_neg nonnegative, answered_read]
    cases low : answers regL with
    | error errno =>
      have negative : readResult (.error errno) < 0 := errno_negative errno
      rw [if_pos negative]
      exact iff_of_true negative trivial
    | ok low' =>
      have nonnegative : ¬readResult (.ok low') < 0 := Int.not_lt.mpr (Int.natCast_nonneg _)
      have value := temp_var_to_nat high' low'
      rw [if_neg nonnegative]
      change Reading.Honest ⟨0, (calculateSensorValue (tempVar high' low') false).1,
        (calculateSensorValue (tempVar high' low') false).2⟩ _ _ ↔ count high' low' ≠ 0
      by_cases zero : tempVar high' low' = 0
      · have none : count high' low' = 0 := by
          rw [← value, zero]
          rfl
        exact iff_of_false (fun honest => absurd (honest.1 none) (Int.lt_irrefl 0))
          (fun some => some none)
      · exact iff_of_true (calculate_honest zero 0) (count_ne_zero zero)

/-- The reading is an error exactly when the temperature is negative. -/
theorem janga_store_result (read : Smbus (Int × Bool)) :
    (JangaSmbcpld.storeTemp read).result answeringCpld answers =
      ⟨if (read.result answeringCpld answers).1 < 0 then -einval else 0,
        (read.result answeringCpld answers).1, (read.result answeringCpld answers).2⟩ := by
  rw [JangaSmbcpld.storeTemp, Program.result_bind]
  rfl

/-- The Janga driver fails when a read fails, and otherwise converts the two bytes. -/
theorem janga_read_result (regH regL : BitVec 8) :
    (JangaSmbcpld.inputTempRead regH regL).result answeringCpld answers =
      if readResult (answers regH) < 0 ∨ readResult (answers regL) < 0 then (-eio, false)
      else calculateSensorValue
        (BitVec.ofInt 16 (readResult (answers regH) * 2 ^ 8 + readResult (answers regL))) false := by
  rw [JangaSmbcpld.inputTempRead, answered_read, answered_read]
  by_cases failed : readResult (answers regH) < 0 ∨ readResult (answers regL) < 0
  · rw [if_pos failed, if_pos failed]
    rfl
  · rw [if_neg failed, if_neg failed]
    rfl

/-- The driver that refuses every negative temperature is honest. -/
theorem janga_honest (regH regL : BitVec 8) :
    ((JangaSmbcpld.storeTemp (JangaSmbcpld.inputTempRead regH regL)).result
      answeringCpld answers).Honest (answers regH) (answers regL) := by
  have refused : -einval < 0 := by decide
  have input : -eio < 0 := by decide
  rw [janga_store_result, janga_read_result]
  cases high : answers regH with
  | error errno =>
    have failed : readResult (.error errno) < 0 ∨ readResult (answers regL) < 0 :=
      .inl (errno_negative errno)
    rw [if_pos failed, if_pos input]
    exact refused
  | ok high' =>
    cases low : answers regL with
    | error errno =>
      have failed : readResult (.ok high') < 0 ∨ readResult (.error errno) < 0 :=
        .inr (errno_negative errno)
      rw [if_pos failed, if_pos input]
      exact refused
    | ok low' =>
      have succeeded : ¬(readResult (.ok high') < 0 ∨ readResult (.ok low') < 0) := by
        simp only [readResult]
        omega
      rw [if_neg succeeded]
      change Reading.Honest ⟨if (calculateSensorValue (tempVar high' low') false).1 < 0 then -einval
        else 0, (calculateSensorValue (tempVar high' low') false).1,
        (calculateSensorValue (tempVar high' low') false).2⟩ _ _
      by_cases zero : tempVar high' low' = 0
      · rw [zero, if_pos (show (calculateSensorValue 0 false).1 < 0 from refused)]
        exact ⟨fun _ => refused, fun returned => absurd returned refused.ne⟩
      · exact calculate_honest zero _

end Routines

/-- A driver reports the temperature of a channel honestly. -/
def SmbDriver.Honest (driver : SmbDriver) (channel val : Int)
    (answers : BitVec 8 → Except Errno (BitVec 8)) : Prop :=
  ((driver.readInput channel val).result answeringCpld answers).Honest
    (answers (driver.regH channel)) (answers (driver.regL channel))

/-- Whatever the two reads return, a driver reports a temperature honestly
exactly where it handles what they return. -/
theorem temperature_honest_iff (driver : SmbDriver) (channel val : Int)
    (answers : BitVec 8 → Except Errno (BitVec 8)) :
    driver.Honest channel val answers ↔
      driver.Handles (answers (driver.regH channel)) (answers (driver.regL channel)) := by
  unfold SmbDriver.Honest
  cases driver with
  | janga =>
    have handled (high low : Except Errno (BitVec 8)) : SmbDriver.janga.Handles high low := by
      cases high <;> cases low <;> trivial
    refine iff_of_true ?_ (handled _ _)
    by_cases first : channel = 0
    · simp only [SmbDriver.regH, SmbDriver.regL, first, if_true]
      exact janga_honest answers 0xb8 0xb9
    · simp only [SmbDriver.regH, SmbDriver.regL, first, if_false, SmbDriver.readInput,
        JangaSmbcpld.smbcpldRead]
      exact janga_honest answers 0xbc 0xbd
  | tahan => exact kept_bytes_honest_iff answers (fun _ => tahan_converts) tahan_one 0xb8 0xb9
  | mp3 => exact mp3_honest_iff answers val 0xb8 0xb9
  | w800b => exact kept_bytes_honest_iff answers (fun _ => w800b_converts) w800b_one 0xb8 0xb9

/-- An errno in a `u8` passes for a byte, the count one overflows, and the count
zero is reported as a temperature. -/
theorem misread_temperatures :
    ¬SmbDriver.tahan.Honest 0 0 (fun _ => .error ⟨5, by decide, by decide⟩) ∧
      ¬SmbDriver.w800b.Honest 0 0 (fun _ => .error ⟨5, by decide, by decide⟩) ∧
      ¬SmbDriver.tahan.Honest 0 0 (fun reg => .ok (if reg = smbRegMaxTempClkLByte then 1 else 0)) ∧
      ¬SmbDriver.w800b.Honest 0 0 (fun reg => .ok (if reg = smbRegMaxTempClkLByte then 1 else 0)) ∧
      ¬SmbDriver.mp3.Honest 0 0 (fun _ => .ok 0) := by
  have tahan (answers : BitVec 8 → Except Errno (BitVec 8)) :=
    kept_bytes_honest_iff answers (fun _ => tahan_converts) tahan_one 0xb8 0xb9
  have w800b (answers : BitVec 8 → Except Errno (BitVec 8)) :=
    kept_bytes_honest_iff answers (fun _ => w800b_converts) w800b_one 0xb8 0xb9
  refine ⟨fun honest => ?_, fun honest => ?_, fun honest => ?_, fun honest => ?_, fun honest => ?_⟩
  · exact absurd ((tahan _).mp honest).1 (by decide)
  · exact absurd ((w800b _).mp honest).1 (by decide)
  · exact (tahan _).mp honest rfl
  · exact (w800b _).mp honest rfl
  · exact (mp3_honest_iff _ 0 0xb8 0xb9).mp honest rfl

end SmbTemperature

end FbossBsp
