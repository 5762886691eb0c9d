import FbossBsp.FanDriver

/-!
# The limits of the TPS1689 eFuse

The PMBus core reads and writes the limits of the device through `tps1689`, which
converts some of them. The over-voltage limit is a byte of the device and a signed
word of the core; the over-current limit is a reference voltage of the device and a
current of the core, related by a resistor whose value comes from the device tree.

The page and the phase of a transfer are passed on unchanged.
-/

namespace FbossBsp.Tps1689

open Interaction

/-! ## PMBus -/

/-- The registers that the driver names after the PMBus core, and all others by their
command codes. -/
inductive PmbusReg where
  | virtReadVinMax
  | virtReadVinMin
  | virtReadVinAvg
  | virtReadVoutMin
  | virtReadVoutAvg
  | virtReadIinAvg
  | virtReadIinMax
  | virtReadTempAvg
  | virtReadTempMax
  | virtReadPinAvg
  | virtReadPinMax
  | virtReadVmon
  | virtSamples
  | virtResetTempHistory
  | virtResetVinHistory
  | virtResetIinHistory
  | virtResetPinHistory
  | virtResetVoutHistory
  | vinOvFaultLimit
  | iinOcFaultLimit
  | iinOcWarnLimit
  | code (command : Nat)
  deriving DecidableEq

/-- One transfer of the PMBus core. -/
inductive PmbusOp where
  | readWordData (reg : PmbusReg)
  | readByteData (reg : PmbusReg)
  | writeWordData (reg : PmbusReg) (value : BitVec 16)
  | writeByteData (reg : PmbusReg) (value : BitVec 8)
  | updateByteData (reg : PmbusReg) (mask value : BitVec 8)
  deriving DecidableEq

@[reducible] def PmbusOp.Reply : PmbusOp → Type
  | .readWordData _ => Except Errno (BitVec 16)
  | .readByteData _ => Except Errno (BitVec 8)
  | .writeWordData _ _ | .writeByteData _ _ | .updateByteData _ _ _ => Except Errno Unit

abbrev Pmbus := Program PmbusOp PmbusOp.Reply

def pmbusReadWordData (reg : PmbusReg) : Pmbus Int :=
  .perform (.readWordData reg) fun reply => .done (wordResult reply)

def pmbusReadByteData (reg : PmbusReg) : Pmbus Int :=
  .perform (.readByteData reg) fun reply => .done (readResult reply)

def pmbusWriteWordData (reg : PmbusReg) (value : BitVec 16) : Pmbus Int :=
  .perform (.writeWordData reg value) fun reply => .done (writeResult reply)

def pmbusWriteByteData (reg : PmbusReg) (value : BitVec 8) : Pmbus Int :=
  .perform (.writeByteData reg value) fun reply => .done (writeResult reply)

def pmbusUpdateByteData (reg : PmbusReg) (mask value : BitVec 8) : Pmbus Int :=
  .perform (.updateByteData reg mask value) fun reply => .done (writeResult reply)

/-! ## Divisions -/

/-- `DIV_ROUND_CLOSEST` of an `int` by a positive `int`. -/
def divRoundClosest (x divisor : Int) : Int :=
  if 0 < x then (x + divisor / 2).tdiv divisor else (x - divisor / 2).tdiv divisor

/-- `DIV_ROUND_CLOSEST` of an unsigned number below the range of its type. -/
def divRoundClosestNat (x divisor : Nat) : Nat := (x + divisor / 2) / divisor

/-- `DIV_ROUND_CLOSEST_ULL` by a divisor other than zero. -/
def divRoundClosestUll (x divisor : BitVec 64) : BitVec 64 := (x + divisor / 2) / divisor

/-! ## The driver -/

def tpsReadVaux : PmbusReg := .code 0xd0
def tpsReadVinMin : PmbusReg := .code 0xd1
def tpsReadVinPeak : PmbusReg := .code 0xd2
def tpsReadIinPeak : PmbusReg := .code 0xd4
def tpsReadPinPeak : PmbusReg := .code 0xd5
def tpsReadTempAvg : PmbusReg := .code 0xd6
def tpsReadTempPeak : PmbusReg := .code 0xd7
def tpsReadVoutMin : PmbusReg := .code 0xda
def tpsReadVinAvg : PmbusReg := .code 0xdc
def tpsReadVoutAvg : PmbusReg := .code 0xdd
def tpsReadIinAvg : PmbusReg := .code 0xde
def tpsReadPinAvg : PmbusReg := .code 0xdf
def tpsViref : PmbusReg := .code 0xe0
def tpsPkMinAvg : PmbusReg := .code 0xea

/-- `PK_MIN_AVG_RST_MASK`. -/
def pkMinAvgRstMask : BitVec 8 := 0xE0
/-- `PK_MIN_AVG_AVG_CNT`. -/
def pkMinAvgAvgCnt : BitVec 8 := 0x07

def tps1689BoardRimon : BitVec 64 := 17400000000

def tps16898bShift : Nat := 2

def vinOvfNum : Nat := 1000
def vinOvfDiv : Nat := 3984
def vinOvfOffIn : Int := -63750
def vinOvfOffOut : Int := 16000

def virefMinMv : Nat := 300
def virefMaxMv : Nat := 1182
def virefSteps : Nat := 0x3F
def gImonNa : Nat := 18250

/-- The resistor that `tps1689_probe` stores: the device tree's property, or that of
the board. -/
def tps1689Rimon (property : Option (BitVec 64)) : BitVec 64 := property.getD tps1689BoardRimon

section Driver

variable (rimonUohms : BitVec 64)

/-- `tps1689_read_word_data`; it returns nothing where it divides by zero. -/
def tps1689ReadWordData : PmbusReg → Pmbus (Option Int)
  | .virtReadVinMax => some <$> pmbusReadWordData tpsReadVinPeak
  | .virtReadVinMin => some <$> pmbusReadWordData tpsReadVinMin
  | .virtReadVinAvg => some <$> pmbusReadWordData tpsReadVinAvg
  | .virtReadVoutMin => some <$> pmbusReadWordData tpsReadVoutMin
  | .virtReadVoutAvg => some <$> pmbusReadWordData tpsReadVoutAvg
  | .virtReadIinAvg => some <$> pmbusReadWordData tpsReadIinAvg
  | .virtReadIinMax => some <$> pmbusReadWordData tpsReadIinPeak
  | .virtReadTempAvg => some <$> pmbusReadWordData tpsReadTempAvg
  | .virtReadTempMax => some <$> pmbusReadWordData tpsReadTempPeak
  | .virtReadPinAvg => some <$> pmbusReadWordData tpsReadPinAvg
  | .virtReadPinMax => some <$> pmbusReadWordData tpsReadPinPeak
  | .virtReadVmon => some <$> pmbusReadWordData tpsReadVaux
  | .virtSamples => do
    let ret ← pmbusReadByteData tpsPkMinAvg
    if ret < 0 then return some ret
    return some ((1 <<< (BitVec.ofInt 8 ret &&& pkMinAvgAvgCnt).toNat : Nat) : Int)
  | .virtResetTempHistory | .virtResetVinHistory | .virtResetIinHistory | .virtResetPinHistory
  | .virtResetVoutHistory => return some 0
  | .vinOvFaultLimit => do
    let ret ← pmbusReadWordData .vinOvFaultLimit
    if ret < 0 then return some ret
    let ret := ret * vinOvfNum + vinOvfOffIn
    return some (divRoundClosest ret vinOvfDiv)
  | .iinOcFaultLimit => do
    if rimonUohms = 0 then return some (-eopnotsupp)
    let ret ← pmbusReadByteData tpsViref
    if ret < 0 then return some ret
    let vrefMv : BitVec 64 := BitVec.ofInt 64 ret * BitVec.ofNat 64 (virefMaxMv - virefMinMv)
    let vrefMv := divRoundClosestUll vrefMv (BitVec.ofNat 64 virefSteps) + BitVec.ofNat 64 virefMinMv
    let divisor := BitVec.ofNat 64 gImonNa * rimonUohms
    if divisor = 0 then return none
    return some (toInt (divRoundClosestUll (vrefMv * 1000000000) divisor))
  | .iinOcWarnLimit => do
    let ret ← pmbusReadWordData .iinOcWarnLimit
    if ret < 0 then return some ret
    return some (ret <<< tps16898bShift)
  | .code command => some <$> pmbusReadWordData (.code command)

/-- `tps1689_write_word_data`. -/
def tps1689WriteWordData (reg : PmbusReg) (value : BitVec 16) : Pmbus Int :=
  match reg with
  | .virtSamples =>
    let value := max 1 (min value.toNat (1 <<< pkMinAvgAvgCnt.toNat))
    let value := Nat.log2 value
    pmbusUpdateByteData tpsPkMinAvg pkMinAvgAvgCnt (BitVec.ofNat 8 value &&& pkMinAvgAvgCnt)
  | .virtResetTempHistory | .virtResetVinHistory | .virtResetIinHistory | .virtResetPinHistory
  | .virtResetVoutHistory => pmbusUpdateByteData tpsPkMinAvg pkMinAvgRstMask pkMinAvgRstMask
  | .vinOvFaultLimit =>
    let value := BitVec.ofInt 16 (value.toInt * vinOvfDiv - vinOvfOffOut)
    let value := BitVec.ofNat 16 (divRoundClosestNat value.toNat vinOvfNum)
    let value := BitVec.ofNat 16 (min value.toNat 0xff)
    pmbusWriteWordData .vinOvFaultLimit value
  | .iinOcFaultLimit =>
    if rimonUohms = 0 then return -eopnotsupp
    else
      let vrefMv := value.setWidth 64 * BitVec.ofNat 64 gImonNa * rimonUohms
      let vrefMv := divRoundClosestUll vrefMv 1000000000
      if vrefMv < BitVec.ofNat 64 virefMinMv ∨ vrefMv > BitVec.ofNat 64 virefMaxMv then
        return -einval
      else
        let rawVref : BitVec 32 := (vrefMv - BitVec.ofNat 64 virefMinMv).setWidth 32
        let rawVref := divRoundClosestNat (rawVref * BitVec.ofNat 32 virefSteps).toNat
          (virefMaxMv - virefMinMv)
        pmbusWriteByteData tpsViref (BitVec.ofNat 8 (min rawVref 0x3f))
  | .iinOcWarnLimit =>
    let value := value >>> tps16898bShift
    let value := BitVec.ofNat 16 (min value.toNat 0xff)
    pmbusWriteWordData .iinOcWarnLimit value
  | reg => pmbusWriteWordData reg value

end Driver

/-! ## The device -/

/-- The registers of the device by their widths. -/
structure Registers where
  words : PmbusReg → BitVec 16
  bytes : PmbusReg → BitVec 8

/-- A device whose transfers succeed. -/
def tps1689 : Device PmbusOp PmbusOp.Reply Registers
  | .readWordData reg, s => (.ok (s.words reg), s)
  | .readByteData reg, s => (.ok (s.bytes reg), s)
  | .writeWordData reg value, s => (.ok (), { s with words := Function.update s.words reg value })
  | .writeByteData reg value, s => (.ok (), { s with bytes := Function.update s.bytes reg value })
  | .updateByteData reg mask value, s => (.ok (), {
      words := s.words
      bytes := Function.update s.bytes reg ((s.bytes reg &&& ~~~mask) ||| (value &&& mask)) })

/-! ## The over-voltage limit -/

section VinOv

variable (rimonUohms : BitVec 64) (s : Registers)

/-- What reading the limit returns. -/
def readVinOv : Option Int :=
  (tps1689ReadWordData rimonUohms .vinOvFaultLimit).result tps1689 s

/-- The device after the limit was written. -/
def writeVinOv (value : BitVec 16) : Registers :=
  (tps1689WriteWordData rimonUohms .vinOvFaultLimit value).final tps1689 s

/-- The code that is stored for a value. -/
def vinOvCode (value : BitVec 16) : BitVec 16 := (writeVinOv rimonUohms s value).words .vinOvFaultLimit

/-- The product that the write path keeps in 16 bits. -/
def vinOvProduct (value : Int) : Int := value * vinOvfDiv - vinOvfOffOut

/-- The stored code does not decrease between two values. -/
def NonDecreasing (low high : BitVec 16) : Prop :=
  ∀ first second : BitVec 16, low.toInt ≤ first.toInt → first.toInt ≤ second.toInt →
    second.toInt ≤ high.toInt → vinOvCode rimonUohms s first ≤ vinOvCode rimonUohms s second

/-- The products of two values lie in the same block of 2^16 numbers. -/
def SameBlock (low high : BitVec 16) : Prop :=
  vinOvProduct low.toInt / 2 ^ 16 = vinOvProduct high.toInt / 2 ^ 16

/-- The device with a code in the register of the limit. -/
def holdingCode (code : BitVec 8) : Registers :=
  { s with words := Function.update s.words .vinOvFaultLimit (code.setWidth 16) }

/-- What is read for a code is read again after it was written. -/
def VinOvRoundTrips (code : BitVec 8) : Prop :=
  ∃ value, readVinOv rimonUohms (holdingCode s code) = some value ∧
    readVinOv rimonUohms (writeVinOv rimonUohms (holdingCode s code) (BitVec.ofInt 16 value)) =
      some value

/-- The value that is read for a code. -/
def vinOvValue (code : Nat) : Int := divRoundClosest (code * vinOvfNum + vinOvfOffIn) vinOvfDiv

/-- Reading the limit converts the word that the device holds. -/
theorem read_vin_ov_eq :
    readVinOv rimonUohms s = some (vinOvValue (s.words .vinOvFaultLimit).toNat) := by
  have word : ¬((s.words .vinOvFaultLimit).toNat : Int) < 0 := by omega
  have run : readVinOv rimonUohms s =
      (if ((s.words .vinOvFaultLimit).toNat : Int) < 0 then
        Program.done (some ((s.words .vinOvFaultLimit).toNat : Int))
      else Program.done (some (vinOvValue (s.words .vinOvFaultLimit).toNat)) :
        Pmbus (Option Int)).result tps1689 s := rfl
  rw [run, if_neg word]
  rfl

/-- The code is the product, cut to 16 bits and rounded; the clamp never acts. -/
theorem vin_ov_code_eq (value : BitVec 16) :
    (vinOvCode rimonUohms s value).toNat =
      ((vinOvProduct value.toInt % 2 ^ 16).toNat + 500) / 1000 := by
  have stored : vinOvCode rimonUohms s value = BitVec.ofNat 16 (min (BitVec.ofNat 16
      (divRoundClosestNat (BitVec.ofInt 16 (vinOvProduct value.toInt)).toNat vinOvfNum)).toNat 0xff) :=
    Function.update_self PmbusReg.vinOvFaultLimit _ s.words
  have narrow := Int.emod_lt_of_pos (vinOvProduct value.toInt) (by decide : (0 : Int) < 2 ^ 16)
  rw [stored, BitVec.toNat_ofNat, BitVec.toNat_ofNat, BitVec.toNat_ofInt, divRoundClosestNat, vinOvfNum]
  omega

/-- Between two products of different blocks there is a step that changes the block.

Proof: induction on the distance; where no step changes it, the block stays. -/
theorem block_step {low high : Int} (ordered : low ≤ high)
    (apart : vinOvProduct low / 2 ^ 16 ≠ vinOvProduct high / 2 ^ 16) :
    ∃ value, low ≤ value ∧ value < high ∧
      vinOvProduct value / 2 ^ 16 ≠ vinOvProduct (value + 1) / 2 ^ 16 := by
  induction high, ordered using Int.leInduction with
  | base => exact absurd rfl apart
  | succ high ordered inductionHypothesis =>
    by_cases same : vinOvProduct low / 2 ^ 16 = vinOvProduct high / 2 ^ 16
    · exact ⟨high, ordered, by omega, fun still => apart (same.trans still)⟩
    · obtain ⟨value, lower, upper, changes⟩ := inductionHypothesis same
      exact ⟨value, lower, by omega, changes⟩

/-- The code does not decrease exactly as long as the product stays in its block. -/
theorem non_decreasing_iff (low high : BitVec 16) (ordered : low.toInt ≤ high.toInt) :
    NonDecreasing rimonUohms s low high ↔ SameBlock low high := by
  have narrow (value : BitVec 16) : -2 ^ 15 ≤ value.toInt ∧ value.toInt < 2 ^ 15 :=
    ⟨BitVec.le_toInt value, BitVec.toInt_lt⟩
  constructor
  · intro nonDecreasing
    by_contra apart
    obtain ⟨value, lower, upper, changes⟩ := block_step ordered apart
    have inside := narrow low
    have bounded := narrow high
    have first : (BitVec.ofInt 16 value).toInt = value :=
      BitVec.toInt_ofInt_eq_self (by decide) (by omega) (by omega)
    have second : (BitVec.ofInt 16 (value + 1)).toInt = value + 1 :=
      BitVec.toInt_ofInt_eq_self (by decide) (by omega) (by omega)
    have codes := BitVec.le_def.mp (nonDecreasing (BitVec.ofInt 16 value)
      (BitVec.ofInt 16 (value + 1)) (by omega) (by omega) (by omega))
    -- the product goes from the top of one block to the bottom of the next
    rw [vin_ov_code_eq, vin_ov_code_eq, first, second] at codes
    simp only [vinOvProduct, vinOvfDiv, vinOvfOffOut] at changes codes
    omega
  · intro same first second lower between upper
    have grows {value next : Int} (ordered : value ≤ next) : vinOvProduct value ≤ vinOvProduct next := by
      simp only [vinOvProduct, vinOvfDiv]
      omega
    have blocks {value next : Int} (ordered : value ≤ next) :
        vinOvProduct value / 2 ^ 16 ≤ vinOvProduct next / 2 ^ 16 :=
      Int.ediv_le_ediv (by decide) (grows ordered)
    have together : vinOvProduct first.toInt / 2 ^ 16 = vinOvProduct second.toInt / 2 ^ 16 :=
      le_antisymm (blocks between) ((blocks upper).trans (same.symm.le.trans (blocks lower)))
    have rest : vinOvProduct first.toInt % 2 ^ 16 ≤ vinOvProduct second.toInt % 2 ^ 16 := by
      rw [Int.emod_def, Int.emod_def, together]
      exact Int.sub_le_sub_right (grows between) _
    rw [BitVec.le_def, vin_ov_code_eq, vin_ov_code_eq]
    exact Nat.div_le_div_right (by omega)

/-- The device's own values are all lost in a round trip. -/
theorem vin_ov_values_lost : ∀ code < 256,
    vinOvValue (((vinOvProduct (BitVec.ofInt 16 (vinOvValue code)).toInt % 2 ^ 16).toNat + 500)
      / 1000) ≠ vinOvValue code := by
  decide +kernel

end VinOv

/-- For every content of the device and every resistor: a stored code is at most 255;
between any two values it does not decrease exactly if their products lie in the same
block of 2^16 numbers; and no code of the device survives a round trip. -/
theorem vin_ov_limit_drifts (rimonUohms : BitVec 64) (s : Registers) :
    (∀ value, vinOvCode rimonUohms s value ≤ 255) ∧
      (∀ low high : BitVec 16, low.toInt ≤ high.toInt →
        (NonDecreasing rimonUohms s low high ↔ SameBlock low high)) ∧
      ∀ code, ¬VinOvRoundTrips rimonUohms s code := by
  refine ⟨fun value => ?_, fun low high => non_decreasing_iff rimonUohms s low high, ?_⟩
  · rw [BitVec.le_def, vin_ov_code_eq]
    have narrow := Int.emod_lt_of_pos (vinOvProduct value.toInt) (by decide : (0 : Int) < 2 ^ 16)
    change _ ≤ 255
    omega
  · rintro code ⟨value, shown, again⟩
    have held : ((holdingCode s code).words .vinOvFaultLimit).toNat = code.toNat := by
      have word : (holdingCode s code).words .vinOvFaultLimit = code.setWidth 16 :=
        Function.update_self PmbusReg.vinOvFaultLimit _ s.words
      rw [word, BitVec.toNat_setWidth_of_le (by decide)]
    rw [read_vin_ov_eq, held, Option.some.injEq] at shown
    rw [read_vin_ov_eq, ← vinOvCode, vin_ov_code_eq, ← shown, Option.some.injEq] at again
    exact vin_ov_values_lost code.toNat code.isLt again

/-- From 5 to 20 the stored code does not decrease. -/
theorem vin_ov_limit_5_20 :
    NonDecreasing tps1689BoardRimon ⟨fun _ => 0, fun _ => 0⟩ 5 20 ↔ SameBlock 5 20 :=
  (vin_ov_limit_drifts tps1689BoardRimon ⟨fun _ => 0, fun _ => 0⟩).2.1 5 20 (by decide)

/-- The value 21 is stored as a smaller code than 20, and the value 48 of the largest
code is read as -5 after it was written. -/
theorem vin_ov_limit_lost :
    ¬vinOvCode tps1689BoardRimon ⟨fun _ => 0, fun _ => 0⟩ 20 ≤
        vinOvCode tps1689BoardRimon ⟨fun _ => 0, fun _ => 0⟩ 21 ∧
      ¬VinOvRoundTrips tps1689BoardRimon ⟨fun _ => 0, fun _ => 0⟩ 255 := by
  refine ⟨by decide, ?_⟩
  rintro ⟨value, shown, again⟩
  have read : readVinOv tps1689BoardRimon (holdingCode ⟨fun _ => 0, fun _ => 0⟩ 255) = some 48 := by
    decide
  cases read.symm.trans shown
  exact absurd again (by decide)

/-! ## The over-current limit -/

section IinOc

variable (rimonUohms : BitVec 64) (s : Registers)

/-- What reading the limit returns. -/
def readIinOc : Option Int :=
  (tps1689ReadWordData rimonUohms .iinOcFaultLimit).result tps1689 s

/-- The result of writing the limit, and the device afterwards. -/
def writeIinOc (value : BitVec 16) : Int × Registers :=
  ((tps1689WriteWordData rimonUohms .iinOcFaultLimit value).result tps1689 s,
    (tps1689WriteWordData rimonUohms .iinOcFaultLimit value).final tps1689 s)

/-- The reference voltage of a code, in millivolts. -/
def vrefMv (code : Nat) : Nat :=
  virefMinMv + divRoundClosestNat (code * (virefMaxMv - virefMinMv)) virefSteps

/-- The voltage of a current of one milliampere, in units of 10^-15 millivolts. -/
def imonGain : Nat := gImonNa * rimonUohms.toNat

/-- The current of a code, to the nearest milliampere. -/
def limitMa (code : Nat) : Nat := divRoundClosestNat (vrefMv code * 10 ^ 15) (imonGain rimonUohms)

/-- The exact reference voltage of a current is one the device has. -/
def InWindow (value : BitVec 16) : Prop :=
  virefMinMv * 10 ^ 15 ≤ value.toNat * imonGain rimonUohms ∧
    value.toNat * imonGain rimonUohms ≤ virefMaxMv * 10 ^ 15

/-- How far the voltage of a code is from that of a current. -/
def codeDistance (value : BitVec 16) (code : Nat) : Nat :=
  ((vrefMv code * 10 ^ 15 : Nat) - (value.toNat * imonGain rimonUohms : Nat) : Int).natAbs

/-- The write succeeds and stores the nearest code, and the limit reads as the current
that was written, up to one step of the code. -/
structure LimitStored (value : BitVec 16) : Prop where
  accepted : (writeIinOc rimonUohms s value).1 = 0
  small : ((writeIinOc rimonUohms s value).2.bytes tpsViref).toNat ≤ virefSteps
  nearest : ∀ code ≤ virefSteps,
    codeDistance rimonUohms value ((writeIinOc rimonUohms s value).2.bytes tpsViref).toNat ≤
      codeDistance rimonUohms value code
  readBack : ∃ limit, readIinOc rimonUohms (writeIinOc rimonUohms s value).2 = some limit ∧
    (limit - value.toNat).natAbs * imonGain rimonUohms ≤ (vrefMv 1 - vrefMv 0) * 10 ^ 15

/-- The limit in the units of its comments: reading does not divide by zero or wrap, and
gives the current of the code where that fits 16 bits; a current in the range of the
device is stored. -/
structure LimitExact (value : BitVec 16) : Prop where
  divides : readIinOc rimonUohms s ≠ none
  noWrap : imonGain rimonUohms < 2 ^ 64 ∧ vrefMv (s.bytes tpsViref).toNat * 10 ^ 9 < 2 ^ 64
  reads : limitMa rimonUohms (s.bytes tpsViref).toNat < 2 ^ 16 →
    readIinOc rimonUohms s = some (limitMa rimonUohms (s.bytes tpsViref).toNat : Int)
  writes : InWindow rimonUohms value → LimitStored rimonUohms s value

/-- The gain fits 64 bits, the current of the code is 65535.5 milliamperes at least or
less than half a milliampere, and that of the value is out of range. -/
def LimitFits (value : BitVec 16) : Prop :=
  imonGain rimonUohms < 2 ^ 64 ∧
    (131071 * imonGain rimonUohms ≤ 2 * (vrefMv (s.bytes tpsViref).toNat * 10 ^ 15) ∨
      2 * (vrefMv (s.bytes tpsViref).toNat * 10 ^ 15) < imonGain rimonUohms) ∧
    ¬InWindow rimonUohms value

/-- The voltages of the codes. -/
theorem vref_bounds {code : Nat} (small : code < 64) : 300 ≤ vrefMv code ∧ vrefMv code ≤ 1182 := by
  simp only [vrefMv, divRoundClosestNat, virefMinMv, virefMaxMv, virefSteps]
  omega

/-- The voltage is computed without wrapping. -/
theorem vref_word : ∀ code : BitVec 8, code.toNat < 64 →
    divRoundClosestUll (BitVec.ofInt 64 code.toNat * BitVec.ofNat 64 (virefMaxMv - virefMinMv))
      (BitVec.ofNat 64 virefSteps) + BitVec.ofNat 64 virefMinMv =
        BitVec.ofNat 64 (vrefMv code.toNat) := by
  decide +kernel

variable {rimonUohms}

/-- With a resistor the gain is positive. -/
theorem gain_positive (present : rimonUohms ≠ 0) : 0 < imonGain rimonUohms := by
  have positive : rimonUohms.toNat ≠ 0 := fun zero => present (BitVec.eq_of_toNat_eq zero)
  simp only [imonGain, gImonNa]
  omega

/-- The current of a code fits 16 bits below 65535.5 milliamperes. -/
theorem limit_small_iff (present : rimonUohms ≠ 0) (code : Nat) :
    limitMa rimonUohms code < 2 ^ 16 ↔
      ¬131071 * imonGain rimonUohms ≤ 2 * (vrefMv code * 10 ^ 15) := by
  rw [limitMa, divRoundClosestNat, Nat.div_lt_iff_lt_mul (gain_positive present)]
  simp only [imonGain, gImonNa]
  omega

/-- The current of a code is rounded to zero below half a milliampere. -/
theorem limit_zero_iff (present : rimonUohms ≠ 0) (code : Nat) :
    limitMa rimonUohms code = 0 ↔ 2 * (vrefMv code * 10 ^ 15) < imonGain rimonUohms := by
  rw [limitMa, divRoundClosestNat, Nat.div_eq_zero_iff_lt (gain_positive present)]
  simp only [imonGain, gImonNa]
  omega

/-- A gain that fits is the divisor. -/
theorem divisor_value (noWrap : imonGain rimonUohms < 2 ^ 64) :
    (BitVec.ofNat 64 gImonNa * rimonUohms).toNat = imonGain rimonUohms := by
  rw [BitVec.toNat_mul, BitVec.toNat_ofNat]
  exact Nat.mod_eq_of_lt noWrap

/-- With a resistor whose gain does not wrap, the divisor is not zero. -/
theorem divisor_nonzero (present : rimonUohms ≠ 0) (noWrap : imonGain rimonUohms < 2 ^ 64) :
    BitVec.ofNat 64 gImonNa * rimonUohms ≠ 0 := by
  intro zero
  have gain := divisor_value noWrap
  rw [zero] at gain
  exact (gain_positive present).ne gain

section Read

variable {s} (present : rimonUohms ≠ 0) (small : (s.bytes tpsViref).toNat < 64)

include present small

/-- Reading divides by the product as it is in 64 bits. -/
theorem read_iin_oc_eq :
    readIinOc rimonUohms s =
      if BitVec.ofNat 64 gImonNa * rimonUohms = 0 then none
      else some (toInt (divRoundClosestUll
        (BitVec.ofNat 64 (vrefMv (s.bytes tpsViref).toNat) * 1000000000)
        (BitVec.ofNat 64 gImonNa * rimonUohms))) := by
  have byte : ¬((s.bytes tpsViref).toNat : Int) < 0 := by omega
  have started : tps1689ReadWordData rimonUohms .iinOcFaultLimit =
      pmbusReadByteData tpsViref >>= fun ret => _ := if_neg present
  have run : readIinOc rimonUohms s =
      (if ((s.bytes tpsViref).toNat : Int) < 0 then
        .done (some ((s.bytes tpsViref).toNat : Int))
      else if BitVec.ofNat 64 gImonNa * rimonUohms = 0 then .done none
      else .done (some (toInt (divRoundClosestUll
        ((divRoundClosestUll (BitVec.ofInt 64 (s.bytes tpsViref).toNat *
          BitVec.ofNat 64 (virefMaxMv - virefMinMv)) (BitVec.ofNat 64 virefSteps) +
            BitVec.ofNat 64 virefMinMv) * 1000000000)
        (BitVec.ofNat 64 gImonNa * rimonUohms)))) : Pmbus (Option Int)).result tps1689 s := by
    rw [readIinOc, started]
    rfl
  rw [run, if_neg byte, vref_word _ small]
  split <;> rfl

/-- A current that fits 16 bits is read as zero. -/
theorem read_iin_oc_zero (noWrap : imonGain rimonUohms < 2 ^ 64)
    (fits : limitMa rimonUohms (s.bytes tpsViref).toNat < 2 ^ 16) :
    readIinOc rimonUohms s = some 0 := by
  have positive := gain_positive present
  have below := (limit_small_iff present _).mp fits
  obtain ⟨_, bounded⟩ := vref_bounds small
  have quotient : divRoundClosestUll
      (BitVec.ofNat 64 (vrefMv (s.bytes tpsViref).toNat) * 1000000000)
      (BitVec.ofNat 64 gImonNa * rimonUohms) = 0 := by
    have product : (BitVec.ofNat 64 (vrefMv (s.bytes tpsViref).toNat) * 1000000000).toNat =
        vrefMv (s.bytes tpsViref).toNat * 1000000000 := by
      rw [BitVec.toNat_mul, BitVec.toNat_ofNat]
      change _ % 2 ^ 64 * 1000000000 % 2 ^ 64 = _
      omega
    apply BitVec.eq_of_toNat_eq
    rw [divRoundClosestUll, BitVec.toNat_udiv, BitVec.toNat_add, BitVec.toNat_udiv,
      divisor_value noWrap, product]
    have slight : vrefMv (s.bytes tpsViref).toNat * 1000000000 * 8 ≤ imonGain rimonUohms := by omega
    have half : vrefMv (s.bytes tpsViref).toNat * 1000000000 + imonGain rimonUohms / 2 <
        imonGain rimonUohms := by omega
    exact Nat.div_eq_of_lt (Nat.lt_of_le_of_lt (Nat.mod_le _ _) half)
  rw [read_iin_oc_eq present small, if_neg (divisor_nonzero present noWrap), quotient]
  rfl

end Read

/-- A current in the range of the device is refused. -/
theorem write_iin_oc_refused (s : Registers) (value : BitVec 16) (present : rimonUohms ≠ 0)
    (inside : InWindow rimonUohms value) : (writeIinOc rimonUohms s value).1 = -einval := by
  obtain ⟨lower, upper⟩ := inside
  simp only [virefMinMv, virefMaxMv] at lower upper
  have product : (value.setWidth 64 * BitVec.ofNat 64 gImonNa * rimonUohms).toNat =
      value.toNat * imonGain rimonUohms := by
    have wide : value.toNat * imonGain rimonUohms < 2 ^ 64 := by omega
    have narrow := value.isLt
    have first : (value.setWidth 64 * BitVec.ofNat 64 gImonNa).toNat = value.toNat * gImonNa := by
      rw [BitVec.toNat_mul, BitVec.toNat_setWidth_of_le (by decide), BitVec.toNat_ofNat]
      simp only [gImonNa]
      omega
    rw [BitVec.toNat_mul, first, Nat.mul_assoc]
    exact Nat.mod_eq_of_lt wide
  have large : divRoundClosestUll (value.setWidth 64 * BitVec.ofNat 64 gImonNa * rimonUohms)
      1000000000 > BitVec.ofNat 64 virefMaxMv := by
    rw [divRoundClosestUll, gt_iff_lt, BitVec.lt_def, BitVec.toNat_udiv, BitVec.toNat_add, product]
    change 1182 < (value.toNat * imonGain rimonUohms + 500000000) % 2 ^ 64 / 1000000000
    omega
  have run : tps1689WriteWordData rimonUohms .iinOcFaultLimit value = .done (-einval) :=
    (if_neg present).trans (if_pos (Or.inr large))
  rw [writeIinOc, run]
  rfl

end IinOc

/-- For every resistor other than zero, every code of the device and every value: the
limit is exact only where the product fits 64 bits, the current of the code does not
fit 16 bits or is rounded to zero, and the value is out of the device's range. -/
theorem limit_exact_iff (rimonUohms : BitVec 64) (present : rimonUohms ≠ 0) (s : Registers)
    (small : (s.bytes tpsViref).toNat < 64) (value : BitVec 16) :
    LimitExact rimonUohms s value ↔ LimitFits rimonUohms s value := by
  obtain ⟨_, bounded⟩ := vref_bounds small
  constructor
  · rintro ⟨_, ⟨noWrap, _⟩, reads, writes⟩
    refine ⟨noWrap, ?_, fun inside => ?_⟩
    · by_cases fits : limitMa rimonUohms (s.bytes tpsViref).toNat < 2 ^ 16
      · have zero := (read_iin_oc_zero present small noWrap fits).symm.trans (reads fits)
        have none : limitMa rimonUohms (s.bytes tpsViref).toNat = 0 := by
          simp only [Option.some.injEq] at zero
          omega
        exact Or.inr ((limit_zero_iff present _).mp none)
      · exact Or.inl (not_not.mp (mt (limit_small_iff present _).mpr fits))
    · have refused := write_iin_oc_refused s value present inside
      rw [(writes inside).accepted] at refused
      exact absurd refused (by decide)
  · rintro ⟨noWrap, current, outside⟩
    refine ⟨?_, ⟨noWrap, by omega⟩, fun fits => ?_, fun inside => absurd inside outside⟩
    · rw [read_iin_oc_eq present small, if_neg (divisor_nonzero present noWrap)]
      exact Option.some_ne_none _
    · have below := (limit_small_iff present _).mp fits
      have none := (limit_zero_iff present _).mpr (current.resolve_left below)
      rw [read_iin_oc_zero present small noWrap fits, none]
      rfl

/-- A resistor of 1 ohm, for which every current is too large for 16 bits. -/
theorem limit_exact_ohm :
    LimitExact 1000000 ⟨fun _ => 0, fun _ => 0⟩ 1000 ↔
      LimitFits 1000000 ⟨fun _ => 0, fun _ => 0⟩ 1000 :=
  limit_exact_iff 1000000 (by decide) ⟨fun _ => 0, fun _ => 0⟩ (by decide) 1000

/-- With the resistor of the board and a division of 64 bits, the largest code reads as
no current at all instead of 3722 milliamperes, and 3000 milliamperes are refused. -/
theorem limit_scaled_wrong :
    limitMa (tps1689Rimon none) 63 = 3722 ∧
      readIinOc (tps1689Rimon none) ⟨fun _ => 0, fun _ => 63⟩ = some 0 ∧
      InWindow (tps1689Rimon none) 3000 ∧
      (writeIinOc (tps1689Rimon none) ⟨fun _ => 0, fun _ => 63⟩ 3000).1 = -einval ∧
      ¬LimitExact (tps1689Rimon none) ⟨fun _ => 0, fun _ => 63⟩ 3000 := by
  have window : InWindow (tps1689Rimon none) 3000 := by
    constructor <;> decide
  have refused : (writeIinOc (tps1689Rimon none) ⟨fun _ => 0, fun _ => 63⟩ 3000).1 = -einval := by
    decide
  refine ⟨by decide, by decide, window, refused, fun exact => ?_⟩
  rw [(exact.writes window).accepted] at refused
  exact absurd refused (by decide)

end FbossBsp.Tps1689
