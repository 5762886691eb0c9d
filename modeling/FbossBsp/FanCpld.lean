import FbossBsp.FanDriver
import Mathlib.Data.List.ReduceOption

/-!
# The generic fan CPLD driver

`fbfancpld` drives the fan CPLD of any platform: the number of fans, the PWM
range, the speed multiplier and the tach topology come from a configuration that
user space supplies once. The channel tables have room for eight fans and end
with a zero entry.

The LEDs, and the registration of the interfaces with the kernel, are not part
of this module.
-/

namespace FbossBsp.Fbfancpld

open Interaction

/-! ## Registers -/

def maxFans : Nat := 8

def regFanTachF (fn : Int) : Int := 0x30 + (fn - 1) * 0x10
def regFanTachR (fn : Int) : Int := 0x31 + (fn - 1) * 0x10
def regFanPwm (fn : Int) : Int := 0x32 + (fn - 1) * 0x10
def regFanStatus (fn : Int) : Int := 0x38 + (fn - 1) * 0x10

def fanModeBitOffset : Nat := 7
def fanModeMask : BitVec 64 := 1#64 <<< 7
def fanPresentMask : BitVec 32 := 0x01

def wdtCtrl0 : Int := 0x1F
def wdtEnable : BitVec 64 := 1#64 <<< 4
def wdtPet : BitVec 64 := 1#64 <<< 5
def wdtCtrl1 : Int := 0x20
def wdtTimeoutMax : BitVec 32 := 0xFF * 5
def wdtStaReg : Int := 0x21
def wdtPwmReg : Int := 0x22
def wdtDftTimeout : Int := 0x3F * 5

/-! ## Configuration -/

/-- `struct fbfancpld_ioctl_config`. -/
structure IoctlConfig where
  numFans : BitVec 32
  pwmMax : BitVec 32
  speedMultiplier : BitVec 32
  hasRearTach : BitVec 32
  hasLeds : BitVec 32
  deriving DecidableEq

/-- `struct fbfancpld_config`. -/
structure Config where
  numFans : Int
  pwmMax : Int
  speedMultiplier : Int
  hasRearTach : Bool
  hasLeds : Bool

/-- The fields of `struct fbfancpld_data` that the interfaces read. -/
structure Data where
  config : Config
  fanConfig : List (List HwmonAttr)
  pwmConfig : List (List HwmonAttr)
  presentPtrs : List (Option Int)

/-- The zeroed data of a probed device. -/
def Data.probed : Data where
  config := ⟨0, 0, 0, false, false⟩
  fanConfig := List.replicate (maxFans * 2 + 1) []
  pwmConfig := List.replicate (maxFans + 1) []
  presentPtrs := List.replicate (maxFans + 1) none

/-- `fbfancpld_validate_config`. -/
def fbfancpldValidateConfig (ucfg : IoctlConfig) : Int :=
  if ucfg.numFans = 0 ∨ ucfg.numFans > BitVec.ofNat 32 maxFans then -einval
  else if ucfg.pwmMax = 0 ∨ ucfg.pwmMax > 255 then -einval
  else if ucfg.speedMultiplier = 0 then -einval
  else 0

/-- The configuration that `fbfancpld_ioctl_configure` stores; its first three
fields are of type `int`. -/
def storedConfig (ucfg : IoctlConfig) : Config where
  numFans := ucfg.numFans.toInt
  pwmMax := ucfg.pwmMax.toInt
  speedMultiplier := ucfg.speedMultiplier.toInt
  hasRearTach := ucfg.hasRearTach ≠ 0
  hasLeds := ucfg.hasLeds ≠ 0

/-- `for (i = 0; i < count; i++) table[i] = entry(i)`. -/
def fillTable {α : Type} (table : List α) (count : Int) (entry : Nat → α) : List α :=
  (List.range count.toNat).foldl (fun table i => table.set i (entry i)) table

/-- The tables that `fbfancpld_apply_config` builds. The attribute at place `i`
of the present files is that of fan `i + 1`. -/
def buildTables (data : Data) : Data :=
  let cfg := data.config
  let numTach := if cfg.hasRearTach then cfg.numFans * 2 else cfg.numFans
  { data with
    fanConfig := fillTable data.fanConfig numTach fun _ => fanChannelAttrs
    pwmConfig := fillTable data.pwmConfig cfg.numFans fun _ => pwmChannelAttrs
    presentPtrs := fillTable data.presentPtrs cfg.numFans fun i => some (i + 1) }

/-- The data of a device after its first configuration. -/
def configured (ucfg : IoctlConfig) : Data :=
  buildTables { Data.probed with config := storedConfig ucfg }

/-! ## hwmon -/

/-- `fbfancpld_is_visible`. -/
def fbfancpldIsVisible (type : HwmonSensorType) (attr : HwmonAttr) (_channel : Nat) : Nat :=
  match type with
  | .fan => if attr = .fanInput then 0o444 else 0
  | .pwm => if attr = .pwmInput ∨ attr = .pwmEnable then 0o644 else 0
  | .other => 0

section Hwmon

variable (data : Data)

/-- `fbfancpld_fan_input_read`. -/
def fbfancpldFanInputRead (channel : Nat) : Smbus (Except Int Int) := do
  let regAddr : Int :=
    if data.config.hasRearTach then
      let fn : Int := channel / 2 + 1
      if channel % 2 ≠ 0 then regFanTachR fn else regFanTachF fn
    else
      let fn : Int := channel + 1
      regFanTachF fn
  let regData ← i2cSmbusReadByteData regAddr
  if regData < 0 then return .error regData
  return .ok (wrapLong (regData * data.config.speedMultiplier))

/-- `fbfancpld_fan_read`. -/
def fbfancpldFanRead (attr : HwmonAttr) (channel : Nat) : Smbus (Except Int Int) :=
  match attr with
  | .fanInput => fbfancpldFanInputRead data channel
  | _ => return .error (-eopnotsupp)

/-- `fbfancpld_pwm_input_read`. -/
def fbfancpldPwmInputRead (channel : Nat) : Smbus (Except Int Int) := do
  let fn : Int := channel + 1
  let regData ← i2cSmbusReadByteData (regFanPwm fn)
  if regData < 0 then return .error regData
  return .ok (if regData > data.config.pwmMax then data.config.pwmMax else regData)

/-- `fbfancpld_pwm_enable_read`. -/
def fbfancpldPwmEnableRead (channel : Nat) : Smbus (Except Int Int) := do
  let fn : Int := channel + 1
  let regData ← i2cSmbusReadByteData (regFanPwm fn)
  if regData < 0 then return .error regData
  return .ok (if toUnsignedLong regData &&& fanModeMask ≠ 0 then 0 else 1)

/-- `fbfancpld_pwm_read`. -/
def fbfancpldPwmRead (attr : HwmonAttr) (channel : Nat) : Smbus (Except Int Int) :=
  match attr with
  | .pwmInput => fbfancpldPwmInputRead data channel
  | .pwmEnable => fbfancpldPwmEnableRead channel
  | _ => return .error (-eopnotsupp)

/-- `fbfancpld_pwm_input_write`. -/
def fbfancpldPwmInputWrite (channel : Nat) (val : Int) : Smbus Int := do
  if val < 0 then return -einval
  let targetPwm := if val > data.config.pwmMax then data.config.pwmMax else val
  let fn : Int := channel + 1
  let regAddr := regFanPwm fn
  let regData ← i2cSmbusReadByteData regAddr
  if regData < 0 then return regData
  let byteVal := toInt ((toUnsignedLong regData &&& fanModeMask) ||| toUnsignedLong targetPwm)
  i2cSmbusWriteByteData regAddr byteVal

/-- `fbfancpld_pwm_enable_write`; the mode bit that is already set stays set. -/
def fbfancpldPwmEnableWrite (channel : Nat) (val : Int) : Smbus Int := do
  if val ≠ 0 ∧ val ≠ 1 then return -einval
  let fn : Int := channel + 1
  let regAddr := regFanPwm fn
  let regData ← i2cSmbusReadByteData regAddr
  if regData < 0 then return regData
  let byteVal := toInt ((toUnsignedLong val <<< fanModeBitOffset) ||| toUnsignedLong regData)
  i2cSmbusWriteByteData regAddr byteVal

/-- `fbfancpld_pwm_write`. -/
def fbfancpldPwmWrite (attr : HwmonAttr) (channel : Nat) (val : Int) : Smbus Int :=
  match attr with
  | .pwmInput => fbfancpldPwmInputWrite data channel val
  | .pwmEnable => fbfancpldPwmEnableWrite channel val
  | _ => return -eopnotsupp

/-- `fbfancpld_read`. -/
def fbfancpldRead (type : HwmonSensorType) (attr : HwmonAttr) (channel : Nat) :
    Smbus (Except Int Int) :=
  match type with
  | .fan => fbfancpldFanRead data attr channel
  | .pwm => fbfancpldPwmRead data attr channel
  | .other => return .error (-eopnotsupp)

/-- `fbfancpld_write`. -/
def fbfancpldWrite (type : HwmonSensorType) (attr : HwmonAttr) (channel : Nat) (val : Int) :
    Smbus Int :=
  match type with
  | .pwm => fbfancpldPwmWrite data attr channel val
  | .fan | .other => return -eopnotsupp

/-! ## Files of their own -/

/-- `fan_present_show`. -/
def fanPresentShow (fn : Int) : Smbus String := do
  let regData ← i2cSmbusReadByteData (regFanStatus fn)
  return sprintfInt (if BitVec.ofInt 32 regData &&& fanPresentMask ≠ 0 then 0 else 1)

/-- `fan_boost_pwm_show`. -/
def fanBoostPwmShow : Smbus String := do
  let ret ← i2cSmbusReadByteData wdtPwmReg
  return sprintfInt (if ret > data.config.pwmMax then data.config.pwmMax else ret)

/-- `fan_boost_pwm_store`. -/
def fanBoostPwmStore (kstrtoint : String → Except Errno Int) (buf : String) (count : Nat) :
    Smbus Int :=
  match kstrtoint buf with
  | .error errno => return -errno.code
  | .ok val => do
    let val := if val > data.config.pwmMax then data.config.pwmMax else val
    let ret ← i2cSmbusWriteByteData wdtPwmReg val
    return if ret = 0 then count else ret

end Hwmon

/-! ## Watchdog -/

/-- `fan_wdt_start`. -/
def fanWdtStart : FanIo Int := i2cSmbusWriteByteData wdtCtrl0 (toInt wdtEnable)

/-- `fan_wdt_stop`. -/
def fanWdtStop : FanIo Int := i2cSmbusWriteByteData wdtCtrl0 0

/-- `fan_wdt_set_timeout`. -/
def fanWdtSetTimeout (timeout : BitVec 32) : FanIo Int := do
  storeTimeout (if timeout < wdtTimeoutMax then timeout else wdtTimeoutMax)
  let timeout ← loadTimeout
  let reg : BitVec 8 := (timeout / 5).setWidth 8
  i2cSmbusWriteByteData wdtCtrl1 reg.toNat

/-- `fan_wdt_get_timeleft`. -/
def fanWdtGetTimeleft : FanIo (BitVec 32) := do
  let maxTimeout ← i2cSmbusReadByteData wdtCtrl1
  let counter ← i2cSmbusReadByteData wdtStaReg
  let ret := (maxTimeout - counter) * 5
  return BitVec.ofInt 32 (if ret < 0 then 0 else ret)

/-- `fan_wdt_ping`. -/
def fanWdtPing : FanIo Int := i2cSmbusWriteByteData wdtCtrl0 (toInt (wdtEnable ||| wdtPet))

def fanWdtOps : WatchdogOps where
  start := fanWdtStart
  stop := fanWdtStop
  setTimeout := fanWdtSetTimeout
  getTimeleft := fanWdtGetTimeleft
  ping := fanWdtPing

/-- `fan_wdt_init`, given whether its allocation succeeds and what the kernel's
`devm_watchdog_register_device` returns. The kernel's `watchdog_init_timeout`
takes the timeout, the maximum and the parameter. -/
def fanWdtInit (wdtTimeout : Int) (allocated : Bool)
    (watchdogInitTimeout : BitVec 32 → BitVec 32 → BitVec 32 → BitVec 32 × Int)
    (registerDevice : Int) : FanIo Int := do
  if !allocated then return -enomem
  storeTimeout (BitVec.ofInt 32 wdtTimeout)
  let timeout ← loadTimeout
  storeTimeout (watchdogInitTimeout timeout wdtTimeoutMax (BitVec.ofInt 32 wdtTimeout)).1
  let _ ← fanWdtStop
  let err := registerDevice
  if err ≠ 0 then return err
  return 0

/-! ## The registered driver -/

/-- What is registered for the data of a configured device: the kernel reads
each table up to its zero entry. -/
def fbfancpld (kstrtoint : String → Except Errno Int) (data : Data) : FanDriver where
  chip := {
    fanConfig := data.fanConfig.takeWhile (· ≠ [])
    pwmConfig := data.pwmConfig.takeWhile (· ≠ [])
    isVisible := fbfancpldIsVisible
    read := fbfancpldRead data
    write := fbfancpldWrite data }
  presentFans := (data.presentPtrs.takeWhile Option.isSome).reduceOption
  fanPresentShow := fanPresentShow
  fanBoostPwmShow := fanBoostPwmShow data
  fanBoostPwmStore := fanBoostPwmStore data kstrtoint
  watchdog := fanWdtOps

/-! ## Registered channels -/

/-- The loop sets the first `count` entries and keeps the others. -/
theorem fill_table {α : Type} (table : List α) (count : Nat) (entry : Nat → α)
    (fits : count ≤ table.length) :
    fillTable table count entry = (List.range count).map entry ++ table.drop count := by
  induction count with
  | zero => rfl
  | succ count inductionHypothesis =>
    have earlier := inductionHypothesis (Nat.le_of_succ_le fits)
    simp only [fillTable, Int.toNat_natCast] at earlier ⊢
    have next : table.drop count = table[count] :: table.drop (count + 1) :=
      List.drop_eq_getElem_cons fits
    rw [List.range_succ, List.foldl_append, earlier, List.foldl_cons, List.foldl_nil,
      List.map_append, List.set_append_right _ _ (by simp), List.length_map, List.length_range,
      Nat.sub_self, next, List.set_cons_zero, List.append_assoc]
    rfl

/-- A zeroed table lists, up to its zero entry, the entries it was filled with. -/
theorem table_listed {α : Type} {zero : α} {entry : Nat → α} {nonzero : α → Bool}
    (filled : ∀ i, nonzero (entry i) = true) (ends : nonzero zero = false)
    {size count : Nat} (fits : count ≤ size) :
    (fillTable (List.replicate size zero) count entry).takeWhile nonzero =
      (List.range count).map entry := by
  rw [fill_table _ _ _ (by simpa using fits), List.drop_replicate,
    List.takeWhile_append_of_pos (by simp [filled]), List.takeWhile_replicate, ends]
  simp

/-- An accepted configuration has between one and eight fans. -/
theorem accepted_fans {ucfg : IoctlConfig} (accepted : fbfancpldValidateConfig ucfg = 0) :
    1 ≤ ucfg.numFans.toNat ∧ ucfg.numFans.toNat ≤ maxFans := by
  unfold fbfancpldValidateConfig at accepted
  split at accepted
  · cases accepted
  · rename_i inside
    simp only [maxFans] at inside ⊢
    bv_omega

section Registered

variable (kstrtoint : String → Except Errno Int) {ucfg : IoctlConfig}
variable (accepted : fbfancpldValidateConfig ucfg = 0)

include accepted

/-- The number of fans is stored as it is requested. -/
theorem stored_fans : (storedConfig ucfg).numFans = ucfg.numFans.toNat := by
  obtain ⟨_, few⟩ := accepted_fans accepted
  simp only [maxFans] at few
  exact BitVec.toInt_eq_toNat_of_lt (by omega)

/-- One channel for each tachometer. -/
theorem fan_channels :
    (fbfancpld kstrtoint (configured ucfg)).chip.fanConfig =
      List.replicate (if ucfg.hasRearTach ≠ 0 then ucfg.numFans.toNat * 2 else ucfg.numFans.toNat)
        fanChannelAttrs := by
  obtain ⟨_, few⟩ := accepted_fans accepted
  have listed (count : Nat) (fits : count ≤ maxFans * 2 + 1) :
      (fillTable (List.replicate (maxFans * 2 + 1) []) count fun _ => fanChannelAttrs).takeWhile
        (· ≠ []) = List.replicate count fanChannelAttrs := by
    rw [table_listed (fun _ => rfl) rfl fits, List.map_const', List.length_range]
  simp only [fbfancpld, configured, buildTables, Data.probed, stored_fans accepted]
  by_cases rear : ucfg.hasRearTach ≠ 0
  · have stored : (storedConfig ucfg).hasRearTach = true := decide_eq_true rear
    rw [if_pos stored, if_pos rear]
    exact_mod_cast listed (ucfg.numFans.toNat * 2) (by omega)
  · have stored : ¬ (storedConfig ucfg).hasRearTach = true := by simpa [storedConfig] using rear
    rw [if_neg stored, if_neg rear]
    exact listed ucfg.numFans.toNat (by omega)

/-- One PWM channel for each fan. -/
theorem pwm_channels :
    (fbfancpld kstrtoint (configured ucfg)).chip.pwmConfig =
      List.replicate ucfg.numFans.toNat pwmChannelAttrs := by
  obtain ⟨_, few⟩ := accepted_fans accepted
  simp only [fbfancpld, configured, buildTables, Data.probed, stored_fans accepted]
  rw [table_listed (fun _ => rfl) rfl (by omega), List.map_const', List.length_range]

/-- One present file for each fan, numbered from one. -/
theorem present_fans :
    (fbfancpld kstrtoint (configured ucfg)).presentFans =
      (List.range ucfg.numFans.toNat).map fun i : Nat => (i : Int) + 1 := by
  obtain ⟨_, few⟩ := accepted_fans accepted
  simp only [fbfancpld, configured, buildTables, Data.probed, stored_fans accepted]
  rw [table_listed (fun _ => rfl) rfl (by omega)]
  simp [List.reduceOption, List.filterMap_map]

end Registered

end FbossBsp.Fbfancpld
