import FbossBsp.FanDriver

/-!
# The per-platform fan drivers

Before the generic driver every platform had its own. `mp3_fancpld`,
`w800_fancpld`, `anacapa_fancpld` and `tahansb_fancpld` are copies of one text,
the `mcbfan` routines, with constants of their own; `leh800b_pdbcpld` has no rear
tachometers, and its `pdbfan` routines differ from that text in the tachometer
they read.
-/

namespace FbossBsp.LegacyFan

open Interaction

/-! ## Registers -/

def fbmcbRegFanTachFN (fn : Int) : Int := 0x30 + (fn - 1) * 0x10
def fbmcbRegFanTachBN (fn : Int) : Int := 0x31 + (fn - 1) * 0x10
def fbmcbRegFanPwm (fn : Int) : Int := 0x32 + (fn - 1) * 0x10
def fbmcbRegFanStatus (fn : Int) : Int := 0x38 + (fn - 1) * 0x10
def fbpdbRegFanTachFN (fn : Int) : Int := 0x30 + (fn - 1) * 0x10

def fbmcbRegFanModeBitOffset : Nat := 7
def fbmcbRegFanModeMask : BitVec 64 := 1#64 <<< 7
def fbmcbRegFanPresentMask : BitVec 32 := 0b00000001

def fanWdtCtrl0 : Int := 0x1F
def fanWdtEnableBit : BitVec 64 := 1#64 <<< 4
def fanWdtPet : BitVec 64 := 1#64 <<< 5
def fanWdtCtrl1 : Int := 0x20
def fanWdtTimeoutMax : BitVec 32 := 0xFF * 5
def fanWdtStaReg : Int := 0x21
def fanWdtPwm : Int := 0x22

/-- The constants in which the copies differ, `FAN_PWM_MAX` and
`FBMCB_FAN_SPEED_MULTIPLIER` or `FBPDB_FAN_SPEED_MULTIPLIER`. -/
structure Macros where
  fanPwmMax : Int
  fanSpeedMultiplier : Int

/-! ## hwmon -/

/-- `mcbfan_is_visible`. -/
def mcbfanIsVisible (type : HwmonSensorType) (attr : HwmonAttr) (_channel : Nat) : Nat :=
  match type with
  | .fan =>
    match attr with
    | .fanInput => 0o444
    | _ => 0
  | .pwm =>
    match attr with
    | .pwmInput | .pwmEnable => 0o644
    | _ => 0
  | .other => 0

section Hwmon

variable (macros : Macros)

/-- `mcbfan_fan_input_read`. -/
def mcbfanFanInputRead (channel : Nat) : Smbus (Except Int Int) := do
  let fn : Int := channel / 2 + 1
  let regAddr := if channel % 2 ≠ 0 then fbmcbRegFanTachBN fn else fbmcbRegFanTachFN fn
  let regData ← i2cSmbusReadByteData regAddr
  if regData < 0 then return .error regData
  return .ok (wrapInt (regData * macros.fanSpeedMultiplier))

/-- `pdbfan_fan_input_read`. -/
def pdbfanFanInputRead (channel : Nat) : Smbus (Except Int Int) := do
  let regAddr := fbpdbRegFanTachFN (channel + 1)
  let regData ← i2cSmbusReadByteData regAddr
  if regData < 0 then return .error regData
  return .ok (wrapInt (regData * macros.fanSpeedMultiplier))

/-- `mcbfan_fan_read`, over the routine for the tachometer. -/
def mcbfanFanRead (fanInputRead : Nat → Smbus (Except Int Int)) (attr : HwmonAttr)
    (channel : Nat) : Smbus (Except Int Int) :=
  match attr with
  | .fanInput => fanInputRead channel
  | _ => return .error (-eopnotsupp)

/-- `mcbfan_pwm_input_read`. -/
def mcbfanPwmInputRead (channel : Nat) : Smbus (Except Int Int) := do
  let fn : Int := channel + 1
  let regAddr := fbmcbRegFanPwm fn
  let regData ← i2cSmbusReadByteData regAddr
  if regData < 0 then return .error regData
  return .ok (if regData > macros.fanPwmMax then macros.fanPwmMax else regData)

/-- `mcbfan_pwm_enable_read`. -/
def mcbfanPwmEnableRead (channel : Nat) : Smbus (Except Int Int) := do
  let fn : Int := channel + 1
  let regAddr := fbmcbRegFanPwm fn
  let regData ← i2cSmbusReadByteData regAddr
  if regData < 0 then return .error regData
  return .ok (if toUnsignedLong regData &&& fbmcbRegFanModeMask ≠ 0 then 0 else 1)

/-- `mcbfan_pwm_read`. -/
def mcbfanPwmRead (attr : HwmonAttr) (channel : Nat) : Smbus (Except Int Int) :=
  match attr with
  | .pwmInput => mcbfanPwmInputRead macros channel
  | .pwmEnable => mcbfanPwmEnableRead channel
  | _ => return .error (-eopnotsupp)

/-- `mcbfan_pwm_input_write`. -/
def mcbfanPwmInputWrite (channel : Nat) (val : Int) : Smbus Int := do
  if val < 0 then return -einval
  let targetPwm := if val > macros.fanPwmMax then macros.fanPwmMax else val
  let fn : Int := channel + 1
  let regAddr := fbmcbRegFanPwm fn
  let regData ← i2cSmbusReadByteData regAddr
  if regData < 0 then return regData
  let byteVal :=
    toInt ((toUnsignedLong regData &&& fbmcbRegFanModeMask) ||| toUnsignedLong targetPwm)
  i2cSmbusWriteByteData regAddr byteVal

/-- `mcbfan_pwm_enable_write`. -/
def mcbfanPwmEnableWrite (channel : Nat) (val : Int) : Smbus Int := do
  if val ≠ 0 ∧ val ≠ 1 then return -einval
  let fn : Int := channel + 1
  let regAddr := fbmcbRegFanPwm fn
  let regData ← i2cSmbusReadByteData regAddr
  if regData < 0 then return regData
  let byteVal :=
    toInt ((toUnsignedLong val <<< fbmcbRegFanModeBitOffset) ||| toUnsignedLong regData)
  i2cSmbusWriteByteData regAddr byteVal

/-- `mcbfan_pwm_write`. -/
def mcbfanPwmWrite (attr : HwmonAttr) (channel : Nat) (val : Int) : Smbus Int :=
  match attr with
  | .pwmInput => mcbfanPwmInputWrite macros channel val
  | .pwmEnable => mcbfanPwmEnableWrite channel val
  | _ => return -eopnotsupp

/-- `mcbfan_read`, over the routine for the tachometer. -/
def mcbfanRead (fanInputRead : Nat → Smbus (Except Int Int)) (type : HwmonSensorType)
    (attr : HwmonAttr) (channel : Nat) : Smbus (Except Int Int) :=
  match type with
  | .fan => mcbfanFanRead fanInputRead attr channel
  | .pwm => mcbfanPwmRead macros attr channel
  | .other => return .error (-eopnotsupp)

/-- `mcbfan_write`. -/
def mcbfanWrite (type : HwmonSensorType) (attr : HwmonAttr) (channel : Nat) (val : Int) :
    Smbus Int :=
  match type with
  | .pwm => mcbfanPwmWrite macros attr channel val
  | .fan | .other => return -eopnotsupp

/-! ## Files of their own -/

/-- `fan_present_show`. -/
def fanPresentShow (fn : Int) : Smbus String := do
  let regData ← i2cSmbusReadByteData (fbmcbRegFanStatus fn)
  return sprintfInt (if BitVec.ofInt 32 regData &&& fbmcbRegFanPresentMask ≠ 0 then 0 else 1)

/-- `fan_boost_pwm_show`. -/
def fanBoostPwmShow : Smbus String := do
  let ret ← i2cSmbusReadByteData fanWdtPwm
  return sprintfInt (if ret > macros.fanPwmMax then macros.fanPwmMax else ret)

/-- `fan_boost_pwm_store`. -/
def fanBoostPwmStore (kstrtoint : String → Except Errno Int) (buf : String) (count : Nat) :
    Smbus Int :=
  match kstrtoint buf with
  | .error errno => return -errno.code
  | .ok val => do
    let val := if val > macros.fanPwmMax then macros.fanPwmMax else val
    let ret ← i2cSmbusWriteByteData fanWdtPwm val
    return if ret = 0 then count else ret

end Hwmon

/-! ## Watchdog -/

/-- `fan_wdt_start`. -/
def fanWdtStart : FanIo Int := i2cSmbusWriteByteData fanWdtCtrl0 (toInt fanWdtEnableBit)

/-- `fan_wdt_stop`. -/
def fanWdtStop : FanIo Int := i2cSmbusWriteByteData fanWdtCtrl0 0

/-- `fan_wdt_set_timeout`. -/
def fanWdtSetTimeout (timeout : BitVec 32) : FanIo Int := do
  storeTimeout (if timeout < fanWdtTimeoutMax then timeout else fanWdtTimeoutMax)
  let timeout ← loadTimeout
  let reg : BitVec 8 := (timeout / 5).setWidth 8
  i2cSmbusWriteByteData fanWdtCtrl1 reg.toNat

/-- `fan_wdt_get_timeleft`. -/
def fanWdtGetTimeleft : FanIo (BitVec 32) := do
  let maxTimeout ← i2cSmbusReadByteData fanWdtCtrl1
  let counter ← i2cSmbusReadByteData fanWdtStaReg
  let ret := (maxTimeout - counter) * 5
  return BitVec.ofInt 32 (if ret < 0 then 0 else ret)

/-- `fan_wdt_ping`. -/
def fanWdtPing : FanIo Int :=
  i2cSmbusWriteByteData fanWdtCtrl0 (toInt (fanWdtEnableBit ||| fanWdtPet))

def fanWdtOps : WatchdogOps where
  start := fanWdtStart
  stop := fanWdtStop
  setTimeout := fanWdtSetTimeout
  getTimeleft := fanWdtGetTimeleft
  ping := fanWdtPing

/-! ## The drivers -/

/-- A driver of the common text: its constants, its routine for the tachometer,
and the numbers of entries in its tables. -/
def mcbfan (macros : Macros) (fanInputRead : Nat → Smbus (Except Int Int))
    (fanChannels pwmChannels : Nat) (presentFans : List Int)
    (kstrtoint : String → Except Errno Int) : FanDriver where
  chip := {
    fanConfig := List.replicate fanChannels fanChannelAttrs
    pwmConfig := List.replicate pwmChannels pwmChannelAttrs
    isVisible := mcbfanIsVisible
    read := mcbfanRead macros fanInputRead
    write := mcbfanWrite macros }
  presentFans := presentFans
  fanPresentShow := fanPresentShow
  fanBoostPwmShow := fanBoostPwmShow macros
  fanBoostPwmStore := fanBoostPwmStore macros kstrtoint
  watchdog := fanWdtOps

def mp3Macros : Macros := ⟨40, 150⟩
def w800Macros : Macros := ⟨40, 150⟩
def anacapaMacros : Macros := ⟨64, 300⟩
def tahansbMacros : Macros := ⟨64, 300⟩
def leh800bMacros : Macros := ⟨64, 300⟩

def mp3Fancpld : (String → Except Errno Int) → FanDriver :=
  mcbfan mp3Macros (mcbfanFanInputRead mp3Macros) 16 8 [1, 2, 3, 4, 5, 6, 7, 8]

def w800Fancpld : (String → Except Errno Int) → FanDriver :=
  mcbfan w800Macros (mcbfanFanInputRead w800Macros) 8 4 [1, 2, 3, 4]

def anacapaFancpld : (String → Except Errno Int) → FanDriver :=
  mcbfan anacapaMacros (mcbfanFanInputRead anacapaMacros) 12 6 [1, 2, 3, 4, 5, 6]

def tahansbFancpld : (String → Except Errno Int) → FanDriver :=
  mcbfan tahansbMacros (mcbfanFanInputRead tahansbMacros) 8 4 [1, 2, 3, 4]

def leh800bPdbcpld : (String → Except Errno Int) → FanDriver :=
  mcbfan leh800bMacros (pdbfanFanInputRead leh800bMacros) 8 8 [1, 2, 3, 4, 5, 6, 7, 8]

end FbossBsp.LegacyFan
