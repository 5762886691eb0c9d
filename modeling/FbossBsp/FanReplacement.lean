import FbossBsp.FanCpld
import FbossBsp.LegacyFans

/-!
# The generic driver replaces the per-platform ones

Configured for a platform, `fbfancpld` registers the same tables as the driver
of the platform, and serves every call by the same program: the same transfers
in the same order, continued in the same way after every reply, with the same
result. So whatever the CPLD contains and whichever transfers fail, user space
cannot tell the two apart.
-/

namespace FbossBsp.FanReplacement

open Interaction Fbfancpld LegacyFan

/-! ## The platforms -/

inductive LegacyDriver where
  | mp3
  | w800
  | anacapa
  | tahansb
  | leh800b
  deriving DecidableEq

namespace LegacyDriver

/-- The driver of the platform. -/
def driver (kstrtoint : String → Except Errno Int) : LegacyDriver → FanDriver
  | .mp3 => mp3Fancpld kstrtoint
  | .w800 => w800Fancpld kstrtoint
  | .anacapa => anacapaFancpld kstrtoint
  | .tahansb => tahansbFancpld kstrtoint
  | .leh800b => leh800bPdbcpld kstrtoint

/-- The configuration that matches the platform, with or without LEDs. -/
def matching (hasLeds : BitVec 32) : LegacyDriver → IoctlConfig
  | .mp3 => ⟨8, 40, 150, 1, hasLeds⟩
  | .w800 => ⟨4, 40, 150, 1, hasLeds⟩
  | .anacapa => ⟨6, 64, 300, 1, hasLeds⟩
  | .tahansb => ⟨4, 64, 300, 1, hasLeds⟩
  | .leh800b => ⟨8, 64, 300, 0, hasLeds⟩

/-- The constants of the platform's driver. -/
def macros : LegacyDriver → Macros
  | .mp3 => mp3Macros
  | .w800 => w800Macros
  | .anacapa => anacapaMacros
  | .tahansb => tahansbMacros
  | .leh800b => leh800bMacros

/-- The generic driver configured for the platform. -/
def replacement (kstrtoint : String → Except Errno Int) (hasLeds : BitVec 32)
    (legacy : LegacyDriver) : FanDriver :=
  fbfancpld kstrtoint (configured (legacy.matching hasLeds))

end LegacyDriver

/-! ## Speed values -/

/-- The speed of a tachometer byte is the same number in `int` and `long`
arithmetic, when the multiplier is small. -/
theorem speed_same {regData multiplier : Int} (nonnegative : 0 ≤ regData)
    (byte : regData ≤ 255) (positive : 0 ≤ multiplier) (small : multiplier ≤ 300) :
    wrapLong (regData * multiplier) = wrapInt (regData * multiplier) := by
  have lower : 0 ≤ regData * multiplier := Int.mul_nonneg nonnegative positive
  have upper : regData * multiplier ≤ 255 * 300 := Int.mul_le_mul byte small positive (by decide)
  rw [wrap_long_exact (by omega) (by omega), wrap_int_exact (by omega) (by omega)]

/-! ## Routines -/

/-- The configuration holds the constants of a per-platform driver. -/
structure Matches (data : Data) (macros : Macros) : Prop where
  pwmMax : data.config.pwmMax = macros.fanPwmMax
  speedMultiplier : data.config.speedMultiplier = macros.fanSpeedMultiplier
  positive : 0 ≤ macros.fanSpeedMultiplier
  small : macros.fanSpeedMultiplier ≤ 300

namespace Matches

variable {data : Data} {macros : Macros} (agree : Matches data macros)

include agree

/-- Reading a tachometer: what the generic driver makes of the reply is what the
per-platform driver makes of it. -/
theorem tach_read (regAddr : Int) :
    (i2cSmbusReadByteData regAddr >>= fun regData =>
        if regData < 0 then pure (Except.error regData)
        else pure (.ok (wrapLong (regData * data.config.speedMultiplier))) :
        Smbus (Except Int Int)) =
      i2cSmbusReadByteData regAddr >>= fun regData =>
        if regData < 0 then pure (.error regData)
        else pure (.ok (wrapInt (regData * macros.fanSpeedMultiplier))) := by
  apply congrArg (Program.perform _)
  funext reply
  change (if readResult reply < 0 then _ else _) = if readResult reply < 0 then _ else _
  by_cases failed : readResult reply < 0
  · rw [if_pos failed, if_pos failed]
  · rw [if_neg failed, if_neg failed, agree.speedMultiplier,
      speed_same (Int.not_lt.mp failed) (read_result_bounds reply).2 agree.positive agree.small]

/-- With rear tachometers, odd channels read the rear and even channels the
front tachometer of each fan. -/
theorem rear_tach (rear : data.config.hasRearTach = true) (channel : Nat) :
    fbfancpldFanInputRead data channel = mcbfanFanInputRead macros channel := by
  unfold fbfancpldFanInputRead mcbfanFanInputRead
  rw [if_pos rear]
  exact agree.tach_read _

/-- Without rear tachometers, each channel reads the tachometer of its fan. -/
theorem front_tach (front : data.config.hasRearTach = false) (channel : Nat) :
    fbfancpldFanInputRead data channel = pdbfanFanInputRead macros channel := by
  unfold fbfancpldFanInputRead pdbfanFanInputRead
  rw [if_neg (by simp [front])]
  exact agree.tach_read _

/-- A read of an attribute is the same program in both drivers. -/
theorem hwmon_read {fanInputRead : Nat → Smbus (Except Int Int)}
    (tach : ∀ channel, fbfancpldFanInputRead data channel = fanInputRead channel)
    (type : HwmonSensorType) (attr : HwmonAttr) (channel : Nat) :
    fbfancpldRead data type attr channel = mcbfanRead macros fanInputRead type attr channel := by
  cases type with
  | fan =>
    cases attr with
    | fanInput => exact tach channel
    | _ => rfl
  | pwm =>
    cases attr with
    | pwmInput =>
      simp only [fbfancpldRead, fbfancpldPwmRead, fbfancpldPwmInputRead, agree.pwmMax]
      rfl
    | _ => rfl
  | other => rfl

/-- A write of an attribute is the same program in both drivers. -/
theorem hwmon_write (type : HwmonSensorType) (attr : HwmonAttr) (channel : Nat) (val : Int) :
    fbfancpldWrite data type attr channel val = mcbfanWrite macros type attr channel val := by
  cases type with
  | pwm =>
    cases attr with
    | pwmInput =>
      simp only [fbfancpldWrite, fbfancpldPwmWrite, fbfancpldPwmInputWrite, agree.pwmMax]
      rfl
    | _ => rfl
  | _ => rfl

/-- Showing the boost is the same program in both drivers. -/
theorem boost_show : Fbfancpld.fanBoostPwmShow data = LegacyFan.fanBoostPwmShow macros := by
  simp only [Fbfancpld.fanBoostPwmShow, agree.pwmMax]
  rfl

/-- Storing the boost is the same program in both drivers. -/
theorem boost_store (kstrtoint : String → Except Errno Int) (buf : String) (count : Nat) :
    Fbfancpld.fanBoostPwmStore data kstrtoint buf count =
      LegacyFan.fanBoostPwmStore macros kstrtoint buf count := by
  simp only [Fbfancpld.fanBoostPwmStore, agree.pwmMax]
  rfl

/-- Every call is served by the same program. -/
theorem serve {kstrtoint : String → Except Errno Int}
    {fanInputRead : Nat → Smbus (Except Int Int)}
    (tach : ∀ channel, fbfancpldFanInputRead data channel = fanInputRead channel)
    (fanChannels pwmChannels : Nat) (presentFans : List Int) (call : FanCall) :
    (fbfancpld kstrtoint data).serve call =
      (mcbfan macros fanInputRead fanChannels pwmChannels presentFans kstrtoint).serve call := by
  cases call with
  | hwmonRead type attr channel =>
    simp only [FanDriver.serve, fbfancpld, mcbfan, agree.hwmon_read tach]
  | hwmonWrite type attr channel val =>
    simp only [FanDriver.serve, fbfancpld, mcbfan, agree.hwmon_write]
  | boostShow => simp only [FanDriver.serve, fbfancpld, mcbfan, agree.boost_show]
  | boostStore buf count => simp only [FanDriver.serve, fbfancpld, mcbfan, agree.boost_store]
  | presentShow fn => rfl
  | wdtStart => rfl
  | wdtStop => rfl
  | wdtPing => rfl
  | wdtSetTimeout timeout => rfl
  | wdtGetTimeleft => rfl

end Matches

/-! ## Tables -/

/-- Both drivers show the same attributes. -/
theorem is_visible_same : fbfancpldIsVisible = mcbfanIsVisible := by
  funext type attr channel
  cases type <;> cases attr <;> rfl

namespace LegacyDriver

variable (kstrtoint : String → Except Errno Int) (hasLeds : BitVec 32) (legacy : LegacyDriver)

/-- The matching configuration is accepted. -/
theorem matching_valid : fbfancpldValidateConfig (legacy.matching hasLeds) = 0 := by
  cases legacy <;> simp [fbfancpldValidateConfig, matching, maxFans]

/-- The configuration that stands for a legacy driver has its macros. -/
theorem matching_agrees : Matches (configured (legacy.matching hasLeds)) legacy.macros := by
  cases legacy <;> exact ⟨rfl, rfl, by decide, by decide⟩

/-- Both drivers register the same fan channels. -/
theorem fan_channels_same :
    (legacy.replacement kstrtoint hasLeds).chip.fanConfig =
      (legacy.driver kstrtoint).chip.fanConfig := by
  rw [replacement, fan_channels kstrtoint (legacy.matching_valid hasLeds)]
  cases legacy <;> rfl

/-- Both drivers register the same PWM channels. -/
theorem pwm_channels_same :
    (legacy.replacement kstrtoint hasLeds).chip.pwmConfig =
      (legacy.driver kstrtoint).chip.pwmConfig := by
  rw [replacement, pwm_channels kstrtoint (legacy.matching_valid hasLeds)]
  cases legacy <;> rfl

/-- Both drivers show the same fans as present. -/
theorem present_fans_same :
    (legacy.replacement kstrtoint hasLeds).presentFans =
      (legacy.driver kstrtoint).presentFans := by
  rw [replacement, present_fans kstrtoint (legacy.matching_valid hasLeds)]
  cases legacy <;> rfl

/-- The generic driver offers the same files and entries. -/
theorem exposes_same (call : FanCall) :
    (legacy.replacement kstrtoint hasLeds).Exposes call ↔
      (legacy.driver kstrtoint).Exposes call := by
  have visible : (legacy.replacement kstrtoint hasLeds).chip.isVisible =
      (legacy.driver kstrtoint).chip.isVisible := by
    cases legacy <;> exact is_visible_same
  have channels (type : HwmonSensorType) :
      (legacy.replacement kstrtoint hasLeds).chip.config type =
        (legacy.driver kstrtoint).chip.config type := by
    cases type with
    | fan => exact legacy.fan_channels_same kstrtoint hasLeds
    | pwm => exact legacy.pwm_channels_same kstrtoint hasLeds
    | other => rfl
  cases call <;> simp only [FanDriver.Exposes, HwmonChip.Exposes, channels, visible,
    legacy.present_fans_same kstrtoint hasLeds]

/-- The generic driver serves each call by the platform's program. -/
theorem serve_same (call : FanCall) :
    (legacy.replacement kstrtoint hasLeds).serve call = (legacy.driver kstrtoint).serve call := by
  have agree := legacy.matching_agrees hasLeds
  cases legacy with
  | leh800b => exact agree.serve (agree.front_tach rfl) _ _ _ call
  | _ => exact agree.serve (agree.rear_tach rfl) _ _ _ call

end LegacyDriver

/-! ## The replacement -/

/-- For every platform, every CPLD with its failures, and every sequence of
calls that the platform's driver offers: the matching configuration is accepted,
the generic driver offers the same calls, and it returns the same results with
the same transfers. -/
theorem generic_replaces_legacy (legacy : LegacyDriver) (hasLeds : BitVec 32)
    (kstrtoint : String → Except Errno Int) (calls : List FanCall)
    (exposed : ∀ call ∈ calls, (legacy.driver kstrtoint).Exposes call)
    {S : Type} (cpld : SmbusDevice S) (state : S × BitVec 32) :
    let generic := legacy.replacement kstrtoint hasLeds
    let platform := legacy.driver kstrtoint
    fbfancpldValidateConfig (legacy.matching hasLeds) = 0 ∧
      (∀ call ∈ calls, generic.Exposes call) ∧
      Calls.results (withTimeout cpld) generic.serve calls state =
        Calls.results (withTimeout cpld) platform.serve calls state ∧
      Calls.events (withTimeout cpld) generic.serve calls state =
        Calls.events (withTimeout cpld) platform.serve calls state ∧
      Calls.final (withTimeout cpld) generic.serve calls state =
        Calls.final (withTimeout cpld) platform.serve calls state := by
  have offered (call : FanCall) (member : call ∈ calls) :=
    (legacy.exposes_same kstrtoint hasLeds call).mpr (exposed call member)
  have served (call : FanCall) (_ : call ∈ calls) := legacy.serve_same kstrtoint hasLeds call
  exact ⟨legacy.matching_valid hasLeds, offered, Calls.replace served state⟩

/-- A CPLD that fails every write and reads its registers. -/
def readOnlyCpld : SmbusDevice (BitVec 8 → BitVec 8)
  | .readByteData command, registers => (.ok (registers command), registers)
  | .writeByteData _ _, registers => (.error ⟨5, by decide, by decide⟩, registers)

/-- On the mp3 platform, calls of each interface are served alike. -/
theorem mp3_served_alike :
    let kstrtoint (buf : String) : Except Errno Int :=
      if buf = "30\n" then .ok 30 else .error ⟨22, by decide, by decide⟩
    let calls : List FanCall :=
      [.hwmonRead .fan .fanInput 15, .hwmonWrite .pwm .pwmInput 7 50, .presentShow 8,
        .boostStore "30\n" 3, .wdtSetTimeout 30, .wdtStart]
    let state : (BitVec 8 → BitVec 8) × BitVec 32 := (fun command => command, 315)
    Calls.results (withTimeout readOnlyCpld) (LegacyDriver.mp3.replacement kstrtoint 1).serve
        calls state =
      Calls.results (withTimeout readOnlyCpld) (mp3Fancpld kstrtoint).serve calls state :=
  (generic_replaces_legacy .mp3 1 _ _ (by decide) readOnlyCpld _).2.2.1

end FbossBsp.FanReplacement
