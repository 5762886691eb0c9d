import FbossBsp.FanConfigure
import FbossBsp.Interaction.Selector

/-!
# The fan tray LEDs

The blue and the amber device of a fan share a field of one register, as on the
front panels. But here turning a device on or off writes the whole register
without reading it, so a device that is turned off takes the other color with
it, and the bits outside the field are lost.
-/

namespace FbossBsp.Fbfancpld

open Interaction

/-! ## The class devices -/

/-- `LED_OFF` and `LED_ON` of `enum led_brightness`. -/
def ledOff : Nat := 0
def ledOn : Nat := 1

def fanLedOff : BitVec 8 := 0x03
def fanLedRegMask : BitVec 8 := 0x03

/-- `fan_led_brightness_get`. -/
def fanLedBrightnessGet (ldata : FanLedData) : Smbus Int := do
  let ret ← i2cSmbusReadByteData ldata.regAddr.toNat
  if ret < 0 then return ret
  let regVal := (BitVec.ofInt 32 ret &&& fanLedRegMask.setWidth 32).setWidth 8
  return if regVal = ldata.regVal then ledOn else ledOff

/-- `fan_led_brightness_set`. -/
def fanLedBrightnessSet (ldata : FanLedData) (value : Nat) : Smbus Int :=
  let regVal := if value = ledOff then fanLedOff else ldata.regVal
  i2cSmbusWriteByteData ldata.regAddr.toNat regVal.toNat

/-- The rows of `led_color_info`. -/
inductive FanLedColor where
  | blue
  | amber
  deriving DecidableEq

def FanLedColor.info : FanLedColor → BitVec 8 × String
  | .blue => (fanLedBlue, "blue")
  | .amber => (fanLedAmber, "amber")

/-- A fan that a configuration can have. -/
structure Fan where
  fn : Nat
  first : 1 ≤ fn
  last : fn ≤ maxFans
  deriving DecidableEq

/-- The register of a fan's LED. -/
def Fan.regAddr (fan : Fan) : BitVec 8 := BitVec.ofInt 8 (regFanLed fan.fn)

/-- The device that `fan_leds_init` makes for a fan and a color. -/
def Fan.led (fan : Fan) (color : FanLedColor) : FanLedData where
  name := "fan" ++ toString fan.fn ++ ":" ++ color.info.2 ++ ":status"
  regAddr := fan.regAddr
  regVal := color.info.1

/-! ## Calls -/

/-- A CPLD whose transfers all succeed. -/
def registerCpld : SmbusDevice (BitVec 8 → BitVec 8)
  | .readByteData command, registers => (.ok (registers command), registers)
  | .writeByteData command value, registers => (.ok (), Function.update registers command value)

/-- The field of an LED register with the codes of its colors. -/
def fanLedSelector : Selector 8 FanLedColor where
  all := [.blue, .amber]
  mask := fanLedRegMask
  code color := color.info.1
  off := fanLedOff
  complete := by rintro (_ | _) <;> decide
  inside := by rintro (_ | _) <;> decide
  offInside := by decide
  distinct := by rintro (_ | _) (_ | _) <;> decide
  offUnused := by rintro (_ | _) <;> decide

/-- One `fan_led_brightness_set`. -/
structure FanLedCall where
  fan : Fan
  color : FanLedColor
  value : Nat

/-- The device of the fan and the color reads "on". -/
def ReadsOn (fan : Fan) (color : FanLedColor) (registers : BitVec 8 → BitVec 8) : Prop :=
  (fanLedBrightnessGet (fan.led color)).result registerCpld registers = ledOn

namespace FanLedCall

variable (call : FanLedCall) (registers : BitVec 8 → BitVec 8)

def perform : Smbus Int := fanLedBrightnessSet (call.fan.led call.color) call.value

/-- A color turned on is the one that reads "on"; a color turned off leaves
another one that did; and no LED register changes outside the field. -/
def SharesField : Prop :=
  let after := call.perform.final registerCpld registers
  (call.value ≠ ledOff → ∀ color, ReadsOn call.fan color after ↔ color = call.color) ∧
  (call.value = ledOff → ∀ color, color ≠ call.color →
    ReadsOn call.fan color registers → ReadsOn call.fan color after) ∧
  ∀ fan : Fan, after fan.regAddr &&& ~~~fanLedRegMask = registers fan.regAddr &&& ~~~fanLedRegMask

/-- The register has nothing outside the field, and a color is turned off only
where the other one is not lit. -/
def Harmless : Prop :=
  registers call.fan.regAddr &&& ~~~fanLedRegMask = 0 ∧
    (call.value = ledOff → ∀ color : FanLedColor, color ≠ call.color →
      registers call.fan.regAddr &&& fanLedRegMask ≠ color.info.1)

/-- The byte that a call writes. -/
def written : BitVec 8 := if call.value = ledOff then fanLedOff else call.color.info.1

/-- A call writes the register of its fan and no other. -/
theorem perform_final :
    call.perform.final registerCpld registers =
      Function.update registers call.fan.regAddr call.written := by
  have run : call.perform = i2cSmbusWriteByteData call.fan.regAddr.toNat call.written.toNat := rfl
  rw [run, write_byte_data_eq]
  rfl

end FanLedCall

/-- A color reads as on exactly when the field holds its code. -/
theorem reads_on_iff (fan : Fan) (color : FanLedColor) (registers : BitVec 8 → BitVec 8) :
    ReadsOn fan color registers ↔ registers fan.regAddr &&& fanLedRegMask = color.info.1 := by
  have run : fanLedBrightnessGet (fan.led color) =
      .perform (.readByteData (BitVec.ofInt 8 fan.regAddr.toNat)) fun reply =>
        if readResult reply < 0 then .done (readResult reply)
        else .done (if (BitVec.ofInt 32 (readResult reply) &&& fanLedRegMask.setWidth 32).setWidth 8 =
          color.info.1 then ledOn else ledOff) := rfl
  have byte : readResult (.ok (registers fan.regAddr)) = (registers fan.regAddr).toNat := rfl
  have nonnegative : ¬((registers fan.regAddr).toNat : Int) < 0 := by omega
  rw [ReadsOn, run, of_int_passed]
  simp only [Program.result, registerCpld, byte, nonnegative, if_false, of_int_byte_and]
  split
  · rename_i coded
    exact iff_of_true rfl coded
  · rename_i other
    exact iff_of_false (by decide) other

/-- Where the devices of a fan share its field, exactly. -/
theorem shares_field_iff (call : FanLedCall) (registers : BitVec 8 → BitVec 8) :
    call.SharesField registers ↔ call.Harmless registers := by
  have bare : call.written &&& ~~~fanLedRegMask = 0 := by
    unfold FanLedCall.written
    split
    · decide
    · cases call.color <;> decide
  have inField : call.written &&& fanLedRegMask = call.written := by
    unfold FanLedCall.written
    split
    · decide
    · cases call.color <;> decide
  have outside : (∀ fan : Fan,
      Function.update registers call.fan.regAddr call.written fan.regAddr &&& ~~~fanLedRegMask =
        registers fan.regAddr &&& ~~~fanLedRegMask) ↔
      registers call.fan.regAddr &&& ~~~fanLedRegMask = 0 := by
    constructor
    · intro kept
      have own := kept call.fan
      rw [Function.update_self, bare] at own
      exact own.symm
    · intro zero fan
      by_cases same : fan.regAddr = call.fan.regAddr
      · rw [same, Function.update_self, bare, zero]
      · rw [Function.update_of_ne same]
  simp only [FanLedCall.SharesField, FanLedCall.Harmless, reads_on_iff, FanLedCall.perform_final,
    Function.update_self, outside, inField]
  have on : call.value ≠ ledOff → ∀ color : FanLedColor,
      call.written = color.info.1 ↔ color = call.color := by
    intro on color
    rw [FanLedCall.written, if_neg on]
    exact ⟨fun coded => (fanLedSelector.distinct call.color color coded).symm, fun same => same ▸ rfl⟩
  have off : call.value = ledOff → ∀ color : FanLedColor, call.written ≠ color.info.1 := by
    intro off color
    rw [FanLedCall.written, if_pos off]
    exact fun coded => fanLedSelector.offUnused color coded.symm
  constructor
  · rintro ⟨_, turnedOff, zero⟩
    refine ⟨zero, fun isOff color other lit => ?_⟩
    exact off isOff color (turnedOff isOff color other lit)
  · rintro ⟨zero, unlit⟩
    refine ⟨on, fun isOff color other lit => ?_, zero⟩
    exact absurd lit (unlit isOff color other)

/-- In a sequence of calls on the LEDs of any fans, every call shares the field
exactly when every call is harmless where it starts. -/
theorem fan_leds_share_field_iff (calls : List FanLedCall) (registers : BitVec 8 → BitVec 8) :
    Calls.Each registerCpld FanLedCall.perform FanLedCall.SharesField calls registers ↔
      Calls.Each registerCpld FanLedCall.perform FanLedCall.Harmless calls registers :=
  Calls.each_iff shares_field_iff calls registers

/-- A lit blue goes out when amber is turned off, and turning blue on clears the
other bits of the register. -/
theorem off_clears_lit_color :
    ¬Calls.Each registerCpld FanLedCall.perform FanLedCall.SharesField
        [⟨⟨1, by decide, by decide⟩, .blue, 1⟩, ⟨⟨1, by decide, by decide⟩, .amber, 0⟩]
        (fun _ => 0) ∧
      ¬Calls.Each registerCpld FanLedCall.perform FanLedCall.SharesField
        [⟨⟨1, by decide, by decide⟩, .blue, 1⟩] (fun _ => 0x80) := by
  constructor
  · rintro ⟨_, turnedOff, _⟩
    have harmless := (shares_field_iff _ _).mp turnedOff
    exact harmless.2 rfl .blue (by decide) (by decide)
  · rintro ⟨turnedOn, _⟩
    have harmless := (shares_field_iff _ _).mp turnedOn
    exact absurd harmless.1 (by decide)

end FbossBsp.Fbfancpld
