import FbossBsp.Interaction.Calls
import FbossBsp.Interaction.Selector
import FbossBsp.Kernel

/-!
# The front-panel LEDs

Three CPLD drivers offer their front-panel LEDs in the same way: each LED has a
register, and for each of four colors a class device that shares it. Turning a
color on replaces the field of the register, turning it off does so only where
the color is lit, and every call starts with a read that may fail.

Whatever transfers fail, an LED behaves as a machine that shows at most one
color.
-/

namespace FbossBsp

open Interaction

/-! ## Class devices -/

namespace PanelLeds

/-- `LED_OFF` and `LED_ON` of `enum led_brightness`. -/
def ledOff : Nat := 0
def ledOn : Nat := 1

inductive LedColor where
  | blue
  | green
  | red
  | amber
  deriving DecidableEq

def LedColor.name : LedColor → String
  | .blue => "blue"
  | .green => "green"
  | .red => "red"
  | .amber => "amber"

/-- A row of `leds_table`. -/
structure LedsInfo where
  name : String
  regAddr : BitVec 8
  bitsmask : BitVec 8
  deriving DecidableEq

/-- `struct fbscm_leds_data`, less the pointer to the client. -/
structure LedsData where
  name : String
  regAddr : BitVec 8
  regVal : BitVec 8
  bitsmask : BitVec 8

/-- The class device of an LED and a color, as `front_panel_leds_init` makes it. -/
def ledsData (led : LedsInfo) (color : LedColor) (regVal : BitVec 8) : LedsData where
  name := led.name ++ ":" ++ color.name ++ ":status"
  regAddr := led.regAddr
  regVal := regVal
  bitsmask := led.bitsmask

/-- `brightness_get`. -/
def brightnessGet (ldata : LedsData) : Smbus Int := do
  let ret ← i2cSmbusReadByteData ldata.regAddr.toNat
  if ret < 0 then return ret
  let regVal := (BitVec.ofInt 32 ret &&& ldata.bitsmask.setWidth 32).setWidth 8
  return if regVal = ldata.regVal then ledOn else ledOff

/-- `brightness_set`, with the driver's code for "off". -/
def brightnessSet (off : BitVec 8) (ldata : LedsData) (value : Nat) : Smbus Int := do
  let ret ← i2cSmbusReadByteData ldata.regAddr.toNat
  if ret < 0 then return ret
  let word := BitVec.ofInt 32 ret
  let bitsmask := ldata.bitsmask.setWidth 32
  let regVal : BitVec 8 :=
    if value = ledOn then (word &&& ~~~bitsmask ||| ldata.regVal.setWidth 32).setWidth 8
    else if word &&& bitsmask = ldata.regVal.setWidth 32 then
      (word &&& ~~~bitsmask ||| off.setWidth 32).setWidth 8
    else word.setWidth 8
  i2cSmbusWriteByteData ldata.regAddr.toNat regVal.toNat

end PanelLeds

open PanelLeds

/-! ## The drivers -/

namespace Mp3Scmcpld

def fbscmCtlLedOff : BitVec 8 := 0x07
def fbscmCtlRegLedMask : BitVec 8 := 0b00000111

/-- `led_color_info`. -/
def ledColorInfo : LedColor → BitVec 8
  | .blue => 0x03
  | .green => 0x05
  | .red => 0x06
  | .amber => 0x04

/-- `leds_table`. -/
def ledsTable : List LedsInfo := [
  ⟨"sys_led", 0x44, fbscmCtlRegLedMask⟩,
  ⟨"smb_led", 0x41, fbscmCtlRegLedMask⟩,
  ⟨"psu_led", 0x42, fbscmCtlRegLedMask⟩,
  ⟨"fan_led", 0x43, fbscmCtlRegLedMask⟩]

/-- `brightness_get`. -/
def brightnessGet (ldata : LedsData) : Smbus Int := PanelLeds.brightnessGet ldata

/-- `brightness_set`. -/
def brightnessSet (ldata : LedsData) (value : Nat) : Smbus Int :=
  PanelLeds.brightnessSet fbscmCtlLedOff ldata value

end Mp3Scmcpld

namespace MtiaSmbcpld

def fbscmCtlLedOff : BitVec 8 := 0x07
def fbscmCtlRegLedMask : BitVec 8 := 0b00000111

/-- `led_color_info`. -/
def ledColorInfo : LedColor → BitVec 8
  | .blue => 0x03
  | .green => 0x05
  | .red => 0x06
  | .amber => 0x04

/-- `leds_table`. -/
def ledsTable : List LedsInfo := [
  ⟨"sys_led", 0x16, fbscmCtlRegLedMask⟩,
  ⟨"sta_led", 0x17, fbscmCtlRegLedMask⟩]

/-- `brightness_get`. -/
def brightnessGet (ldata : LedsData) : Smbus Int := PanelLeds.brightnessGet ldata

/-- `brightness_set`; "off" is joined after the conversion to a byte. -/
def brightnessSet (ldata : LedsData) (value : Nat) : Smbus Int := do
  let ret ← i2cSmbusReadByteData ldata.regAddr.toNat
  if ret < 0 then return ret
  let word := BitVec.ofInt 32 ret
  let bitsmask := ldata.bitsmask.setWidth 32
  let regVal : BitVec 8 :=
    if value = ledOn then (word &&& ~~~bitsmask ||| ldata.regVal.setWidth 32).setWidth 8
    else if word &&& bitsmask = ldata.regVal.setWidth 32 then
      (word &&& ~~~bitsmask).setWidth 8 ||| fbscmCtlLedOff
    else word.setWidth 8
  i2cSmbusWriteByteData ldata.regAddr.toNat regVal.toNat

end MtiaSmbcpld

namespace AnacapaMcbcpld

def fbmcbCtlLedOff : BitVec 8 := 0x87
def fbmcbCtlRegLedMask : BitVec 8 := 0b10010111

/-- `led_colors_info`. -/
def ledColorsInfo : LedColor → BitVec 8
  | .red => 0x83
  | .green => 0x85
  | .blue => 0x86
  | .amber => 0x81

/-- `leds_table`. -/
def ledsTable : List LedsInfo := [
  ⟨"port1_led1", 0x18, fbmcbCtlRegLedMask⟩,
  ⟨"port2_led1", 0x19, fbmcbCtlRegLedMask⟩]

/-- `brightness_get`. -/
def brightnessGet (ldata : LedsData) : Smbus Int := PanelLeds.brightnessGet ldata

/-- `brightness_set`. -/
def brightnessSet (ldata : LedsData) (value : Nat) : Smbus Int :=
  PanelLeds.brightnessSet fbmcbCtlLedOff ldata value

end AnacapaMcbcpld

namespace PanelLeds

/-- A driver with front-panel LEDs. -/
inductive PanelDriver where
  | mp3Scmcpld
  | mtiaSmbcpld
  | anacapaMcbcpld

namespace PanelDriver

def ledsTable : PanelDriver → List LedsInfo
  | .mp3Scmcpld => Mp3Scmcpld.ledsTable
  | .mtiaSmbcpld => MtiaSmbcpld.ledsTable
  | .anacapaMcbcpld => AnacapaMcbcpld.ledsTable

def brightnessGet : PanelDriver → LedsData → Smbus Int
  | .mp3Scmcpld => Mp3Scmcpld.brightnessGet
  | .mtiaSmbcpld => MtiaSmbcpld.brightnessGet
  | .anacapaMcbcpld => AnacapaMcbcpld.brightnessGet

def brightnessSet : PanelDriver → LedsData → Nat → Smbus Int
  | .mp3Scmcpld => Mp3Scmcpld.brightnessSet
  | .mtiaSmbcpld => MtiaSmbcpld.brightnessSet
  | .anacapaMcbcpld => AnacapaMcbcpld.brightnessSet

/-- The field of an LED register, with the codes of the colors. -/
def selector : PanelDriver → Selector 8 LedColor
  | .mp3Scmcpld => {
      all := [.blue, .green, .red, .amber]
      mask := Mp3Scmcpld.fbscmCtlRegLedMask
      code := Mp3Scmcpld.ledColorInfo
      off := Mp3Scmcpld.fbscmCtlLedOff
      complete := by rintro (_ | _ | _ | _) <;> decide
      inside := by rintro (_ | _ | _ | _) <;> decide
      offInside := by decide
      distinct := by rintro (_ | _ | _ | _) (_ | _ | _ | _) <;> decide
      offUnused := by rintro (_ | _ | _ | _) <;> decide }
  | .mtiaSmbcpld => {
      all := [.blue, .green, .red, .amber]
      mask := MtiaSmbcpld.fbscmCtlRegLedMask
      code := MtiaSmbcpld.ledColorInfo
      off := MtiaSmbcpld.fbscmCtlLedOff
      complete := by rintro (_ | _ | _ | _) <;> decide
      inside := by rintro (_ | _ | _ | _) <;> decide
      offInside := by decide
      distinct := by rintro (_ | _ | _ | _) (_ | _ | _ | _) <;> decide
      offUnused := by rintro (_ | _ | _ | _) <;> decide }
  | .anacapaMcbcpld => {
      all := [.red, .green, .blue, .amber]
      mask := AnacapaMcbcpld.fbmcbCtlRegLedMask
      code := AnacapaMcbcpld.ledColorsInfo
      off := AnacapaMcbcpld.fbmcbCtlLedOff
      complete := by rintro (_ | _ | _ | _) <;> decide
      inside := by rintro (_ | _ | _ | _) <;> decide
      offInside := by decide
      distinct := by rintro (_ | _ | _ | _) (_ | _ | _ | _) <;> decide
      offUnused := by rintro (_ | _ | _ | _) <;> decide }

end PanelDriver

/-- The class device of an LED and a color. -/
def PanelDriver.ldata (driver : PanelDriver) (led : LedsInfo) (color : LedColor) : LedsData :=
  ledsData led color (driver.selector.code color)

/-- One `brightness_set`: a class device of the driver, and the brightness. -/
structure LedCall (driver : PanelDriver) where
  led : LedsInfo
  listed : led ∈ driver.ledsTable
  color : LedColor
  value : Nat

namespace LedCall

variable {driver : PanelDriver} (call : LedCall driver)

def perform : Smbus Int := driver.brightnessSet (driver.ldata call.led call.color) call.value

/-- What a call that succeeds makes of the color that is lit. -/
def turn (lit : Option LedColor) : Option LedColor :=
  if call.value = ledOn then some call.color
  else if lit = some call.color then none
  else lit

end LedCall

/-- The color that is lit on an LED, if any. -/
def lit (driver : PanelDriver) (led : LedsInfo) (s : Cpld) : Option LedColor :=
  driver.selector.shown (s.registers led.regAddr)

/-- The color that the calls, with their results, leave lit on an LED. -/
def evolve {driver : PanelDriver} (led : LedsInfo) :
    Option LedColor → List (LedCall driver × Int) → Option LedColor
  | color, [] => color
  | color, (call, ret) :: rest =>
      evolve led (if call.led = led ∧ ret = 0 then call.turn color else color) rest

/-! ## One call -/

section Step

variable (driver : PanelDriver)

/-- Every LED has the field of the driver. -/
theorem bitsmask_eq {led : LedsInfo} (listed : led ∈ driver.ledsTable) :
    led.bitsmask = driver.selector.mask := by
  cases driver <;> revert led <;> decide

/-- LEDs have registers of their own. -/
theorem led_eq {led other : LedsInfo} (listed : led ∈ driver.ledsTable)
    (otherListed : other ∈ driver.ledsTable) (same : led.regAddr = other.regAddr) :
    led = other := by
  have separate : ∀ led ∈ driver.ledsTable, ∀ other ∈ driver.ledsTable,
      led.regAddr = other.regAddr → led = other := by
    cases driver <;> decide
  exact separate led listed other otherListed same

/-- Joining "off" before or after the conversion is the same. -/
theorem brightness_set_eq (ldata : LedsData) (value : Nat) :
    driver.brightnessSet ldata value = brightnessSet driver.selector.off ldata value := by
  cases driver with
  | mp3Scmcpld => rfl
  | anacapaMcbcpld => rfl
  | mtiaSmbcpld =>
    have joined (word : BitVec 32) : (word ||| MtiaSmbcpld.fbscmCtlLedOff.setWidth 32).setWidth 8 =
        word.setWidth 8 ||| MtiaSmbcpld.fbscmCtlLedOff := by
      rw [BitVec.setWidth_or, BitVec.setWidth_setWidth_of_le _ (by decide), BitVec.setWidth_eq]
    simp only [PanelDriver.brightnessSet, MtiaSmbcpld.brightnessSet, brightnessSet,
      PanelDriver.selector, joined]

/-- The byte that a call writes over the byte it has read. -/
def LedCall.stored {driver : PanelDriver} (call : LedCall driver) (byte : BitVec 8) : BitVec 8 :=
  if call.value = ledOn then driver.selector.select byte call.color
  else driver.selector.deselect byte call.color

/-- Bit operations on the byte in an `int` are bit operations on the byte. -/
theorem int_and_eq_iff (byte mask val : BitVec 8) :
    BitVec.ofInt 32 (byte.toNat : Int) &&& mask.setWidth 32 = val.setWidth 32 ↔
      byte &&& mask = val := by
  rw [of_int_byte, ← BitVec.setWidth_and]
  constructor
  · intro same
    have narrow := congrArg (BitVec.setWidth 8) same
    simpa using narrow
  · exact fun same => congrArg (BitVec.setWidth 32) same

/-- Inserting a field into a register value is the same on bytes and on ints. -/
theorem int_insert (byte mask val : BitVec 8) :
    (BitVec.ofInt 32 (byte.toNat : Int) &&& ~~~mask.setWidth 32 ||| val.setWidth 32).setWidth 8 =
      byte &&& ~~~mask ||| val := by
  rw [of_int_byte, BitVec.setWidth_or, BitVec.setWidth_and, BitVec.setWidth_not (by decide)]
  simp

/-- A call reads the register of its LED and, if that succeeds, writes it. -/
theorem perform_eq {driver : PanelDriver} (call : LedCall driver) :
    call.perform = .perform (.readByteData call.led.regAddr) fun
      | .error errno => .done (-errno.code)
      | .ok byte => .perform (.writeByteData call.led.regAddr (call.stored byte)) fun reply =>
          .done (writeResult reply) := by
  unfold LedCall.perform
  rw [brightness_set_eq]
  have field := bitsmask_eq driver call.listed
  have run : brightnessSet driver.selector.off (driver.ldata call.led call.color) call.value =
      .perform (.readByteData (BitVec.ofInt 8 call.led.regAddr.toNat)) fun reply =>
        if readResult reply < 0 then .done (readResult reply)
        else i2cSmbusWriteByteData call.led.regAddr.toNat (BitVec.toNat
          (if call.value = ledOn then
            (BitVec.ofInt 32 (readResult reply) &&& ~~~call.led.bitsmask.setWidth 32 |||
              (driver.selector.code call.color).setWidth 32).setWidth 8
          else if BitVec.ofInt 32 (readResult reply) &&& call.led.bitsmask.setWidth 32 =
              (driver.selector.code call.color).setWidth 32 then
            (BitVec.ofInt 32 (readResult reply) &&& ~~~call.led.bitsmask.setWidth 32 |||
              driver.selector.off.setWidth 32).setWidth 8
          else (BitVec.ofInt 32 (readResult reply)).setWidth 8)) := rfl
  rw [run, of_int_passed]
  congr 1
  funext reply
  cases reply with
  | error errno => exact if_pos (errno_negative errno)
  | ok byte =>
    have read : readResult (.ok byte) = byte.toNat := rfl
    have nonnegative : ¬(byte.toNat : Int) < 0 := by omega
    have kept : (byte.setWidth 32).setWidth 8 = byte := by simp
    simp only [read, nonnegative, if_false, int_and_eq_iff, int_insert, field]
    rw [of_int_byte]
    simp only [kept, write_byte_data_eq]
    rfl

/-- A call succeeds and stores its byte, or fails and stores nothing. -/
theorem perform_cases {driver : PanelDriver} (call : LedCall driver) (s : Cpld) :
    (call.perform.result cpld s = 0 ∧ (call.perform.final cpld s).registers =
      Function.update s.registers call.led.regAddr
        (call.stored (s.registers call.led.regAddr))) ∨
    (call.perform.result cpld s ≠ 0 ∧ (call.perform.final cpld s).registers = s.registers) := by
  rw [perform_eq]
  cases read : s.outcome with
  | some errno =>
    right
    have failed : cpld (.readByteData call.led.regAddr) s = (.error errno, s.passed) := by
      simp only [cpld, read]
    simp only [Program.result, Program.final, failed]
    exact ⟨(errno_negative errno).ne, rfl⟩
  | none =>
    have byte : cpld (.readByteData call.led.regAddr) s =
        (.ok (s.registers call.led.regAddr), s.passed) := by
      simp only [cpld, read]
    simp only [Program.result, Program.final, byte]
    cases write : s.passed.outcome with
    | some errno =>
      right
      simp only [cpld, write]
      exact ⟨(errno_negative errno).ne, rfl⟩
    | none =>
      left
      simp only [cpld, write]
      exact ⟨rfl, rfl⟩

/-- A stored byte shows what the call makes of the color that was lit. -/
theorem shown_stored {driver : PanelDriver} (call : LedCall driver) (byte : BitVec 8) :
    driver.selector.shown (call.stored byte) = call.turn (driver.selector.shown byte) := by
  unfold LedCall.stored LedCall.turn
  split
  · exact driver.selector.shown_select byte call.color
  · exact driver.selector.shown_deselect byte call.color

/-- A stored byte keeps the bits outside the field. -/
theorem stored_outside {driver : PanelDriver} (call : LedCall driver) (byte : BitVec 8) :
    call.stored byte &&& ~~~driver.selector.mask = byte &&& ~~~driver.selector.mask := by
  unfold LedCall.stored
  split
  · exact driver.selector.select_outside byte call.color
  · exact driver.selector.deselect_outside byte call.color

/-- The step of the machine of one LED. -/
theorem lit_step {driver : PanelDriver} (call : LedCall driver) (s : Cpld) {led : LedsInfo}
    (listed : led ∈ driver.ledsTable) :
    lit driver led (call.perform.final cpld s) =
      if call.led = led ∧ call.perform.result cpld s = 0 then call.turn (lit driver led s)
      else lit driver led s := by
  unfold lit
  obtain ⟨succeeds, stored⟩ | ⟨fails, kept⟩ := perform_cases call s
  · rw [stored]
    by_cases same : call.led = led
    · subst same
      rw [if_pos ⟨rfl, succeeds⟩, Function.update_self, shown_stored]
    · have apart : led.regAddr ≠ call.led.regAddr := fun shared =>
        same (led_eq driver call.listed listed shared.symm)
      rw [if_neg fun both => same both.1, Function.update_of_ne apart]
  · rw [if_neg fun both => fails both.2, kept]

/-- A call changes no register but that of its LED, and there no bit outside the
field. -/
theorem kept_step {driver : PanelDriver} (call : LedCall driver) (s : Cpld) (reg : BitVec 8) :
    (call.led.regAddr ≠ reg → (call.perform.final cpld s).registers reg = s.registers reg) ∧
      (call.perform.final cpld s).registers reg &&& ~~~driver.selector.mask =
        s.registers reg &&& ~~~driver.selector.mask := by
  obtain ⟨_, stored⟩ | ⟨_, kept⟩ := perform_cases call s
  · rw [stored]
    by_cases same : reg = call.led.regAddr
    · subst same
      rw [Function.update_self]
      exact ⟨fun other => absurd rfl other, stored_outside call _⟩
    · rw [Function.update_of_ne same]
      exact ⟨fun _ => rfl, rfl⟩
  · rw [kept]
    exact ⟨fun _ => rfl, rfl⟩

/-- A class device reads "on" exactly where its color is lit, unless the read
fails. -/
theorem brightness_get_result {led : LedsInfo} (listed : led ∈ driver.ledsTable)
    (color : LedColor) (s : Cpld) :
    (driver.brightnessGet (driver.ldata led color)).result cpld s =
      match s.outcome with
      | some errno => -errno.code
      | none => if lit driver led s = some color then ledOn else ledOff := by
  have run : driver.brightnessGet (driver.ldata led color) =
      .perform (.readByteData (BitVec.ofInt 8 led.regAddr.toNat)) fun reply =>
        if readResult reply < 0 then .done (readResult reply)
        else .done (if (BitVec.ofInt 32 (readResult reply) &&& led.bitsmask.setWidth 32).setWidth 8 =
          driver.selector.code color then ledOn else ledOff) := by
    cases driver <;> rfl
  rw [run, of_int_passed]
  cases read : s.outcome with
  | some errno =>
    have negative : readResult (.error errno) < 0 := errno_negative errno
    simp only [Program.result, cpld, read, negative, if_true]
    rfl
  | none =>
    have byte : readResult (.ok (s.registers led.regAddr)) = (s.registers led.regAddr).toNat := rfl
    have nonnegative : ¬((s.registers led.regAddr).toNat : Int) < 0 := by omega
    simp only [Program.result, cpld, read, byte, nonnegative, if_false, of_int_byte_and,
      bitsmask_eq driver listed, lit, driver.selector.shown_iff]

/-- What reads "on" is lit. -/
theorem lit_of_on {led : LedsInfo} (listed : led ∈ driver.ledsTable) {color : LedColor} {s : Cpld}
    (on : (driver.brightnessGet (driver.ldata led color)).result cpld s = ledOn) :
    lit driver led s = some color := by
  rw [brightness_get_result driver listed] at on
  cases outcome : s.outcome with
  | some errno =>
    have negative := errno_negative errno
    simp only [outcome, ledOn] at on
    omega
  | none =>
    simp only [outcome] at on
    split at on
    · assumption
    · cases on

end Step

/-! ## Sequences of calls -/

section Run

variable {driver : PanelDriver} (calls : List (LedCall driver)) (s : Cpld)

/-- An LED evolves as its machine. -/
theorem lit_run {led : LedsInfo} (listed : led ∈ driver.ledsTable) :
    lit driver led (Calls.final cpld LedCall.perform calls s) =
      evolve led (lit driver led s) (calls.zip (Calls.results cpld LedCall.perform calls s)) := by
  induction calls generalizing s with
  | nil => rfl
  | cons call rest inductionHypothesis =>
    simp only [Calls.final, Calls.results, List.zip_cons_cons, evolve, inductionHypothesis,
      lit_step call s listed]

/-- No call changes a bit outside the field. -/
theorem outside_run (reg : BitVec 8) :
    (Calls.final cpld LedCall.perform calls s).registers reg &&& ~~~driver.selector.mask =
      s.registers reg &&& ~~~driver.selector.mask := by
  induction calls generalizing s with
  | nil => rfl
  | cons call rest inductionHypothesis =>
    exact (inductionHypothesis _).trans (kept_step call s reg).2

/-- Calls on other LEDs change nothing. -/
theorem others_run {reg : BitVec 8} (others : ∀ call ∈ calls, call.led.regAddr ≠ reg) :
    (Calls.final cpld LedCall.perform calls s).registers reg = s.registers reg := by
  induction calls generalizing s with
  | nil => rfl
  | cons call rest inductionHypothesis =>
    obtain ⟨other, later⟩ := List.forall_mem_cons.mp others
    exact (inductionHypothesis _ later).trans ((kept_step call s reg).1 other)

end Run

/-- What a sequence of calls leaves behind: the lit colors are those of the
one-color machines, the class devices read them, and no other bit has changed. -/
structure OneColor (driver : PanelDriver) (calls : List (LedCall driver)) (s : Cpld) : Prop where
  evolves : ∀ led ∈ driver.ledsTable,
    lit driver led (Calls.final cpld LedCall.perform calls s) =
      evolve led (lit driver led s) (calls.zip (Calls.results cpld LedCall.perform calls s))
  reads : ∀ led ∈ driver.ledsTable, ∀ color,
    (driver.brightnessGet (driver.ldata led color)).result cpld
        (Calls.final cpld LedCall.perform calls s) =
      match (Calls.final cpld LedCall.perform calls s).outcome with
      | some errno => -errno.code
      | none =>
        if lit driver led (Calls.final cpld LedCall.perform calls s) = some color then ledOn
        else ledOff
  single : ∀ led ∈ driver.ledsTable, ∀ color other,
    (driver.brightnessGet (driver.ldata led color)).result cpld
        (Calls.final cpld LedCall.perform calls s) = ledOn →
      (driver.brightnessGet (driver.ldata led other)).result cpld
        (Calls.final cpld LedCall.perform calls s) = ledOn → color = other
  outside : ∀ led ∈ driver.ledsTable,
    (Calls.final cpld LedCall.perform calls s).registers led.regAddr &&& ~~~led.bitsmask =
      s.registers led.regAddr &&& ~~~led.bitsmask
  others : ∀ reg, (∀ call ∈ calls, call.led.regAddr ≠ reg) →
    (Calls.final cpld LedCall.perform calls s).registers reg = s.registers reg

/-- Whatever the registers hold at first, whatever transfers fail and whatever
is called, the front-panel LEDs are one-color machines. -/
theorem panel_leds_one_color (driver : PanelDriver) (calls : List (LedCall driver)) (s : Cpld) :
    OneColor driver calls s := by
  constructor
  case evolves =>
    intro led listed
    exact lit_run calls s listed
  case reads =>
    intro led listed color
    exact brightness_get_result driver listed color _
  case single =>
    intro led listed color other on alsoOn
    have first := lit_of_on driver listed on
    have second := lit_of_on driver listed alsoOn
    exact Option.some.inj (first.symm.trans second)
  case outside =>
    intro led listed
    rw [bitsmask_eq driver listed]
    exact outside_run calls s led.regAddr
  case others =>
    intro reg others
    exact others_run calls s others

end PanelLeds

end FbossBsp
