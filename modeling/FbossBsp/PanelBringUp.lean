import FbossBsp.Interaction.Interleaving
import FbossBsp.PanelLeds

/-!
# Bringing up the front-panel LEDs

The probe of a driver turns one LED after the other blue and registers its class
devices. A registered device is there for user space at once, while the probe
goes on with the other LEDs. The LED core asks the driver for the brightness of each
device that it registers, so that the probe still reads an LED that is already in
use. The probe takes no lock; `brightness_set` does.

What the LED core keeps in its own records, and what the driver core undoes after a
probe that has failed, is not modeled.
-/

namespace FbossBsp

open Interaction

namespace PanelLeds

deriving instance DecidableEq for LedsData

/-! ## Operations -/

/-- What the probe and the users of the devices do: a transfer with the CPLD, a
step of the LED core that makes a device known or a trigger, or a step on
`idd_lock`. A user starts with the file of a device. -/
inductive PanelOp where
  | transfer (op : SmbusOp)
  | register (ldata : LedsData)
  | triggerInit (ldata : LedsData)
  | openFile (ldata : LedsData)
  | lock
  | unlock

@[reducible] def PanelOp.Reply : PanelOp → Type
  | .transfer op => op.Reply
  | .register _ => Int
  | .triggerInit _ => Int
  | .openFile _ => Unit
  | .lock => Unit
  | .unlock => Unit

/-- A routine of the probe or of a user. -/
abbrev PanelIo := Program PanelOp PanelOp.Reply

/-- `led_trigger_init`. -/
def ledTriggerInit (ldata : LedsData) : PanelIo Int := .perform (.triggerInit ldata) .done

def openFile (ldata : LedsData) : PanelIo Unit := .perform (.openFile ldata) .done

def mutexLock : PanelIo Unit := .perform .lock .done

def mutexUnlock : PanelIo Unit := .perform .unlock .done

/-- Transfers with the CPLD. -/
def onPanel {α : Type} (program : Smbus α) : PanelIo α :=
  program.embed .transfer fun _ reply => reply

/-! ## The probe -/

section Init

variable (brightnessGet : LedsData → Smbus Int) (code : LedColor → BitVec 8)

/-- `devm_led_classdev_register`. The LED core makes the device known and then updates
its brightness from the driver's `brightness_get`; whether that fails is not
reported. -/
def ledClassdevRegister (ldata : LedsData) : PanelIo Int := do
  let ret ← .perform (.register ldata) .done
  if ret ≠ 0 then return ret
  let _ ← onPanel (brightnessGet ldata)
  return 0

/-- The loop over the colors in `front_panel_leds_init`. A trigger that fails is
only reported. -/
def registerColors (led : LedsInfo) : List LedColor → PanelIo Int
  | [] => return 0
  | color :: rest => do
    let ldata := ledsData led color (code color)
    let ret ← ledClassdevRegister brightnessGet ldata
    if ret ≠ 0 then return ret
    let _ ← ledTriggerInit ldata
    registerColors led rest

/-- `front_panel_leds_init`, with the driver's code for blue. A failing write of
the default color is only reported. -/
def frontPanelLedsInit (blue : BitVec 8) (colors : List LedColor) : List LedsInfo → PanelIo Int
  | [] => return 0
  | led :: rest => do
    let ret ← onPanel (i2cSmbusReadByteData led.regAddr.toNat)
    if ret < 0 then return ret
    let word := BitVec.ofInt 32 ret
    let regVal : BitVec 8 :=
      (word &&& ~~~led.bitsmask.setWidth 32 ||| blue.setWidth 32).setWidth 8
    let _ ← onPanel (i2cSmbusWriteByteData led.regAddr.toNat regVal.toNat)
    let ret ← registerColors brightnessGet code led colors
    if ret ≠ 0 then return ret
    frontPanelLedsInit blue colors rest

end Init

end PanelLeds

open PanelLeds

namespace Mp3Scmcpld

def fbscmCtlLedBlue : BitVec 8 := 0x03

/-- `front_panel_leds_init`. -/
def frontPanelLedsInit : PanelIo Int :=
  PanelLeds.frontPanelLedsInit brightnessGet ledColorInfo fbscmCtlLedBlue
    [.blue, .green, .red, .amber] ledsTable

end Mp3Scmcpld

namespace MtiaSmbcpld

def fbscmCtlLedBlue : BitVec 8 := 0x03

/-- `front_panel_leds_init`. -/
def frontPanelLedsInit : PanelIo Int :=
  PanelLeds.frontPanelLedsInit brightnessGet ledColorInfo fbscmCtlLedBlue
    [.blue, .green, .red, .amber] ledsTable

end MtiaSmbcpld

namespace AnacapaMcbcpld

def fbmcbCtlLedBlue : BitVec 8 := 0x86

/-- `front_panel_qsfp_leds_init`. -/
def frontPanelQsfpLedsInit : PanelIo Int :=
  PanelLeds.frontPanelLedsInit brightnessGet ledColorsInfo fbmcbCtlLedBlue
    [.red, .green, .blue, .amber] ledsTable

end AnacapaMcbcpld

namespace PanelLeds

variable (driver : PanelDriver)

def PanelDriver.ledsInit : PanelDriver → PanelIo Int
  | .mp3Scmcpld => Mp3Scmcpld.frontPanelLedsInit
  | .mtiaSmbcpld => MtiaSmbcpld.frontPanelLedsInit
  | .anacapaMcbcpld => AnacapaMcbcpld.frontPanelQsfpLedsInit

/-- The loop of the probe from some LED on. -/
def PanelDriver.initFrom (todo : List LedsInfo) : PanelIo Int :=
  frontPanelLedsInit driver.brightnessGet driver.selector.code (driver.selector.code .blue)
    driver.selector.all todo

/-- The setup of the LEDs goes through the table from its start. -/
theorem leds_init_eq : driver.ledsInit = driver.initFrom driver.ledsTable := by
  cases driver <;> rfl

/-- The class devices of some LEDs, in the order of the probe. -/
def PanelDriver.devicesOf (leds : List LedsInfo) : List LedsData :=
  leds.flatMap fun led => driver.selector.all.map (driver.ldata led)

/-! ## Users -/

/-- `brightness_set` under `idd_lock`. -/
def PanelDriver.brightnessSetLocked (ldata : LedsData) (value : Nat) : PanelIo Int := do
  mutexLock
  let ret ← onPanel (driver.brightnessSet ldata value)
  mutexUnlock
  return ret

/-- What a user does with a device: read its brightness, or set it. -/
inductive LedRequest where
  | get (led : LedsInfo) (listed : led ∈ driver.ledsTable) (color : LedColor)
  | set (call : LedCall driver)

namespace LedRequest

variable {driver}

def led : LedRequest driver → LedsInfo
  | .get led _ _ => led
  | .set call => call.led

/-- The LED of a request is one of the table. -/
theorem listed : (request : LedRequest driver) → request.led ∈ driver.ledsTable
  | .get _ listed _ => listed
  | .set call => call.listed

def ldata : LedRequest driver → LedsData
  | .get led _ color => driver.ldata led color
  | .set call => driver.ldata call.led call.color

def body : LedRequest driver → PanelIo Int
  | .get led _ color => onPanel (driver.brightnessGet (driver.ldata led color))
  | .set call => driver.brightnessSetLocked (driver.ldata call.led call.color) call.value

def program (request : LedRequest driver) : PanelIo Int := do
  openFile request.ldata
  request.body

end LedRequest

/-! ## The panel -/

/-- The register that a transfer concerns. -/
def commandOf : SmbusOp → BitVec 8
  | .readByteData command => command
  | .writeByteData command _ => command

/-- A transfer, and the thread that has made it. -/
abbrev Entry (Thread : Type) := Thread × Event SmbusOp SmbusOp.Reply

/-- The CPLD, the registered devices and the holder of `idd_lock`. The next calls
of the LED core end with `answers`, those after them succeed; the transfers are
recorded in order. -/
structure Panel (Thread : Type) where
  cpld : Cpld
  answers : List Int
  devices : List LedsData
  holder : Option Thread
  journal : List (Entry Thread)

namespace Panel

variable {Thread : Type} (s : Panel Thread)

/-- What the next call of the LED core returns. -/
def answer : Int := s.answers.headD 0

/-- After a transfer of a thread. -/
def transferred (thread : Thread) (op : SmbusOp) : Panel Thread where
  cpld := (FbossBsp.cpld op s.cpld).2
  answers := s.answers
  devices := s.devices
  holder := s.holder
  journal := s.journal ++ [(thread, ⟨op, (FbossBsp.cpld op s.cpld).1⟩)]

/-- After the LED core has answered for a device. -/
def registered (ldata : LedsData) : Panel Thread where
  cpld := s.cpld
  answers := s.answers.tail
  devices := if s.answer = 0 then s.devices ++ [ldata] else s.devices
  holder := s.holder
  journal := s.journal

end Panel

/-- A file can be opened once its device is registered, and the lock can be
taken while it is free. -/
def panel {Thread : Type} : Shared Thread PanelOp PanelOp.Reply (Panel Thread)
  | thread, .transfer op, s => some ((cpld op s.cpld).1, s.transferred thread op)
  | _, .register ldata, s => some (s.answer, s.registered ldata)
  | _, .triggerInit _, s => some (s.answer, { s with answers := s.answers.tail })
  | _, .openFile ldata, s => if ldata ∈ s.devices then some ((), s) else none
  | thread, .lock, s =>
    if s.holder.isSome then none else some ((), { s with holder := some thread })
  | _, .unlock, s => some ((), { s with holder := none })

/-- The probe, and users before their start. -/
def probedPool {User : Type} (requests : User → LedRequest driver) (start : Cpld)
    (answers : List Int) : Pool (Option User) PanelOp PanelOp.Reply Int (Panel (Option User)) where
  shared := ⟨start, answers, [], none, []⟩
  program
    | none => driver.ledsInit
    | some user => (requests user).program

end PanelLeds

end FbossBsp
