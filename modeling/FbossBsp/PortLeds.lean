import FbossBsp.Interaction.Calls
import FbossBsp.Interaction.Selector
import FbossBsp.Kernel

/-!
# The FPGA port LEDs

The amber, blue and green devices of a port share one control register. Turning
a color on replaces the control bits; a device reads "on" where the whole
register is its code. Turning a color off clears the bits of its own code, among
them the on/off bit that all codes share, so it turns off any other color too.
-/

namespace FbossBsp.PortLeds

open Interaction

/-! ## The driver -/

/-- `LED_OFF` and `LED_ON` of `enum led_brightness`. -/
def ledOff : Nat := 0
def ledOn : Nat := 1

inductive ColorProfile where
  | white
  | cyan
  | blue
  | pink
  | red
  | orange
  | amber
  | green

/-- The value of the enumeration constant. -/
def ColorProfile.value : ColorProfile → BitVec 32
  | .white => 0
  | .cyan => 1
  | .blue => 2
  | .pink => 3
  | .red => 4
  | .orange => 5
  | .amber => 6
  | .green => 7

/-- `PORT_LED_COLOR_PROF_MASK`. -/
def portLedColorProfMask (profile : ColorProfile) : BitVec 32 := profile.value <<< 2

def portLedFlashCtrl : BitVec 32 := bit 1
def portLedOnOffCtrl : BitVec 32 := bit 0

/-- `PORT_LED_ON_MASK`. -/
def portLedOnMask (profile : ColorProfile) : BitVec 32 :=
  portLedColorProfMask profile ||| portLedOnOffCtrl

def portLedMaskAll : BitVec 32 := (7 <<< 2) ||| portLedFlashCtrl ||| portLedOnOffCtrl

/-- `struct port_led_dev`: what `brightness_get` and `brightness_set` use of it. -/
structure PortLedDev where
  ledOnMask : BitVec 32
  mmioCsr : Nat

/-- `brightness_get`. -/
def brightnessGet (ldev : PortLedDev) : Mmio Nat := do
  let data ← readl ldev.mmioCsr
  return if data = ldev.ledOnMask then ledOn else ledOff

/-- `brightness_set`. -/
def brightnessSet (ldev : PortLedDev) (value : Nat) : Mmio Int := do
  let data ← readl ldev.mmioCsr
  let data :=
    if value = 0 then data &&& ~~~ldev.ledOnMask
    -- turn off control bits before turning specific color on
    else data &&& ~~~portLedMaskAll ||| ldev.ledOnMask
  writel data ldev.mmioCsr
  return 0

/-- `pled_colors`: the colors exported to user space. -/
inductive PledColor where
  | amber
  | blue
  | green
  deriving DecidableEq

/-- The profile that `port_led_init` finds for the name of the color. -/
def PledColor.profile : PledColor → ColorProfile
  | .amber => .amber
  | .blue => .blue
  | .green => .green

/-- The device that `port_led_init` makes for a color of the port. -/
def portLedDev (mmioCsr : Nat) (color : PledColor) : PortLedDev where
  ledOnMask := portLedOnMask color.profile
  mmioCsr := mmioCsr

/-! ## Calls on one port -/

/-- The control field of a port with the codes of its colors. -/
def selector : Selector 32 PledColor where
  all := [.amber, .blue, .green]
  mask := portLedMaskAll
  code color := portLedOnMask color.profile
  off := 0
  complete := by rintro (_ | _ | _) <;> decide
  inside := by rintro (_ | _ | _) <;> decide
  offInside := by decide
  distinct := by rintro (_ | _ | _) (_ | _ | _) <;> decide
  offUnused := by rintro (_ | _ | _) <;> decide

/-- One `brightness_set` on a device of the port. -/
structure LedCall where
  color : PledColor
  value : Nat

section Port

variable (csr : Nat)

def perform (call : LedCall) : Mmio Int := brightnessSet (portLedDev csr call.color) call.value

/-- The device of the color reads "on". -/
def ReadsOn (color : PledColor) (registers : Nat → BitVec 32) : Prop :=
  (brightnessGet (portLedDev csr color)).result registerFile registers = ledOn

/-- A color turned on reads "on" and no other does; a color turned off does not
read "on" and another one that did still does; and the bits outside the control
field keep their value. -/
def ReadsBack (call : LedCall) (registers : Nat → BitVec 32) : Prop :=
  let after := (perform csr call).final registerFile registers
  (call.value ≠ 0 → ∀ color, ReadsOn csr color after ↔ color = call.color) ∧
  (call.value = 0 → ¬ReadsOn csr call.color after ∧
    ∀ color, color ≠ call.color → ReadsOn csr color registers → ReadsOn csr color after) ∧
  after csr &&& ~~~portLedMaskAll = registers csr &&& ~~~portLedMaskAll

/-- A color is turned on where all reserved bits are zero, and turned off where
the register is not the code of another color. -/
def Harmless (call : LedCall) (registers : Nat → BitVec 32) : Prop :=
  (call.value ≠ 0 → registers csr &&& ~~~portLedMaskAll = 0) ∧
    (call.value = 0 → ∀ color : PledColor, color ≠ call.color →
      registers csr ≠ portLedOnMask color.profile)

/-- The register after a call. -/
def stored (call : LedCall) (data : BitVec 32) : BitVec 32 :=
  if call.value = 0 then data &&& ~~~portLedOnMask call.color.profile
  else selector.select data call.color

/-- A call writes the CSR and nothing else. -/
theorem perform_final (call : LedCall) (registers : Nat → BitVec 32) :
    (perform csr call).final registerFile registers =
      Function.update registers csr (stored call (registers csr)) := rfl

/-- A color reads as on exactly when the CSR holds its word. -/
theorem reads_on_iff (color : PledColor) (registers : Nat → BitVec 32) :
    ReadsOn csr color registers ↔ registers csr = portLedOnMask color.profile := by
  have read : (brightnessGet (portLedDev csr color)).result registerFile registers =
      if registers csr = portLedOnMask color.profile then ledOn else ledOff := rfl
  rw [ReadsOn, read]
  split
  · rename_i code
    exact iff_of_true rfl code
  · rename_i other
    exact iff_of_false (by decide) other

/-- A cleared code leaves the on/off bit clear, so no device reads "on". -/
theorem cleared_unlit (data : BitVec 32) (cleared color : PledColor) :
    data &&& ~~~portLedOnMask cleared.profile ≠ portLedOnMask color.profile := by
  have clear : (data &&& ~~~portLedOnMask cleared.profile) &&& portLedOnOffCtrl = 0 :=
    and_eq_zero_of_part (and_not_and data _) (by cases cleared <;> decide)
  intro code
  rw [code] at clear
  cases color <;> exact absurd clear (by decide)

/-- Where the colors read back, exactly. -/
theorem reads_back_iff (call : LedCall) (registers : Nat → BitVec 32) :
    ReadsBack csr call registers ↔ Harmless csr call registers := by
  simp only [ReadsBack, Harmless, reads_on_iff, perform_final, Function.update_self, stored]
  by_cases off : call.value = 0
  · have outside : registers csr &&& ~~~portLedOnMask call.color.profile &&& ~~~portLedMaskAll =
        registers csr &&& ~~~portLedMaskAll := by
      rw [BitVec.and_assoc]
      congr 1
      cases call.color <;> decide
    simp only [off, ne_eq, not_true_eq_false, false_implies, true_implies, if_true, true_and,
      outside, and_true, cleared_unlit, not_false_eq_true]
  · have outside : selector.select (registers csr) call.color &&& ~~~portLedMaskAll =
        registers csr &&& ~~~portLedMaskAll := selector.select_outside (registers csr) call.color
    have code (color : PledColor) : selector.select (registers csr) call.color =
        portLedOnMask color.profile ↔
          color = call.color ∧ registers csr &&& ~~~portLedMaskAll = 0 :=
      selector.select_eq_iff (registers csr) call.color color
    simp only [off, ne_eq, not_false_eq_true, true_implies, false_implies, if_false, true_and,
      outside, and_true, code]
    constructor
    · intro reads
      exact ((reads call.color).mpr rfl).2
    · intro reserved color
      exact and_iff_left reserved

/-- In a sequence of calls every call reads back exactly when every call is
harmless where it starts. -/
theorem port_leds_read_back_iff (calls : List LedCall) (registers : Nat → BitVec 32) :
    Calls.Each registerFile (perform csr) (ReadsBack csr) calls registers ↔
      Calls.Each registerFile (perform csr) (Harmless csr) calls registers :=
  Calls.each_iff (reads_back_iff csr) calls registers

end Port

/-- A lit amber goes out when blue is turned off, and a reserved bit hides every
color that is turned on. -/
theorem off_turns_others_off :
    ¬Calls.Each registerFile (perform 0) (ReadsBack 0) [⟨.amber, 1⟩, ⟨.blue, 0⟩] (fun _ => 0) ∧
      ¬Calls.Each registerFile (perform 0) (ReadsBack 0) [⟨.green, 1⟩] (fun _ => 0x20) := by
  constructor
  · rintro ⟨_, turnedOff, _⟩
    have harmless := (reads_back_iff 0 _ _).mp turnedOff
    exact harmless.2 rfl .amber (by decide) (by decide)
  · rintro ⟨turnedOn, _⟩
    have harmless := (reads_back_iff 0 _ _).mp turnedOn
    exact absurd (harmless.1 (by decide)) (by decide)

end FbossBsp.PortLeds
