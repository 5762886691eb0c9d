import FbossBsp.Interaction.Calls
import FbossBsp.Kernel

/-!
# The FPGA GPIO controller

Every line has one control register. Its tristate bit turns the line into an
input, and its output bit is what the line drives otherwise. The two calls that
set a direction keep the tristate bit right, but the call that reports it joins
the register with the bit instead of testing it, and so answers "input" always.
-/

namespace FbossBsp.Gpio

open Interaction

/-! ## The driver -/

def fbiobGpioInput : BitVec 32 := bit 2
def fbiobGpioOutput : BitVec 32 := bit 1
def fbiobGpioTristateCtrl : BitVec 32 := bit 0

def fbiobGpioUnitSize : BitVec 32 := 4
def fbiobGpioNumLines : BitVec 32 := 256

/-- `GPIO_LINE_DIRECTION_OUT`. -/
def gpioLineDirectionOut : Int := 0

/-- `GPIO_LINE_DIRECTION_IN`. -/
def gpioLineDirectionIn : Int := 1

/-- `GPIO_LINE_CSR`. -/
def gpioLineCsr (offset : BitVec 32) : BitVec 32 := offset * fbiobGpioUnitSize

def gpioCsrRead (offset : BitVec 32) : Mmio (BitVec 32) := readl offset.toNat

def gpioCsrWrite (offset val : BitVec 32) : Mmio Unit := writel val offset.toNat

/-- `fbiob_gpio_get`. -/
def fbiobGpioGet (offset : BitVec 32) : Mmio Int := do
  let val ← gpioCsrRead (gpioLineCsr offset)
  return if val &&& fbiobGpioInput > 0 then 1 else 0

/-- `fbiob_gpio_get_direction`. -/
def fbiobGpioGetDirection (offset : BitVec 32) : Mmio Int := do
  let val ← gpioCsrRead (gpioLineCsr offset)
  -- the source joins the bits here; a test would take their conjunction
  return if val ||| fbiobGpioTristateCtrl ≠ 0 then gpioLineDirectionIn else gpioLineDirectionOut

/-- `fbiob_gpio_direction_input`. -/
def fbiobGpioDirectionInput (offset : BitVec 32) : Mmio Int := do
  let val ← gpioCsrRead (gpioLineCsr offset)
  let val := val ||| fbiobGpioTristateCtrl
  gpioCsrWrite (gpioLineCsr offset) val
  return 0

/-- `fbiob_gpio_direction_output`. -/
def fbiobGpioDirectionOutput (offset : BitVec 32) (value : Int) : Mmio Int := do
  let direction ← fbiobGpioGetDirection offset
  let val ← gpioCsrRead (gpioLineCsr offset)
  let val :=
    if direction = gpioLineDirectionIn then
      let val := val &&& ~~~fbiobGpioTristateCtrl
      if value ≠ 0 then val ||| fbiobGpioOutput else val &&& ~~~fbiobGpioOutput
    else if value ≠ 0 then val ||| fbiobGpioOutput else val &&& ~~~fbiobGpioOutput
  gpioCsrWrite (gpioLineCsr offset) val
  return 0

/-! ## Lines and calls -/

/-- A line of the chip: the GPIO core passes no other offset. -/
structure Line where
  offset : BitVec 32
  inRange : offset < fbiobGpioNumLines
  deriving DecidableEq

/-- The register of a line. -/
def Line.csr (line : Line) : Nat := (gpioLineCsr line.offset).toNat

/-- No two lines share a register. -/
theorem csr_injective {line other : Line} (same : line.csr = other.csr) : line = other := by
  have bound : line.offset < 256 := line.inRange
  have otherBound : other.offset < 256 := other.inRange
  have equal : line.offset = other.offset := by
    simp only [Line.csr, gpioLineCsr, fbiobGpioUnitSize] at same
    bv_omega
  cases line
  cases other
  cases equal
  rfl

inductive GpioCall where
  | directionInput (line : Line)
  | directionOutput (line : Line) (value : Int)
  deriving DecidableEq

namespace GpioCall

def perform : GpioCall → Mmio Int
  | .directionInput line => fbiobGpioDirectionInput line.offset
  | .directionOutput line value => fbiobGpioDirectionOutput line.offset value

def line : GpioCall → Line
  | .directionInput line => line
  | .directionOutput line _ => line

/-- The direction that the call sets. -/
def direction : GpioCall → Int
  | .directionInput _ => gpioLineDirectionIn
  | .directionOutput _ _ => gpioLineDirectionOut

/-- The register of the line after the call. -/
def stored (call : GpioCall) (val : BitVec 32) : BitVec 32 :=
  match call with
  | .directionInput _ => val ||| fbiobGpioTristateCtrl
  | .directionOutput _ value =>
      if value ≠ 0 then val &&& ~~~fbiobGpioTristateCtrl ||| fbiobGpioOutput
      else val &&& ~~~fbiobGpioTristateCtrl &&& ~~~fbiobGpioOutput

/-- The output bit is the value that the call was given. -/
def Drives (call : GpioCall) (val : BitVec 32) : Prop :=
  match call with
  | .directionInput _ => True
  | .directionOutput _ value => val &&& fbiobGpioOutput ≠ 0 ↔ value ≠ 0

/-- The call drives the value it was given, changes no other line's register and
no other bit of its own register. -/
def Contained (call : GpioCall) (registers : Nat → BitVec 32) : Prop :=
  let after := call.perform.final registerFile registers
  call.Drives (after call.line.csr) ∧
    (∀ line, line ≠ call.line → after line.csr = registers line.csr) ∧
    after call.line.csr &&& ~~~(fbiobGpioOutput ||| fbiobGpioTristateCtrl) =
      registers call.line.csr &&& ~~~(fbiobGpioOutput ||| fbiobGpioTristateCtrl)

end GpioCall

/-- The last call on a line. -/
def lastOn (line : Line) (calls : List GpioCall) : Option GpioCall :=
  (calls.filter fun call => call.line = line).getLast?

/-! ## One call -/

/-- Joined with the tristate bit, no register is zero. -/
theorem joined_nonzero (val : BitVec 32) : val ||| fbiobGpioTristateCtrl ≠ 0 := by
  intro zero
  have set := or_mask_and val fbiobGpioTristateCtrl
  rw [zero] at set
  exact absurd set (by decide)

/-- Whatever the register of the line holds, the reported direction is "input". -/
theorem get_direction_result (offset : BitVec 32) (registers : Nat → BitVec 32) :
    (fbiobGpioGetDirection offset).result registerFile registers = gpioLineDirectionIn :=
  if_pos (joined_nonzero _)

namespace GpioCall

variable (call : GpioCall) (registers : Nat → BitVec 32)

/-- A call rewrites the register of its line, and nothing else. -/
theorem perform_final :
    call.perform.final registerFile registers =
      Function.update registers call.line.csr (call.stored (registers call.line.csr)) := by
  cases call with
  | directionInput line => rfl
  | directionOutput line value =>
    have input := get_direction_result line.offset registers
    have unchanged : (fbiobGpioGetDirection line.offset).final registerFile registers =
        registers := rfl
    simp only [perform, fbiobGpioDirectionOutput, Program.final_bind, input, unchanged, if_true]
    rfl

/-- After a call, the tristate bit tells the direction that the call sets. -/
theorem stored_tristate (val : BitVec 32) :
    call.stored val &&& fbiobGpioTristateCtrl = 0 ↔ call.direction = gpioLineDirectionOut := by
  cases call with
  | directionInput line =>
    have input : gpioLineDirectionIn ≠ gpioLineDirectionOut := by decide
    simp only [stored, or_mask_and, direction, input, iff_false]
    decide
  | directionOutput line value =>
    have cleared := and_not_and val fbiobGpioTristateCtrl
    have driven : fbiobGpioOutput &&& fbiobGpioTristateCtrl = 0 := by decide
    simp only [direction, iff_true, stored]
    split
    · exact or_and_eq_zero cleared driven
    · rw [BitVec.and_assoc, BitVec.and_comm (~~~fbiobGpioOutput), ← BitVec.and_assoc, cleared]
      exact BitVec.zero_and

/-- The output bit after a call. -/
theorem stored_drives (val : BitVec 32) : call.Drives (call.stored val) := by
  cases call with
  | directionInput line => trivial
  | directionOutput line value =>
    simp only [Drives, stored]
    by_cases drive : value = 0
    · simp [drive, and_not_and]
    · simp only [drive, ne_eq, not_false_eq_true, if_true, iff_true, or_mask_and]
      decide

/-- The other bits after a call. -/
theorem stored_outside (val : BitVec 32) :
    call.stored val &&& ~~~(fbiobGpioOutput ||| fbiobGpioTristateCtrl) =
      val &&& ~~~(fbiobGpioOutput ||| fbiobGpioTristateCtrl) := by
  apply BitVec.eq_of_getLsbD_eq
  intro i _
  cases call with
  | directionInput line =>
    simp only [stored, BitVec.getLsbD_and, BitVec.getLsbD_or, BitVec.getLsbD_not]
    cases fbiobGpioTristateCtrl.getLsbD i <;> simp
  | directionOutput line value =>
    simp only [stored]
    split <;>
      simp only [BitVec.getLsbD_and, BitVec.getLsbD_or, BitVec.getLsbD_not] <;>
      cases fbiobGpioTristateCtrl.getLsbD i <;> cases fbiobGpioOutput.getLsbD i <;> simp

/-- Every call drives its value and stays inside its two bits. -/
theorem contained : call.Contained registers := by
  simp only [Contained, perform_final, Function.update_self]
  refine ⟨stored_drives call _, ?_, stored_outside call _⟩
  intro line other
  exact Function.update_of_ne (fun same => other (csr_injective same)) _ _

end GpioCall

/-! ## Sequences of calls -/

/-- The last call on a line is the new one if that is on the line. -/
theorem last_on_concat (line : Line) (calls : List GpioCall) (call : GpioCall) :
    lastOn line (calls ++ [call]) = if call.line = line then some call else lastOn line calls := by
  by_cases same : call.line = line <;> simp [lastOn, List.filter_append, same]

/-- The register does record the direction: after every sequence of calls, the
tristate bit of a line is clear exactly when the last call on it has made it an
output. -/
theorem tristate_last (calls : List GpioCall) (registers : Nat → BitVec 32) (line : Line)
    {last : GpioCall} (final : lastOn line calls = some last) :
    Calls.final registerFile GpioCall.perform calls registers line.csr &&&
        fbiobGpioTristateCtrl = 0 ↔ last.direction = gpioLineDirectionOut := by
  induction calls using List.reverseRecOn with
  | nil => simp [lastOn] at final
  | append_singleton calls call inductionHypothesis =>
    rw [last_on_concat] at final
    rw [Calls.final_concat, GpioCall.perform_final]
    by_cases same : call.line = line
    · rw [if_pos same, Option.some.injEq] at final
      subst final same
      rw [Function.update_self]
      exact call.stored_tristate _
    · rw [if_neg same] at final
      rw [Function.update_of_ne fun shared => same (csr_injective shared).symm]
      exact inductionHypothesis final

/-- Every line reports the direction that the last call on it has set, and every
call is contained, exactly when no line has an output call as its last. -/
theorem direction_reported_iff (calls : List GpioCall) (registers : Nat → BitVec 32) :
    (∀ line last, lastOn line calls = some last →
        (fbiobGpioGetDirection line.offset).result registerFile
          (Calls.final registerFile GpioCall.perform calls registers) = last.direction) ∧
      Calls.Each registerFile GpioCall.perform GpioCall.Contained calls registers ↔
    ∀ line value, lastOn line calls ≠ some (.directionOutput line value) := by
  have each : Calls.Each registerFile GpioCall.perform GpioCall.Contained calls registers :=
    Calls.each_of_forall GpioCall.contained calls registers
  have differ : gpioLineDirectionIn ≠ gpioLineDirectionOut := by decide
  simp only [each, and_true, get_direction_result]
  constructor
  · intro reported line value last
    exact differ (reported line _ last)
  · intro inputs line last final
    cases last with
    | directionInput other => rfl
    | directionOutput other value =>
      have member := List.mem_of_getLast? final
      have same : other = line := of_decide_eq_true (List.mem_filter.mp member).2
      exact absurd (same ▸ final) (inputs line value)

/-- A line made an output is reported as an input. -/
theorem output_reported_as_input :
    ¬(∀ (calls : List GpioCall) (registers : Nat → BitVec 32) (line : Line) (last : GpioCall),
      lastOn line calls = some last →
        (fbiobGpioGetDirection line.offset).result registerFile
          (Calls.final registerFile GpioCall.perform calls registers) = last.direction) := by
  intro reported
  have wrong := reported [.directionOutput ⟨0, by decide⟩ 1] (fun _ => 0) ⟨0, by decide⟩ _ rfl
  exact absurd wrong (by decide)

end FbossBsp.Gpio
