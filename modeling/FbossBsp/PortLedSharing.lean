import FbossBsp.Interaction.Locked
import FbossBsp.PortLeds

/-!
# Concurrent use of the port LEDs

The three devices of a port share its control register and the lock of the port.
`brightness_set` reads the register and writes it back under the lock, and
`brightness_get` reads it under the lock. Any number of threads call them, while
others access the rest of the FPGA without the lock.

In every interleaving the port behaves as one lamp: it shows at most one color,
which the calls change in the order in which they take the lock.
-/

namespace FbossBsp.PortLeds

open Interaction

/-! ## The driver with its lock -/

/-- `brightness_get`, between `mutex_lock` and `mutex_unlock`. -/
def brightnessGetLocked (ldev : PortLedDev) : LockProgram MmioOp MmioOp.Reply Nat := do
  takeLock
  let data ← (readl ldev.mmioCsr).unlocked
  releaseLock
  return if data = ldev.ledOnMask then ledOn else ledOff

/-- `brightness_set`, between `mutex_lock` and `mutex_unlock`. -/
def brightnessSetLocked (ldev : PortLedDev) (value : Nat) : LockProgram MmioOp MmioOp.Reply Int := do
  takeLock
  let data ← (readl ldev.mmioCsr).unlocked
  let data :=
    if value = 0 then data &&& ~~~ldev.ledOnMask
    -- turn off control bits before turning specific color on
    else data &&& ~~~portLedMaskAll ||| ldev.ledOnMask
  (writel data ldev.mmioCsr).unlocked
  releaseLock
  return 0

/-- Reading an LED is its routine under the lock. -/
theorem brightness_get_locked (ldev : PortLedDev) :
    brightnessGetLocked ldev = (brightnessGet ldev).locked := rfl

/-- Setting an LED is its routine under the lock. -/
theorem brightness_set_locked (ldev : PortLedDev) (value : Nat) :
    brightnessSetLocked ldev value = (brightnessSet ldev value).locked := rfl

/-! ## One register among others -/

/-- A single register. -/
def register : MmioDevice (BitVec 32)
  | .readl _, data => (data, data)
  | .writel _ val, _ => ((), val)

/-- Accesses to one register see it alone, and other accesses leave it as it is. -/
theorem register_views (csr : Nat) :
    Views (fun registers => registers csr) register registerFile registerFile
      (fun op => op.offset = csr) fun op => op.offset ≠ csr where
  holder := by
    rintro (offset | ⟨offset, val⟩) registers rfl
    · exact ⟨rfl, rfl⟩
    · exact ⟨rfl, Function.update_self _ _ _⟩
  others := by
    rintro (offset | ⟨offset, val⟩) registers apart
    · rfl
    · exact Function.update_of_ne (Ne.symm apart) _ _

/-! ## Calls on a port -/

/-- A call on a device of the port. -/
inductive LedRequest where
  | get (color : PledColor)
  | set (color : PledColor) (value : Nat)

/-- What a thread does: a call on the port, or an access to the rest of the FPGA. -/
inductive PortTask (csr : Nat) where
  | led (request : LedRequest)
  | elsewhere (program : Mmio Int)
      (apart : program.Conforms (fun op => op.offset ≠ csr) fun _ => True)

section Port

variable (csr : Nat)

def LedRequest.body : LedRequest → Mmio Int
  | .get color => do
    let brightness ← brightnessGet (portLedDev csr color)
    return brightness
  | .set color value => brightnessSet (portLedDev csr color) value

def PortTask.access {csr : Nat} : PortTask csr → Access MmioOp MmioOp.Reply Int
  | .led request => ⟨true, request.body csr⟩
  | .elsewhere program _ => ⟨false, program⟩

/-- Under the lock a task accesses the CSR only, and without it everything but the
CSR. -/
theorem task_inside (task : PortTask csr) :
    task.access.Inside (fun op => op.offset = csr) fun op => op.offset ≠ csr := by
  cases task with
  | elsewhere program apart => exact apart
  | led request =>
    cases request with
    | get color => exact ⟨rfl, fun _ => trivial⟩
    | set color value => exact ⟨rfl, fun _ => ⟨rfl, fun _ => trivial⟩⟩

/-! ## The lamp -/

/-- The color that the register shows. -/
def shownColor (data : BitVec 32) : Option PledColor :=
  selector.all.find? fun color => data = portLedOnMask color.profile

/-- The color of the lamp after a call. Turning a color off turns the lamp off,
and a set bit outside the control field keeps it off. -/
def LedRequest.lamp (reserved : BitVec 32) (before : Option PledColor) :
    LedRequest → Option PledColor
  | .get _ => before
  | .set color value => if value = 0 ∨ reserved ≠ 0 then none else some color

/-- What a call on the lamp returns. -/
def LedRequest.answer (lit : Option PledColor) : LedRequest → Int
  | .get color => if lit = some color then ledOn else ledOff
  | .set _ _ => 0

/-- The color of the lamp after the calls of some threads, in order. -/
def lampAfter {csr : Nat} {Thread : Type} (tasks : Thread → PortTask csr) (reserved : BitVec 32) :
    List Thread → Option PledColor → Option PledColor
  | [], lit => lit
  | thread :: rest, lit =>
      match tasks thread with
      | .led request => lampAfter tasks reserved rest (request.lamp reserved lit)
      | .elsewhere _ _ => lampAfter tasks reserved rest lit

/-- The bits outside the control field. -/
def reservedBits (data : BitVec 32) : BitVec 32 := data &&& ~~~portLedMaskAll

/-- The CSR shows the color whose word it holds. -/
theorem shown_color_iff (data : BitVec 32) (color : PledColor) :
    shownColor data = some color ↔ data = portLedOnMask color.profile := by
  constructor
  · intro shown
    have found := List.find?_some shown
    simpa only [decide_eq_true_eq] using found
  · rintro rfl
    cases color <;> decide

/-- The CSR shows no color when it holds the word of none. -/
theorem shown_color_none_iff (data : BitVec 32) :
    shownColor data = none ↔ ∀ color : PledColor, data ≠ portLedOnMask color.profile := by
  rw [Option.eq_none_iff_forall_ne_some]
  exact forall_congr' fun color => not_congr (shown_color_iff data color)

/-- A register with a reserved bit set shows no color. -/
theorem shown_reserved {data : BitVec 32} (reserved : reservedBits data ≠ 0) :
    shownColor data = none := by
  rw [shown_color_none_iff]
  rintro color rfl
  exact reserved (by cases color <;> decide)

/-- What the register holds after `brightness_set`. -/
theorem stored_lamp (color : PledColor) (value : Nat) (data : BitVec 32) :
    shownColor (stored ⟨color, value⟩ data) =
        (LedRequest.set color value).lamp (reservedBits data) (shownColor data) ∧
      reservedBits (stored ⟨color, value⟩ data) = reservedBits data := by
  simp only [stored, LedRequest.lamp]
  by_cases off : value = 0
  · simp only [off, if_true, true_or]
    constructor
    · rw [shown_color_none_iff]
      exact cleared_unlit data color
    · rw [reservedBits, reservedBits, BitVec.and_assoc]
      congr 1
      cases color <;> decide
  · have outside : reservedBits (selector.select data color) = reservedBits data :=
      selector.select_outside data color
    refine ⟨?_, by simpa [off] using outside⟩
    simp only [off, if_false, false_or]
    by_cases clear : reservedBits data = 0
    · rw [if_neg (not_not.mpr clear), shown_color_iff]
      exact (selector.select_eq_iff data color color).mpr ⟨rfl, clear⟩
    · rw [if_pos clear]
      exact shown_reserved (by rwa [outside])

/-- A call on the register is one on the lamp. -/
theorem request_lamp (request : LedRequest) (data : BitVec 32) :
    (request.body csr).result register data = request.answer (shownColor data) ∧
      shownColor ((request.body csr).final register data) =
        request.lamp (reservedBits data) (shownColor data) ∧
      reservedBits ((request.body csr).final register data) = reservedBits data := by
  cases request with
  | get color =>
    refine ⟨?_, rfl, rfl⟩
    have read : ((LedRequest.get color).body csr).result register data =
        ((if data = portLedOnMask color.profile then ledOn else ledOff : Nat) : Int) := rfl
    rw [read, LedRequest.answer]
    simp only [shown_color_iff]
    split <;> rfl
  | set color value =>
    exact ⟨rfl, stored_lamp color value data⟩

/-- Calls one after the other on the register are calls on the lamp. -/
theorem serial_lamp {Thread : Type} (tasks : Thread → PortTask csr) (order : List Thread)
    (guarded : ∀ thread ∈ order, (tasks thread).access.guarded = true) (data : BitVec 32) :
    shownColor (serialFinal (fun thread => (tasks thread).access) register data order) =
        lampAfter tasks (reservedBits data) order (shownColor data) ∧
      reservedBits (serialFinal (fun thread => (tasks thread).access) register data order) =
        reservedBits data := by
  induction order generalizing data with
  | nil => exact ⟨rfl, rfl⟩
  | cons thread rest inductionHypothesis =>
    obtain ⟨first, later⟩ := List.forall_mem_cons.mp guarded
    cases task : tasks thread with
    | elsewhere program apart => simp [task, PortTask.access] at first
    | led request =>
      obtain ⟨_, shown, kept⟩ := request_lamp csr request data
      have remaining := inductionHypothesis later ((request.body csr).final register data)
      rw [shown, kept] at remaining
      simpa [serialFinal, Calls.final, lampAfter, task, PortTask.access] using remaining

/-- Any number of threads call `brightness_get` and `brightness_set` on the
devices of a port, while others access other registers without the lock. In
every interleaving, a call that has returned has returned what the lamp answers
at its place in the order of the lock; while the lock is free the register shows
the color of the lamp; and the bits outside the control field never change. -/
theorem port_leds_one_lamp {Thread : Type} [DecidableEq Thread] (tasks : Thread → PortTask csr)
    (registers : Nat → BitVec 32) (schedule : List Thread)
    (last : LockPool Thread MmioOp MmioOp.Reply Int (Nat → BitVec 32))
    (ran : (lockedCalls (fun thread => (tasks thread).access) registers).run
      (lockedDevice registerFile registerFile) schedule = some last) :
    (∀ thread request ret, tasks thread = .led request → last.program thread = .done ret →
      ∃ before after, last.shared.taken = before ++ thread :: after ∧
        ret = request.answer (lampAfter tasks (reservedBits (registers csr)) before
          (shownColor (registers csr)))) ∧
    (last.shared.holder = none → shownColor (last.shared.device csr) =
      lampAfter tasks (reservedBits (registers csr)) last.shared.taken
        (shownColor (registers csr))) ∧
    reservedBits (last.shared.device csr) = reservedBits (registers csr) := by
  have serial := Serial.run (fun thread => task_inside csr (tasks thread)) (register_views csr)
    registers ran
  refine ⟨?_, ?_, ?_⟩
  · intro thread request ret task finished
    have guarded : (tasks thread).access.guarded = true := by rw [task]; rfl
    obtain ⟨before, after, taken, returned⟩ := serial.returned guarded finished
    have earlier : ∀ other ∈ before, (tasks other).access.guarded = true := fun other member =>
      serial.guarded other (by simp [taken, member])
    refine ⟨before, after, taken, ?_⟩
    rw [returned, ← (serial_lamp csr tasks before earlier (registers csr)).1]
    simp only [task]
    exact (request_lamp csr request _).1
  · intro idle
    rw [← (serial_lamp csr tasks _ serial.guarded (registers csr)).1]
    exact congrArg shownColor (serial.idle idle)
  · apply serial.keeps fun data => reservedBits data = reservedBits (registers csr)
    · intro thread data guarded same
      cases task : tasks thread with
      | elsewhere program apart => simp [task, PortTask.access] at guarded
      | led request =>
        cases request with
        | get color => exact ⟨same, same⟩
        | set color value => exact ⟨same, same, (stored_lamp color value data).2.trans same⟩
    · rfl

end Port

/-- One thread turns amber on and another asks for it. -/
def amberTasks (reader : Bool) : PortTask 0 :=
  if reader then .led (.get .amber) else .led (.set .amber 1)

/-- The reader comes second and waits for the lock. -/
theorem amber_seen :
    ∃ last, (lockedCalls (fun thread => (amberTasks thread).access) fun _ => 0).run
        (lockedDevice registerFile registerFile) [false, false, false, false, true, true, true] =
          some last ∧
      shownColor (last.shared.device 0) = some .amber := by
  refine ⟨_, rfl, ?_⟩
  have lamp := port_leds_one_lamp 0 amberTasks (fun _ => 0)
    [false, false, false, false, true, true, true] _ rfl
  exact lamp.2.1 rfl

end FbossBsp.PortLeds
