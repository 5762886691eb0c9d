import FbossBsp.FpgaTasks
import FbossBsp.Interaction.Separation
import Mathlib.Data.List.Pairwise

/-!
# The controllers of one FPGA

All controllers of an FPGA share its address space. The FPGA passes an access on
to the controller whose block holds the word, and answers an access to no block
by itself. What a driver keeps in memory is with its own device.

Any number of threads that run tasks on any bound devices do to each device, in
every interleaving, what the tasks of that device do to it alone.
-/

namespace FbossBsp.Auxdev

open Interaction

/-! ## The address space -/

/-- The blocks of the bound devices. -/
def blocks (bound : List AuxDevice) : List (AuxDevice × Window) :=
  bound.flatMap fun device => device.windows.map fun window => (device, window)

/-- The word at the address is in the region. -/
def Region.HoldsWord (region : Region) (addr : Nat) : Prop :=
  region.Holds addr ∧ region.Holds (addr + 3)

instance (region : Region) (addr : Nat) : Decidable (region.HoldsWord addr) :=
  inferInstanceAs (Decidable (_ ∧ _))

/-- The block that holds the word at an address. -/
def locate (bound : List AuxDevice) (addr : Nat) : Option (AuxDevice × Window) :=
  (blocks bound).find? fun block => (block.1.region block.2).HoldsWord addr

/-- An access to a bus address, or to what the driver of a device keeps. -/
inductive FpgaOp where
  | mmio (op : MmioOp)
  | driver (device : AuxDevice) (op : DriverOp)

@[reducible] def FpgaOp.Reply : FpgaOp → Type
  | .mmio op => op.Reply
  | .driver _ op => op.Reply

/-- Where a driver reaches its device. -/
def place (device : AuxDevice) : DeviceOp → FpgaOp
  | .mmio window (.readl offset) => .mmio (.readl (device.base window + offset))
  | .mmio window (.writel offset val) => .mmio (.writel (device.base window + offset) val)
  | .driver op => .driver device op

def placement : Placement AuxDevice FpgaOp.Reply DeviceOp.Reply where
  op := place
  reply _ := fun
    | .mmio _ (.readl _), reply => reply
    | .mmio _ (.writel _ _), reply => reply
    | .driver _, reply => reply

section Fpga

variable {Thread : Type} {V : AuxDevice → Type}

/-- The FPGA with its devices, which may behave in any way. -/
def fpga (bound : List AuxDevice)
    (devices : ∀ device, Shared Thread DeviceOp DeviceOp.Reply (V device)) :
    Shared Thread FpgaOp FpgaOp.Reply (∀ device, V device)
  | thread, .mmio (.readl addr), s =>
    match locate bound addr with
    | none => some (BitVec.allOnes 32, s)
    | some (device, window) =>
      (devices device thread (.mmio window (.readl (addr - device.base window))) (s device)).map
        fun next => (next.1, Function.update s device next.2)
  | thread, .mmio (.writel addr val), s =>
    match locate bound addr with
    | none => some ((), s)
    | some (device, window) =>
      (devices device thread (.mmio window (.writel (addr - device.base window) val))
        (s device)).map fun next => (next.1, Function.update s device next.2)
  | thread, .driver device op, s =>
    (devices device thread (.driver op) (s device)).map fun next =>
      (next.1, Function.update s device next.2)

/-! ## Accesses reach their device -/

/-- The regions that are reserved are those of the blocks. -/
theorem reserved_blocks (bound : List AuxDevice) :
    reserved bound = (blocks bound).map fun block => block.1.region block.2 := by
  simp only [reserved, blocks, List.map_flatMap, List.map_map]
  rfl

/-- Blocks that are apart hold a word at most once. -/
theorem locate_block {bound : List AuxDevice} (apart : Apart (reserved bound))
    {block : AuxDevice × Window} (member : block ∈ blocks bound) {addr : Nat}
    (holds : (block.1.region block.2).HoldsWord addr) : locate bound addr = some block := by
  have found : (locate bound addr).isSome :=
    List.find?_isSome.mpr ⟨block, member, decide_eq_true holds⟩
  obtain ⟨other, located⟩ := Option.isSome_iff_exists.mp found
  have there : (other.1.region other.2).HoldsWord addr :=
    of_decide_eq_true (List.find?_eq_some_iff_append.mp located).1
  rw [reserved_blocks, Apart, List.pairwise_map] at apart
  have symm : Std.Symm fun first second : AuxDevice × Window =>
      ¬(first.1.region first.2).Overlaps (second.1.region second.2) :=
    ⟨fun _ _ differ overlaps => differ overlaps.symm⟩
  have same : other = block := by
    by_contra different
    exact apart.forall (List.mem_of_find?_eq_some located) member different
      (overlaps_of_holds there.1 holds.1)
  rw [located, same]

/-- The access is one that the driver of a bound device may make. -/
def Permitted (bound : List AuxDevice) (device : AuxDevice) (op : DeviceOp) : Prop :=
  device ∈ bound ∧ ∃ controller, device.controller? = some controller ∧ Confined controller op

/-- An offset in a block is a word of that block. -/
theorem locate_offset {bound : List AuxDevice} (apart : Apart (reserved bound))
    {device : AuxDevice} (member : device ∈ bound) {controller : Controller}
    (served : device.controller? = some controller) {window : Window} {offset : Nat}
    (inside : controller.Inside window offset) :
    locate bound (device.base window + offset) = some (device, window) := by
  have mapped : window ∈ controller.windows := by
    cases controller <;> cases window <;>
      first
        | decide
        | exact absurd inside (Nat.not_succ_le_zero _)
  have windows : device.windows = controller.windows := by
    rw [AuxDevice.windows, served]
    rfl
  have size : device.size window = controller.blkSize window := by
    rw [AuxDevice.size, served]
    rfl
  have block : (device, window) ∈ blocks bound := by
    refine List.mem_flatMap.mpr ⟨device, member, List.mem_map_of_mem ?_⟩
    rwa [windows]
  refine locate_block apart block ?_
  have last : offset + 4 ≤ device.size window := size ▸ inside
  simp only [Region.HoldsWord, Region.Holds, AuxDevice.region]
  omega

variable (bound : List AuxDevice) (apart : Apart (reserved bound))
variable (devices : ∀ device, Shared Thread DeviceOp DeviceOp.Reply (V device))

include apart

/-- A permitted access does to its device what it does to the device alone. -/
theorem access_own {device : AuxDevice} {op : DeviceOp} (permitted : Permitted bound device op)
    (thread : Thread) (s : ∀ device, V device) :
    (fpga bound devices thread (placement.op device op) s).map (fun next =>
        (placement.reply device op next.1, next.2)) =
      (devices device thread op (s device)).map fun next =>
        (next.1, Function.update s device next.2) := by
  obtain ⟨member, controller, served, inside⟩ := permitted
  rcases op with ⟨window, offset | ⟨offset, val⟩⟩ | op
  · have here : locate bound (device.base window + offset) = some (device, window) :=
      locate_offset apart member served inside
    simp only [placement, place, fpga, here, Option.map_map]
    rw [Nat.add_sub_cancel_left]
    rfl
  · have here : locate bound (device.base window + offset) = some (device, window) :=
      locate_offset apart member served inside
    simp only [placement, place, fpga, here, Option.map_map]
    rw [Nat.add_sub_cancel_left]
    rfl
  · simp only [placement, place, fpga, Option.map_map]
    rfl

/-- The FPGA serves each device with its own part of the state. -/
theorem fpga_separated (home : Thread → AuxDevice) :
    Separated placement home (Permitted bound) (fun device s => s device)
      (fpga bound devices) devices where
  own := by
    intro thread op s permitted
    have own := access_own bound apart devices permitted thread s
    have shown := congrArg (Option.map fun next => (next.1, next.2 (home thread))) own
    simpa [Option.map_map, Function.comp_def] using shown
  beside := by
    intro thread op s next other permitted answered different
    have own := access_own bound apart devices permitted thread s
    rw [answered, Option.map_some] at own
    obtain ⟨moved, _, same⟩ := Option.map_eq_some_iff.mp own.symm
    rw [← congrArg Prod.snd same]
    exact Function.update_of_ne different _ _

end Fpga

/-! ## Tasks on bound devices -/

/-- A thread's task, for the driver of a bound device. -/
structure Caller (bound : List AuxDevice) where
  device : AuxDevice
  task : Task
  member : device ∈ bound
  served : device.controller? = some task.controller

section Callers

variable {Thread : Type} [DecidableEq Thread] {V : AuxDevice → Type} {bound : List AuxDevice}
variable (kstrtou32 : String → Option (BitVec 32))

def Caller.program (caller : Caller bound) : DeviceIo TaskReply :=
  caller.task.program kstrtou32 caller.device.setting

/-- A caller accesses only what its device is permitted. -/
theorem caller_permitted (caller : Caller bound) :
    (caller.program kstrtou32).Conforms (Permitted bound caller.device) fun _ => True :=
  (caller.task.confined kstrtou32 caller.device.setting).mono
    (fun _ confined => ⟨caller.member, caller.task.controller, caller.served, confined⟩)
    fun _ _ => trivial

variable (callers : Thread → Caller bound) (s : ∀ device, V device)

/-- The tasks on the FPGA, before their start. -/
def tasksOnFpga : Pool Thread FpgaOp FpgaOp.Reply TaskReply (∀ device, V device) where
  shared := s
  program thread := placement.program (callers thread).device ((callers thread).program kstrtou32)

/-- The tasks on one device, before their start. -/
def tasksOnDevice (device : AuxDevice) :
    Pool Thread DeviceOp DeviceOp.Reply TaskReply (V device) where
  shared := s device
  program thread := (callers thread).program kstrtou32

end Callers

/-- For a kernel that grants no block that overlaps a reserved one, after every
history of probes and removals, for devices of any behavior, every assignment of
tasks of any number to the bound devices and every interleaving of them: each
device is in the state that its own tasks, interleaved in the same order, lead to
on the device alone; each of them has returned exactly what it returns there, and
it can go on exactly when it can there.

Proof: the blocks of the bound devices are apart, so that an access inside a block
reaches its own device and leaves the others as they are; every task stays inside
the blocks of its device. -/
theorem devices_isolated {Thread : Type} [DecidableEq Thread] {V : AuxDevice → Type}
    (request : RequestMemRegion) (exclusive : request.Exclusive) (events : List BindEvent)
    (devices : ∀ device, Shared Thread DeviceOp DeviceOp.Reply (V device))
    (kstrtou32 : String → Option (BitVec 32))
    (callers : Thread → Caller (boundAfter request events))
    (s : ∀ device, V device) (schedule : List Thread)
    (last : Pool Thread FpgaOp FpgaOp.Reply TaskReply (∀ device, V device))
    (ran : (tasksOnFpga kstrtou32 callers s).run (fpga (boundAfter request events) devices)
      schedule = some last)
    (device : AuxDevice) :
    ∃ ended, (tasksOnDevice kstrtou32 callers s device).run (devices device)
        (schedule.filter fun thread => (callers thread).device = device) = some ended ∧
      last.shared device = ended.shared ∧
      ∀ thread, (callers thread).device = device →
        (∀ ret, last.program thread = .done ret ↔ ended.program thread = .done ret) ∧
        (last.advance (fpga (boundAfter request events) devices) thread).isSome =
          (ended.advance (devices device) thread).isSome := by
  have apart := (bound_after_apart exclusive events).apart
  have separated := fpga_separated (boundAfter request events) apart devices
    fun thread => (callers thread).device
  have start (device : AuxDevice) : Projects placement (fun thread => (callers thread).device)
      (Permitted (boundAfter request events)) (fun device s => s device)
      (tasksOnFpga kstrtou32 callers s) device (tasksOnDevice kstrtou32 callers s device) :=
    Projects.start (fun thread => caller_permitted kstrtou32 (callers thread)) s device
  obtain ⟨ended, alone, projects⟩ := separated.run start ran device
  refine ⟨ended, alone, projects.shared.symm, fun thread here => ⟨fun ret => ?_, ?_⟩⟩
  · rw [projects.program thread here]
    exact placement.program_done device _ ret
  · subst here
    exact separated.advances projects

/-! ## Two devices -/

/-- A device of plain registers. -/
def plainDevice {Thread : Type} :
    Shared Thread DeviceOp DeviceOp.Reply (Window → Nat → BitVec 32)
  | _, .mmio window op, s => some ((registerFile op (s window)).1,
      Function.update s window (registerFile op (s window)).2)
  | _, .driver (.mutexLock _), s => some ((), s)
  | _, .driver (.mutexUnlock _), s => some ((), s)
  | _, .driver .loadState, s => some (.ready, s)
  | _, .driver (.storeState _), s => some ((), s)

/-- A kernel that grants every region that is free. -/
def freeRegions : RequestMemRegion := fun region busy =>
  busy.all fun other => ¬region.Overlaps other

/-- Granting only what is free grants no overlap. -/
theorem free_regions_exclusive : freeRegions.Exclusive := by
  intro region busy granted other member
  exact of_decide_eq_true (List.all_eq_true.mp granted other member)

def gpioChip : AuxDevice where
  id := ⟨Regbit.ascii "gpiochip", 0⟩
  data := ⟨0x1000, fbiobInvalidOffset⟩
  setting := 0

/-- The LED of port 1, right behind the GPIO controller. -/
def firstPortLed : AuxDevice where
  id := ⟨Regbit.ascii "port_led", 1⟩
  data := ⟨0x1400, fbiobInvalidOffset⟩
  setting := 1

def bothProbed : List BindEvent :=
  [.probe gpioChip ⟨true, fun _ => true, 0⟩, .probe firstPortLed ⟨true, fun _ => true, 0⟩]

def lineAndLed (led : Bool) : Caller (boundAfter freeRegions bothProbed) :=
  if led then ⟨firstPortLed, .led (.set .green 1), by decide, by decide⟩
  else ⟨gpioChip, .gpioSet (.directionInput ⟨0, by decide⟩), by decide, by decide⟩

/-- A line and a LED that are set at the same time. -/
theorem line_beside_led : ∃ last ended,
    (tasksOnFpga (fun _ => none) lineAndLed fun _ _ _ => 0).run
      (fpga (boundAfter freeRegions bothProbed) fun _ => plainDevice)
        [true, false, true, false, true, true] = some last ∧
    (tasksOnDevice (fun _ => none) lineAndLed (fun _ _ _ => 0) gpioChip).run plainDevice
      [false, false] = some ended ∧
    last.shared gpioChip = ended.shared := by
  refine ⟨_, _, rfl, rfl, ?_⟩
  obtain ⟨ended, alone, same, _⟩ := devices_isolated freeRegions free_regions_exclusive bothProbed
    (fun _ => plainDevice) (fun _ => none) lineAndLed (fun _ _ _ => 0)
    [true, false, true, false, true, true] _ rfl gpioChip
  exact same.trans (congrArg Pool.shared (Option.some.inj alone)).symm

end FbossBsp.Auxdev
