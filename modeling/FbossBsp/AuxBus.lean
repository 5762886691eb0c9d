import FbossBsp.AuxAddress
import FbossBsp.Interaction.Interleaving
import Mathlib.Data.List.Nodup
import Mathlib.Data.Fintype.Basic

/-!
# The auxiliary devices of an FPGA

NEW_DEVICE registers a device with the driver core, and then inserts it in the
list of the bus under the mutex. DEL_DEVICE unlinks and unregisters a device in
one locked section, and the removal of the PCI device does so with all of them.
In between its two steps a new device is registered and not yet listed, and
calls on files that are open go on when the PCI device is removed.

Calls run in threads of their own, any number of them, and their steps are
interleaved in any way.
-/

namespace FbossBsp.Auxdev

open Interaction

/-! ## Devices -/

/-- `struct fbiob_aux_id`, with the name as a C string. -/
structure FbiobAuxId where
  name : List (BitVec 8)
  id : BitVec 32
  deriving DecidableEq

/-- `struct fbiob_aux_adapter`: the identity and the translated offsets. -/
structure FbiobAuxAdapter where
  id : FbiobAuxId
  data : FbiobAuxData
  deriving DecidableEq

/-- `fbiob_auxdev_match`. -/
def fbiobAuxdevMatch (id1 id2 : FbiobAuxId) : Bool := id1.id = id2.id && id1.name = id2.name

/-- `struct fbiob_aux_bus` and the devices that the driver core has registered. -/
structure FbiobAuxBus where
  registered : List FbiobAuxId
  devices : List FbiobAuxAdapter
  mutexDestroyed : Bool

/-- The identities of the listed devices. -/
def FbiobAuxBus.listed (s : FbiobAuxBus) : List FbiobAuxId := s.devices.map (·.id)

/-- The registered devices are the listed ones, each of them once. -/
structure FbiobAuxBus.InSync (s : FbiobAuxBus) : Prop where
  registeredOnce : s.registered.Nodup
  listedOnce : s.listed.Nodup
  same : ∀ id, id ∈ s.registered ↔ id ∈ s.listed

/-! ## Operations -/

/-- A call to the driver core, or a section under the mutex of the bus. -/
inductive AuxOp where
  | auxiliaryDeviceAdd (adap : FbiobAuxAdapter)
  | listAdd (adap : FbiobAuxAdapter)
  | removeLocked (id : FbiobAuxId)
  | destroyLocked
  deriving DecidableEq

@[reducible] def AuxOp.Reply : AuxOp → Type
  | .auxiliaryDeviceAdd _ => Int
  | .listAdd _ => Unit
  | .removeLocked _ => Int
  | .destroyLocked => Unit

abbrev AuxIo := Program AuxOp AuxOp.Reply

/-- `auxiliary_device_add` fails exactly when the identity is registered. -/
def auxiliaryDeviceAdd (adap : FbiobAuxAdapter) (s : FbiobAuxBus) : Int × FbiobAuxBus :=
  if adap.id ∈ s.registered then (-eexist, s)
  else (0, { s with registered := adap.id :: s.registered })

/-- The locked section of `fbiob_auxdev_remove`: the first match is unlinked and
unregistered. -/
def removeLocked (id : FbiobAuxId) (s : FbiobAuxBus) : Int × FbiobAuxBus :=
  match s.devices.find? fun adap => fbiobAuxdevMatch adap.id id with
  | none => (-enxio, s)
  | some adap => (0, { s with
      devices := s.devices.erase adap
      registered := s.registered.erase adap.id })

/-- `fbiob_auxbus_destroy`: every listed device is unlinked and unregistered. -/
def destroyLocked (s : FbiobAuxBus) : FbiobAuxBus where
  registered := s.devices.foldl (fun registered adap => registered.erase adap.id) s.registered
  devices := []
  mutexDestroyed := true

/-- What the operations do to the bus and the driver core. -/
def auxBus {Thread : Type} : Shared Thread AuxOp AuxOp.Reply FbiobAuxBus
  | _, .auxiliaryDeviceAdd adap, s => some (auxiliaryDeviceAdd adap s)
  | _, .listAdd adap, s => some ((), { s with devices := adap :: s.devices })
  | _, .removeLocked id, s => some (removeLocked id s)
  | _, .destroyLocked, s => some ((), destroyLocked s)

/-! ## Calls -/

/-- `fbiob_auxdev_add`, given whether the allocation succeeds. -/
def fbiobAuxdevAdd (allocated : Bool) (adap : FbiobAuxAdapter) : AuxIo Int :=
  if allocated = false then return -enomem
  else .perform (.auxiliaryDeviceAdd adap) fun ret =>
    if ret < 0 then return ret
    else .perform (.listAdd adap) fun _ => return 0

/-- `fbiob_auxdev_remove`. -/
def fbiobAuxdevRemove (id : FbiobAuxId) : AuxIo Int := .perform (.removeLocked id) .done

/-- The commands of `fbiob_cdev_ioctl`. -/
inductive IoctlCmd where
  | newDevice
  | delDevice
  | other

/-- `fbiob_cdev_ioctl`, given what `copy_from_user` copies, if it succeeds. -/
def fbiobCdevIoctl (cdesc : FbiobCdevDesc) (cmd : IoctlCmd) (user : Option FbiobAuxAdapter)
    (allocated : Bool) : AuxIo Int :=
  match user with
  | none => return -efault
  | some auxData =>
    match cmd with
    | .newDevice =>
      let (ret, data) := auxDataValidate cdesc auxData.data
      if ret = 0 then fbiobAuxdevAdd allocated { auxData with data := data } else return ret
    | .delDevice => fbiobAuxdevRemove auxData.id
    | .other => return -einval

/-- `fbiob_pci_remove`; calls on files that are open go on. -/
def fbiobPciRemove : AuxIo Int := .perform .destroyLocked fun _ => return 0

/-- The calls that reach the bus. -/
inductive AuxCall where
  | ioctl (cmd : IoctlCmd) (user : Option FbiobAuxAdapter) (allocated : Bool)
  | pciRemove

def AuxCall.routine (cdesc : FbiobCdevDesc) : AuxCall → AuxIo Int
  | .ioctl cmd user allocated => fbiobCdevIoctl cdesc cmd user allocated
  | .pciRemove => fbiobPciRemove

/-! ## What the operations keep -/

/-- The devices are listed once, and those registered are listed or waiting to
be inserted. -/
structure Accounts (inserting : Set FbiobAuxId) (s : FbiobAuxBus) : Prop where
  registeredOnce : s.registered.Nodup
  listedOnce : s.listed.Nodup
  accounted : ∀ id, id ∈ s.registered ↔ id ∈ s.listed ∨ id ∈ inserting
  unlisted : ∀ id ∈ inserting, id ∉ s.listed

/-- With nothing to insert, the registered devices are the listed ones. -/
theorem Accounts.in_sync {s : FbiobAuxBus} (accounts : Accounts ∅ s) : s.InSync where
  registeredOnce := accounts.registeredOnce
  listedOnce := accounts.listedOnce
  same := fun id => (accounts.accounted id).trans (or_iff_left (Set.notMem_empty id))

/-- What is left of the registered devices when those of a list are unregistered. -/
theorem unregister_all (devices : List FbiobAuxAdapter) {registered : List FbiobAuxId}
    (once : registered.Nodup) :
    (devices.foldl (fun registered adap => registered.erase adap.id) registered).Nodup ∧
      ∀ id, id ∈ devices.foldl (fun registered adap => registered.erase adap.id) registered ↔
        id ∈ registered ∧ id ∉ devices.map (·.id) := by
  induction devices generalizing registered with
  | nil => exact ⟨once, fun id => (and_iff_left List.not_mem_nil).symm⟩
  | cons adap rest inductionHypothesis =>
    obtain ⟨still, remaining⟩ := inductionHypothesis (once.erase adap.id)
    refine ⟨still, fun id => ?_⟩
    rw [List.foldl_cons, remaining, once.mem_erase_iff, List.map_cons, List.mem_cons, not_or,
      and_assoc, and_left_comm]

section Sections

variable {inserting : Set FbiobAuxId} {s : FbiobAuxBus} (accounts : Accounts inserting s)

include accounts

/-- A registered device waits for its insertion. -/
theorem register_keeps {id : FbiobAuxId} (fresh : id ∉ s.registered) :
    Accounts ({id} ∪ inserting) { s with registered := id :: s.registered } where
  registeredOnce := List.nodup_cons.mpr ⟨fresh, accounts.registeredOnce⟩
  listedOnce := accounts.listedOnce
  accounted := by
    intro other
    rw [List.mem_cons, accounts.accounted, Set.mem_union, Set.mem_singleton_iff]
    exact or_left_comm
  unlisted := by
    rintro other (rfl | waits) listed
    · exact fresh ((accounts.accounted other).mpr (Or.inl listed))
    · exact accounts.unlisted other waits listed

/-- Inserting a waiting device settles it. -/
theorem list_add_keeps {adap : FbiobAuxAdapter} {others : Set FbiobAuxId}
    (waits : inserting = {adap.id} ∪ others) (apart : adap.id ∉ others) :
    Accounts others { s with devices := adap :: s.devices } := by
  have member : adap.id ∈ inserting := waits ▸ Or.inl rfl
  constructor
  · exact accounts.registeredOnce
  · exact List.nodup_cons.mpr ⟨accounts.unlisted adap.id member, accounts.listedOnce⟩
  · intro id
    have listed : id ∈ FbiobAuxBus.listed { s with devices := adap :: s.devices } ↔
        id = adap.id ∨ id ∈ s.listed := List.mem_cons
    rw [listed, accounts.accounted, waits, Set.mem_union, Set.mem_singleton_iff, or_assoc]
    exact or_left_comm
  · intro id other listed
    have unlisted := accounts.unlisted id (waits ▸ Or.inr other)
    obtain rfl | earlier := List.mem_cons.mp listed
    · exact apart other
    · exact unlisted earlier

/-- Listed devices may be unlinked if they are unregistered with it. -/
theorem unregister_keeps {after : FbiobAuxBus} (gone : Set FbiobAuxId)
    (registeredOnce : after.registered.Nodup) (listedOnce : after.listed.Nodup)
    (registered : ∀ id, id ∈ after.registered ↔ id ∈ s.registered ∧ id ∉ gone)
    (listed : ∀ id, id ∈ after.listed ↔ id ∈ s.listed ∧ id ∉ gone)
    (known : ∀ id ∈ gone, id ∈ s.listed) : Accounts inserting after where
  registeredOnce := registeredOnce
  listedOnce := listedOnce
  accounted := by
    intro id
    rw [registered, listed, accounts.accounted]
    constructor
    · rintro ⟨present | waits, kept⟩
      · exact Or.inl ⟨present, kept⟩
      · exact Or.inr waits
    · rintro (⟨present, kept⟩ | waits)
      · exact ⟨Or.inl present, kept⟩
      · exact ⟨Or.inr waits, fun member => accounts.unlisted id waits (known id member)⟩
  unlisted := fun id waits still => accounts.unlisted id waits ((listed id).mp still).1

/-- DEL_DEVICE keeps the account. -/
theorem remove_locked_keeps (id : FbiobAuxId) : Accounts inserting (removeLocked id s).2 := by
  unfold removeLocked
  cases found : s.devices.find? fun adap => fbiobAuxdevMatch adap.id id with
  | none => exact accounts
  | some adap =>
    have member : adap ∈ s.devices := List.mem_of_find?_eq_some found
    have once : s.devices.Nodup := List.Nodup.of_map _ accounts.listedOnce
    have unique := List.inj_on_of_nodup_map accounts.listedOnce
    have erased : (s.devices.erase adap).Sublist s.devices := List.erase_sublist
    refine unregister_keeps accounts {adap.id} ?_ ?_ ?_ ?_ ?_
    · exact accounts.registeredOnce.erase adap.id
    · exact accounts.listedOnce.sublist (erased.map _)
    · intro other
      rw [accounts.registeredOnce.mem_erase_iff, Set.mem_singleton_iff]
      exact and_comm
    · intro other
      constructor
      · intro still
        obtain ⟨kept, stays, rfl⟩ := List.mem_map.mp still
        obtain ⟨different, present⟩ := once.mem_erase_iff.mp stays
        exact ⟨List.mem_map_of_mem present, fun same => different (unique present member same)⟩
      · rintro ⟨present, different⟩
        obtain ⟨kept, stays, rfl⟩ := List.mem_map.mp present
        apply List.mem_map_of_mem
        exact once.mem_erase_iff.mpr ⟨fun same => different (congrArg _ same), stays⟩
    · rintro other rfl
      exact List.mem_map_of_mem member

/-- The removal of the PCI device keeps the account. -/
theorem destroy_locked_keeps : Accounts inserting (destroyLocked s) := by
  obtain ⟨once, remaining⟩ := unregister_all s.devices accounts.registeredOnce
  refine unregister_keeps accounts {id | id ∈ s.listed} once List.nodup_nil remaining
    ?_ fun id member => member
  intro id
  exact iff_of_false List.not_mem_nil fun both => both.2 both.1

end Sections

/-! ## Calls in progress -/

/-- The device that a program has registered and is about to insert. -/
def inserts : AuxIo Int → Set FbiobAuxId
  | .perform (.listAdd adap) _ => {adap.id}
  | _ => ∅

/-- What comes after an operation of a call. -/
def Follows : (op : AuxOp) → (op.Reply → AuxIo Int) → Prop
  | .auxiliaryDeviceAdd adap, next => ∀ ret, next ret =
      if ret < 0 then .done ret else .perform (.listAdd adap) fun _ => .done 0
  | .listAdd _, next => (next ()).Finished
  | .removeLocked _, next => ∀ ret, (next ret).Finished
  | .destroyLocked, next => (next ()).Finished

/-- The program stands inside a call. -/
def Handler : AuxIo Int → Prop
  | .done _ => True
  | .perform op next => Follows op next

/-- A program that has finished stands inside a call. -/
theorem handler_finished {program : AuxIo Int} (finished : program.Finished) : Handler program := by
  obtain ⟨value, rfl⟩ := finished
  trivial

/-- A program that has finished inserts nothing more. -/
theorem inserts_finished {program : AuxIo Int} (finished : program.Finished) :
    inserts program = ∅ := by
  obtain ⟨value, rfl⟩ := finished
  rfl

/-- Adding a device stands inside a call, and has registered nothing yet. -/
theorem add_unstarted (allocated : Bool) (adap : FbiobAuxAdapter) :
    Handler (fbiobAuxdevAdd allocated adap) ∧ inserts (fbiobAuxdevAdd allocated adap) = ∅ := by
  unfold fbiobAuxdevAdd
  split
  · exact ⟨trivial, rfl⟩
  · exact ⟨fun ret => rfl, rfl⟩

/-- A call that has not started has nothing to insert. -/
theorem call_unstarted (cdesc : FbiobCdevDesc) (call : AuxCall) :
    Handler (call.routine cdesc) ∧ inserts (call.routine cdesc) = ∅ := by
  cases call with
  | pciRemove => exact ⟨⟨0, rfl⟩, rfl⟩
  | ioctl cmd user allocated =>
    cases user with
    | none => exact ⟨trivial, rfl⟩
    | some auxData =>
      cases cmd with
      | newDevice =>
        simp only [AuxCall.routine, fbiobCdevIoctl]
        split
        · exact add_unstarted allocated _
        · exact ⟨trivial, rfl⟩
      | delDevice => exact ⟨fun ret => ⟨ret, rfl⟩, rfl⟩
      | other => exact ⟨trivial, rfl⟩

section Pool

variable {Thread : Type} [DecidableEq Thread]

/-- The invariant of all runs. -/
abbrev Consistent (pool : Pool Thread AuxOp AuxOp.Reply Int FbiobAuxBus) : Prop :=
  pool.Owned Handler inserts Accounts

/-- Every step keeps the account. -/
theorem step_keeps {thread : Thread} {pool next : Pool Thread AuxOp AuxOp.Reply Int FbiobAuxBus}
    (consistent : Consistent pool) (advanced : pool.advance auxBus thread = some next) :
    Consistent next := by
  obtain ⟨op, continuation, reply, shared, current, answered, rfl⟩ :=
    Pool.advance_cases advanced
  have follows : Follows op continuation := by
    have handler := consistent.form thread
    rwa [current] at handler
  have split := pool.claimed_split inserts thread
  rw [current] at split
  have accounts := consistent.shared
  rw [split] at accounts
  -- Only a thread that is about to insert a device claims one.
  cases op with
  | auxiliaryDeviceAdd adap =>
    have waiting : Accounts (pool.claimedBeside inserts thread) pool.shared := by
      simpa [inserts] using accounts
    have answer : auxiliaryDeviceAdd adap pool.shared = (reply, shared) := Option.some.inj answered
    unfold auxiliaryDeviceAdd at answer
    by_cases taken : adap.id ∈ pool.shared.registered
    · rw [if_pos taken] at answer
      obtain ⟨rfl, rfl⟩ := Prod.mk.inj answer
      have refused : continuation (-eexist) = .done (-eexist) := follows (-eexist)
      have finished : (continuation (-eexist)).Finished := ⟨-eexist, refused⟩
      exact consistent.advance_unclaimed (handler_finished finished) (inserts_finished finished)
        waiting
    · rw [if_neg taken] at answer
      obtain ⟨rfl, rfl⟩ := Prod.mk.inj answer
      have registered : continuation 0 = .perform (.listAdd adap) fun _ => .done 0 := follows 0
      rw [registered]
      have form : Handler (.perform (.listAdd adap) fun _ => .done 0 : AuxIo Int) := ⟨0, rfl⟩
      apply consistent.advance form
      · rintro id rfl ⟨other, different, inserting⟩
        exact taken ((waiting.accounted adap.id).mpr (Or.inr ⟨other, different, inserting⟩))
      · exact register_keeps waiting taken
  | listAdd adap =>
    obtain ⟨rfl, rfl⟩ := Prod.mk.inj (Option.some.inj answered)
    have apart : adap.id ∉ pool.claimedBeside inserts thread := by
      apply consistent.exclusive thread
      rw [current]
      rfl
    exact consistent.advance_unclaimed (handler_finished follows) (inserts_finished follows)
      (list_add_keeps accounts rfl apart)
  | removeLocked id =>
    obtain ⟨rfl, rfl⟩ := Prod.mk.inj (Option.some.inj answered)
    have waiting : Accounts (pool.claimedBeside inserts thread) pool.shared := by
      simpa [inserts] using accounts
    have finished := follows (removeLocked id pool.shared).1
    exact consistent.advance_unclaimed (handler_finished finished) (inserts_finished finished)
      (remove_locked_keeps waiting id)
  | destroyLocked =>
    obtain ⟨rfl, rfl⟩ := Prod.mk.inj (Option.some.inj answered)
    have waiting : Accounts (pool.claimedBeside inserts thread) pool.shared := by
      simpa [inserts] using accounts
    exact consistent.advance_unclaimed (handler_finished follows) (inserts_finished follows)
      (destroy_locked_keeps waiting)

/-- A device is inserted under a mutex that is not destroyed. -/
def InsertsAlive (s : FbiobAuxBus) : Option AuxOp → Prop
  | some (.listAdd _) => s.mutexDestroyed = false
  | _ => True

instance InsertsAlive.decidable (s : FbiobAuxBus) :
    (op : Option AuxOp) → Decidable (InsertsAlive s op)
  | some (.listAdd _) => inferInstanceAs (Decidable (s.mutexDestroyed = false))
  | some (.auxiliaryDeviceAdd _) | some (.removeLocked _) | some .destroyLocked | none =>
      .isTrue trivial

/-- A thread that is about to insert a device finds the bus in place. -/
def MutexAlive (thread : Thread) (pool : Pool Thread AuxOp AuxOp.Reply Int FbiobAuxBus) : Prop :=
  InsertsAlive pool.shared (pool.program thread).pending

omit [DecidableEq Thread] in
instance (thread : Thread) (pool : Pool Thread AuxOp AuxOp.Reply Int FbiobAuxBus) :
    Decidable (MutexAlive thread pool) :=
  InsertsAlive.decidable _ _

/-- Once the mutex is destroyed, nothing is listed. -/
def Emptied (pool : Pool Thread AuxOp AuxOp.Reply Int FbiobAuxBus) : Prop :=
  pool.shared.mutexDestroyed = true → pool.shared.devices = []

/-- Without insertions after the removal, the list stays empty. -/
theorem step_empties {thread : Thread} {pool next : Pool Thread AuxOp AuxOp.Reply Int FbiobAuxBus}
    (emptied : Emptied pool) (alive : MutexAlive thread pool)
    (advanced : pool.advance auxBus thread = some next) : Emptied next := by
  obtain ⟨op, continuation, reply, shared, current, answered, rfl⟩ :=
    Pool.advance_cases advanced
  cases op with
  | auxiliaryDeviceAdd adap =>
    have answer : auxiliaryDeviceAdd adap pool.shared = (reply, shared) := Option.some.inj answered
    unfold auxiliaryDeviceAdd at answer
    split at answer
    · obtain ⟨rfl, rfl⟩ := Prod.mk.inj answer
      exact emptied
    · obtain ⟨rfl, rfl⟩ := Prod.mk.inj answer
      exact emptied
  | listAdd adap =>
    obtain ⟨rfl, rfl⟩ := Prod.mk.inj (Option.some.inj answered)
    intro destroyed
    simp only [MutexAlive, current, Program.pending, InsertsAlive] at alive
    exact absurd destroyed (by simp [alive])
  | removeLocked id =>
    have answer : removeLocked id pool.shared = (reply, shared) := Option.some.inj answered
    unfold removeLocked at answer
    split at answer
    · obtain ⟨rfl, rfl⟩ := Prod.mk.inj answer
      exact emptied
    · rename_i adap found
      obtain ⟨rfl, rfl⟩ := Prod.mk.inj answer
      intro destroyed
      have none := emptied destroyed
      exact absurd (List.mem_of_find?_eq_some found) (by simp [none])
  | destroyLocked =>
    obtain ⟨rfl, rfl⟩ := Prod.mk.inj (Option.some.inj answered)
    exact fun _ => rfl

/-! ## All interleavings -/

/-- A bus without devices, and calls that have not started. -/
def startCalls (cdesc : FbiobCdevDesc) (calls : Thread → AuxCall) :
    Pool Thread AuxOp AuxOp.Reply Int FbiobAuxBus where
  shared := ⟨[], [], false⟩
  program := fun thread => (calls thread).routine cdesc

omit [DecidableEq Thread] in
/-- The invariant holds before any call starts. -/
theorem start_consistent (cdesc : FbiobCdevDesc) (calls : Thread → AuxCall) :
    Consistent (startCalls cdesc calls) := by
  have idle (thread : Thread) : inserts ((startCalls cdesc calls).program thread) = ∅ :=
    (call_unstarted cdesc (calls thread)).2
  have none : (startCalls cdesc calls).claimed inserts = ∅ := by
    ext id
    simp [Pool.claimed, idle]
  constructor
  · exact fun thread => (call_unstarted cdesc (calls thread)).1
  · intro thread id member
    rw [idle] at member
    exact absurd member (Set.notMem_empty id)
  · rw [none]
    exact ⟨List.nodup_nil, List.nodup_nil, fun id => by simp [startCalls, FbiobAuxBus.listed],
      fun id member => absurd member (Set.notMem_empty id)⟩

/-- In every interleaving of NEW_DEVICE, DEL_DEVICE and PCI removal, any in
number: whenever no call is in progress, the registered devices are the listed
ones, each of them once. If no device is inserted after the PCI removal has
destroyed the bus, then no device is registered once the removal is over. -/
theorem devices_accounted (cdesc : FbiobCdevDesc) (calls : Thread → AuxCall)
    (schedule : List Thread) (last : Pool Thread AuxOp AuxOp.Reply Int FbiobAuxBus)
    (ran : (startCalls cdesc calls).run auxBus schedule = some last)
    (quiescent : ∀ thread, last.program thread = (calls thread).routine cdesc ∨
      (last.program thread).Finished) :
    last.shared.InSync ∧
      ((startCalls cdesc calls).Meets auxBus MutexAlive schedule →
        last.shared.mutexDestroyed = true → last.shared.registered = []) := by
  have unrestricted : (startCalls cdesc calls).Meets auxBus (fun _ _ => True) schedule :=
    Pool.meets_true schedule _
  have consistent : Consistent last :=
    Pool.run_invariant (fun _ _ _ kept _ advanced => step_keeps kept advanced) schedule
      (start_consistent cdesc calls) unrestricted ran
  have none : last.claimed inserts = ∅ := by
    ext id
    refine iff_of_false ?_ (Set.notMem_empty id)
    rintro ⟨thread, member⟩
    obtain unstarted | finished := quiescent thread
    · rw [unstarted, (call_unstarted cdesc (calls thread)).2] at member
      exact Set.notMem_empty id member
    · rw [inserts_finished finished] at member
      exact Set.notMem_empty id member
  have accounts := consistent.shared
  rw [none] at accounts
  have sync := accounts.in_sync
  refine ⟨sync, fun alive destroyed => ?_⟩
  have emptied : Emptied last :=
    Pool.run_invariant (fun _ _ _ kept alive advanced => step_empties kept alive advanced) schedule
      (fun never => absurd never Bool.false_ne_true) alive ran
  have unlisted : last.shared.listed = [] := by
    rw [FbiobAuxBus.listed, emptied destroyed]
    rfl
  rw [List.eq_nil_iff_forall_not_mem]
  intro id registered
  rw [sync.same, unlisted] at registered
  exact absurd registered List.not_mem_nil

end Pool

/-! ## A device that outlives its bus -/

/-- A BAR at address 0. -/
def lowBar : FbiobCdevDesc := ⟨0, 0x10000⟩

/-- An I2C controller at the start of the BAR. -/
def controller : FbiobAuxAdapter := ⟨⟨[0x69, 0x32, 0x63], 1⟩, ⟨0x100, fbiobInvalidOffset⟩⟩

/-- NEW_DEVICE of the controller, and the removal of the PCI device. -/
def removingCalls : Fin 2 → AuxCall
  | 0 => .ioctl .newDevice (some controller) true
  | 1 => .pciRemove

/-- The registered and the listed devices, whether the bus is destroyed, and
whether every call has returned. -/
def outcome (pool : Pool (Fin 2) AuxOp AuxOp.Reply Int FbiobAuxBus) :
    List FbiobAuxId × List FbiobAuxId × Bool × Bool :=
  (pool.shared.registered, pool.shared.listed, pool.shared.mutexDestroyed,
    (List.finRange 2).all fun thread => (pool.program thread).pending.isNone)

/-- What an outcome says about the run. -/
theorem removing_run {schedule : List (Fin 2)} {registered listed : List FbiobAuxId}
    (seen : ((startCalls lowBar removingCalls).run auxBus schedule).map outcome =
      some (registered, listed, true, true)) :
    ∃ last, (startCalls lowBar removingCalls).run auxBus schedule = some last ∧
      last.shared.registered = registered ∧ last.shared.mutexDestroyed = true ∧
        ∀ thread, (last.program thread).Finished := by
  obtain ⟨last, ran, same⟩ := Option.map_eq_some_iff.mp seen
  simp only [outcome, Prod.mk.injEq] at same
  obtain ⟨sameRegistered, _, destroyed, returned⟩ := same
  refine ⟨last, ran, sameRegistered, destroyed, fun thread => ?_⟩
  rw [Program.finished_iff]
  exact Option.isNone_iff_eq_none.mp (List.all_eq_true.mp returned thread (List.mem_finRange _))

/-- A device that is listed before the removal is unregistered by it. -/
theorem listed_device_removed :
    ∃ last, (startCalls lowBar removingCalls).run auxBus [0, 0, 1] = some last ∧
      last.shared.InSync ∧ last.shared.registered = [] := by
  have seen : ((startCalls lowBar removingCalls).run auxBus [0, 0, 1]).map outcome =
      some ([], [], true, true) := by decide +kernel
  obtain ⟨last, ran, _, destroyed, finished⟩ := removing_run seen
  obtain ⟨sync, none⟩ := devices_accounted lowBar removingCalls [0, 0, 1] last ran
    fun thread => Or.inr (finished thread)
  exact ⟨last, ran, sync, none (by decide +kernel) destroyed⟩

/-- A device that is registered before the removal and inserted after it stays
registered. -/
theorem unlisted_device_leaked :
    ¬∀ last, (startCalls lowBar removingCalls).run auxBus [0, 1, 0] = some last →
      (∀ thread, last.program thread = (removingCalls thread).routine lowBar ∨
        (last.program thread).Finished) →
      last.shared.InSync ∧
        (last.shared.mutexDestroyed = true → last.shared.registered = []) := by
  intro claim
  have seen : ((startCalls lowBar removingCalls).run auxBus [0, 1, 0]).map outcome =
      some ([controller.id], [controller.id], true, true) := by decide +kernel
  obtain ⟨last, ran, registered, destroyed, finished⟩ := removing_run seen
  have none := (claim last ran fun thread => Or.inr (finished thread)).2 destroyed
  rw [registered] at none
  exact absurd none (by decide)

end FbossBsp.Auxdev
