import FbossBsp.CpldTable
import FbossBsp.Interaction.Atomic
import FbossBsp.Interaction.Interleaving
import Mathlib.Data.Fintype.Basic

/-!
# Concurrent creation and removal of attributes

CREATE holds `entries_lock` for its whole loop and is one step. DESTROY_ALL
takes the entries under the lock and removes their files afterwards, one step
for each file, reading each name from its slot at that moment. In between, the
slots are free for CREATE again.

Calls run in threads of their own, any number of them, and their steps are
interleaved in any way.
-/

namespace FbossBsp.Fbcpld

open Interaction

/-! ## The handlers -/

/-- `struct fbcpld_ioctl_create_request`. -/
structure CreateRequest where
  numAttrs : BitVec 32
  attrs : Fin fbcpldMaxAttrsPerIoctl → FbcpldSysfsAttr

/-- The attributes that the loop visits. -/
def CreateRequest.requested (req : CreateRequest) : List FbcpldSysfsAttr :=
  (List.ofFn req.attrs).take req.numAttrs.toNat

/-- A section under the lock, or the removal of one file. -/
inductive CdevOp where
  | createLocked (req : CreateRequest)
  | takeEntries
  | removeFile (slot : Nat)

@[reducible] def CdevOp.Reply : CdevOp → Type
  | .createLocked _ => Int
  | .takeEntries => Nat
  | .removeFile _ => Unit

abbrev Cdev := Program CdevOp CdevOp.Reply

/-- What the operations do to the table and a directory. -/
def cdevOn {Dir : Type} (sysfs : Sysfs Dir) : Device CdevOp CdevOp.Reply (Cpld Dir)
  | .createLocked req, s => createLoop sysfs req.requested 0 s
  | .takeEntries, s => takeEntries s
  | .removeFile slot, s => ((), removeEntryFile sysfs slot s)

/-- What they do to the table and the directory of the device, for any thread. -/
def cdev {Thread : Type} : Shared Thread CdevOp CdevOp.Reply (Cpld SysfsDir) :=
  (cdevOn namedFiles).shared

/-- `fbcpld_sysfs_create`, given whether the allocation succeeds and what
`copy_from_user` copies, if it succeeds. -/
def fbcpldSysfsCreate (allocated : Bool) (user : Option CreateRequest) : Cdev Int :=
  if allocated = false then return -enomem
  else match user with
    | none => return -efault
    | some req =>
      if req.numAttrs = 0 ∨ req.numAttrs > BitVec.ofNat 32 fbcpldMaxAttrsPerIoctl then
        return -einval
      else .perform (.createLocked req) .done

/-- `for (i = 0; i < count; i++) sysfs_remove_file(..)`, from a slot on. -/
def removeLoop : (remaining slot : Nat) → Cdev Unit
  | 0, _ => pure ()
  | remaining + 1, slot => do
      Program.perform (.removeFile slot) .done
      removeLoop remaining (slot + 1)

/-- `fbcpld_sysfs_destroy_all`. -/
def fbcpldSysfsDestroyAll : Cdev Int := do
  let count ← Program.perform .takeEntries .done
  removeLoop count 0
  return 0

/-- The calls of `fbcpld_cdev_ioctl`. -/
inductive IoctlCall where
  | sysfsCreate (allocated : Bool) (user : Option CreateRequest)
  | sysfsDestroyAll
  | other

/-- `fbcpld_cdev_ioctl`. -/
def fbcpldCdevIoctl : IoctlCall → Cdev Int
  | .sysfsCreate allocated user => fbcpldSysfsCreate allocated user
  | .sysfsDestroyAll => fbcpldSysfsDestroyAll
  | .other => return -enotty

/-! ## Calls in progress -/

/-- What DESTROY_ALL has left to do once it has taken the entries. -/
def destroyTail (remaining slot : Nat) : Cdev Int := do
  removeLoop remaining slot
  return 0

/-- The slots whose files a program removes next. -/
def removals : Cdev Int → List Nat
  | .perform (.removeFile slot) next => slot :: removals (next ())
  | _ => []

/-- The slots that a program has yet to remove. -/
def pendingSlots (program : Cdev Int) : Set Nat := {slot | slot ∈ removals program}

/-- What DESTROY_ALL has left removes the slots from one on. -/
theorem removals_tail (remaining slot : Nat) :
    removals (destroyTail remaining slot) = List.range' slot remaining := by
  induction remaining generalizing slot with
  | zero => rfl
  | succ remaining inductionHypothesis =>
    exact congrArg (slot :: ·) (inductionHypothesis (slot + 1))

/-- A call that has not started removes nothing next. -/
theorem removals_unstarted (call : IoctlCall) : removals (fbcpldCdevIoctl call) = [] := by
  cases call with
  | sysfsCreate allocated user =>
    simp only [fbcpldCdevIoctl, fbcpldSysfsCreate]
    split
    · rfl
    · cases user with
      | none => rfl
      | some req =>
        simp only
        split <;> rfl
  | sysfsDestroyAll => rfl
  | other => rfl

/-- A program that has finished removes nothing more. -/
theorem removals_finished {program : Cdev Int} (finished : program.Finished) :
    removals program = [] := by
  obtain ⟨value, rfl⟩ := finished
  rfl

/-- What comes after an operation of a handler. -/
def Follows : (op : CdevOp) → (op.Reply → Cdev Int) → Prop
  | .createLocked _, next => ∀ ret, (next ret).Finished
  | .takeEntries, next => ∀ count, next count = destroyTail count 0
  | .removeFile slot, next => ∃ remaining, next () = destroyTail remaining (slot + 1)

/-- The program stands inside a handler. -/
def Handler : Cdev Int → Prop
  | .done _ => True
  | .perform op next => Follows op next

/-- An ioctl that has not started stands inside a handler. -/
theorem handler_unstarted (call : IoctlCall) : Handler (fbcpldCdevIoctl call) := by
  cases call with
  | sysfsCreate allocated user =>
    simp only [fbcpldCdevIoctl, fbcpldSysfsCreate]
    split
    · trivial
    · cases user with
      | none => trivial
      | some req =>
        simp only
        split
        · trivial
        · exact fun ret => ⟨ret, rfl⟩
  | sysfsDestroyAll => exact fun count => rfl
  | other => trivial

/-- What is left of destroying all files stands inside a handler. -/
theorem handler_tail (remaining slot : Nat) : Handler (destroyTail remaining slot) := by
  cases remaining with
  | zero => trivial
  | succ remaining => exact ⟨remaining, rfl⟩

/-- A program that has finished stands inside a handler. -/
theorem handler_finished {program : Cdev Int} (finished : program.Finished) : Handler program := by
  obtain ⟨value, rfl⟩ := finished
  trivial

/-! ## The pool -/

section Pool

variable {Thread : Type} [DecidableEq Thread]

/-- A CREATE section initializes no pending slot under another name. -/
def SparesOp (pending : Set Nat) (s : Cpld SysfsDir) : Option CdevOp → Prop
  | some (.createLocked req) => Spares pending req.requested s
  | _ => True

/-- What the thread is about to do spares the slots of every DESTROY_ALL in
progress. -/
def SparesPending (thread : Thread)
    (pool : Pool Thread CdevOp CdevOp.Reply Int (Cpld SysfsDir)) : Prop :=
  SparesOp (pool.claimed pendingSlots) pool.shared (pool.program thread).pending

/-- The invariant of all runs: each thread stands inside a handler, no two threads
remove the same slot, and the pending slots back their files. -/
abbrev Consistent (pool : Pool Thread CdevOp CdevOp.Reply Int (Cpld SysfsDir)) : Prop :=
  pool.Owned Handler pendingSlots TableInvariant

/-- Every permitted step keeps the invariant.

Proof: by the operation. A CREATE section spares what is pending, the taken entries
become those of the thread, and a removed slot is no longer one of its own. -/
theorem step_keeps {thread : Thread}
    {pool next : Pool Thread CdevOp CdevOp.Reply Int (Cpld SysfsDir)}
    (consistent : Consistent pool) (spares : SparesPending thread pool)
    (advanced : pool.advance cdev thread = some next) : Consistent next := by
  obtain ⟨op, continuation, reply, shared, current, answered, rfl⟩ :=
    Pool.advance_cases advanced
  have follows : Follows op continuation := by
    have handler := consistent.form thread
    rwa [current] at handler
  have split := pool.claimed_split pendingSlots thread
  rw [current] at split
  have table := consistent.shared
  cases op with
  | createLocked req =>
    obtain ⟨rfl, rfl⟩ := Prod.mk.inj (Option.some.inj answered)
    have finished := follows (createLoop namedFiles req.requested 0 pool.shared).1
    have none : pendingSlots (continuation
        (createLoop namedFiles req.requested 0 pool.shared).1) = ∅ := by
      simp [pendingSlots, removals_finished finished]
    have permitted : Spares (pool.claimed pendingSlots) req.requested pool.shared := by
      simpa only [SparesPending, current, Program.pending, SparesOp] using spares
    have others : pool.claimed pendingSlots = pool.claimedBeside pendingSlots thread := by
      simpa [pendingSlots, removals] using split
    apply consistent.advance_unclaimed (handler_finished finished) none
    rw [← others]
    exact create_loop_keeps req.requested 0 table permitted
  | takeEntries =>
    obtain ⟨rfl, rfl⟩ := Prod.mk.inj (Option.some.inj answered)
    have others : pool.claimed pendingSlots = pool.claimedBeside pendingSlots thread := by
      simpa [pendingSlots, removals] using split
    have taken : pendingSlots (continuation pool.shared.cdesc.numEntries) =
        pool.shared.cdesc.live := by
      rw [follows, pendingSlots, removals_tail]
      ext slot
      simp [FbcpldCdevDesc.live]
    apply consistent.advance
    · rw [follows]
      exact handler_tail _ _
    · intro slot member
      have live : slot ∈ pool.shared.cdesc.live := taken ▸ member
      rw [← others]
      exact fun waits => absurd (table.separate slot waits) (Nat.not_le.mpr live)
    · rw [taken, ← others]
      exact take_entries_keeps table
  | removeFile slot =>
    obtain ⟨rfl, rfl⟩ := Prod.mk.inj (Option.some.inj answered)
    obtain ⟨remaining, later⟩ := follows
    have mine : slot ∈ pendingSlots (pool.program thread) := by
      simp [pendingSlots, current, removals]
    have others := consistent.exclusive thread slot mine
    have rest : removals (continuation ()) = List.range' (slot + 1) remaining := by
      rw [later, removals_tail]
    have settled : pool.claimed pendingSlots \ {slot} =
        pendingSlots (continuation ()) ∪ pool.claimedBeside pendingSlots thread := by
      rw [split]
      ext next
      simp only [pendingSlots, removals, rest, Set.mem_sdiff, Set.mem_union, Set.mem_ofPred_eq,
        List.mem_cons, List.mem_range'_1, Set.mem_singleton_iff]
      constructor
      · rintro ⟨(rfl | later) | other, different⟩
        · exact absurd rfl different
        · exact Or.inl later
        · exact Or.inr other
      · rintro (later | other)
        · exact ⟨Or.inl (Or.inr later), by omega⟩
        · exact ⟨Or.inr other, fun same => others (same ▸ other)⟩
    apply consistent.advance
    · rw [later]
      exact handler_tail _ _
    · intro next member
      apply consistent.exclusive thread next
      rw [current]
      exact List.mem_cons_of_mem slot member
    · rw [← settled]
      exact remove_entry_keeps table ⟨thread, mine⟩

/-! ## All interleavings -/

/-- A zeroed entry. -/
def zeroEntry : FbcpldDynEntry := ⟨0, false, false, ⟨fun _ => 0, 0, 0, 0, 0, 0, 0, fun _ => 0⟩⟩

/-- A registered device without entries, and calls that have not started. The
other files of its directory are arbitrary. -/
def startCalls (calls : Thread → IoctlCall) (fixed : List FileName) :
    Pool Thread CdevOp CdevOp.Reply Int (Cpld SysfsDir) where
  shared := ⟨⟨fun _ => zeroEntry, 0, Nat.zero_le _⟩, ⟨fixed, []⟩⟩
  program := fun thread => fbcpldCdevIoctl (calls thread)

omit [DecidableEq Thread] in
/-- The invariant holds before any call starts. -/
theorem start_consistent (calls : Thread → IoctlCall) (fixed : List FileName) :
    Consistent (startCalls calls fixed) := by
  have idle : (startCalls calls fixed).claimed pendingSlots = ∅ := by
    ext slot
    simp [Pool.claimed, pendingSlots, startCalls, removals_unstarted]
  constructor
  · exact fun thread => handler_unstarted (calls thread)
  · intro thread slot member
    rw [startCalls, pendingSlots, removals_unstarted] at member
    exact absurd member List.not_mem_nil
  · rw [idle]
    constructor
    · exact fun slot member => absurd member (Set.notMem_empty slot)
    · simp [Backs, startCalls, FbcpldCdevDesc.live]
    · exact fun name member => absurd member List.not_mem_nil

/-- In every interleaving of CREATE and DESTROY_ALL calls, any in number, in
which no CREATE initializes under another name a slot that a DESTROY_ALL in
progress has yet to remove: whenever no call is in progress, the dynamic files
are those named by the entries of the table.

Proof: the live and the pending slots back the dynamic files throughout, and
between calls nothing is pending. -/
theorem directory_in_sync (calls : Thread → IoctlCall) (fixed : List FileName)
    (schedule : List Thread) (last : Pool Thread CdevOp CdevOp.Reply Int (Cpld SysfsDir))
    (spares : (startCalls calls fixed).Meets cdev SparesPending schedule)
    (ran : (startCalls calls fixed).run cdev schedule = some last)
    (quiescent : ∀ thread, last.program thread = fbcpldCdevIoctl (calls thread) ∨
      (last.program thread).Finished) :
    last.shared.InSync := by
  have consistent : Consistent last := by
    apply Pool.run_invariant _ schedule (start_consistent calls fixed) spares ran
    intro thread pool next kept permitted advanced
    exact step_keeps kept permitted advanced
  have idle : last.claimed pendingSlots = ∅ := by
    ext slot
    constructor
    · rintro ⟨thread, member⟩
      obtain unstarted | finished := quiescent thread
      · rw [pendingSlots, unstarted, removals_unstarted] at member
        exact absurd member List.not_mem_nil
      · rw [pendingSlots, removals_finished finished] at member
        exact absurd member List.not_mem_nil
    · exact fun member => absurd member (Set.notMem_empty slot)
  have table := consistent.shared
  rw [idle] at table
  exact table.in_sync

instance [Fintype Thread] (pool : Pool Thread CdevOp CdevOp.Reply Int (Cpld SysfsDir)) :
    DecidablePred (· ∈ pool.claimed pendingSlots) :=
  fun slot => inferInstanceAs (Decidable (∃ thread, slot ∈ removals (pool.program thread)))

instance SparesOp.decidable (pending : Set Nat) [DecidablePred (· ∈ pending)]
    (s : Cpld SysfsDir) : (op : Option CdevOp) → Decidable (SparesOp pending s op)
  | some (.createLocked req) => Spares.decidable pending req.requested s
  | some .takeEntries | some (.removeFile _) | none => .isTrue trivial

instance [Fintype Thread] (thread : Thread)
    (pool : Pool Thread CdevOp CdevOp.Reply Int (Cpld SysfsDir)) :
    Decidable (SparesPending thread pool) :=
  SparesOp.decidable _ _ _

end Pool

/-! ## A removal and a creation -/

/-- A readable attribute with a name of one letter. -/
def attrNamed (letter : BitVec 8) : FbcpldSysfsAttr :=
  ⟨fun i => if i.val = 0 then letter else 0, 0, 0o444, 0, 0, 8, 0, fun _ => 0⟩

/-- A request for one attribute. -/
def requestNamed (letter : BitVec 8) : CreateRequest := ⟨1, fun _ => attrNamed letter⟩

/-- CREATE of `a`, DESTROY_ALL, and CREATE of `b`. -/
def racingCalls : Fin 3 → IoctlCall
  | 0 => .sysfsCreate true (some (requestNamed 0x61))
  | 1 => .sysfsDestroyAll
  | 2 => .sysfsCreate true (some (requestNamed 0x62))

/-- The names in the table. -/
def FbcpldCdevDesc.names (cdesc : FbcpldCdevDesc) : List FileName :=
  (List.range cdesc.numEntries).map cdesc.nameAt

/-- The files in sync are those that some slot names. -/
theorem in_sync_iff (s : Cpld SysfsDir) :
    s.InSync ↔ ∀ name, name ∈ s.dir.dynamic ↔ name ∈ s.cdesc.names := by
  rw [Cpld.InSync, Set.ext_iff]
  apply forall_congr'
  intro name
  simp [FbcpldCdevDesc.names, FbcpldCdevDesc.live]

/-- The files, the names in the table, and whether every call has returned. -/
def outcome (pool : Pool (Fin 3) CdevOp CdevOp.Reply Int (Cpld SysfsDir)) :
    List FileName × List FileName × Bool :=
  (pool.shared.dir.dynamic, pool.shared.cdesc.names,
    (List.finRange 3).all fun thread => (pool.program thread).pending.isNone)

/-- What an outcome says about the run. -/
theorem racing_run {schedule : List (Fin 3)} {files names : List FileName}
    (seen : ((startCalls racingCalls []).run cdev schedule).map outcome =
      some (files, names, true)) :
    ∃ last, (startCalls racingCalls []).run cdev schedule = some last ∧
      last.shared.dir.dynamic = files ∧ last.shared.cdesc.names = names ∧
        ∀ thread, (last.program thread).Finished := by
  obtain ⟨last, ran, same⟩ := Option.map_eq_some_iff.mp seen
  simp only [outcome, Prod.mk.injEq] at same
  obtain ⟨sameFiles, sameNames, returned⟩ := same
  refine ⟨last, ran, sameFiles, sameNames, fun thread => ?_⟩
  rw [Program.finished_iff]
  exact Option.isNone_iff_eq_none.mp (List.all_eq_true.mp returned thread (List.mem_finRange _))

/-- One after the other, the three calls leave the file `b` of the entry `b`. -/
theorem serial_calls_in_sync :
    ∃ last, (startCalls racingCalls []).run cdev [0, 1, 1, 2] = some last ∧
      last.shared.InSync := by
  have seen : ((startCalls racingCalls []).run cdev [0, 1, 1, 2]).map outcome =
      some ([[0x62]], [[0x62]], true) := by decide +kernel
  obtain ⟨last, ran, _, _, finished⟩ := racing_run seen
  exact ⟨last, ran, directory_in_sync racingCalls [] [0, 1, 1, 2] last (by decide +kernel) ran
    fun thread => Or.inr (finished thread)⟩

/-- When `b` is created between the two steps of DESTROY_ALL, its file is
removed, and the file `a` stays without an entry. -/
theorem reused_slot_drifts :
    ¬∀ last, (startCalls racingCalls []).run cdev [0, 1, 2, 1] = some last →
      (∀ thread, last.program thread = fbcpldCdevIoctl (racingCalls thread) ∨
        (last.program thread).Finished) → last.shared.InSync := by
  intro claim
  have seen : ((startCalls racingCalls []).run cdev [0, 1, 2, 1]).map outcome =
      some ([[0x61]], [[0x62]], true) := by decide +kernel
  obtain ⟨last, ran, files, names, finished⟩ := racing_run seen
  have sync := claim last ran fun thread => Or.inr (finished thread)
  have both := ((in_sync_iff last.shared).mp sync [0x61]).mp (by simp [files])
  rw [names] at both
  exact absurd both (by decide)

end FbossBsp.Fbcpld
