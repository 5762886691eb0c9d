import FbossBsp.Interaction.History
import FbossBsp.MdioHandshake
import Mathlib.Data.Fintype.Basic

/-!
# Resets of the MDIO bus during reads

Reads are serialised by the lock of the bus. A reset through sysfs does not take
it, and assigns `bus->state` while a read may be polling for its command. Every
register access and every access to `bus->state` is one step, and the steps of
all calls are interleaved in any way. The controller answers them as it likes.

Each call sees its own accesses only; what a read has seen says whether its
command was done.
-/

namespace FbossBsp.Mdio

open Interaction

/-! ## Calls -/

/-- An operation of a bus routine, or one on the lock of the bus. -/
inductive MdioOp where
  | mutexLock
  | mutexUnlock
  | bus (op : BusOp)
  deriving DecidableEq

@[reducible] def MdioOp.Reply : MdioOp → Type
  | .mutexLock => Unit
  | .mutexUnlock => Unit
  | .bus op => op.Reply

abbrev MdioIo := Program MdioOp MdioOp.Reply

/-- A bus routine among operations on the lock. -/
def onBus {α : Type} (program : BusIo α) : MdioIo α := program.embed .bus fun _ reply => reply

/-- `mdiobus_c45_read` holds the lock of the bus. -/
def mdiobusC45Read (addr devad regnum : BitVec 32) : MdioIo Int :=
  .perform .mutexLock fun _ => do
    let ret ← onBus (fbiobMdioReadC45 addr devad regnum)
    .perform .mutexUnlock fun _ => pure ret

/-- `reset_bus_store`. -/
def resetBusStore (count : Nat) : BusIo Int := do
  let ret ← fbiobMdioReset
  if ret ≠ 0 then pure ret else pure count

inductive MdioCall where
  | c45Read (addr devad regnum : BitVec 32)
  | resetBusStore (count : Nat)

def MdioCall.routine : MdioCall → MdioIo Int
  | .c45Read addr devad regnum => mdiobusC45Read addr devad regnum
  | .resetBusStore count => onBus (Mdio.resetBusStore count)

/-! ## The shared bus -/

/-- A controller of any kind. -/
structure Hardware (D : Type) where
  readl : Nat → D → BitVec 32 × D
  writel : Nat → BitVec 32 → D → D

/-- `bus->state`, the holder of the lock, and the controller. -/
structure SharedBus (Thread D : Type) where
  state : FbiobMdioState
  holder : Option Thread
  device : D

/-- What the operations do; a held lock makes its next taker wait. -/
def sharedBus {Thread D : Type} (hw : Hardware D) :
    Shared Thread MdioOp MdioOp.Reply (SharedBus Thread D)
  | thread, .mutexLock, s =>
    if s.holder.isSome then none else some ((), { s with holder := some thread })
  | _, .mutexUnlock, s => some ((), { s with holder := none })
  | _, .bus (.readl offset), s =>
    some ((hw.readl offset s.device).1, { s with device := (hw.readl offset s.device).2 })
  | _, .bus (.writel offset val), s =>
    some ((), { s with device := hw.writel offset val s.device })
  | _, .bus .loadState, s => some (s.state, s)
  | _, .bus (.storeState state), s => some ((), { s with state := state })

/-! ## Accesses after the command -/

/-- The access issues a command. -/
def issuesCommand : Event BusOp BusOp.Reply → Bool
  | ⟨.writel offset _, _⟩ => offset = fbiobMdioRegCmd
  | _ => false

/-- An access issues a command exactly when it writes CMD. -/
theorem issues_command_iff (event : Event BusOp BusOp.Reply) :
    issuesCommand event = true ↔ ¬NoCommand event.op := by
  obtain ⟨op, reply⟩ := event
  cases op <;> simp [issuesCommand, NoCommand]

/-- The accesses after the first command. -/
def sinceCommand : List (Event BusOp BusOp.Reply) → List (Event BusOp BusOp.Reply)
  | [] => []
  | event :: rest => if issuesCommand event then rest else sinceCommand rest

/-- Before a command there is nothing after it. -/
theorem since_command_append {first : List (Event BusOp BusOp.Reply)}
    (none : ∀ event ∈ first, NoCommand event.op) (second : List (Event BusOp BusOp.Reply)) :
    sinceCommand (first ++ second) = sinceCommand second := by
  induction first with
  | nil => rfl
  | cons event rest inductionHypothesis =>
    obtain ⟨here, later⟩ := List.forall_mem_cons.mp none
    have silent : issuesCommand event = false :=
      Bool.eq_false_iff.mpr fun issues => (issues_command_iff event).mp issues here
    rw [List.cons_append, sinceCommand, silent, if_neg Bool.false_ne_true]
    exact inductionHypothesis later

/-- One more access is one after the command if there was a command. -/
theorem since_command_snoc (p : Event BusOp BusOp.Reply → Bool)
    (events : List (Event BusOp BusOp.Reply)) (event : Event BusOp BusOp.Reply) :
    (sinceCommand (events ++ [event])).any p =
      ((sinceCommand events).any p || (events.any issuesCommand && p event)) := by
  induction events with
  | nil => cases issued : issuesCommand event <;> simp [sinceCommand, issued]
  | cons first rest inductionHypothesis =>
    rw [List.cons_append, sinceCommand, sinceCommand, List.any_cons]
    cases issued : issuesCommand first with
    | true => simp
    | false => simpa using inductionHypothesis

/-- An access among these loads READY, or reads a status with done. -/
def Polled (events : List (Event BusOp BusOp.Reply)) : Prop :=
  events.any loadsReady = true ∨ events.any showsDone = true

/-- A polled trace stays polled when more follows. -/
theorem Polled.append {first : List (Event BusOp BusOp.Reply)} (polled : Polled first)
    (second : List (Event BusOp BusOp.Reply)) : Polled (first ++ second) := by
  obtain ready | done := polled
  · exact Or.inl (by rw [List.any_append, ready, Bool.true_or])
  · exact Or.inr (by rw [List.any_append, done, Bool.true_or])

/-- A wait that returns 0 has polled READY or done. -/
theorem WaitShows.polled {events : List (Event BusOp BusOp.Reply)} (shows : WaitShows events 0) :
    Polled events := by
  obtain ⟨event, member, either⟩ := List.any_eq_true.mp (shows.passed rfl)
  obtain ready | done := Bool.or_eq_true_iff.mp either
  · exact Or.inl (List.any_eq_true.mpr ⟨event, member, ready⟩)
  · exact Or.inr (List.any_eq_true.mpr ⟨event, member, done⟩)

/-- A failed wait returns a negative number. -/
theorem WaitShows.negative {events : List (Event BusOp BusOp.Reply)} {ret : Int}
    (shows : WaitShows events ret) (failed : ret ≠ 0) : ret < 0 := by
  obtain rfl | rfl := shows.returned.resolve_left failed
  · decide
  · decide

/-- The end of a read returns a non-negative value only after it has polled
READY or done. -/
theorem collect_polled :
    collectRead.Traces fun events ret => 0 ≤ ret → Polled events := by
  apply Program.Traces.bind (wait_traces _)
  intro waited ret shown
  apply Program.Traces.bind clean_no_command.traces
  intro cleaned _ _ stored
  apply Program.Traces.ite
  · intro failed nonnegative
    exact absurd nonnegative (Int.not_le.mpr (shown.negative failed))
  · intro succeeded rdData nonnegative
    have zero : ret = 0 := not_not.mp succeeded
    subst zero
    exact shown.polled.append _

/-- A read returns a non-negative value only after it has polled READY or done
since its command. -/
theorem read_c45_polled (addr devad regnum : BitVec 32) :
    (fbiobMdioReadC45 addr devad regnum).Traces fun events ret =>
      0 ≤ ret → Polled (sinceCommand events) := by
  apply Program.Traces.bind (wait_traces _)
  intro waited ret shown
  apply Program.Traces.bind clean_no_command.traces
  rintro cleaned _ ⟨none, _⟩
  apply Program.Traces.ite
  · intro failed stored nonnegative
    exact absurd nonnegative (Int.not_le.mpr (shown.negative failed))
  · intro _ stored cmd written
    apply collect_polled.mono
    intro rest outcome polled nonnegative
    rw [since_command_append shown.noCommand, since_command_append none]
    exact polled nonnegative

/-! ## What each call sees -/

/-- An operation on the bus, not on the lock. -/
def busAccess : Event MdioOp MdioOp.Reply → Option (Event BusOp BusOp.Reply)
  | ⟨.bus op, reply⟩ => some ⟨op, reply⟩
  | _ => none

/-- A bus routine obeys its trace laws among operations on the lock. -/
theorem on_bus_traces {α : Type} {T : List (Event BusOp BusOp.Reply) → α → Prop}
    {program : BusIo α} (traced : program.Traces T) :
    (onBus program).Traces fun events value => T (events.filterMap busAccess) value :=
  traced.embed fun op answer =>
    (rfl : busAccess ⟨.bus op, answer⟩ = some ⟨op, answer⟩)

/-- A bus routine obeys its trace laws under the lock. -/
theorem locked_traces {T : List (Event BusOp BusOp.Reply) → Int → Prop} {program : BusIo Int}
    (traced : program.Traces T) :
    (Program.perform MdioOp.mutexLock fun _ => onBus program >>= fun ret =>
      Program.perform .mutexUnlock fun _ => pure ret).Traces fun events ret =>
        T (events.filterMap busAccess) ret := by
  intro locked
  apply Program.Traces.bind (on_bus_traces traced)
  intro events ret holds unlocked
  have seen : (⟨.mutexLock, locked⟩ :: (events ++ [⟨.mutexUnlock, unlocked⟩])).filterMap busAccess =
      events.filterMap busAccess := by
    have last : [Event.mk MdioOp.mutexUnlock unlocked].filterMap busAccess = [] := rfl
    rw [List.filterMap_cons_none rfl, List.filterMap_append, last, List.append_nil]
  change T ((⟨.mutexLock, locked⟩ :: (events ++ [⟨.mutexUnlock, unlocked⟩])).filterMap busAccess) ret
  rw [seen]
  exact holds

/-- A read under the lock returns a non-negative value only after it has polled
READY or done since its command. -/
theorem c45_read_polled (addr devad regnum : BitVec 32) :
    (mdiobusC45Read addr devad regnum).Traces fun events ret =>
      0 ≤ ret → Polled (sinceCommand (events.filterMap busAccess)) :=
  locked_traces (read_c45_polled addr devad regnum)

section Pool

variable {Thread D : Type} [DecidableEq Thread]

/-- The calls in progress, with what each of them has seen. -/
abbrev MdioPool (Thread D : Type) :=
  Pool Thread MdioOp MdioOp.Reply Int (Logged Thread MdioOp MdioOp.Reply (SharedBus Thread D))

/-- The accesses of a call to the bus. -/
def accesses (pool : MdioPool Thread D) (thread : Thread) : List (Event BusOp BusOp.Reply) :=
  (pool.shared.log thread).filterMap busAccess

/-- One more access of one thread. -/
theorem accesses_step {pool : MdioPool Thread D} {thread : Thread} {op : MdioOp} {reply : op.Reply}
    {after : Logged Thread MdioOp MdioOp.Reply (SharedBus Thread D)} {program : Thread → MdioIo Int}
    (logged : after.log =
      Function.update pool.shared.log thread (pool.shared.log thread ++ [⟨op, reply⟩])) :
    accesses ⟨after, program⟩ = Function.update (accesses pool) thread
      (accesses pool thread ++ [Event.mk op reply].filterMap busAccess) := by
  funext other
  unfold accesses
  by_cases same : other = thread
  · subst same
    simp only [logged, Function.update_self, List.filterMap_append]
  · simp only [logged, Function.update_of_ne same]

/-- A call that has issued its command does not load the state READY. -/
def PollsBusy (thread : Thread) (pool : MdioPool Thread D) : Prop :=
  (pool.program thread).pending = some (.bus .loadState) →
    (accesses pool thread).any issuesCommand = true → pool.shared.shared.state ≠ .ready

/-- No call has loaded READY after its command. -/
def NeverReady (pool : MdioPool Thread D) : Prop :=
  ∀ thread, (sinceCommand (accesses pool thread)).any loadsReady = false

variable {hw : Hardware D}

/-- A step that does not load READY after a command keeps this. -/
theorem step_never_ready {thread : Thread} {pool next : MdioPool Thread D}
    (never : NeverReady pool) (polls : PollsBusy thread pool)
    (advanced : pool.advance (sharedBus hw).logged thread = some next) : NeverReady next := by
  obtain ⟨op, continuation, reply, after, current, answered, rfl⟩ := Pool.advance_cases advanced
  obtain ⟨plain, logged⟩ := Shared.logged_eq_some answered
  intro other
  rw [accesses_step logged]
  by_cases same : other = thread
  · subst same
    have before := never other
    rw [Function.update_self]
    cases op with
    | mutexLock =>
      have unseen : [Event.mk MdioOp.mutexLock reply].filterMap busAccess = [] := rfl
      rwa [unseen, List.append_nil]
    | mutexUnlock =>
      have unseen : [Event.mk MdioOp.mutexUnlock reply].filterMap busAccess = [] := rfl
      rwa [unseen, List.append_nil]
    | bus op =>
      have seen : [Event.mk (MdioOp.bus op) reply].filterMap busAccess = [⟨op, reply⟩] := rfl
      rw [seen, since_command_snoc, before, Bool.false_or]
      cases op with
      | readl offset => simp [loadsReady]
      | writel offset val => simp [loadsReady]
      | storeState state => simp [loadsReady]
      | loadState =>
        have loaded : pool.shared.shared.state = reply := congrArg Prod.fst (Option.some.inj plain)
        have pending : (pool.program other).pending = some (.bus .loadState) := by
          rw [current]
          rfl
        -- Before the command the load does not count, and after it READY is excluded.
        cases issued : (accesses pool other).any issuesCommand with
        | true =>
          have notReady : reply ≠ .ready := loaded ▸ polls pending issued
          simp [loadsReady, notReady]
        | false => rw [Bool.false_and]
  · rw [Function.update_of_ne same]
    exact never other

/-! ## All interleavings -/

/-- A bus whose lock is free, and calls that have not started. -/
def startCalls (calls : Thread → MdioCall) (state : FbiobMdioState) (device : D) :
    MdioPool Thread D where
  shared := ⟨⟨state, none, device⟩, fun _ => []⟩
  program := fun thread => (calls thread).routine

/-- What the accesses and the result of a call must show. -/
def CallShows : MdioCall → List (Event MdioOp MdioOp.Reply) → Int → Prop
  | .c45Read _ _ _, events, ret => 0 ≤ ret → Polled (sinceCommand (events.filterMap busAccess))
  | .resetBusStore _, _, _ => True

/-- Every run of a call shows what its accesses and its result must. -/
theorem call_shows (call : MdioCall) : call.routine.Traces (CallShows call) := by
  cases call with
  | c45Read addr devad regnum => exact c45_read_polled addr devad regnum
  | resetBusStore count =>
    apply (Program.conforms_true _).traces.mono
    exact fun _ _ _ => trivial

/-- In every interleaving of reads and resets, any in number, in which no read
that has issued its command loads the state READY: a read that returns a
non-negative value has read a status with done and without err after it issued
its command. The controller is arbitrary. -/
theorem reads_polled_done (calls : Thread → MdioCall) (state : FbiobMdioState) (device : D)
    (schedule : List Thread) (last : MdioPool Thread D)
    (polls : (startCalls calls state device).Meets (sharedBus hw).logged PollsBusy schedule)
    (ran : (startCalls calls state device).run (sharedBus hw).logged schedule = some last)
    (thread : Thread) (addr devad regnum : BitVec 32)
    (read : calls thread = .c45Read addr devad regnum) (ret : Int)
    (returned : last.program thread = .done ret) (nonnegative : 0 ≤ ret) :
    (sinceCommand (accesses last thread)).any showsDone = true := by
  have start : (startCalls calls state device).Obeys fun thread => CallShows (calls thread) :=
    fun thread => call_shows (calls thread)
  have obeys : last.Obeys fun thread => CallShows (calls thread) :=
    Pool.run_invariant (fun _ _ _ kept _ advanced => kept.advance advanced) schedule start
      polls ran
  have never : NeverReady last :=
    Pool.run_invariant (fun _ _ _ kept permitted advanced => step_never_ready kept permitted advanced)
      schedule (fun _ => rfl) polls ran
  have shown := obeys.finished returned
  rw [read] at shown
  exact (shown nonnegative).resolve_left (by rw [← accesses, never thread]; exact Bool.false_ne_true)

instance (thread : Thread) (pool : MdioPool Thread D) : Decidable (PollsBusy thread pool) :=
  inferInstanceAs (Decidable (_ → _ → _))

end Pool

/-! ## A reset during a read -/

/-- Registers that always read the same. -/
def fixedRegisters (regs : Nat → BitVec 32) : Hardware Unit :=
  ⟨fun offset _ => (regs offset, ()), fun _ _ _ => ()⟩

/-- A status, and a datum that has been in RD_DAT before. -/
def staleRegisters (sts : BitVec 32) : Hardware Unit :=
  fixedRegisters fun offset =>
    if offset = fbiobMdioRegSts then sts else if offset = fbiobMdioRegRdDat then 0xBEEF else 0

/-- One read and one reset. -/
def resettingCalls : Fin 2 → MdioCall
  | 0 => .c45Read 1 1 1
  | 1 => .resetBusStore 2

def returnValue : MdioIo Int → Option Int
  | .done ret => some ret
  | .perform _ _ => none

/-- What the read returns, and whether it has seen done since its command. -/
def readOutcome (pool : MdioPool (Fin 2) Unit) : Option Int × Bool :=
  (returnValue (pool.program 0), (sinceCommand (accesses pool 0)).any showsDone)

/-- What an outcome says about the run. -/
theorem read_run {hw : Hardware Unit} {schedule : List (Fin 2)} {ret : Int} {done : Bool}
    (seen : ((startCalls resettingCalls .ready ()).run (sharedBus hw).logged schedule).map
      readOutcome = some (some ret, done)) :
    ∃ last, (startCalls resettingCalls .ready ()).run (sharedBus hw).logged schedule = some last ∧
      last.program 0 = .done ret ∧ (sinceCommand (accesses last 0)).any showsDone = done := by
  obtain ⟨last, ran, same⟩ := Option.map_eq_some_iff.mp seen
  obtain ⟨returned, saw⟩ := Prod.mk.inj same
  refine ⟨last, ran, ?_, saw⟩
  cases current : last.program 0 with
  | done value =>
    rw [current] at returned
    rw [Option.some.inj returned]
  | perform op next =>
    rw [current] at returned
    exact absurd returned (by simp [returnValue])

/-- After the reset, the read of a fast controller sees done. -/
theorem read_after_reset :
    ∃ last, (startCalls resettingCalls .ready ()).run (sharedBus (staleRegisters 1)).logged
        (List.replicate 6 1 ++ List.replicate 14 0) = some last ∧
      last.program 0 = .done 0xBEEF ∧ (sinceCommand (accesses last 0)).any showsDone = true := by
  have seen : ((startCalls resettingCalls .ready ()).run (sharedBus (staleRegisters 1)).logged
      (List.replicate 6 1 ++ List.replicate 14 0)).map readOutcome = some (some 0xBEEF, true) := by
    decide +kernel
  obtain ⟨last, ran, returned, _⟩ := read_run seen
  exact ⟨last, ran, returned, reads_polled_done resettingCalls .ready ()
    (List.replicate 6 1 ++ List.replicate 14 0) last (by decide +kernel) ran 0 1 1 1 rfl 0xBEEF
    returned (by decide)⟩

/-- A reset between the command of a read and its poll makes the read return the
stale datum, although its command is not done. -/
theorem reset_ends_read :
    ¬∀ last, (startCalls resettingCalls .ready ()).run (sharedBus (staleRegisters 0)).logged
        (List.replicate 7 0 ++ List.replicate 6 1 ++ List.replicate 6 0) = some last →
      ∀ ret, last.program 0 = .done ret → 0 ≤ ret →
        (sinceCommand (accesses last 0)).any showsDone = true := by
  intro claim
  have seen : ((startCalls resettingCalls .ready ()).run (sharedBus (staleRegisters 0)).logged
      (List.replicate 7 0 ++ List.replicate 6 1 ++ List.replicate 6 0)).map readOutcome =
        some (some 0xBEEF, false) := by decide +kernel
  obtain ⟨last, ran, returned, saw⟩ := read_run seen
  have done := claim last ran 0xBEEF returned (by decide)
  rw [saw] at done
  exact absurd done Bool.false_ne_true

end FbossBsp.Mdio
