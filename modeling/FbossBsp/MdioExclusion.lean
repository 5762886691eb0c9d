import FbossBsp.MdioReset

/-!
# Resets that spare the reads

A read holds the lock from its first poll to its last access. It stores BUSY
before it issues its command, and another state after it has polled for it. As
long as no reset stores the state while it is BUSY, the state stays BUSY until
the read has polled, whatever the controller does and however the steps of the
calls are interleaved.
-/

namespace FbossBsp.Mdio

open Interaction

/-! ## The phases of a call -/

/-- How far a call has come: it is not in its locked section, or has stored no
state in it yet, or BUSY last, or another state last. -/
inductive Phase where
  | outside
  | checking
  | busy
  | settled

/-- A read loads the state and issues its command only before it settles the bus. -/
def Phase.Permits : Phase → BusOp → Prop
  | .outside, op => op ≠ .loadState ∧ NoCommand op
  | .checking, op => NoCommand op
  | .busy, _ => True
  | .settled, op => op ≠ .loadState

/-- The phase after an access. -/
def Phase.after : Phase → BusOp → Phase
  | .outside, _ => .outside
  | _, .storeState state => if state = .busy then .busy else .settled
  | phase, _ => phase

/-- Only a store changes the phase. -/
theorem Phase.after_same (phase : Phase) {op : BusOp} (other : ∀ state, op ≠ .storeState state) :
    phase.after op = phase := by
  cases op with
  | storeState state => exact absurd rfl (other state)
  | readl offset => cases phase <;> rfl
  | writel offset val => cases phase <;> rfl
  | loadState => cases phase <;> rfl

/-- Inside the lock the phase follows what is stored. -/
theorem Phase.after_store {phase : Phase} (inside : phase ≠ .outside) (state : FbiobMdioState) :
    phase.after (.storeState state) = if state = .busy then .busy else .settled := by
  cases phase with
  | outside => exact absurd rfl inside
  | checking => rfl
  | busy => rfl
  | settled => rfl

/-- Once a state is stored in the section, one is. -/
theorem Phase.after_stored {phase : Phase} (stored : phase = .busy ∨ phase = .settled)
    (op : BusOp) : phase.after op = .busy ∨ phase.after op = .settled := by
  by_cases stores : ∃ state, op = .storeState state
  · obtain ⟨state, rfl⟩ := stores
    rw [after_store (by rintro rfl; exact absurd stored (by simp))]
    by_cases busy : state = .busy
    · exact Or.inl (if_pos busy)
    · exact Or.inr (if_neg busy)
  · rwa [phase.after_same fun state same => stores ⟨state, same⟩]

/-- A command is issued after a store of the section. -/
theorem Phase.permits_command {phase : Phase} {op : BusOp} (permitted : phase.Permits op)
    (issues : ¬NoCommand op) : phase = .busy ∨ phase = .settled := by
  cases phase with
  | outside => exact absurd permitted.2 issues
  | checking => exact absurd permitted issues
  | busy => exact Or.inl rfl
  | settled => exact Or.inr rfl

/-! ## Routines in their phases -/

/-- A bus routine does what its phases permit, and ends in one of the phases
`ends`. -/
abbrev Runs {α : Type} (ends : Phase → Prop) (phase : Phase) (program : BusIo α) : Prop :=
  program.Phased Phase.Permits Phase.after ends phase

/-- The access neither issues a command nor stores the state. -/
def Checks (op : BusOp) : Prop := NoCommand op ∧ ∀ state, op ≠ .storeState state

/-- Waiting for the bus and clearing its status keep the phase of a read. -/
theorem checks_run {phase : Phase} (reading : phase = .checking ∨ phase = .busy)
    {ends : Phase → Prop} {α : Type} {continuation : Int → BusIo α}
    (later : ∀ ret, Runs ends phase (continuation ret)) :
    Runs ends phase (waitBusReady >>= fun ret => fbiobMdioCleanStatus >>= fun _ =>
      continuation ret) := by
  have permitted (op : BusOp) (checks : Checks op) : phase.Permits op := by
    obtain rfl | rfl := reading
    · exact checks.1
    · trivial
  have same (op : BusOp) (checks : Checks op) : phase.after op = phase :=
    phase.after_same checks.2
  have waits := wait_conforms (Q := Checks) ⟨trivial, nofun⟩ ⟨trivial, nofun⟩
    (fbossMdioMaxTimeoutUs / fbiobMdioPollTimeUs)
  have cleans := clean_conforms (Q := Checks) ⟨trivial, nofun⟩ fun _ =>
    ⟨(by decide : fbiobMdioRegSts ≠ fbiobMdioRegCmd), nofun⟩
  apply Program.Phased.bind
  apply waits.phased permitted same
  intro ret
  apply Program.Phased.bind
  apply cleans.phased permitted same
  exact fun _ => later ret

/-- A read polls for its command in the phase in which it has stored BUSY. -/
theorem read_c45_runs (addr devad regnum : BitVec 32) :
    Runs (fun phase => phase ≠ .outside) .checking (fbiobMdioReadC45 addr devad regnum) := by
  have settled : Phase.settled ≠ .outside := nofun
  apply checks_run (Or.inl rfl)
  intro ret
  apply Program.Phased.ite
  · exact ⟨trivial, fun _ => settled⟩
  · refine ⟨trivial, fun _ => ⟨trivial, fun cmd => ⟨trivial, fun _ => ?_⟩⟩⟩
    apply checks_run (Or.inr rfl)
    intro waited
    refine ⟨trivial, fun _ => ?_⟩
    apply Program.Phased.ite
    · exact settled
    · exact ⟨nofun, fun _ => settled⟩

/-- A reset neither loads the state nor issues a command. -/
theorem reset_bus_store_runs (count : Nat) :
    Runs (fun _ => True) .outside (resetBusStore count) := by
  have silent (offset : Nat) (val : BitVec 32) (other : offset ≠ fbiobMdioRegCmd) :
      Phase.outside.Permits (.writel offset val) := ⟨nofun, other⟩
  have returned (ret : Int) : Runs (fun _ => True) .outside
      (if ret ≠ 0 then (pure ret : BusIo Int) else pure count) :=
    Program.Phased.ite trivial trivial
  apply Program.Phased.bind
  refine ⟨⟨nofun, trivial⟩, fun rst => ⟨silent _ _ (by decide), fun _ => ⟨⟨nofun, trivial⟩, ?_⟩⟩⟩
  intro rst
  apply Program.Phased.ite
  · exact returned
  · refine ⟨⟨nofun, trivial⟩, fun msk => ⟨silent _ _ (by decide), fun _ => ?_⟩⟩
    exact ⟨⟨nofun, trivial⟩, fun _ => returned⟩

/-- What is left of a call in a phase. -/
def Proceeds : Phase → MdioIo Int → Prop
  | _, .done _ => True
  | _, .perform .mutexLock next => Proceeds .checking (next ())
  | phase, .perform .mutexUnlock next => phase ≠ .outside ∧ (next ()).Finished
  | phase, .perform (.bus op) next =>
      phase.Permits op ∧ ∀ reply, Proceeds (phase.after op) (next reply)

/-- A routine goes on in its last phase. -/
theorem runs_proceed {α : Type} {ends : Phase → Prop} {phase : Phase} {program : BusIo α}
    {continuation : α → MdioIo Int} (runs : Runs ends phase program)
    (later : ∀ last value, ends last → Proceeds last (continuation value)) :
    Proceeds phase (onBus program >>= continuation) := by
  induction program generalizing phase with
  | done value => exact later phase value runs
  | perform op next inductionHypothesis =>
    exact ⟨runs.1, fun reply => inductionHypothesis reply (runs.2 reply)⟩

/-- Every call starts outside the locked section. -/
theorem call_proceeds (call : MdioCall) : Proceeds .outside call.routine := by
  cases call with
  | c45Read addr devad regnum =>
    exact runs_proceed (read_c45_runs addr devad regnum) fun last value inside =>
      ⟨inside, value, rfl⟩
  | resetBusStore count =>
    have same : onBus (resetBusStore count) >>= .done = onBus (resetBusStore count) :=
      Program.bind_done _
    rw [MdioCall.routine, ← same]
    exact runs_proceed (reset_bus_store_runs count) fun _ _ _ => trivial

/-! ## The order of a pool -/

section Pool

variable {Thread D : Type} [DecidableEq Thread]

/-- A call without the lock does not store the state while the bus is busy. -/
def SparesBusy (thread : Thread) (pool : MdioPool Thread D) : Prop :=
  ∀ state, (pool.program thread).pending = some (.bus (.storeState state)) →
    pool.shared.shared.holder ≠ some thread → pool.shared.shared.state ≠ .busy

/-- The bus is busy while the holder of the lock has stored BUSY last. -/
structure Ordered (pool : MdioPool Thread D) (phase : Thread → Phase) : Prop where
  proceeds : ∀ thread, Proceeds (phase thread) (pool.program thread)
  held : ∀ thread, phase thread ≠ .outside → pool.shared.shared.holder = some thread
  busy : ∀ thread, phase thread = .busy → pool.shared.shared.state = .busy
  issued : ∀ thread, (accesses pool thread).any issuesCommand = true →
    phase thread = .busy ∨ phase thread = .settled ∨ (pool.program thread).Finished

/-- The invariant of all runs. -/
def InOrder (pool : MdioPool Thread D) : Prop := ∃ phase, Ordered pool phase

omit [DecidableEq Thread] in
/-- A read that has issued its command loads the state that it has stored. -/
theorem Ordered.polls_busy {pool : MdioPool Thread D} {phase : Thread → Phase}
    (ordered : Ordered pool phase) (thread : Thread) : PollsBusy thread pool := by
  intro pending issued
  have proceeds := ordered.proceeds thread
  cases current : pool.program thread with
  | done value =>
    rw [current] at pending
    exact absurd pending nofun
  | perform op next =>
    rw [current] at pending proceeds
    obtain rfl : op = .bus .loadState := Option.some.inj pending
    obtain busy | settled | ⟨value, finished⟩ := ordered.issued thread issued
    · rw [ordered.busy thread busy]
      exact nofun
    · rw [settled] at proceeds
      exact absurd rfl proceeds.1
    · rw [current] at finished
      exact absurd finished nofun

omit [DecidableEq Thread] in
/-- While one thread is inside, no other one holds the lock. -/
theorem Ordered.alone {pool : MdioPool Thread D} {phase : Thread → Phase}
    (ordered : Ordered pool phase) {thread other : Thread} (different : other ≠ thread)
    (inside : phase other ≠ .outside) : pool.shared.shared.holder ≠ some thread := by
  rw [ordered.held other inside]
  exact fun same => different (Option.some.inj same)

/-- A step changes the phase of its thread only. -/
theorem Ordered.advance {pool : MdioPool Thread D} {phase : Thread → Phase}
    (ordered : Ordered pool phase) {thread : Thread} {op : MdioOp} {reply : op.Reply}
    {after : Logged Thread MdioOp MdioOp.Reply (SharedBus Thread D)} {program : MdioIo Int}
    {moved : Phase}
    (logged : after.log =
      Function.update pool.shared.log thread (pool.shared.log thread ++ [⟨op, reply⟩]))
    (proceeds : Proceeds moved program)
    (held : moved ≠ .outside → after.shared.holder = some thread)
    (busy : moved = .busy → after.shared.state = .busy)
    (issued : (accesses pool thread ++ [Event.mk op reply].filterMap busAccess).any
      issuesCommand = true → moved = .busy ∨ moved = .settled ∨ program.Finished)
    (others : ∀ other, other ≠ thread → phase other ≠ .outside →
      after.shared.holder = some other ∧ (phase other = .busy → after.shared.state = .busy)) :
    Ordered ⟨after, Function.update pool.program thread program⟩
      (Function.update phase thread moved) := by
  constructor
  · intro other
    by_cases same : other = thread
    · subst same
      simpa only [Function.update_self] using proceeds
    · simpa only [Function.update_of_ne same] using ordered.proceeds other
  · intro other inside
    by_cases same : other = thread
    · subst same
      exact held (by simpa only [Function.update_self] using inside)
    · exact (others other same (by simpa only [Function.update_of_ne same] using inside)).1
  · intro other stored
    by_cases same : other = thread
    · subst same
      exact busy (by simpa only [Function.update_self] using stored)
    · have before : phase other = .busy := by simpa only [Function.update_of_ne same] using stored
      exact (others other same (by rw [before]; exact nofun)).2 before
  · intro other seen
    rw [accesses_step logged] at seen
    by_cases same : other = thread
    · subst same
      simp only [Function.update_self] at seen ⊢
      exact issued seen
    · simp only [Function.update_of_ne same] at seen ⊢
      exact ordered.issued other seen

/-! ## Interleavings -/

variable {hw : Hardware D}

omit [DecidableEq Thread] in
/-- A bus access leaves the lock alone, and only a store changes the state. -/
theorem bus_answered {thread : Thread} {op : BusOp} {reply : op.Reply} {s after : SharedBus Thread D}
    (answered : sharedBus hw thread (.bus op) s = some (reply, after)) :
    after.holder = s.holder ∧ (∀ state, op = .storeState state → after.state = state) ∧
      ((∀ state, op ≠ .storeState state) → after.state = s.state) := by
  cases op with
  | storeState state =>
    obtain ⟨rfl, rfl⟩ := Prod.mk.inj (Option.some.inj answered)
    exact ⟨rfl, fun _ same => BusOp.storeState.inj same, fun none => absurd rfl (none state)⟩
  | readl offset =>
    obtain ⟨rfl, rfl⟩ := Prod.mk.inj (Option.some.inj answered)
    exact ⟨rfl, nofun, fun _ => rfl⟩
  | writel offset val =>
    obtain ⟨rfl, rfl⟩ := Prod.mk.inj (Option.some.inj answered)
    exact ⟨rfl, nofun, fun _ => rfl⟩
  | loadState =>
    obtain ⟨rfl, rfl⟩ := Prod.mk.inj (Option.some.inj answered)
    exact ⟨rfl, nofun, fun _ => rfl⟩

/-- Calls that spare the busy bus keep the order.

Proof: by the operation. Whoever takes the lock finds all others outside, and a
store of the state beside the lock spares a busy bus. -/
theorem step_ordered {thread : Thread} {pool next : MdioPool Thread D}
    (ordered : InOrder pool) (spares : SparesBusy thread pool)
    (advanced : pool.advance (sharedBus hw).logged thread = some next) :
    InOrder next := by
  obtain ⟨phase, ordered⟩ := ordered
  obtain ⟨op, continuation, reply, after, current, answered, rfl⟩ := Pool.advance_cases advanced
  obtain ⟨plain, logged⟩ := Shared.logged_eq_some answered
  have proceeds := ordered.proceeds thread
  rw [current] at proceeds
  have started (seen : (accesses pool thread).any issuesCommand = true) :
      phase thread = .busy ∨ phase thread = .settled := by
    obtain busy | settled | ⟨value, finished⟩ := ordered.issued thread seen
    · exact Or.inl busy
    · exact Or.inr settled
    · rw [current] at finished
      exact absurd finished nofun
  cases op with
  | mutexLock =>
    -- The lock is free, so every thread is outside.
    have free : pool.shared.shared.holder = none := by
      by_contra taken
      simp [sharedBus, Option.isSome_iff_ne_none.mpr taken] at plain
    have outside (other : Thread) : phase other = .outside := by
      by_contra inside
      rw [ordered.held other inside] at free
      exact absurd free nofun
    have locked : { pool.shared.shared with holder := some thread } = after.shared := by
      simpa [sharedBus, free] using plain
    have form : Proceeds .checking (continuation reply) := proceeds
    refine ⟨_, ordered.advance logged form ?_ nofun ?_ ?_⟩
    · intro _
      rw [← locked]
    · intro seen
      have unseen : [Event.mk MdioOp.mutexLock reply].filterMap busAccess = [] := rfl
      rw [unseen, List.append_nil] at seen
      obtain busy | settled := started seen
      · exact absurd (outside thread) (by rw [busy]; exact nofun)
      · exact absurd (outside thread) (by rw [settled]; exact nofun)
    · exact fun other _ inside => absurd (outside other) inside
  | mutexUnlock =>
    obtain ⟨inside, finished⟩ := proceeds
    have form : Proceeds .outside (continuation reply) := by
      obtain ⟨value, returned⟩ := finished
      rw [returned]
      trivial
    refine ⟨_, ordered.advance logged form (fun outside => absurd rfl outside) nofun
      (fun _ => Or.inr (Or.inr finished)) ?_⟩
    intro other different entered
    exact absurd (ordered.held thread inside) (ordered.alone different entered)
  | bus op =>
    obtain ⟨permitted, later⟩ := proceeds
    obtain ⟨sameHolder, stored, unstored⟩ := bus_answered plain
    refine ⟨_, ordered.advance logged (later reply) ?_ ?_ ?_ ?_⟩
    · intro moved
      rw [sameHolder]
      apply ordered.held thread
      intro outside
      rw [outside] at moved
      exact moved rfl
    · intro moved
      by_cases stores : ∃ state, op = .storeState state
      · obtain ⟨state, rfl⟩ := stores
        rw [stored state rfl]
        have inside : phase thread ≠ .outside := by
          intro outside
          rw [outside] at moved
          exact absurd moved nofun
        rw [Phase.after_store inside] at moved
        by_contra other
        rw [if_neg other] at moved
        exact absurd moved nofun
      · have none : ∀ state, op ≠ .storeState state := fun state same => stores ⟨state, same⟩
        rw [unstored none]
        rw [Phase.after_same _ none] at moved
        exact ordered.busy thread moved
    · intro seen
      have here : [Event.mk (MdioOp.bus op) reply].filterMap busAccess = [⟨op, reply⟩] := rfl
      rw [here, List.any_append, Bool.or_eq_true] at seen
      have before : phase thread = .busy ∨ phase thread = .settled := by
        obtain earlier | now := seen
        · exact started earlier
        · exact Phase.permits_command permitted fun none =>
            absurd now (by simp [issues_command_iff, none])
      exact (Phase.after_stored before op).imp_right Or.inl
    · intro other different inside
      refine ⟨sameHolder.trans (ordered.held other inside), fun busy => ?_⟩
      have waiting := ordered.busy other busy
      rw [unstored, waiting]
      rintro state rfl
      have pending : (pool.program thread).pending = some (.bus (.storeState state)) := by
        rw [current]
        rfl
      exact spares state pending (ordered.alone different inside) waiting

omit [DecidableEq Thread] in
/-- Before any call starts, every thread is outside. -/
theorem start_ordered (calls : Thread → MdioCall) (state : FbiobMdioState) (device : D) :
    Ordered (startCalls calls state device) fun _ => .outside where
  proceeds := fun thread => call_proceeds (calls thread)
  held := fun _ inside => absurd rfl inside
  busy := nofun
  issued := nofun

/-- In every interleaving of reads and resets, any in number, in which no reset
stores the state while the bus is busy, no read that has issued its command
loads the state READY. -/
theorem spared_reads_poll_busy (calls : Thread → MdioCall) (state : FbiobMdioState) (device : D)
    (schedule : List Thread)
    (spares : (startCalls calls state device).Meets (sharedBus hw).logged SparesBusy schedule) :
    (startCalls calls state device).Meets (sharedBus hw).logged PollsBusy schedule := by
  have start : InOrder (startCalls calls state device) :=
    ⟨fun _ => .outside, start_ordered calls state device⟩
  refine Pool.Meets.of_invariant (fun _ _ _ ordered spares advanced =>
    step_ordered ordered spares advanced) ?_ start spares
  rintro thread pool ⟨phase, ordered⟩ _
  exact ordered.polls_busy thread

end Pool

end FbossBsp.Mdio
