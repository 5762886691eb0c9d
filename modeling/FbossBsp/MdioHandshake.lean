import FbossBsp.MdioPosted

/-!
# The handshake of the MDIO bus

Reads collect their own status, and a write leaves its status to the next call.
From a reset on, and as long as every command completes within the poll budget
of the wait that follows it, no command is touched while it executes, the status
is clear when a command is issued, and the state BUSY between two calls means
exactly that the status of a write is still to be collected.

Whether it is to be collected can be seen from the register accesses alone.
-/

namespace FbossBsp.Mdio

open Interaction

/-! ## What the accesses show -/

/-- Whether the last issued command is a write whose status has not been
collected, after one more access. -/
def uncollectedStep (before : Bool) : Event BusOp BusOp.Reply → Bool
  | ⟨.writel offset val, _⟩ => if offset = fbiobMdioRegCmd then !val.getLsbD 7 else before
  | ⟨.readl offset, sts⟩ =>
      if offset = fbiobMdioRegSts ∧ (stsDone sts ∨ stsErr sts) then false else before
  | _ => before

/-- Whether a write is uncollected after the accesses, given whether one was
before them. -/
def uncollected (events : List (Event BusOp BusOp.Reply)) (before : Bool) : Bool :=
  events.foldl uncollectedStep before

/-- What is uncollected after two traces follows from the second after the first. -/
theorem uncollected_append (first second : List (Event BusOp BusOp.Reply)) (before : Bool) :
    uncollected (first ++ second) before = uncollected second (uncollected first before) :=
  List.foldl_append

/-- Without a command nothing becomes uncollected. -/
theorem uncollected_no_command {events : List (Event BusOp BusOp.Reply)}
    (none : ∀ event ∈ events, NoCommand event.op) : uncollected events false = false := by
  induction events with
  | nil => rfl
  | cons event rest inductionHypothesis =>
    obtain ⟨first, later⟩ := List.forall_mem_cons.mp none
    have kept : uncollectedStep false event = false := by
      obtain ⟨op, reply⟩ := event
      cases op with
      | readl offset => simp [uncollectedStep]
      | writel offset val =>
        have different : offset ≠ fbiobMdioRegCmd := first
        simp [uncollectedStep, different]
      | loadState => rfl
      | storeState state => rfl
    rw [uncollected, List.foldl_cons, kept]
    exact inductionHypothesis later

/-- The access loads the state READY. -/
def loadsReady : Event BusOp BusOp.Reply → Bool
  | ⟨.loadState, state⟩ => state = .ready
  | _ => false

/-- The access reads a status with done and without err. -/
def showsDone : Event BusOp BusOp.Reply → Bool
  | ⟨.readl offset, sts⟩ => offset = fbiobMdioRegSts && stsDone sts && !stsErr sts
  | _ => false

/-- What a wait shows: no command, err when it returns `EIO`, and the state READY
or a status with done when it returns 0. -/
structure WaitShows (events : List (Event BusOp BusOp.Reply)) (ret : Int) : Prop where
  noCommand : ∀ event ∈ events, NoCommand event.op
  returned : ret = 0 ∨ ret = -eio ∨ ret = -ebusy
  failed : ret = -eio → ∀ before, uncollected events before = false
  passed : ret = 0 → (events.any fun event => loadsReady event || showsDone event) = true

/-- An access that is no command may come before what a wait shows. -/
theorem WaitShows.cons {event : Event BusOp BusOp.Reply} {events : List (Event BusOp BusOp.Reply)}
    {ret : Int} (none : NoCommand event.op) (shows : WaitShows events ret) :
    WaitShows (event :: events) ret where
  noCommand := List.forall_mem_cons.mpr ⟨none, shows.noCommand⟩
  returned := shows.returned
  failed := fun failed _ => shows.failed failed _
  passed := fun passed => by rw [List.any_cons, shows.passed passed, Bool.or_true]

/-- A wait that ends with an access shows what this access shows. -/
theorem wait_shows_last {event : Event BusOp BusOp.Reply} {ret : Int} (none : NoCommand event.op)
    (returned : ret = 0 ∨ ret = -eio ∨ ret = -ebusy)
    (failed : ret = -eio → ∀ before, uncollectedStep before event = false)
    (passed : ret = 0 → (loadsReady event || showsDone event) = true) : WaitShows [event] ret where
  noCommand := List.forall_mem_cons.mpr ⟨none, fun _ member => absurd member List.not_mem_nil⟩
  returned := returned
  failed := failed
  passed := fun passes => by rw [List.any_cons, passed passes, Bool.true_or]

/-- Every wait shows why it returns what it returns. -/
theorem wait_traces (retry : Nat) : (waitBusReadyLoop retry).Traces WaitShows := by
  refine wait_loop_rule (P := fun program => program.Traces WaitShows) ?_ ?_ retry
  · constructor
    · exact fun _ member => absurd member List.not_mem_nil
    · exact Or.inr (Or.inr rfl)
    · exact fun failed => absurd failed (by decide)
    · exact fun passed => absurd passed (by decide)
  · intro later traced state
    apply Program.Traces.ite
    · intro isReady
      exact wait_shows_last trivial (Or.inl rfl) (fun failed => absurd failed (by decide))
        fun _ => by simp [loadsReady, isReady]
    · intro _ sts
      -- A pass that has loaded another state depends on the status it reads.
      have polled : (if stsErr sts then (pure (-eio) : BusIo Int) else if stsDone sts then pure 0
          else later).Traces fun rest ret => WaitShows (⟨.readl fbiobMdioRegSts, sts⟩ :: rest) ret := by
        apply Program.Traces.ite
        · intro failed
          exact wait_shows_last trivial (Or.inr (Or.inl rfl))
            (fun _ before => by simp [uncollectedStep, failed]) fun passed => absurd passed (by decide)
        · intro noErr
          apply Program.Traces.ite
          · intro done
            exact wait_shows_last trivial (Or.inl rfl) (fun failed => absurd failed (by decide))
              fun _ => by simp [showsDone, done, noErr]
          · exact fun _ => traced.mono fun _ _ shows => shows.cons trivial
      exact polled.mono fun _ _ shows => shows.cons trivial

/-- The start of every call: what it shows depends on the rest, unless the wait
has failed. -/
theorem prologue_traces (rest : BusIo Int) (posts : Int → Prop)
    (refused : ∀ ret, ret ≠ 0 → ¬posts ret)
    (shows : rest.Traces fun events ret => ∀ before, uncollected events before = true ↔ posts ret) :
    (waitBusReady >>= fun ret => fbiobMdioCleanStatus >>= fun _ =>
      if ret ≠ 0 then storeState .ready >>= fun _ => pure ret
      else storeState .busy >>= fun _ => rest).Traces fun events ret => ret ≠ -ebusy →
        ∀ before, uncollected events before = true ↔ posts ret := by
  apply Program.Traces.bind (wait_traces _)
  intro waited ret shown
  apply Program.Traces.bind clean_no_command.traces
  rintro cleaned _ ⟨none, _⟩
  apply Program.Traces.ite
  · rintro failed _ inTime before
    have err : ret = -eio := (shown.returned.resolve_left failed).resolve_right inTime
    rw [uncollected_append, shown.failed err, uncollected_append, uncollected_no_command none]
    exact iff_of_false Bool.false_ne_true (refused ret failed)
  · intro _ stored
    apply shows.mono
    intro events outcome later _ before
    rw [uncollected_append, uncollected_append]
    exact later _

/-- A command shows its direction. -/
theorem issue_traces (addr devad regnum rw : BitVec 32) :
    (issueCommand addr devad regnum rw).Traces fun events _ =>
      ∀ before, uncollected events before = !rw.getLsbD 0 := by
  intro cmd _ before
  change (!(commandWord cmd addr devad regnum rw).getLsbD 7) = _
  rw [command_word_rw]

/-- Collecting the status of a read issues no command. -/
theorem collect_no_command : collectRead.Conforms NoCommand (fun _ => True) := by
  apply Program.Conforms.bind (wait_no_command _)
  intro ret _
  apply Program.Conforms.bind clean_no_command
  intro _ _
  refine ⟨trivial, fun _ => ?_⟩
  apply Program.Conforms.ite
  · exact fun _ => trivial
  · exact fun _ => ⟨trivial, fun _ => trivial⟩

/-- The call leaves a write behind: it is a write that returns 0. -/
def BusCall.Posts : BusCall → Int → Prop
  | .readC45 _ _ _, _ => False
  | .writeC45 _ _ _ _ _, ret => ret = 0

/-- After a call that has not timed out a write is uncollected exactly when the
call has posted one. -/
theorem call_traces (call : BusCall) :
    call.perform.Traces fun events ret => ret ≠ -ebusy →
      ∀ before, uncollected events before = true ↔ call.Posts ret := by
  cases call with
  | readC45 addr devad regnum =>
    apply prologue_traces _ _ fun _ _ posts => posts
    apply Program.Traces.bind (issue_traces addr devad regnum busRead)
    intro issued _ direction
    apply collect_no_command.traces.mono
    rintro events ret ⟨none, _⟩ before
    have read : busRead.getLsbD 0 = true := rfl
    rw [uncollected_append, direction, read, Bool.not_true, uncollected_no_command none]
    exact iff_of_false Bool.false_ne_true id
  | writeC45 wrData addr devad regnum val =>
    apply prologue_traces _ _ fun _ failed posts => failed posts
    intro _
    apply Program.Traces.bind (issue_traces addr devad regnum busWrite)
    intro issued _ direction before
    have write : busWrite.getLsbD 0 = false := rfl
    rw [List.append_nil]
    exact iff_of_true (direction _) rfl

/-! ## The controller during a call -/

/-- No word is written to CMD or WR_DAT while a command executes, and the status
is clear at every write to CMD. -/
def Handshake : BusOp → MdioController → Prop
  | .writel offset _, s =>
      (offset = fbiobMdioRegCmd ∨ offset = fbiobMdioRegWrDat → s.executing = []) ∧
        (offset = fbiobMdioRegCmd → Clear s.sts)
  | _, _ => True

/-- The handshake asks nothing of an access that issues nothing. -/
theorem unissued_handshake (op : BusOp) (s : MdioController) (unissued : Unissued op) :
    Handshake op s := by
  cases op with
  | writel offset val =>
    obtain ⟨noCommand, noData⟩ := unissued
    exact ⟨fun issues => (issues.elim noCommand noData).elim, fun issues => (noCommand issues).elim⟩
  | readl offset => trivial
  | loadState => trivial
  | storeState state => trivial

/-- The state of the bus and the controller after a call that is in time. -/
structure Kept (call : BusCall) (ret : Int) (after : MdioController) : Prop where
  inTime : ret ≠ -ebusy
  between : ∃ failed, Between scripted after failed
  state : after.state = .busy ↔ call.Posts ret

/-- A call whose wait for its own command runs out of budget. -/
def Overdue (before after : MdioController) : Prop :=
  before.issued < after.issued ∧ 50 < (before.plan before.issued).delay

/-- A command issued on an idle and clear controller respects the handshake. -/
theorem issue_command_handshake (addr devad regnum rw : BitVec 32) (s : MdioController)
    (busy : s.state = .busy) (idle : s.executing = []) (clear : Clear s.sts) :
    (issueCommand addr devad regnum rw).Wp mdioController Handshake
      (fun _ after => Issued scripted (commandWord s.cmd addr devad regnum rw) s after) s := by
  have issued := issue_command_idle scripted addr devad regnum rw s busy idle clear
  have ticked := tick_idle scripted s idle
  have quiet : (s.tick scripted).executing = [] ∧ Clear (s.tick scripted).sts := by
    rw [ticked]
    exact ⟨idle, clear⟩
  exact ⟨trivial, ⟨fun _ => quiet.1, fun _ => quiet.2⟩, issued.2.2⟩

/-- A bus that is ready is not busy. -/
theorem ready_not_busy {state : FbiobMdioState} (ready : state = .ready) : state ≠ .busy := by
  rw [ready]
  decide

/-- What a read returns for a command is not `EBUSY`. -/
theorem read_ret_in_time (outcome : Outcome) : outcome.readRet ≠ -ebusy := by
  unfold Outcome.readRet ebusy eio
  split <;> omega

/-- Collecting a read writes neither a command nor the data of one. -/
theorem collect_unissued : collectRead.Conforms Unissued (fun _ => True) := by
  apply Program.Conforms.bind wait_unissued
  intro ret _
  apply Program.Conforms.bind clean_unissued
  intro _ _
  refine ⟨trivial, fun _ => ?_⟩
  apply Program.Conforms.ite
  · exact fun _ => trivial
  · exact fun _ => ⟨trivial, fun _ => trivial⟩

section Call

variable (s : MdioController) (failed : Bool) (between : Between scripted s failed)
variable (budget : ∀ command ∈ s.executing, command.left ≤ 50)

include between budget

/-- A read respects the handshake, and leaves the bus ready unless its own
command is overdue.

Proof: without a failure to report, the read issues its command on an idle controller;
what collects it writes neither register. -/
theorem read_handshake (addr devad regnum : BitVec 32) :
    (fbiobMdioReadC45 addr devad regnum).Wp mdioController Handshake
      (fun ret after => Overdue s after ∨ Kept (.readC45 addr devad regnum) ret after) s := by
  apply call_prologue unissued_handshake _ _ s failed between budget
  · intro _ after ready settled
    exact Or.inr ⟨by decide, ⟨false, .settled ready settled.idle⟩,
      iff_of_false (ready_not_busy ready) id⟩
  · intro _ started busy clear settled
    have script : started.behind = s.behind := settled.behind.trans (script_settled s)
    have reading := command_word_rw started.cmd addr devad regnum busRead
    apply Program.Wp.seq
      (issue_command_handshake addr devad regnum busRead started busy settled.idle clear)
    intro _ executing command
    have collected := (collect_read scripted _ reading executing started command).and
      (no_command_run collect_no_command executing)
    apply (collect_unissued.allows unissued_handshake collected).weaken
    rw [settled.issued, script]
    rintro ret after ⟨outcome, _, number, _⟩
    rw [command.issued, settled.issued] at number
    obtain ⟨_, slow⟩ | ⟨⟨returned, _⟩, collected⟩ := outcome
    · exact Or.inl ⟨number ▸ Nat.lt_succ_self _, slow⟩
    · exact Or.inr ⟨returned ▸ read_ret_in_time (s.plan s.issued),
        ⟨false, .settled collected.ready collected.idle⟩,
        iff_of_false (ready_not_busy collected.ready) id⟩

/-- A write respects the handshake, and leaves the bus busy exactly when it has
issued its command. -/
theorem write_handshake (wrData addr devad regnum : BitVec 32) (val : BitVec 16) :
    (fbiobMdioWriteC45 wrData addr devad regnum val).Wp mdioController Handshake
      (fun ret after => Kept (.writeC45 wrData addr devad regnum val) ret after) s := by
  apply call_prologue unissued_handshake _ _ s failed between budget
  · intro _ after ready settled
    exact ⟨by decide, ⟨false, .settled ready settled.idle⟩,
      iff_of_false (ready_not_busy ready) (by decide : -eio ≠ 0)⟩
  · intro _ started busy clear settled
    have idle := settled.idle
    apply (wp_bus_writel _ _ _ _ _ _ _).mpr
    rw [write_data_idle scripted started _ idle]
    refine ⟨⟨fun _ => idle, fun same => absurd same (by decide)⟩, Program.Wp.bind ?_⟩
    apply (issue_command_handshake addr devad regnum busWrite
      { started with clock := started.clock + 1 } busy idle clear).weaken
    intro _ after command
    exact ⟨by decide, ⟨_, command.between⟩, iff_of_true command.busy rfl⟩

end Call

/-! ## Runs from a reset -/

/-- Every command that a call waits for completes within the poll budget of that
wait: the one it finds in execution, and its own if it is a read. -/
def InTime (call : BusCall) (s : MdioController) : Prop :=
  (∀ command ∈ s.executing, command.left ≤ 50) ∧
    match call with
    | .readC45 _ _ _ => ¬Overdue s (call.perform.final mdioController s)
    | .writeC45 _ _ _ _ _ => True

/-- A call that is in time respects the handshake and keeps what holds between
calls. -/
theorem call_handshake (call : BusCall) (s : MdioController) (failed : Bool)
    (between : Between scripted s failed) (inTime : InTime call s) :
    call.perform.Along mdioController Handshake s ∧
      Kept call (call.perform.result mdioController s) (call.perform.final mdioController s) := by
  obtain ⟨budget, own⟩ := inTime
  cases call with
  | readC45 addr devad regnum =>
    obtain ⟨along, outcome⟩ := (Program.wp_iff _ _ _ _ _).mp
      (read_handshake s failed between budget addr devad regnum)
    exact ⟨along, outcome.resolve_left own⟩
  | writeC45 wrData addr devad regnum val =>
    exact (Program.wp_iff _ _ _ _ _).mp
      (write_handshake s failed between budget wrData addr devad regnum val)

/-- From any state between two calls on, calls that are in time respect the
handshake, and the bus is busy after each exactly when a write is uncollected. -/
theorem calls_handshake (calls : List BusCall) (s : MdioController) (failed : Bool)
    (between : Between scripted s failed) (before : Bool) (agrees : s.state = .busy ↔ before = true)
    (inTime : Calls.Each mdioController BusCall.perform InTime calls s) :
    Calls.Each mdioController BusCall.perform
        (fun call start => call.perform.Along mdioController Handshake start) calls s ∧
      ∀ reached, reached <+: calls →
        ((Calls.final mdioController BusCall.perform reached s).state = .busy ↔
          uncollected (Calls.events mdioController BusCall.perform reached s) before = true) := by
  induction calls generalizing s failed before with
  | nil =>
    refine ⟨trivial, fun reached initial => ?_⟩
    rw [List.prefix_nil.mp initial]
    exact agrees
  | cons call rest inductionHypothesis =>
    obtain ⟨along, kept⟩ := call_handshake call s failed between inTime.1
    obtain ⟨later, between⟩ := kept.between
    have shown := (call_traces call).exec mdioController s kept.inTime before
    obtain ⟨each, throughout⟩ := inductionHypothesis _ later between _
      (kept.state.trans shown.symm) inTime.2
    refine ⟨⟨along, each⟩, fun reached initial => ?_⟩
    cases reached with
    | nil => exact agrees
    | cons first others =>
      obtain ⟨rfl, shorter⟩ := List.cons_prefix_cons.mp initial
      rw [Calls.events, uncollected_append]
      exact throughout others shorter

/-- After a successful reset nothing is left to collect, and the bus is not busy. -/
theorem reset_between (start : MdioController)
    (reset : fbiobMdioReset.result mdioController start = 0) :
    Between scripted (fbiobMdioReset.final mdioController start) false ∧
      (fbiobMdioReset.final mdioController start).state ≠ .busy := by
  have settles := (reset_settles scripted start).outcome
  obtain ⟨ready, idle⟩ := settles reset
  exact ⟨.settled ready idle, ready_not_busy ready⟩

/-- For every sequence of reads and writes from a successful reset on, in which
every command completes within the poll budget of the wait that follows it: no
word is written to CMD or WR_DAT while a command executes, the status is clear
at every write to CMD, and between two calls the bus is busy exactly when the
last issued command was a write whose status has not been collected. -/
theorem handshake_kept (start : MdioController)
    (reset : fbiobMdioReset.result mdioController start = 0) (calls : List BusCall)
    (inTime : Calls.Each mdioController BusCall.perform InTime calls
      (fbiobMdioReset.final mdioController start)) :
    Calls.Each mdioController BusCall.perform
        (fun call s => call.perform.Along mdioController Handshake s) calls
        (fbiobMdioReset.final mdioController start) ∧
      ∀ reached, reached <+: calls →
        ((Calls.final mdioController BusCall.perform reached
            (fbiobMdioReset.final mdioController start)).state = .busy ↔
          uncollected (Calls.events mdioController BusCall.perform reached
            (fbiobMdioReset.final mdioController start)) false = true) := by
  obtain ⟨between, notBusy⟩ := reset_between start reset
  exact calls_handshake calls _ false between false (iff_of_false notBusy Bool.false_ne_true) inTime

instance (before after : MdioController) : Decidable (Overdue before after) :=
  inferInstanceAs (Decidable (_ ∧ _))

instance (call : BusCall) (s : MdioController) : Decidable (InTime call s) :=
  match call with
  | .readC45 _ _ _ => inferInstanceAs (Decidable (_ ∧ ¬_))
  | .writeC45 _ _ _ _ _ => inferInstanceAs (Decidable (_ ∧ True))

/-- A write, a read that reports its failure, a read and a write, after a reset. -/
def mixedCalls : List BusCall :=
  [.writeC45 0 1 1 1 7, .readC45 1 1 1, .readC45 1 1 1, .writeC45 0 1 1 1 8]

/-- The mixed calls keep the handshake. -/
theorem mixed_handshake :
    Calls.Each mdioController BusCall.perform
        (fun call s => call.perform.Along mdioController Handshake s) mixedCalls
        (fbiobMdioReset.final mdioController (resetController firstFails)) ∧
      ∀ reached, reached <+: mixedCalls →
        ((Calls.final mdioController BusCall.perform reached
            (fbiobMdioReset.final mdioController (resetController firstFails))).state = .busy ↔
          uncollected (Calls.events mdioController BusCall.perform reached
            (fbiobMdioReset.final mdioController (resetController firstFails))) false = true) :=
  handshake_kept (resetController firstFails) (by decide) mixedCalls (by decide +kernel)

end FbossBsp.Mdio
