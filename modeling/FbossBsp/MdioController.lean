import FbossBsp.MdioBus

/-!
# The MDIO controller

The controller executes every command written to CMD. A command completes after
its own delay: it raises done or err in STS, and a read loads RD_DAT. Done and
err stay set until they are written back. Commands that are issued while others
still execute complete independently.

How a command ends and what it does is left to what the controller is attached
to. The laws are about the parts of a call on every such controller: the wait at
its start, issuing its command, and collecting a read.
-/

namespace FbossBsp.Mdio

open Interaction

/-! ## The controller -/

/-- A command in execution, with the accesses after which it completes. -/
structure Executing where
  id : Nat
  word : BitVec 32
  left : Nat
  deriving DecidableEq

/-- The command reads. -/
def isRead (word : BitVec 32) : Bool := word.getLsbD 7

/-- What a controller is attached to: how long the command with a number takes,
whether it ends in err, what a read loads into RD_DAT, what a command changes, and
the registers that are not the controller's own. -/
structure Attached (Behind : Type) where
  delay : Behind → (id : Nat) → Nat
  err : Behind → (id : Nat) → Bool
  load : Behind → (id : Nat) → (word : BitVec 32) → BitVec 32
  effect : Behind → (id : Nat) → (word : BitVec 32) → Behind
  reply : Behind → (clock offset : Nat) → BitVec 32
  store : Behind → (offset : Nat) → (val : BitVec 32) → Behind

/-- `bus->state`, the registers, the commands, and what is behind them. Commands are
numbered in the order in which they are issued. -/
structure Controller (Behind : Type) where
  state : FbiobMdioState
  sts : BitVec 32
  cmd : BitVec 32
  rdDat : BitVec 32
  executing : List Executing
  issued : Nat
  clock : Nat
  behind : Behind

variable {Behind : Type}

namespace Controller

variable (attached : Attached Behind) (s : Controller Behind)

/-- A command completes. -/
def complete (command : Executing) : Controller Behind :=
  { s with
    sts := s.sts ||| if attached.err s.behind command.id then bit 1 else bit 0
    rdDat :=
      if isRead command.word then attached.load s.behind command.id command.word else s.rdDat
    behind := attached.effect s.behind command.id command.word }

/-- Time passes before a register access. -/
def tick : Controller Behind :=
  let elapsed := s.executing.filter fun command => command.left = 0
  let running := s.executing.filter fun command => command.left ≠ 0
  { elapsed.foldl (complete attached) s with
    executing := running.map fun command => { command with left := command.left - 1 }
    clock := s.clock + 1 }

/-- What a register reads as. -/
def reply (offset : Nat) : BitVec 32 :=
  if offset = fbiobMdioRegSts then s.sts
  else if offset = fbiobMdioRegCmd then s.cmd
  else if offset = fbiobMdioRegRdDat then s.rdDat
  else attached.reply s.behind s.clock offset

/-- The effect of a register write; a reset ends every command. -/
def store (offset : Nat) (val : BitVec 32) : Controller Behind :=
  if offset = fbiobMdioRegSts then { s with sts := s.sts &&& ~~~val }
  else if offset = fbiobMdioRegCmd then
    { s with
      cmd := val
      executing := s.executing ++ [⟨s.issued, val, attached.delay s.behind s.issued⟩]
      issued := s.issued + 1 }
  else if offset = fbiobMdioRegRst ∧ val.getLsbD 0 then { s with sts := 0, executing := [] }
  else { s with behind := attached.store s.behind offset val }

/-- What is behind the controller once the commands in execution have completed. -/
def settled : Behind :=
  s.executing.foldl (fun behind command => attached.effect behind command.id command.word) s.behind

end Controller

/-- Time passes before each register access, and not when `bus->state` is accessed. -/
def controller (attached : Attached Behind) : Device BusOp BusOp.Reply (Controller Behind)
  | .readl offset, s => ((s.tick attached).reply attached offset, s.tick attached)
  | .writel offset val, s => ((), (s.tick attached).store attached offset val)
  | .loadState, s => (s.state, s)
  | .storeState state, s => ((), { s with state := state })

/-! ## Time -/

section Time

variable (attached : Attached Behind) (s : Controller Behind)

/-- For an idle controller only the clock goes on. -/
theorem tick_idle (idle : s.executing = []) :
    s.tick attached = { s with clock := s.clock + 1 } := by
  simp [Controller.tick, idle]

/-- Preparing the datum of an idle controller takes one tick. -/
theorem write_data_idle (word : BitVec 32) (idle : s.executing = []) :
    (controller attached (.writel fbiobMdioRegWrDat word) s).2 =
      { s with
        clock := s.clock + 1
        behind := attached.store s.behind fbiobMdioRegWrDat word } := by
  simp only [controller, tick_idle attached s idle]
  rfl

/-- A command that is not over has one access less to go. -/
theorem tick_running {id left : Nat} {word : BitVec 32}
    (running : s.executing = [⟨id, word, left + 1⟩]) :
    s.tick attached = { s with executing := [⟨id, word, left⟩], clock := s.clock + 1 } := by
  simp [Controller.tick, running]

/-- A command that is over completes, and the controller is idle. -/
theorem tick_completes {id : Nat} {word : BitVec 32} (elapsed : s.executing = [⟨id, word, 0⟩]) :
    s.tick attached =
      { s.complete attached ⟨id, word, 0⟩ with executing := [], clock := s.clock + 1 } := by
  simp [Controller.tick, elapsed]

/-- Completing commands keeps `bus->state` and the number of commands. -/
theorem complete_all_numbers (elapsed : List Executing) :
    (elapsed.foldl (Controller.complete attached) s).state = s.state ∧
      (elapsed.foldl (Controller.complete attached) s).issued = s.issued := by
  induction elapsed generalizing s with
  | nil => exact ⟨rfl, rfl⟩
  | cons command rest inductionHypothesis => exact inductionHypothesis (s.complete attached command)

/-- Time keeps `bus->state`. -/
theorem tick_state : (s.tick attached).state = s.state := (complete_all_numbers attached s _).1

/-- Time issues no command. -/
theorem tick_issued : (s.tick attached).issued = s.issued := (complete_all_numbers attached s _).2

end Time

/-! ## Waiting for a command -/

/-- STS shows neither done nor err. -/
def Clear (sts : BitVec 32) : Prop := stsDone sts = false ∧ stsErr sts = false

instance (sts : BitVec 32) : Decidable (Clear sts) := inferInstanceAs (Decidable (_ ∧ _))

/-- What `wait_bus_ready` returns for a completed command. -/
def Attached.ret (attached : Attached Behind) (behind : Behind) (id : Nat) : Int :=
  if attached.err behind id then -eio else 0

/-- The only command that executed has completed. -/
structure Completed (attached : Attached Behind) (id : Nat) (word : BitVec 32)
    (before after : Controller Behind) : Prop where
  state : after.state = before.state
  issued : after.issued = before.issued
  idle : after.executing = []
  behind : after.behind = attached.effect before.behind id word
  loaded : isRead word = true → after.rdDat = attached.load before.behind id word

section Waits

variable (attached : Attached Behind)

/-- One pass of the poll loop on a busy bus. -/
theorem wait_poll (later : BusIo Int) (post : Int → Controller Behind → Prop)
    (s : Controller Behind) (busy : s.state = .busy)
    (failed : stsErr (s.tick attached).sts = true → post (-eio) (s.tick attached))
    (done : stsErr (s.tick attached).sts = false → stsDone (s.tick attached).sts = true →
      post 0 (s.tick attached))
    (again : Clear (s.tick attached).sts →
      later.Wp (controller attached) (fun _ _ => True) post (s.tick attached)) :
    (pollBusReady later).Wp (controller attached) (fun _ _ => True) post s := by
  refine ⟨trivial, ?_⟩
  have notReady : (controller attached .loadState s).1 ≠ .ready := by
    rw [show (controller attached .loadState s).1 = s.state from rfl, busy]
    decide
  apply Program.Wp.ite
  · intro ready
    exact absurd ready notReady
  · intro _
    refine ⟨trivial, ?_⟩
    apply Program.Wp.ite
    · exact failed
    · intro noErr
      apply Program.Wp.ite
      · exact done (Bool.eq_false_of_not_eq_true noErr)
      · intro notDone
        exact again ⟨Bool.eq_false_of_not_eq_true notDone, Bool.eq_false_of_not_eq_true noErr⟩

/-- The status that a completing command raises over a clear one. -/
theorem complete_status (s : Controller Behind) (command : Executing) (clear : Clear s.sts) :
    stsErr (s.complete attached command).sts = attached.err s.behind command.id ∧
      (attached.err s.behind command.id = false →
        stsDone (s.complete attached command).sts = true) := by
  have noErr : stsErr s.sts = false := clear.2
  cases failing : attached.err s.behind command.id with
  | true => simp [Controller.complete, failing, stsErr, bit]
  | false => simpa [Controller.complete, failing, stsErr, stsDone, bit] using noErr

/-- A poll that finds its command completing ends the wait with the outcome. -/
theorem wait_completing (id : Nat) (word : BitVec 32) (later : BusIo Int) (s : Controller Behind)
    (busy : s.state = .busy) (elapsed : s.executing = [⟨id, word, 0⟩]) (clear : Clear s.sts) :
    (pollBusReady later).Wp (controller attached) (fun _ _ => True)
      (fun ret after => ret = attached.ret s.behind id ∧ Completed attached id word s after) s := by
  have ticked := tick_completes attached s elapsed
  obtain ⟨err, done⟩ := complete_status attached s ⟨id, word, 0⟩ clear
  have status : (s.tick attached).sts = (s.complete attached ⟨id, word, 0⟩).sts := by rw [ticked]
  have completed : Completed attached id word s (s.tick attached) := by
    rw [ticked]
    exact ⟨rfl, rfl, rfl, rfl, fun reading => by simp [Controller.complete, reading]⟩
  apply wait_poll attached later _ s busy
  · intro failed
    have failing : attached.err s.behind id = true := by rw [← err, ← status, failed]
    exact ⟨by simp [Attached.ret, failing], completed⟩
  · intro passed _
    have succeeding : attached.err s.behind id = false := by rw [← err, ← status, passed]
    exact ⟨by simp [Attached.ret, succeeding], completed⟩
  · intro quiet
    have succeeding : attached.err s.behind id = false := by rw [← err, ← status, quiet.2]
    have raised := done succeeding
    rw [← status, quiet.1] at raised
    exact absurd raised (by decide)

/-- A poll that finds its command still executing goes on. -/
theorem wait_running (id left : Nat) (word : BitVec 32) (later : BusIo Int)
    (post : Int → Controller Behind → Prop) (s : Controller Behind) (busy : s.state = .busy)
    (running : s.executing = [⟨id, word, left + 1⟩]) (clear : Clear s.sts)
    (again : later.Wp (controller attached) (fun _ _ => True) post
      { s with executing := [⟨id, word, left⟩], clock := s.clock + 1 }) :
    (pollBusReady later).Wp (controller attached) (fun _ _ => True) post s := by
  have ticked := tick_running attached s running
  have status : (s.tick attached).sts = s.sts := by rw [ticked]
  apply wait_poll attached later post s busy
  · intro failed
    exact absurd failed (by simp [status, clear.2])
  · intro _ done
    exact absurd done (by simp [status, clear.1])
  · intro _
    rw [ticked]
    exact again

/-- A wait for the only executing command ends with its outcome if the command
is fast enough, and gives up otherwise.

Proof: by induction on the polls left. Each poll finds the command completing, or
still executing with one access less. -/
theorem wait_executing (id : Nat) (word : BitVec 32) (left retry : Nat) (s : Controller Behind)
    (busy : s.state = .busy) (running : s.executing = [⟨id, word, left⟩]) (clear : Clear s.sts) :
    (waitBusReadyLoop retry).Wp (controller attached) (fun _ _ => True)
      (fun ret after => (ret = -ebusy ∧ retry < left) ∨
        (ret = attached.ret s.behind id ∧ left ≤ retry) ∧ Completed attached id word s after)
      s := by
  have ended (retry : Nat) (later : BusIo Int) (s : Controller Behind) (busy : s.state = .busy)
      (elapsed : s.executing = [⟨id, word, 0⟩]) (clear : Clear s.sts) :
      (pollBusReady later).Wp (controller attached) (fun _ _ => True)
        (fun ret after => (ret = -ebusy ∧ retry < 0) ∨
          (ret = attached.ret s.behind id ∧ 0 ≤ retry) ∧ Completed attached id word s after) s := by
    apply (wait_completing attached id word later s busy elapsed clear).weaken
    rintro ret after ⟨returned, completed⟩
    exact Or.inr ⟨⟨returned, Nat.zero_le _⟩, completed⟩
  induction retry generalizing s left with
  | zero =>
    cases left with
    | zero => exact ended 0 _ s busy running clear
    | succ left =>
      apply wait_running attached id left word _ _ s busy running clear
      exact Or.inl ⟨rfl, Nat.succ_pos left⟩
  | succ retry inductionHypothesis =>
    cases left with
    | zero => exact ended (retry + 1) _ s busy running clear
    | succ left =>
      apply wait_running attached id left word _ _ s busy running clear
      apply (inductionHypothesis left
        { s with executing := [⟨id, word, left⟩], clock := s.clock + 1 } busy rfl clear).weaken
      rintro ret after (⟨gaveUp, slow⟩ | ⟨⟨returned, fast⟩, completed⟩)
      · exact Or.inl ⟨gaveUp, Nat.succ_lt_succ slow⟩
      · refine Or.inr ⟨⟨returned, Nat.succ_le_succ fast⟩, ?_⟩
        exact ⟨completed.state, completed.issued, completed.idle, completed.behind,
          completed.loaded⟩

end Waits

/-! ## Clearing the status -/

/-- The word `fbiob_mdio_clean_status` writes has done and err set. -/
theorem clean_word_bits (sts : BitVec 32) :
    (setField (setField sts 0 1 1) 1 1 1).getLsbD 0 = true ∧
      (setField (setField sts 0 1 1) 1 1 1).getLsbD 1 = true := by
  constructor
  · rw [set_field_bit _ _ _ _ _ (by decide) (by decide) (by decide),
      set_field_bit _ _ _ _ _ (by decide) (by decide) (by decide)]
    rfl
  · rw [set_field_bit _ _ _ _ _ (by decide) (by decide) (by decide)]
    rfl

/-- A status that is written back is clear. -/
theorem cleaned_clear (sts : BitVec 32) :
    Clear (sts &&& ~~~setField (setField sts 0 1 1) 1 1 1) := by
  obtain ⟨done, err⟩ := clean_word_bits sts
  constructor
  · rw [stsDone, BitVec.getLsbD_and, BitVec.getLsbD_not, done]
    exact Bool.and_false _
  · rw [stsErr, BitVec.getLsbD_and, BitVec.getLsbD_not, err]
    exact Bool.and_false _

/-- Nothing executes, the status is clear, and the last loaded word is kept. -/
structure Cleaned (before after : Controller Behind) : Prop where
  state : after.state = before.state
  issued : after.issued = before.issued
  behind : after.behind = before.behind
  idle : after.executing = []
  kept : after.rdDat = before.rdDat
  clear : Clear after.sts

section Calls

variable (attached : Attached Behind)

/-- On an idle controller clearing the status does only that. -/
theorem clean_status_idle (s : Controller Behind) (idle : s.executing = []) :
    fbiobMdioCleanStatus.Wp (controller attached) (fun _ _ => True)
      (fun _ after => Cleaned s after) s := by
  have first := tick_idle attached s idle
  have second : (s.tick attached).tick attached = { s with clock := s.clock + 1 + 1 } := by
    rw [first]
    exact tick_idle attached _ idle
  have read : (s.tick attached).reply attached fbiobMdioRegSts = s.sts := by rw [first]; rfl
  have outcome : Cleaned s (((s.tick attached).tick attached).store attached fbiobMdioRegSts
      (setField (setField ((s.tick attached).reply attached fbiobMdioRegSts) 0 1 1) 1 1 1)) := by
    rw [read, second]
    exact ⟨rfl, rfl, rfl, idle, rfl, cleaned_clear s.sts⟩
  exact ⟨trivial, trivial, outcome⟩

/-! ## Issuing a command -/

/-- The direction of a command word. -/
theorem command_word_rw (cmd addr devad regnum rw : BitVec 32) :
    (commandWord cmd addr devad regnum rw).getLsbD 7 = rw.getLsbD 0 := by
  rw [commandWord, set_field_bit _ _ _ _ _ (by decide) (by decide) (by decide)]
  rfl

/-- Only the command with the next number executes, over a clear status. -/
structure Issued (attached : Attached Behind) (word : BitVec 32)
    (before after : Controller Behind) : Prop where
  busy : after.state = .busy
  issued : after.issued = before.issued + 1
  behind : after.behind = before.behind
  executing : after.executing =
    [⟨before.issued, word, attached.delay before.behind before.issued⟩]
  clear : Clear after.sts

/-- What counts of the state before a command is its number and what is behind. -/
theorem Issued.of_same {attached : Attached Behind} {word : BitVec 32}
    {first second after : Controller Behind} (issued : Issued attached word second after)
    (number : second.issued = first.issued) (behind : second.behind = first.behind) :
    Issued attached word first after := by
  refine ⟨issued.busy, ?_, issued.behind.trans behind, ?_, issued.clear⟩
  · rw [issued.issued, number]
  · rw [issued.executing, number, behind]

/-- Writing CMD on an idle and clear controller issues that command alone. -/
theorem command_issued (word : BitVec 32) (s : Controller Behind) (busy : s.state = .busy)
    (idle : s.executing = []) (clear : Clear s.sts) :
    Issued attached word s (controller attached (.writel fbiobMdioRegCmd word) s).2 := by
  have issued : Issued attached word s ((s.tick attached).store attached fbiobMdioRegCmd word) := by
    rw [tick_idle attached s idle]
    constructor
    · exact busy
    · rfl
    · rfl
    · simp [Controller.store, fbiobMdioRegCmd, fbiobMdioRegSts, idle]
    · exact clear
  exact issued

/-- A command issued on an idle and clear controller is the only one to execute. Its
other fields are those that CMD showed. -/
theorem issue_command_idle (addr devad regnum rw : BitVec 32) (s : Controller Behind)
    (busy : s.state = .busy) (idle : s.executing = []) (clear : Clear s.sts) :
    (issueCommand addr devad regnum rw).Wp (controller attached) (fun _ _ => True)
      (fun _ after => Issued attached (commandWord s.cmd addr devad regnum rw) s after) s := by
  have ticked := tick_idle attached s idle
  have read : (s.tick attached).reply attached fbiobMdioRegCmd = s.cmd := by rw [ticked]; rfl
  have issued := command_issued attached (commandWord s.cmd addr devad regnum rw)
    { s with clock := s.clock + 1 } busy idle clear
  rw [← ticked, ← read] at issued
  refine ⟨trivial, trivial, ?_⟩
  rw [← read]
  exact issued.of_same (by rw [ticked]) (by rw [ticked])

/-! ## Collecting a read -/

/-- What a read returns for its completed command. -/
def Attached.readRet (attached : Attached Behind) (behind : Behind) (id : Nat)
    (word : BitVec 32) : Int :=
  if attached.err behind id then -eio else ((attached.load behind id word).setWidth 16).toNat

/-- A read has collected its command, and the bus is ready again. -/
structure Collected (attached : Attached Behind) (word : BitVec 32)
    (before after : Controller Behind) : Prop where
  ready : after.state = .ready
  idle : after.executing = []
  issued : after.issued = before.issued + 1
  behind : after.behind = attached.effect before.behind before.issued word

/-- A read collects the outcome of its own command if that is fast enough, and
gives up otherwise.

Proof: the wait ends with the outcome of the only command. Clearing the status of the
idle controller and taking the state back keep what that command has loaded. -/
theorem collect_read (word : BitVec 32) (reading : isRead word = true)
    (s before : Controller Behind) (issued : Issued attached word before s) :
    collectRead.Wp (controller attached) (fun _ _ => True)
      (fun ret after =>
        (ret = -ebusy ∧ 50 < attached.delay before.behind before.issued) ∨
        (ret = attached.readRet before.behind before.issued word ∧
          attached.delay before.behind before.issued ≤ 50) ∧
            Collected attached word before after) s := by
  apply Program.Wp.seq
    (wait_executing attached _ _ _ 50 s issued.busy issued.executing issued.clear)
  rintro ret middle (⟨rfl, slow⟩ | ⟨⟨returned, fast⟩, completed⟩)
  · have gaveUp : -ebusy ≠ 0 := by decide
    simp only [gaveUp, ne_eq, not_false_eq_true, if_true]
    exact ⟨trivial, trivial, trivial, Or.inl ⟨rfl, slow⟩⟩
  · rw [issued.behind] at returned
    have loaded : middle.rdDat = attached.load before.behind before.issued word := by
      rw [completed.loaded reading, issued.behind]
    apply Program.Wp.seq (clean_status_idle attached middle completed.idle)
    intro _ cleaned outcome
    have collected (clock : Nat) :
        Collected attached word before { cleaned with state := .ready, clock := clock } := by
      refine ⟨rfl, outcome.idle, ?_, ?_⟩
      · exact outcome.issued.trans (completed.issued.trans issued.issued)
      · exact outcome.behind.trans (completed.behind.trans (by rw [issued.behind]))
    refine ⟨trivial, ?_⟩
    cases failing : attached.err before.behind before.issued with
    | true =>
      have nonzero : -eio ≠ 0 := by decide
      simp only [Attached.ret, failing, if_true] at returned
      simp only [returned, nonzero, ne_eq, not_false_eq_true, if_true]
      exact Or.inr ⟨⟨by simp [Attached.readRet, failing], fast⟩, collected cleaned.clock⟩
    | false =>
      simp only [Attached.ret, failing, Bool.false_eq_true, if_false] at returned
      simp only [returned, ne_eq, not_true_eq_false, if_false]
      have ticked := tick_idle attached (controller attached (.storeState .ready) cleaned).2
        outcome.idle
      have reply : (controller attached (.readl fbiobMdioRegRdDat)
          (controller attached (.storeState .ready) cleaned).2).1 = cleaned.rdDat := by
        simp only [controller] at ticked ⊢
        rw [ticked]
        rfl
      have final : (controller attached (.readl fbiobMdioRegRdDat)
          (controller attached (.storeState .ready) cleaned).2).2 =
            { cleaned with state := .ready, clock := cleaned.clock + 1 } := ticked
      refine ⟨trivial, Or.inr ⟨⟨?_, fast⟩, ?_⟩⟩
      · rw [reply, outcome.kept, loaded]
        simp [Attached.readRet, failing]
      · rw [final]
        exact collected _

/-! ## Between two calls -/

/-- The driver and the controller between two calls: nothing is left to collect,
or a posted write executes over a clear status. -/
inductive Between (s : Controller Behind) : (failed : Bool) → Prop where
  | settled (ready : s.state = .ready) (idle : s.executing = []) : Between s false
  | posted (id : Nat) (word : BitVec 32) (busy : s.state = .busy)
      (executing : s.executing = [⟨id, word, attached.delay s.behind id⟩]) (clear : Clear s.sts) :
      Between s (attached.err s.behind id)

variable {attached}

/-- A command that has just been issued is a posted one. -/
theorem Issued.between {word : BitVec 32} {before after : Controller Behind}
    (issued : Issued attached word before after) :
    Between attached after (attached.err before.behind before.issued) := by
  have running : after.executing =
      [⟨before.issued, word, attached.delay after.behind before.issued⟩] := by
    rw [issued.executing, issued.behind]
  have posted := Between.posted before.issued word issued.busy running issued.clear
  rwa [issued.behind] at posted

/-- Between two calls a command in execution completes within the poll budget. -/
theorem Between.in_budget {s : Controller Behind} {failed : Bool}
    (between : Between attached s failed) (budget : ∀ id, attached.delay s.behind id ≤ 50) :
    ∀ command ∈ s.executing, command.left ≤ 50 := by
  intro command member
  cases between with
  | settled ready idle =>
    rw [idle] at member
    exact absurd member List.not_mem_nil
  | posted id word busy executing clear =>
    rw [executing] at member
    rw [List.mem_singleton.mp member]
    exact budget id

/-- Every command has completed and taken effect. -/
structure Settled (attached : Attached Behind) (before after : Controller Behind) : Prop where
  idle : after.executing = []
  issued : after.issued = before.issued
  behind : after.behind = before.settled attached

/-- Nothing changes any more behind an idle controller. -/
theorem settled_idle (s : Controller Behind) (idle : s.executing = []) :
    s.settled attached = s.behind := by
  rw [Controller.settled, idle]
  rfl

/-- The wait at the start of a call collects the outcome of a posted write. -/
theorem collect_posted (s : Controller Behind) (failed : Bool) (between : Between attached s failed)
    (budget : ∀ command ∈ s.executing, command.left ≤ 50) :
    waitBusReady.Wp (controller attached) (fun _ _ => True)
      (fun ret after => ret = (if failed then -eio else 0) ∧ Settled attached s after) s := by
  cases between with
  | settled ready idle =>
    refine ⟨trivial, ?_⟩
    apply Program.Wp.ite
    · intro _
      exact ⟨rfl, idle, rfl, (settled_idle s idle).symm⟩
    · intro notReady
      exact absurd ready notReady
  | posted id word busy executing clear =>
    apply (wait_executing attached id word _ 50 s busy executing clear).weaken
    rintro ret after (⟨_, slow⟩ | ⟨⟨returned, _⟩, completed⟩)
    · have fast := budget ⟨id, word, attached.delay s.behind id⟩
        (executing ▸ List.mem_singleton_self _)
      exact absurd slow (Nat.not_lt.mpr fast)
    · refine ⟨returned, completed.idle, completed.issued, ?_⟩
      rw [completed.behind, Controller.settled, executing]
      rfl

/-- A wait loads `bus->state` and reads STS, and returns zero or one of two
error numbers. -/
theorem wait_conforms {Q : BusOp → Prop} (load : Q .loadState) (read : Q (.readl fbiobMdioRegSts))
    (retry : Nat) :
    (waitBusReadyLoop retry).Conforms Q (fun ret => ret = 0 ∨ ret = -eio ∨ ret = -ebusy) := by
  refine wait_loop_rule (P := fun program => program.Conforms Q fun ret =>
    ret = 0 ∨ ret = -eio ∨ ret = -ebusy) ?_ ?_ retry
  · exact Or.inr (Or.inr rfl)
  · intro later conforms
    refine ⟨load, fun state => ?_⟩
    apply Program.Conforms.ite
    · intro ready
      exact Or.inl rfl
    · intro _
      refine ⟨read, fun sts => ?_⟩
      apply Program.Conforms.ite
      · intro failed
        exact Or.inr (Or.inl rfl)
      · intro _
        apply Program.Conforms.ite
        · intro done
          exact Or.inl rfl
        · intro _
          exact conforms

/-- Clearing the status reads and writes STS. -/
theorem clean_conforms {Q : BusOp → Prop} (read : Q (.readl fbiobMdioRegSts))
    (write : ∀ val, Q (.writel fbiobMdioRegSts val)) :
    fbiobMdioCleanStatus.Conforms Q (fun _ => True) :=
  ⟨read, fun _ => ⟨write _, fun _ => trivial⟩⟩

/-- The operation writes neither a command nor the data of one. -/
def Unissued : BusOp → Prop
  | .writel offset _ => offset ≠ fbiobMdioRegCmd ∧ offset ≠ fbiobMdioRegWrDat
  | _ => True

/-- A wait writes neither a command nor the data of one. -/
theorem wait_unissued :
    waitBusReady.Conforms Unissued (fun ret => ret = 0 ∨ ret = -eio ∨ ret = -ebusy) :=
  wait_conforms trivial trivial _

/-- Clearing the status writes neither a command nor the data of one. -/
theorem clean_unissued : fbiobMdioCleanStatus.Conforms Unissued (fun _ => True) :=
  clean_conforms trivial fun _ => (by decide : _ ∧ _)

/-- The start of every call: a failed posted write is reported, otherwise the
call goes on with a busy bus, an idle controller and a clear status. -/
theorem call_prologue {allowed : BusOp → Controller Behind → Prop}
    (quiet : ∀ op now, Unissued op → allowed op now) (rest : BusIo Int)
    (post : Int → Controller Behind → Prop) (s : Controller Behind) (failed : Bool)
    (between : Between attached s failed) (budget : ∀ command ∈ s.executing, command.left ≤ 50)
    (reported : failed = true → ∀ after, after.state = .ready → Settled attached s after →
      post (-eio) after)
    (goesOn : failed = false → ∀ after, after.state = .busy → Clear after.sts →
      Settled attached s after → rest.Wp (controller attached) allowed post after) :
    (waitBusReady >>= fun ret => fbiobMdioCleanStatus >>= fun _ =>
      if ret ≠ 0 then storeState .ready >>= fun _ => pure ret
      else storeState .busy >>= fun _ => rest).Wp (controller attached) allowed post s := by
  apply Program.Wp.seq (wait_unissued.allows quiet (collect_posted s failed between budget))
  rintro ret waited ⟨returned, settled⟩
  apply Program.Wp.seq
    (clean_unissued.allows quiet (clean_status_idle attached waited settled.idle))
  intro _ cleaned outcome
  have still : Settled attached s cleaned :=
    ⟨outcome.idle, outcome.issued.trans settled.issued, outcome.behind.trans settled.behind⟩
  cases failed with
  | true =>
    have error : -eio ≠ 0 := by decide
    simp only [if_true] at returned
    simp only [returned, error, ne_eq, not_false_eq_true, if_true]
    exact ⟨quiet _ _ trivial, reported rfl _ rfl ⟨still.idle, still.issued, still.behind⟩⟩
  | false =>
    simp only [Bool.false_eq_true, if_false] at returned
    simp only [returned, ne_eq, not_true_eq_false, if_false]
    exact ⟨quiet _ _ trivial, goesOn rfl _ rfl outcome.clear
      ⟨still.idle, still.issued, still.behind⟩⟩

end Calls

/-! ## Without a command -/

/-- The operation issues no command. -/
def NoCommand : BusOp → Prop
  | .writel offset _ => offset ≠ fbiobMdioRegCmd
  | _ => True

/-- A wait issues no command, and returns zero or an error number. -/
theorem wait_no_command (retry : Nat) :
    (waitBusReadyLoop retry).Conforms NoCommand (fun ret => ret = 0 ∨ ret < 0) := by
  apply (wait_conforms trivial trivial retry).mono fun _ none => none
  rintro ret (rfl | rfl | rfl)
  · exact Or.inl rfl
  · exact Or.inr (by decide)
  · exact Or.inr (by decide)

/-- Clearing the status issues no command. -/
theorem clean_no_command : fbiobMdioCleanStatus.Conforms NoCommand (fun _ => True) :=
  clean_conforms trivial fun _ => (by decide : fbiobMdioRegSts ≠ fbiobMdioRegCmd)

section Resets

variable (attached : Attached Behind)

/-- Without a command the number of commands is kept. -/
theorem no_command_issued (op : BusOp) (s : Controller Behind) (none : NoCommand op) :
    (controller attached op s).2.issued = s.issued := by
  cases op with
  | readl offset => exact tick_issued attached s
  | writel offset val =>
    have different : offset ≠ fbiobMdioRegCmd := none
    simp only [controller, Controller.store, different, if_false]
    split_ifs <;> exact tick_issued attached s
  | loadState => rfl
  | storeState state => rfl

/-- Without a command an idle controller stays idle. -/
theorem no_command_idle (op : BusOp) (s : Controller Behind) (none : NoCommand op)
    (idle : s.executing = []) : (controller attached op s).2.executing = [] := by
  have ticked : (s.tick attached).executing = [] := by
    rw [tick_idle attached s idle]
    exact idle
  cases op with
  | readl offset => exact ticked
  | writel offset val =>
    have different : offset ≠ fbiobMdioRegCmd := none
    simp only [controller, Controller.store, different, if_false]
    split_ifs
    · exact ticked
    · rfl
    · exact ticked
  | loadState => exact idle
  | storeState state => exact idle

/-- Setting the reset bit ends every command. -/
theorem reset_ends (val : BitVec 32) (set : val.getLsbD 0 = true) (s : Controller Behind) :
    (controller attached (.writel fbiobMdioRegRst val) s).2.executing = [] := by
  change ((s.tick attached).store attached fbiobMdioRegRst val).executing = []
  unfold Controller.store
  rw [if_neg (by decide), if_neg (by decide), if_pos ⟨rfl, set⟩]

/-- A reset that succeeds leaves the bus ready and the controller idle. -/
theorem reset_settles (s : Controller Behind) :
    fbiobMdioReset.Wp (controller attached) (fun _ _ => True)
      (fun ret after => ret = 0 → after.state = .ready ∧ after.executing = []) s := by
  have sets (rst : BitVec 32) : (setField rst 0 1 1).getLsbD 0 = true := by
    rw [set_field_bit _ _ _ _ _ (by decide) (by decide) (by decide)]
    rfl
  refine ⟨trivial, trivial, trivial, ?_⟩
  have idle := no_command_idle attached (.readl fbiobMdioRegRst) _ trivial
    (reset_ends attached _ (sets (controller attached (.readl fbiobMdioRegRst) s).1)
      (controller attached (.readl fbiobMdioRegRst) s).2)
  apply Program.Wp.ite
  · intro _ done
    exact absurd done (by decide)
  · intro _
    refine ⟨trivial, trivial, trivial, fun _ => ⟨rfl, ?_⟩⟩
    apply no_command_idle attached (.storeState .ready) _ trivial
    apply no_command_idle attached (.writel fbiobMdioRegIntrMsk _) _
      (by decide : fbiobMdioRegIntrMsk ≠ fbiobMdioRegCmd)
    exact no_command_idle attached (.readl fbiobMdioRegIntrMsk) _ trivial idle

end Resets

end FbossBsp.Mdio
