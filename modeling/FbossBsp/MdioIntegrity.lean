import FbossBsp.MdioController

/-!
# The integrity of MDIO reads

The controller follows a script that says what happens to each command. A call that
gives up on a slow command leaves it executing, and the state READY lets the next
call issue its own command without waiting. That call may then take the completion
of the old command for its own. A read is safe when nothing executes and nothing is
raised at the moment it issues its command.
-/

namespace FbossBsp.Mdio

open Interaction

/-! ## A controller with a script -/

/-- What happens to a command: whether it ends in err, the word a read loads
into RD_DAT, and how many accesses later it still executes. -/
structure Outcome where
  err : Bool
  word : BitVec 32
  delay : Nat

/-- What a read returns for its completed command. -/
def Outcome.readRet (outcome : Outcome) : Int :=
  if outcome.err then -eio else (outcome.word.setWidth 16).toNat

/-- What happens to the command with each number, and what the other registers
read as at each time. -/
structure Script where
  plan : Nat → Outcome
  replies : Nat → BitVec 32

/-- A script is not changed by what happens. -/
def scripted : Attached Script where
  delay script id := (script.plan id).delay
  err script id := (script.plan id).err
  load script id _ := (script.plan id).word
  effect script _ _ := script
  reply script clock _ := script.replies clock
  store script _ _ := script

abbrev MdioController := Controller Script

abbrev mdioController : Device BusOp BusOp.Reply MdioController := controller scripted

abbrev Controller.plan (s : MdioController) : Nat → Outcome := s.behind.plan

/-- Completing commands keeps the script. -/
theorem complete_all_script (elapsed : List Executing) (s : MdioController) :
    (elapsed.foldl (Controller.complete scripted) s).behind = s.behind := by
  induction elapsed generalizing s with
  | nil => rfl
  | cons command rest inductionHypothesis => exact inductionHypothesis (s.complete scripted command)

/-- Every operation keeps the script. -/
theorem script_kept (op : BusOp) (s : MdioController) :
    (mdioController op s).2.behind = s.behind := by
  have ticked : (s.tick scripted).behind = s.behind := complete_all_script _ s
  cases op with
  | readl offset => exact ticked
  | writel offset val =>
    simp only [controller, Controller.store]
    split_ifs <;> exact ticked
  | loadState => rfl
  | storeState state => rfl

/-- The script is the same once the commands in execution have completed. -/
theorem script_settled (s : MdioController) : s.settled scripted = s.behind := by
  have same (commands : List Executing) (script : Script) :
      commands.foldl (fun behind command => scripted.effect behind command.id command.word) script =
        script := by
    induction commands with
    | nil => rfl
    | cons command rest inductionHypothesis => exact inductionHypothesis
  exact same s.executing s.behind

/-! ## Reads return their own data -/

/-- A read command is issued while nothing else executes and the status is clear. -/
def IssuedAlone : BusOp → MdioController → Prop
  | .writel offset val, s =>
      offset = fbiobMdioRegCmd → val.getLsbD 7 = true → s.executing = [] ∧ Clear s.sts
  | _, _ => True

instance : (op : BusOp) → (s : MdioController) → Decidable (IssuedAlone op s)
  | .writel offset val, s =>
      inferInstanceAs (Decidable
        (offset = fbiobMdioRegCmd → val.getLsbD 7 = true → s.executing = [] ∧ Clear s.sts))
  | .readl _, _ => .isTrue trivial
  | .loadState, _ => .isTrue trivial
  | .storeState _, _ => .isTrue trivial

/-- A non-negative result of a read is the datum of the one command that the read
issued, which has completed. -/
def ReadsOwn (call : BusCall) (s : MdioController) : Prop :=
  match call with
  | .readC45 _ _ _ =>
      let ret := call.perform.result mdioController s
      let after := call.perform.final mdioController s
      0 ≤ ret → after.issued = s.issued + 1 ∧
        (∀ command ∈ after.executing, command.id ≠ s.issued) ∧
        ret = ((s.plan s.issued).word.setWidth 16).toNat
  | .writeC45 _ _ _ _ _ => True

/-- A routine without commands keeps their number and the script. -/
theorem no_command_run {α : Type} {program : BusIo α} {R : α → Prop}
    (conforms : program.Conforms NoCommand R) (s : MdioController) :
    program.Wp mdioController (fun _ _ => True)
      (fun value after => R value ∧ after.issued = s.issued ∧ after.behind = s.behind) s := by
  have kept : ∀ op now, NoCommand op → now.issued = s.issued ∧ now.behind = s.behind →
      True ∧ (mdioController op now).2.issued = s.issued ∧
        (mdioController op now).2.behind = s.behind := by
    rintro op now none ⟨issued, behind⟩
    refine ⟨trivial, ?_, ?_⟩
    · exact (no_command_issued scripted op now none).trans issued
    · exact (script_kept op now).trans behind
  exact conforms.wp kept ⟨rfl, rfl⟩

/-- A read command that is issued alone is the only one to execute. -/
theorem issue_read_alone (addr devad regnum : BitVec 32) (s : MdioController)
    (busy : s.state = .busy) :
    (issueCommand addr devad regnum busRead).Wlp mdioController IssuedAlone
      (fun _ after => ∃ word, isRead word = true ∧ Issued scripted word s after) s := by
  intro _ alone
  have reading := command_word_rw ((s.tick scripted).reply scripted fbiobMdioRegCmd) addr devad
    regnum busRead
  obtain ⟨idle, clear⟩ := alone rfl reading
  have issued := command_issued scripted
    (commandWord ((s.tick scripted).reply scripted fbiobMdioRegCmd) addr devad regnum busRead)
    (s.tick scripted) ((tick_state scripted s).trans busy) idle clear
  refine ⟨_, reading, issued.of_same (tick_issued scripted s) ?_⟩
  exact script_kept (.readl fbiobMdioRegCmd) s

/-- Assigning `bus->state` needs no assumption. -/
theorem store_state_liberal (state : FbiobMdioState) (continuation : Unit → BusIo Int)
    (post : Int → MdioController → Prop) (s : MdioController) :
    (storeState state >>= continuation).Wlp mdioController IssuedAlone post s ↔
      (continuation ()).Wlp mdioController IssuedAlone post { s with state := state } :=
  ⟨fun holds => holds trivial, fun holds _ => holds⟩

/-- A read returns its own datum if its command is issued alone. -/
theorem read_c45_own (addr devad regnum : BitVec 32) (s : MdioController) :
    (fbiobMdioReadC45 addr devad regnum).Wlp mdioController IssuedAlone
      (fun ret after => 0 ≤ ret → after.issued = s.issued + 1 ∧
        (∀ command ∈ after.executing, command.id ≠ s.issued) ∧
        ret = ((s.plan s.issued).word.setWidth 16).toNat) s := by
  apply Program.Wlp.bind
  apply (no_command_run (wait_no_command _) s).liberal.weaken
  rintro ret waited ⟨returned, waitedIssued, waitedScript⟩
  apply Program.Wlp.bind
  apply (no_command_run clean_no_command waited).liberal.weaken
  rintro _ cleaned ⟨_, cleanedIssued, cleanedScript⟩
  apply Program.Wlp.ite
  · intro failed _ nonnegative
    exact absurd nonnegative (Int.not_le.mpr (returned.resolve_left failed))
  · intro _
    apply (store_state_liberal _ _ _ _).mpr
    apply Program.Wlp.bind
    apply (issue_read_alone addr devad regnum _ rfl).weaken
    rintro _ started ⟨word, reading, issued⟩
    apply (collect_read scripted word reading started _ issued).liberal.weaken
    have number : cleaned.issued = s.issued := cleanedIssued.trans waitedIssued
    have script : cleaned.behind = s.behind := cleanedScript.trans waitedScript
    simp only [number, script]
    rintro ret after (⟨rfl, _⟩ | ⟨⟨rfl, _⟩, collected⟩) nonnegative
    · exact absurd nonnegative (by decide)
    · refine ⟨collected.issued, ?_, ?_⟩
      · simp [collected.idle]
      · cases failing : scripted.err s.behind s.issued with
        | true =>
          simp only [Attached.readRet, failing, if_true] at nonnegative
          exact absurd nonnegative (by decide)
        | false =>
          simp only [Attached.readRet, failing, Bool.false_eq_true, if_false]
          rfl

/-- In every sequence of calls in which each read command is issued while
nothing else executes and the status is clear, every non-negative value that a
read returns is the datum of its own command. Delays, outcomes and the initial
state are arbitrary.

Proof: until the read has collected it, its command is the only one that can
raise the status or load RD_DAT. -/
theorem read_integrity (calls : List BusCall) (s : MdioController)
    (alone : Calls.Each mdioController BusCall.perform
      (fun call start => call.perform.Along mdioController IssuedAlone start) calls s) :
    Calls.Each mdioController BusCall.perform ReadsOwn calls s := by
  apply alone.mono
  intro call start along
  cases call with
  | readC45 addr devad regnum => exact (read_c45_own addr devad regnum start).outcome along
  | writeC45 wrData addr devad regnum val => trivial

/-- A controller right after a reset. -/
def resetController (plan : Nat → Outcome) : MdioController :=
  ⟨.ready, 0, 0, 0, [], 0, 0, plan, fun _ => 0⟩

/-- Every command ends without an error and loads its own number. -/
def numberedPlan (delay : Nat → Nat) (id : Nat) : Outcome := ⟨false, BitVec.ofNat 32 id, delay id⟩

/-- Two reads of a fast controller return their own data. -/
theorem fast_reads_own :
    Calls.Each mdioController BusCall.perform ReadsOwn
      [.readC45 1 1 1, .readC45 1 1 1] (resetController (numberedPlan fun _ => 3)) :=
  read_integrity [.readC45 1 1 1, .readC45 1 1 1] (resetController (numberedPlan fun _ => 3))
    (by decide +kernel)

instance (call : BusCall) (s : MdioController) : Decidable (ReadsOwn call s) :=
  match call with
  | .readC45 _ _ _ => inferInstanceAs (Decidable (_ → _))
  | .writeC45 _ _ _ _ _ => .isTrue trivial

/-- A first read gives up on its slow command, and the second read returns what
that command then loads. -/
theorem slow_read_returned_by_next :
    Calls.results mdioController BusCall.perform [.readC45 1 1 1, .readC45 1 1 1]
        (resetController (numberedPlan fun id => if id = 0 then 60 else 200)) = [-ebusy, 0] ∧
      ¬Calls.Each mdioController BusCall.perform ReadsOwn [.readC45 1 1 1, .readC45 1 1 1]
        (resetController (numberedPlan fun id => if id = 0 then 60 else 200)) := by
  constructor <;> decide +kernel

end FbossBsp.Mdio
