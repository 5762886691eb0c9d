import FbossBsp.MdioIntegrity

/-!
# Posted MDIO writes

A write returns before its command has completed; the next call collects the
outcome. To its callers the bus is therefore a machine with one bit of memory:
whether the last command was a write that failed. In that state a call reports
the failed write instead of issuing its own command.

The driver refines this machine on every controller whose commands complete
within the poll budget of the wait that follows them.
-/

namespace FbossBsp.Mdio

open Interaction

/-! ## The abstract bus -/

/-- The result and the number of commands of each call. `failed` says that the
last command was a write that ended in err; `issued` numbers the next command. -/
def posted (plan : Nat → Outcome) : List BusCall → (failed : Bool) → (issued : Nat) →
    List (Int × Nat)
  | [], _, _ => []
  | _ :: rest, true, issued => (-eio, 0) :: posted plan rest false issued
  | .readC45 _ _ _ :: rest, false, issued =>
      ((plan issued).readRet, 1) :: posted plan rest false (issued + 1)
  | .writeC45 _ _ _ _ _ :: rest, false, issued =>
      (0, 1) :: posted plan rest (plan issued).err (issued + 1)

/-- The result and the number of commands of each call of the driver. -/
def observed : List BusCall → MdioController → List (Int × Nat)
  | [], _ => []
  | call :: rest, s =>
      let after := call.perform.final mdioController s
      (call.perform.result mdioController s, after.issued - s.issued) :: observed rest after

/-- Every command completes within the poll budget of the wait that follows it. -/
def WithinBudget (plan : Nat → Outcome) : Prop := ∀ id, (plan id).delay ≤ 50

/-! ## The driver follows the abstract bus -/

/-- What one call of the driver must do to follow the abstract bus: its result
and its number of commands are the abstract ones, and so is the state it leaves. -/
def Follows (call : BusCall) (s : MdioController) (failed : Bool) (ret : Int)
    (after : MdioController) : Prop :=
  after.behind = s.behind ∧ ∃ later, Between scripted after later ∧
    ∀ rest, posted s.plan (call :: rest) failed s.issued =
      (ret, after.issued - s.issued) :: posted s.plan rest later after.issued

/-- A call that reports a failed write follows the abstract bus. -/
theorem reported_follows (call : BusCall) (s after : MdioController) (ready : after.state = .ready)
    (settled : Settled scripted s after) : Follows call s true (-eio) after := by
  refine ⟨settled.behind.trans (script_settled s), false, .settled ready settled.idle, ?_⟩
  intro rest
  rw [posted, settled.issued, Nat.sub_self]

/-- A read follows the abstract bus.

Proof: its command is the only one, and within the poll budget it is collected. -/
theorem read_refines (addr devad regnum : BitVec 32) (s : MdioController) (failed : Bool)
    (between : Between scripted s failed) (budget : WithinBudget s.plan) :
    (fbiobMdioReadC45 addr devad regnum).Wp mdioController (fun _ _ => True)
      (Follows (.readC45 addr devad regnum) s failed) s := by
  apply call_prologue (fun _ _ _ => trivial) _ _ s failed between (between.in_budget budget)
  · rintro rfl after ready settled
    exact reported_follows _ s after ready settled
  · rintro rfl started busy clear settled
    have script : started.behind = s.behind := settled.behind.trans (script_settled s)
    have reading := command_word_rw started.cmd addr devad regnum busRead
    apply Program.Wp.seq
      (issue_command_idle scripted addr devad regnum busRead started busy settled.idle clear)
    intro _ executing command
    apply (collect_read scripted _ reading executing started command).weaken
    rw [settled.issued, script]
    rintro ret after (⟨_, slow⟩ | ⟨⟨returned, _⟩, collected⟩)
    · exact absurd slow (Nat.not_lt.mpr (budget s.issued))
    · refine ⟨collected.behind.trans script, false, .settled collected.ready collected.idle, ?_⟩
      intro rest
      rw [posted, collected.issued, settled.issued, Nat.add_sub_cancel_left, returned]
      rfl

/-- A write follows the abstract bus: it leaves its command to the next call. -/
theorem write_refines (wrData addr devad regnum : BitVec 32) (val : BitVec 16)
    (s : MdioController) (failed : Bool) (between : Between scripted s failed)
    (budget : WithinBudget s.plan) :
    (fbiobMdioWriteC45 wrData addr devad regnum val).Wp mdioController (fun _ _ => True)
      (Follows (.writeC45 wrData addr devad regnum val) s failed) s := by
  apply call_prologue (fun _ _ _ => trivial) _ _ s failed between (between.in_budget budget)
  · rintro rfl after ready settled
    exact reported_follows _ s after ready settled
  · rintro rfl started busy clear settled
    have script : started.behind = s.behind := settled.behind.trans (script_settled s)
    apply (wp_bus_writel _ _ _ _ _ _ _).mpr
    rw [write_data_idle scripted started _ settled.idle]
    refine ⟨trivial, Program.Wp.bind ?_⟩
    apply (issue_command_idle scripted addr devad regnum busWrite
      { started with clock := started.clock + 1 } busy settled.idle clear).weaken
    intro _ after command
    have kept : after.behind = s.behind := command.behind.trans script
    refine ⟨kept, (s.plan s.issued).err, ?_, ?_⟩
    · have between := command.between
      rw [settled.issued, script] at between
      exact between
    · intro rest
      rw [posted, command.issued, settled.issued, Nat.add_sub_cancel_left]

/-- Every call follows the abstract bus. -/
theorem call_refines (call : BusCall) (s : MdioController) (failed : Bool)
    (between : Between scripted s failed) (budget : WithinBudget s.plan) :
    call.perform.Wp mdioController (fun _ _ => True) (Follows call s failed) s := by
  cases call with
  | readC45 addr devad regnum => exact read_refines addr devad regnum s failed between budget
  | writeC45 wrData addr devad regnum val =>
    exact write_refines wrData addr devad regnum val s failed between budget

/-- Whatever a posted write has left behind, a sequence of calls behaves like
the abstract bus from there. -/
theorem calls_refine (calls : List BusCall) (s : MdioController) (failed : Bool)
    (between : Between scripted s failed) (budget : WithinBudget s.plan) :
    observed calls s = posted s.plan calls failed s.issued := by
  induction calls generalizing s failed with
  | nil => rw [observed, posted]
  | cons call rest inductionHypothesis =>
    obtain ⟨script, later, between, follows⟩ :=
      (call_refines call s failed between budget).outcome
    have plan : (call.perform.final mdioController s).plan = s.plan := congrArg Script.plan script
    rw [follows rest, observed, inductionHypothesis _ later between (plan ▸ budget), plan]

/-- From an idle bus on, every sequence of reads and writes whose commands
complete within the poll budget behaves like the abstract bus: each call issues
its command, a read returns its outcome and a write returns 0, except that the
call after a write that ended in err only reports that write. -/
theorem bus_refines_posted (calls : List BusCall) (s : MdioController)
    (ready : s.state = .ready) (idle : s.executing = []) (budget : WithinBudget s.plan) :
    observed calls s = posted s.plan calls false s.issued :=
  calls_refine calls s false (Between.settled ready idle) budget

/-- A call as the strict law has it: it issues its command, and fails exactly
when that command ends in err. -/
def ReportsOwn (call : BusCall) (s : MdioController) : Prop :=
  (call.perform.final mdioController s).issued = s.issued + 1 ∧
    (call.perform.result mdioController s < 0 ↔ (s.plan s.issued).err = true)

instance (call : BusCall) (s : MdioController) : Decidable (ReportsOwn call s) :=
  inferInstanceAs (Decidable (_ ∧ (_ ↔ _)))

/-- The first command ends in err and all others are done, each after one poll. -/
def firstFails (id : Nat) : Outcome := ⟨id == 0, BitVec.ofNat 32 id, 1⟩

/-- A failed write is reported by the read after it, and the next read succeeds. -/
theorem failed_write_posted :
    observed [.writeC45 0 1 1 1 7, .readC45 1 1 1, .readC45 1 1 1] (resetController firstFails) =
      [(0, 1), (-eio, 0), (1, 1)] :=
  bus_refines_posted [.writeC45 0 1 1 1 7, .readC45 1 1 1, .readC45 1 1 1]
    (resetController firstFails) rfl rfl (fun _ => (by decide : 1 ≤ 50))

/-- The failed write itself reports success, and the read after it is skipped. -/
theorem failed_write_misreported :
    observed [.writeC45 0 1 1 1 7, .readC45 1 1 1] (resetController firstFails) =
        [(0, 1), (-eio, 0)] ∧
      ¬Calls.Each mdioController BusCall.perform ReportsOwn
        [.writeC45 0 1 1 1 7, .readC45 1 1 1] (resetController firstFails) := by
  constructor <;> decide +kernel

end FbossBsp.Mdio
