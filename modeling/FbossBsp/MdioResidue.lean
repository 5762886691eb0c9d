import FbossBsp.MdioIntegrity

/-!
# What a write leaves of its stack

`fbiob_mdio_write_c45` has two unions on its stack. The command word is read from
its register before its fields are assigned; of the data word only the low half
is assigned, and the whole word goes to the controller. Two runs that differ in
nothing but what their stacks held are compared by the register writes that they
perform, on a device of any kind.
-/

namespace FbossBsp.Mdio

open Interaction

/-- The initial contents of the unions of `fbiob_mdio_write_c45`. -/
structure WriteLocals where
  wrData : BitVec 32
  cmd : BitVec 32

/-- `fbiob_mdio_write_c45` on its stack; `cmd.u` is assigned before `cmd.s`. -/
def WriteLocals.writeC45 (locals : WriteLocals) (addr devad regnum : BitVec 32) (val : BitVec 16) :
    BusIo Int :=
  fbiobMdioWriteC45 locals.wrData addr devad regnum val

/-- The register and the word of a write. -/
def writtenWord : Event BusOp BusOp.Reply → Option (Nat × BitVec 32)
  | ⟨.writel offset val, _⟩ => some (offset, val)
  | _ => none

/-- The register writes of a run, in order. -/
def writesOf (events : List (Event BusOp BusOp.Reply)) : List (Nat × BitVec 32) :=
  events.filterMap writtenWord

/-- The writes of two traces are those of the first and then those of the second. -/
theorem writes_of_append (first second : List (Event BusOp BusOp.Reply)) :
    writesOf (first ++ second) = writesOf first ++ writesOf second := List.filterMap_append

/-! ## The polls of a wait -/

section Polls

variable {S : Type} (device : Device BusOp BusOp.Reply S)

/-- The device after a poll that has not ended the wait. -/
def polled (s : S) : S :=
  (device (.readl fbiobMdioRegSts) (device .loadState s).2).2

/-- The status that a poll reads. -/
def polledStatus (s : S) : BitVec 32 :=
  (device (.readl fbiobMdioRegSts) (device .loadState s).2).1

/-- A poll finds the state READY, or a status with done and without err. -/
def PollPasses (s : S) : Prop :=
  (device .loadState s).1 = .ready ∨
    stsErr (polledStatus device s) = false ∧ stsDone (polledStatus device s) = true

/-- A poll finds neither the state READY nor done nor err. -/
def PollPends (s : S) : Prop :=
  (device .loadState s).1 ≠ .ready ∧ stsErr (polledStatus device s) = false ∧
    stsDone (polledStatus device s) = false

/-- One of the polls passes, and those before it are pending; there are at most
`retry + 1`. -/
def Passes : (retry : Nat) → S → Prop
  | 0, s => PollPasses device s
  | retry + 1, s => PollPasses device s ∨ PollPends device s ∧ Passes retry (polled device s)

/-- What a wait returns depends on its first poll, and on the rest if it pends. -/
theorem poll_result (later : BusIo Int) (s : S) :
    (pollBusReady later).result device s = 0 ↔
      PollPasses device s ∨
        PollPends device s ∧ later.result device (polled device s) = 0 := by
  have unfolded : (pollBusReady later).result device s =
      (if (device .loadState s).1 = .ready then pure 0
        else readl fbiobMdioRegSts >>= fun sts => if stsErr sts then pure (-eio)
          else if stsDone sts then pure 0 else later : BusIo Int).result device
            (device .loadState s).2 := rfl
  rw [unfolded, PollPasses, PollPends]
  by_cases ready : (device .loadState s).1 = .ready
  · simp [ready]
  · have read : (readl fbiobMdioRegSts >>= fun sts => if stsErr sts then pure (-eio)
        else if stsDone sts then pure 0 else later : BusIo Int).result device
          (device .loadState s).2 =
        (if stsErr (polledStatus device s) then pure (-eio)
          else if stsDone (polledStatus device s) then pure 0 else later : BusIo Int).result device
            (polled device s) := rfl
    rw [if_neg ready, read]
    cases err : stsErr (polledStatus device s) with
    | true => simp [ready, eio]
    | false =>
      cases done : stsDone (polledStatus device s) with
      | true => simp [ready]
      | false => simp [ready]

/-- A wait returns 0 exactly when one of its polls passes. -/
theorem wait_result_iff (retry : Nat) (s : S) :
    (waitBusReadyLoop retry).result device s = 0 ↔ Passes device retry s := by
  induction retry generalizing s with
  | zero =>
    have timedOut : (pure (-ebusy) : BusIo Int).result device (polled device s) ≠ 0 :=
      (by decide : -ebusy ≠ 0)
    refine (poll_result device (pure (-ebusy)) s).trans ?_
    exact or_iff_left fun later => timedOut later.2
  | succ retry inductionHypothesis =>
    refine (poll_result device (waitBusReadyLoop retry) s).trans ?_
    rw [inductionHypothesis]
    rfl

end Polls

/-! ## Two runs -/

/-- The data word keeps the high half of what the stack held. -/
theorem data_word_eq_iff (first second : BitVec 32) (val : BitVec 32) :
    setField first 0 16 val = setField second 0 16 val ↔
      first.extractLsb' 16 16 = second.extractLsb' 16 16 := by
  constructor
  · intro same
    have outside (word : BitVec 32) :
        (setField word 0 16 val).extractLsb' 16 16 = word.extractLsb' 16 16 :=
      set_field_outside word val (by decide) (by decide) (by decide) (by decide)
    rw [← outside first, ← outside second, same]
  · intro high
    apply BitVec.eq_of_getLsbD_eq
    intro i word32
    rw [set_field_bit first 0 16 val i (by decide) (by decide) word32,
      set_field_bit second 0 16 val i (by decide) (by decide) word32]
    split
    · rfl
    · have bit := congrArg (fun half => half.getLsbD (i - 16)) high
      simp only [BitVec.getLsbD_extractLsb'] at bit
      have inside : i - 16 < 16 := by omega
      have same : 16 + (i - 16) = i := by omega
      simpa [inside, same] using bit

section Runs

variable {S : Type} (device : Device BusOp BusOp.Reply S)
variable (addr devad regnum : BitVec 32) (val : BitVec 16)

/-- The register writes of a run. -/
def writesPerformed (locals : WriteLocals) (s : S) : List (Nat × BitVec 32) :=
  writesOf ((locals.writeC45 addr devad regnum val).events device s)

/-- The writes before the branches of the call. -/
def prologueWrites (s : S) : List (Nat × BitVec 32) :=
  writesOf (waitBusReady.events device s) ++
    writesOf (fbiobMdioCleanStatus.events device (waitBusReady.final device s))

/-- A run whose wait fails performs the writes of its start. -/
theorem writes_refused (locals : WriteLocals) (s : S)
    (failed : waitBusReady.result device s ≠ 0) :
    writesPerformed device addr devad regnum val locals s = prologueWrites device s := by
  simp only [writesPerformed, WriteLocals.writeC45, fbiobMdioWriteC45, Program.events_bind,
    writes_of_append, if_pos failed, prologueWrites]
  change _ ++ (_ ++ []) = _
  rw [List.append_nil]

/-- The device after the data word is written. -/
def dataWritten (word : BitVec 32) (s : S) : S :=
  (device (.writel fbiobMdioRegWrDat word) (device (.storeState .busy)
    (fbiobMdioCleanStatus.final device (waitBusReady.final device s))).2).2

/-- A run whose wait passes writes the data word, and then the command. -/
theorem writes_passed (locals : WriteLocals) (s : S) (passed : waitBusReady.result device s = 0) :
    writesPerformed device addr devad regnum val locals s = prologueWrites device s ++
      (fbiobMdioRegWrDat, setField locals.wrData 0 16 (val.setWidth 32)) ::
        writesOf ((issueCommand addr devad regnum busWrite).events device
          (dataWritten device (setField locals.wrData 0 16 (val.setWidth 32)) s)) := by
  have rest : writesOf ((storeState .busy >>= fun _ =>
      writel (setField locals.wrData 0 16 (val.setWidth 32)) fbiobMdioRegWrDat >>= fun _ =>
        issueCommand addr devad regnum busWrite >>= fun _ => (pure 0 : BusIo Int)).events device
          (fbiobMdioCleanStatus.final device (waitBusReady.final device s))) =
      (fbiobMdioRegWrDat, setField locals.wrData 0 16 (val.setWidth 32)) ::
        writesOf ((issueCommand addr devad regnum busWrite).events device
          (dataWritten device (setField locals.wrData 0 16 (val.setWidth 32)) s)) := by
    rw [Program.events_bind, Program.events_bind, Program.events_bind, Program.events_pure,
      List.append_nil]
    rfl
  rw [← rest, prologueWrites, List.append_assoc]
  simp only [writesPerformed, WriteLocals.writeC45, fbiobMdioWriteC45, Program.events_bind,
    writes_of_append, if_neg (not_not.mpr passed)]

/-- Two runs perform the same writes exactly when the wait at their start does not
pass, or the high halves of their data words held the same. -/
theorem writes_same_iff (first second : WriteLocals) (s : S) :
    writesPerformed device addr devad regnum val first s =
        writesPerformed device addr devad regnum val second s ↔
      ¬Passes device 50 s ∨ first.wrData.extractLsb' 16 16 = second.wrData.extractLsb' 16 16 := by
  have passes : waitBusReady.result device s = 0 ↔ Passes device 50 s :=
    wait_result_iff device (fbossMdioMaxTimeoutUs / fbiobMdioPollTimeUs) s
  rw [← passes, ← data_word_eq_iff _ _ (val.setWidth 32)]
  by_cases passed : waitBusReady.result device s = 0
  · rw [writes_passed device addr devad regnum val first s passed,
      writes_passed device addr devad regnum val second s passed]
    constructor
    · intro same
      right
      exact (Prod.mk.inj (List.cons.inj (List.append_cancel_left same)).1).2
    · rintro (failed | same)
      · exact absurd passed failed
      · rw [same]
  · rw [writes_refused device addr devad regnum val first s passed,
      writes_refused device addr devad regnum val second s passed]
    exact iff_of_true rfl (Or.inl passed)

end Runs

/-- Two writes of 7 to a ready bus, with zero and with 0xDEAD in the high half of
the stack word. -/
theorem stack_word_written :
    let start := resetController fun _ => ⟨false, 0, 1⟩
    (fbiobMdioRegWrDat, 0x7) ∈ writesPerformed mdioController 1 1 1 7 ⟨0, 0⟩ start ∧
      (fbiobMdioRegWrDat, 0xDEAD0007) ∈ writesPerformed mdioController 1 1 1 7 ⟨0xDEAD0000, 0⟩ start ∧
      writesPerformed mdioController 1 1 1 7 ⟨0, 0⟩ start ≠
        writesPerformed mdioController 1 1 1 7 ⟨0xDEAD0000, 0⟩ start := by
  decide +kernel

end FbossBsp.Mdio
