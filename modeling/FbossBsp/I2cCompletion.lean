import FbossBsp.I2cPages

/-!
# Completions of I2C commands

The status bits of INTR_STS are sticky until they are written back. A START
command executes for any time; when it completes it raises any of the status
bits. A bit that was set when a command started is stale: it was raised by an
earlier command.

The driver clears the status once for each message, while both loops issue one
command for each chunk. A message of several chunks therefore issues commands
over the status of the chunk before, and a message list is safe exactly when
every message of it fits one chunk.

When commands complete, what they raise and all other replies come from a
script in the state of the controller. CMD_STS shows the bus busy as long as a
command executes; START is a command and reads as zero. Disabling the master
function aborts the command.
-/

namespace FbossBsp.I2cMaster

open Interaction

/-! ## The controller -/

/-- The status register with its history, the executing command, and the script:
`completes n` is what an executing command raises before the `n`-th access. -/
structure StatusController where
  sts : BitVec 32
  stale : BitVec 32
  active : Bool
  cleared : Bool
  command : BitVec 32
  clock : Nat
  completes : Nat → Option (BitVec 32)
  replies : Nat → BitVec 32

namespace StatusController

/-- Time passes before an access; an executing command may complete. -/
def tick (s : StatusController) : StatusController :=
  match s.active, s.completes s.clock with
  | true, some raised =>
      { s with sts := s.sts ||| raised, active := false, clock := s.clock + 1 }
  | _, _ => { s with clock := s.clock + 1 }

/-- CMD_STS: busy while a command executes, and no START. -/
def cmdSts (s : StatusController) : BitVec 32 :=
  s.replies s.clock &&& ~~~(fbiobI2cBusStartCmd ||| fbiobI2cBusBusySts) |||
    if s.active then fbiobI2cBusBusySts else 0

/-- The opcode the driver waits for after the last START. -/
def opcode (s : StatusController) : FbiobI2cOpcode :=
  if receives s.command then .busRead else .busWrite

/-- The reply to a register read. -/
def reply (s : StatusController) (offset : Nat) : BitVec 32 :=
  if offset = fbiobI2cRegIntrSts then s.sts
  else if offset = fbiobI2cRegCmdSts then s.cmdSts
  else s.replies s.clock

/-- The effect of a register write. -/
def store (s : StatusController) (offset : Nat) (val : BitVec 32) : StatusController :=
  if offset = fbiobI2cRegIntrSts then
    { s with
      sts := s.sts &&& ~~~val
      stale := s.stale &&& ~~~val
      cleared := s.cleared || cleanIntrStatus &&& ~~~val == 0 }
  else if offset = fbiobI2cRegCmdSts then
    if starts val then
      { s with stale := s.sts, active := true, cleared := false, command := val }
    else s
  else if offset = fbiobI2cRegFuncCtrl ∧ val &&& fbiobI2cEnMasterFunc = 0 then
    { s with active := false }
  else s

end StatusController

def statusController : MmioDevice StatusController
  | .readl offset, s => (s.tick.reply offset, s.tick)
  | .writel offset val, s => ((), s.tick.store offset val)

/-- The status word that ends a wait for an opcode with success. -/
def Accepts (opcode : FbiobI2cOpcode) (val : BitVec 32) : Prop :=
  val &&& fbiobI2cIntrTxNackSts = 0 ∧ val &&& opcode.doneSts ≠ 0

/-- START is only issued over a status cleared since the last START, and a poll
only accepts a done bit that the last command raised. -/
def CompletionLaw : MmioOp → StatusController → Prop
  | .writel offset val, s => offset = fbiobI2cRegCmdSts → starts val = true → s.cleared = true
  | .readl offset, s =>
      offset = fbiobI2cRegIntrSts → Accepts s.opcode s.tick.sts → s.stale &&& s.opcode.doneSts = 0

instance (opcode : FbiobI2cOpcode) (val : BitVec 32) : Decidable (Accepts opcode val) :=
  inferInstanceAs (Decidable (_ ∧ _))

instance : (op : MmioOp) → (s : StatusController) → Decidable (CompletionLaw op s)
  | .writel offset val, s =>
      inferInstanceAs (Decidable
        (offset = fbiobI2cRegCmdSts → starts val = true → s.cleared = true))
  | .readl offset, s =>
      inferInstanceAs (Decidable (offset = fbiobI2cRegIntrSts →
        Accepts s.opcode s.tick.sts → s.stale &&& s.opcode.doneSts = 0))

/-- A wait succeeds exactly on the status word that its last poll accepts. -/
theorem wait_accepts (opcode : FbiobI2cOpcode) (retry : Nat) :
    (waitTillXferDoneLoop opcode retry).Traces fun trace ret => ret = 0 →
      ∃ val, trace.getLast? = some ⟨.readl fbiobI2cRegIntrSts, val⟩ ∧ Accepts opcode val := by
  have accepted (val : BitVec 32) (clean : ¬val &&& fbiobI2cIntrTxNackSts ≠ 0)
      (finished : val &&& opcode.doneSts ≠ 0) : Accepts opcode val :=
    ⟨not_not.mp clean, finished⟩
  refine wait_loop_rule (P := fun program => program.Traces fun trace ret => ret = 0 →
    ∃ val, trace.getLast? = some ⟨.readl fbiobI2cRegIntrSts, val⟩ ∧ Accepts opcode val) ?_ ?_ retry
  · intro timedOut
    exact absurd timedOut (by decide)
  · intro later holds val
    apply Program.Traces.ite
    · intro nacked _ _ stopped
      exact absurd stopped (by decide)
    · intro clean
      apply Program.Traces.ite
      · intro finished _
        exact ⟨val, rfl, accepted val clean finished⟩
      · intro running
        apply holds.mono
        intro trace ret last succeeded
        obtain ⟨final, ending, holds⟩ := last succeeded
        exact ⟨final, by rw [List.getLast?_cons, ending]; rfl, holds⟩

/-! ## What one access does -/

section Accesses

variable (s : StatusController)

/-- Time keeps what is stale of the status. -/
@[simp] theorem tick_stale : s.tick.stale = s.stale := by
  unfold StatusController.tick
  split <;> rfl

/-- Time does not change whether the status has been cleared. -/
@[simp] theorem tick_cleared : s.tick.cleared = s.cleared := by
  unfold StatusController.tick
  split <;> rfl

/-- Time keeps the script of completions. -/
@[simp] theorem tick_completes : s.tick.completes = s.completes := by
  unfold StatusController.tick
  split <;> rfl

/-- Time keeps the script of replies. -/
@[simp] theorem tick_replies : s.tick.replies = s.replies := by
  unfold StatusController.tick
  split <;> rfl

/-- A command that still executes has raised nothing. -/
theorem tick_active (executing : s.tick.active = true) :
    s.active = true ∧ s.tick.sts = s.sts := by
  unfold StatusController.tick at *
  split at executing
  · exact absurd executing (by simp)
  · exact ⟨executing, rfl⟩

/-- Without a command nothing happens by itself. -/
theorem tick_idle (idle : s.active = false) : s.tick.active = false ∧ s.tick.sts = s.sts := by
  unfold StatusController.tick
  rw [idle]
  exact ⟨rfl, rfl⟩

/-- Handling the buffers is no status access. -/
theorem access_store (offset : Nat) (val : BitVec 32)
    (access : BufferAccess (.writel offset val)) :
    (statusController (.writel offset val) s).2 = s.tick := by
  have elsewhere : offset ≠ fbiobI2cRegIntrSts ∧ offset ≠ fbiobI2cRegCmdSts ∧
      offset ≠ fbiobI2cRegFuncCtrl := by
    simp only [BufferAccess, fbiobI2cRegBufCtrl, fbiobI2cIobufOffset, fbiobI2cRegIntrSts,
      fbiobI2cRegCmdSts, fbiobI2cRegFuncCtrl] at *
    omega
  simp [statusController, StatusController.store, elsewhere]

/-- Only time passes for the status while the buffers are handled. -/
theorem access_tick (op : MmioOp) (access : BufferAccess op) : (statusController op s).2 = s.tick := by
  cases op with
  | readl offset => rfl
  | writel offset val => exact access_store s offset val access

end Accesses

/-! ## Single commands are attributed right -/

/-- No stale status, and none at all before the last command completes. -/
structure Issued (s : StatusController) : Prop where
  fresh : s.stale &&& cleanIntrStatus = 0
  unraised : s.active = true → s.sts &&& cleanIntrStatus = 0

/-- No stale status, and the last command has completed. -/
structure Settled (s : StatusController) : Prop where
  fresh : s.stale &&& cleanIntrStatus = 0
  idle : s.active = false

/-- Nothing executes, and the status is cleared for the next command. -/
structure Ready (s : StatusController) : Prop where
  settled : Settled s
  clear : s.sts &&& cleanIntrStatus = 0
  cleared : s.cleared = true

/-- Time keeps what holds while a command executes. -/
theorem Issued.tick {s : StatusController} (issued : Issued s) : Issued s.tick := by
  constructor
  · simpa using issued.fresh
  · intro executing
    obtain ⟨before, same⟩ := tick_active s executing
    rw [same]
    exact issued.unraised before

/-- Time keeps what holds once a command has completed. -/
theorem Settled.tick {s : StatusController} (settled : Settled s) : Settled s.tick := by
  constructor
  · simpa using settled.fresh
  · exact (tick_idle s settled.idle).1

/-- Time keeps what holds before a command. -/
theorem Ready.tick {s : StatusController} (ready : Ready s) : Ready s.tick := by
  constructor
  · exact ready.settled.tick
  · rw [(tick_idle s ready.settled.idle).2]
    exact ready.clear
  · simpa using ready.cleared

/-- Without stale status every poll is attributed right. -/
theorem poll_allowed (s : StatusController) (offset : Nat)
    (fresh : s.stale &&& cleanIntrStatus = 0) : CompletionLaw (.readl offset) s := by
  intro _ _
  apply and_eq_zero_of_part fresh
  cases s.opcode <;> decide

/-- Handling the buffers is attributed right without stale status. -/
theorem access_allowed (op : MmioOp) (s : StatusController) (access : BufferAccess op)
    (fresh : s.stale &&& cleanIntrStatus = 0) : CompletionLaw op s := by
  cases op with
  | readl offset => exact poll_allowed s offset fresh
  | writel offset val =>
    intro command
    simp only [BufferAccess, command, fbiobI2cRegBufCtrl, fbiobI2cIobufOffset,
      fbiobI2cRegCmdSts] at access
    omega

/-- Clearing the status of an idle controller makes it ready. -/
theorem clean_ready (s : StatusController) (idle : s.active = false) :
    Ready (statusController (.writel fbiobI2cRegIntrSts cleanIntrStatus) s).2 := by
  constructor
  · constructor
    · exact and_not_and _ _
    · exact (tick_idle s idle).1
  · exact and_not_and _ _
  · simp [statusController, StatusController.store]

/-- A command issued by a ready controller is the only one to raise status. -/
theorem start_issued (cmd : BitVec 32) (s : StatusController) (ready : Ready s)
    (started : starts cmd = true) :
    Issued (statusController (.writel fbiobI2cRegCmdSts cmd) s).2 := by
  have clear : s.tick.sts &&& cleanIntrStatus = 0 := ready.tick.clear
  have different : fbiobI2cRegCmdSts ≠ fbiobI2cRegIntrSts := by decide
  simp only [statusController, StatusController.store, different, started, if_false, if_true]
  constructor
  · exact clear
  · intro _
    exact clear

/-- The word that stops the bus carries no START. -/
theorem stop_unstarted (s : StatusController) :
    starts (s.cmdSts ||| fbiobI2cBusStopCmd) = false := by
  have masked : s.cmdSts &&& fbiobI2cBusStartCmd = 0 := by
    apply or_and_eq_zero
    · exact and_eq_zero_of_part (and_not_and _ _) (by decide)
    · cases s.active <;> decide
  have command := or_and_eq_zero masked (by decide : fbiobI2cBusStopCmd &&& fbiobI2cBusStartCmd = 0)
  simp [starts, command]

/-- Stopping the bus after a NACK is attributed right. -/
theorem stop_attributed (s : StatusController) (fresh : s.stale &&& cleanIntrStatus = 0) :
    fbiobI2cStop.Along statusController CompletionLaw s := by
  constructor
  · exact poll_allowed s _ fresh
  · refine ⟨fun _ started => ?_, trivial⟩
    rw [show (statusController (.readl fbiobI2cRegCmdSts) s).1 = s.tick.cmdSts from rfl,
      stop_unstarted] at started
    exact absurd started (by decide)

/-- A word that shows the done bit ends the command. -/
theorem Issued.finished {s : StatusController} (issued : Issued s) (opcode : FbiobI2cOpcode)
    (raised : s.sts &&& opcode.doneSts ≠ 0) : Settled s := by
  constructor
  · exact issued.fresh
  · cases executing : s.active with
    | false => rfl
    | true =>
      apply absurd _ raised
      apply and_eq_zero_of_part (issued.unraised executing)
      cases opcode <;> decide

/-- Polling an issued command to its end accepts only its own completion, after
which it no longer executes. -/
theorem wait_attributed (opcode : FbiobI2cOpcode) (retry : Nat) (s : StatusController)
    (issued : Issued s) :
    (waitTillXferDoneLoop opcode retry).Wp statusController CompletionLaw
      (fun ret after => ret < 0 ∨ ret = 0 ∧ Settled after) s := by
  have stopped (middle : StatusController) (fresh : middle.stale &&& cleanIntrStatus = 0) :
      (fbiobI2cStop >>= fun _ => (pure (-eio) : Mmio Int)).Wp statusController CompletionLaw
        (fun ret after => ret < 0 ∨ ret = 0 ∧ Settled after) middle := by
    apply Program.Wp.seq (stop_attributed middle fresh)
    intro _ _ _
    exact Or.inl (by decide)
  refine wait_loop_rule (P := fun program => ∀ s, Issued s → program.Wp statusController
    CompletionLaw (fun ret after => ret < 0 ∨ ret = 0 ∧ Settled after) s) ?_ ?_ retry s issued
  · intro s _
    exact Or.inl (by decide)
  · intro later attributed s issued
    refine (wp_readl _ _ _ _ _ _).mpr ⟨poll_allowed s _ issued.fresh, ?_⟩
    refine Program.Wp.ite ?_ fun clean => Program.Wp.ite ?_ ?_
    · intro nack
      exact stopped _ issued.tick.fresh
    · intro done
      exact Or.inr ⟨rfl, issued.tick.finished opcode done⟩
    · intro running
      exact attributed _ issued.tick

/-- Handling the buffers keeps a ready controller ready. -/
theorem access_ready {α : Type} {program : Mmio α} {R : α → Prop}
    (conforms : program.Conforms BufferAccess R) (s : StatusController) (ready : Ready s) :
    program.Wp statusController CompletionLaw (fun value after => R value ∧ Ready after) s := by
  apply conforms.wp _ ready
  intro op now access ready
  constructor
  · exact access_allowed op now access ready.settled.fresh
  · rw [access_tick now op access]
    exact ready.tick

/-- Handling the buffers keeps a settled controller settled. -/
theorem access_settled {α : Type} {program : Mmio α} {R : α → Prop}
    (conforms : program.Conforms BufferAccess R) (s : StatusController) (settled : Settled s) :
    program.Wp statusController CompletionLaw (fun value after => R value ∧ Settled after) s := by
  apply conforms.wp _ settled
  intro op now access settled
  constructor
  · exact access_allowed op now access settled.fresh
  · rw [access_tick now op access]
    exact settled.tick

/-- The outcome of a routine that leaves no command executing when it succeeds. -/
def Completes (ret : Int) (after : StatusController) : Prop := ret < 0 ∨ ret = 0 ∧ Settled after

/-- A transmit pass of a ready controller is attributed right. -/
theorem write_chunk_attributed (platform : Platform) (isLastMsg : Bool) (i2cAddr : BitVec 8)
    (payload : Memory) (txBuf nleft : Nat) (s : StatusController) (ready : Ready s) :
    (fbiobI2cWriteChunk platform isLastMsg i2cAddr payload txBuf nleft).Wp statusController
      CompletionLaw Completes s := by
  apply Program.Wp.seq (access_ready (fill_tx_buf_access _ _ _ _ _) s ready)
  rintro ret filled ⟨_, ready⟩
  apply Program.Wp.ite
  · intro failed
    exact Or.inl failed
  · intro succeeded
    constructor
    · intro _ _
      exact ready.cleared
    · apply wait_attributed
      exact start_issued _ filled ready (by cases isLastMsg <;> decide)

/-- A receive pass of a ready controller is attributed right. -/
theorem read_chunk_attributed (platform : Platform) (rxLen : Nat) (state : ReadState)
    (s : StatusController) (ready : Ready s) :
    (fbiobI2cReadChunk platform rxLen state).Wp statusController CompletionLaw
      (fun ret after => Completes ret.1 after) s := by
  have control := access_store s fbiobI2cRegBufCtrl
    (rxBufCtrl (min fbiobI2cRxPayloadMax rxLen)) (Or.inl rfl)
  apply (wp_writel _ _ _ _ _ _ _).mpr
  rw [control]
  refine ⟨access_allowed _ _ (Or.inl rfl) ready.settled.fresh, (wp_writel _ _ _ _ _ _ _).mpr ?_⟩
  refine ⟨fun _ _ => ready.tick.cleared, ?_⟩
  apply Program.Wp.bind
  have started : starts (rxCmd (min fbiobI2cRxPayloadMax rxLen = rxLen)) = true := by
    cases decide (min fbiobI2cRxPayloadMax rxLen = rxLen) <;> decide
  apply (wait_attributed .busRead _ _ (start_issued _ _ ready.tick started)).weaken
  rintro ret after (failed | ⟨rfl, settled⟩)
  · have nonzero : ret ≠ 0 := ne_of_lt failed
    simp only [nonzero, ne_eq, not_false_eq_true, if_true]
    exact Or.inl failed
  · simp only [ne_eq, not_true_eq_false, if_false]
    apply (access_settled (collect_access _ _ _ _) after settled).weaken
    rintro outcome last ⟨succeeded | failed, settled⟩
    · exact Or.inr ⟨succeeded, settled⟩
    · exact Or.inl failed

/-- The messages that issue at most one command. -/
def SingleChunk (msg : I2cMsg) : Prop :=
  if msg.isRead then msg.rxLen ≤ fbiobI2cRxPayloadMax else msg.len.toNat ≤ fbiobI2cTxPayloadMax

instance (msg : I2cMsg) : Decidable (SingleChunk msg) :=
  inferInstanceAs (Decidable (if msg.isRead then msg.rxLen ≤ fbiobI2cRxPayloadMax
    else msg.len.toNat ≤ fbiobI2cTxPayloadMax))

/-- A message of one chunk is attributed right, and executes no longer once it
has succeeded.

Proof: by the direction. One chunk is one command, and on an idle controller with a
clean status its wait sees no other completion. -/
theorem xfer_msg_attributed (platform : Platform) (msg : I2cMsg) (isLast : Bool)
    (single : SingleChunk msg) (s : StatusController) (idle : s.active = false) :
    (xferMsg platform msg isLast).Wp statusController CompletionLaw
      (fun ret after => Completes ret.1 after) s := by
  refine ⟨fun command => absurd command (by decide), ?_⟩
  have ready := clean_ready s idle
  apply Program.Wp.ite
  · intro read
    simp only [SingleChunk, read, if_true] at single
    unfold fbiobI2cRead
    cases msg.buf with
    | none => exact Or.inl (by decide : -einval < 0)
    | some buf =>
      apply (wp_writel _ _ _ _ _ _ _).mpr
      rw [access_store _ _ _ (Or.inr (Nat.le_refl _))]
      refine ⟨access_allowed _ _ (Or.inr (Nat.le_refl _)) ready.settled.fresh, ?_⟩
      apply Program.Wp.bind
      rw [fbiobI2cReadLoop]
      apply Program.Wp.ite
      · intro nothing
        exact Or.inr ⟨rfl, ready.tick.settled⟩
      · intro nonempty
        have last : msg.rxLen - min fbiobI2cRxPayloadMax msg.rxLen = 0 := by omega
        apply Program.Wp.seq (read_chunk_attributed _ _ _ _ ready.tick)
        rintro ⟨ret, state⟩ after completed
        apply Program.Wp.ite
        · intro failed
          exact completed
        · intro succeeded
          have zero : ret = 0 := not_not.mp succeeded
          rw [last, fbiobI2cReadLoop]
          exact Or.inr ⟨rfl, (completed.resolve_left (by simp [zero])).2⟩
  · intro write
    simp only [SingleChunk, write, if_false] at single
    unfold fbiobI2cWrite
    cases msg.buf with
    | none => exact Or.inl (by decide : -einval < 0)
    | some buf =>
      have last : ¬0 < msg.len.toNat - min fbiobI2cTxPayloadMax msg.len.toNat := by omega
      apply Program.Wp.bind
      dsimp only
      rw [fbiobI2cWriteLoop]
      apply Program.Wp.seq (write_chunk_attributed _ _ _ _ _ _ _ ready)
      intro ret after completed
      apply Program.Wp.ite
      · intro failed
        exact completed
      · intro succeeded
        have zero : ret = 0 := not_not.mp succeeded
        simp only [last, if_false]
        exact Or.inr ⟨rfl, (completed.resolve_left (by simp [zero])).2⟩

/-- Taking the bus is no status access, and succeeds only on an idle controller. -/
theorem acquire_bus_idle (s : StatusController) :
    acquireBus.Wp statusController CompletionLaw
      (fun ret after => ret = 0 → after.active = false) s := by
  have check (s : StatusController) :
      fbiobI2cCheckBusy.Wp statusController CompletionLaw
        (fun ret after => ret = 0 → after.active = false) s := by
    refine ⟨fun polled => absurd polled (by decide), Program.Wp.ite ?_ ?_⟩
    · intro busy accepted
      exact absurd accepted (by decide)
    · intro free _
      cases executing : s.tick.active with
      | false => exact executing
      | true =>
        apply absurd _ free
        rw [show (statusController (.readl fbiobI2cRegCmdSts) s).1 = s.tick.cmdSts from rfl,
          StatusController.cmdSts, executing, if_pos rfl, or_mask_and]
        decide
  have poll (retry : Nat) (s : StatusController) :
      (waitBusForFreeLoop retry).Wp statusController CompletionLaw
        (fun ret after => ret = 0 → after.active = false) s := by
    induction retry generalizing s with
    | zero =>
      apply Program.Wp.seq (check s)
      intro busy after idle
      apply Program.Wp.ite
      · intro free _
        exact idle free
      · intro occupied accepted
        exact absurd accepted (by decide)
    | succ retry inductionHypothesis =>
      apply Program.Wp.seq (check s)
      intro busy after idle
      apply Program.Wp.ite
      · intro free _
        exact idle free
      · intro occupied
        exact inductionHypothesis after
  apply Program.Wp.seq (poll _ s)
  intro busy after idle
  apply Program.Wp.ite
  · intro occupied
    have control : fbiobI2cRegFuncCtrl ≠ fbiobI2cRegIntrSts ∧
        fbiobI2cRegFuncCtrl ≠ fbiobI2cRegCmdSts := by decide
    exact ⟨fun polled => absurd polled control.1, fun command => absurd command control.2,
      fun command => absurd command control.2, check _⟩
  · intro free _
    exact idle (not_not.mp free)

/-- Messages of one chunk each are attributed right from an idle controller on. -/
theorem each_message_attributed (platform : Platform) (msgs : List I2cMsg)
    (single : ∀ msg ∈ msgs, SingleChunk msg) (s : StatusController) (idle : s.active = false) :
    EachMessage statusController platform
      (fun msg isLast start =>
        (xferMsg platform msg isLast).Along statusController CompletionLaw start) msgs s := by
  induction msgs generalizing s with
  | nil => trivial
  | cons msg rest inductionHypothesis =>
    obtain ⟨here, others⟩ := List.forall_mem_cons.mp single
    obtain ⟨along, completed⟩ := (Program.wp_iff _ _ _ _ _).mp
      (xfer_msg_attributed platform msg rest.isEmpty here s idle)
    refine ⟨along, fun succeeded => ?_⟩
    rcases completed with failed | ⟨_, settled⟩
    · exact absurd failed (Int.not_lt.mpr succeeded)
    · exact inductionHypothesis others _ settled.idle

/-! ## Longer messages are not -/

/-- A controller whose commands complete at once, raising both done bits, and
which replies zeros. -/
structure Prompt (s : StatusController) : Prop where
  completes : ∀ n, s.completes n = some (fbiobI2cIntrRxDoneSts ||| fbiobI2cIntrTxDoneSts)
  replies : ∀ n, s.replies n = 0
  acknowledged : s.sts &&& fbiobI2cIntrTxNackSts = 0

/-- Time keeps a controller prompt. -/
theorem Prompt.tick {s : StatusController} (prompt : Prompt s) : Prompt s.tick := by
  constructor
  · simpa using prompt.completes
  · simpa using prompt.replies
  · unfold StatusController.tick
    rw [prompt.completes]
    split
    next same =>
      cases same
      exact or_and_eq_zero prompt.acknowledged (by decide)
    · exact prompt.acknowledged

/-- Handling the buffers keeps whatever the passing of time keeps. -/
theorem access_keeps {α : Type} {program : Mmio α} {R : α → Prop}
    (conforms : program.Conforms BufferAccess R) {invariant : StatusController → Prop}
    (kept : ∀ now, invariant now → invariant now.tick) (s : StatusController)
    (initially : invariant s) :
    program.Wp statusController (fun _ _ => True) (fun value after => R value ∧ invariant after) s := by
  apply conforms.wp _ initially
  intro op now access holds
  constructor
  · trivial
  · rw [access_tick now op access]
    exact kept now holds

/-- A prompt controller whose status is uncleared since the last START. -/
def PromptUncleared (s : StatusController) : Prop := Prompt s ∧ s.cleared = false

/-- Time clears no status of a prompt controller. -/
theorem PromptUncleared.tick {s : StatusController} (uncleared : PromptUncleared s) :
    PromptUncleared s.tick :=
  ⟨uncleared.1.tick, by simpa using uncleared.2⟩

/-- A START on a prompt controller completes before the first poll. -/
theorem start_prompt (cmd : BitVec 32) (opcode : FbiobI2cOpcode) (retry : Nat)
    (s : StatusController) (prompt : Prompt s) (started : starts cmd = true) :
    (waitTillXferDoneLoop opcode retry).Wp statusController (fun _ _ => True)
      (fun ret after => ret = 0 ∧ PromptUncleared after)
      (statusController (.writel fbiobI2cRegCmdSts cmd) s).2 := by
  have issued : ∃ middle, (statusController (.writel fbiobI2cRegCmdSts cmd) s).2 = middle ∧
      PromptUncleared middle ∧ middle.active = true := by
    have different : fbiobI2cRegCmdSts ≠ fbiobI2cRegIntrSts := by decide
    simp only [statusController, StatusController.store, different, started, if_false, if_true]
    refine ⟨_, rfl, ⟨⟨?_, ?_, ?_⟩, rfl⟩, rfl⟩
    · exact prompt.tick.completes
    · exact prompt.tick.replies
    · exact prompt.tick.acknowledged
  obtain ⟨middle, same, uncleared, executing⟩ := issued
  rw [same]
  have raised : middle.tick.sts =
      middle.sts ||| (fbiobI2cIntrRxDoneSts ||| fbiobI2cIntrTxDoneSts) := by
    simp [StatusController.tick, executing, uncleared.1.completes]
  have finished : middle.tick.sts &&& opcode.doneSts ≠ 0 := by
    rw [raised]
    cases opcode with
    | busRead =>
      rw [BitVec.or_comm fbiobI2cIntrRxDoneSts, ← BitVec.or_assoc, FbiobI2cOpcode.doneSts,
        or_mask_and]
      decide
    | busWrite =>
      rw [← BitVec.or_assoc, FbiobI2cOpcode.doneSts, or_mask_and]
      decide
  have accepted : ∀ later : Mmio Int,
      (if middle.tick.sts &&& fbiobI2cIntrTxNackSts ≠ 0 then fbiobI2cStop >>= fun _ => pure (-eio)
        else if middle.tick.sts &&& opcode.doneSts ≠ 0 then pure 0 else later).Wp
        statusController (fun _ _ => True) (fun ret after => ret = 0 ∧ PromptUncleared after)
        middle.tick := by
    intro later
    simp only [uncleared.1.tick.acknowledged, ne_eq, not_true_eq_false, if_false, finished,
      not_false_eq_true, if_true]
    exact ⟨rfl, uncleared.tick⟩
  cases retry with
  | zero => exact ⟨trivial, accepted _⟩
  | succ retry => exact ⟨trivial, accepted _⟩

/-- A transmit pass succeeds on a prompt controller and leaves its status uncleared. -/
theorem write_chunk_prompt (platform : Platform) (isLastMsg : Bool) (i2cAddr : BitVec 8)
    (payload : Memory) (txBuf nleft : Nat) (s : StatusController) (prompt : Prompt s) :
    (fbiobI2cWriteChunk platform isLastMsg i2cAddr payload txBuf nleft).Wp statusController
      (fun _ _ => True) (fun ret after => ret = 0 ∧ PromptUncleared after) s := by
  have filling : (fbiobI2cFillTxBuf platform i2cAddr payload txBuf
      (min fbiobI2cTxPayloadMax nleft)).Wp statusController (fun _ _ => True)
      (fun ret filled => (ret = _) ∧ Prompt filled) s :=
    access_keeps (fill_tx_buf_access _ _ _ _ _) (fun now kept => kept.tick) s prompt
  apply Program.Wp.seq filling
  rintro ret filled ⟨filling, prompt⟩
  have zero : ret = 0 := filling.trans (if_neg (Nat.not_lt.mpr (Nat.min_le_left _ _)))
  simp only [zero, lt_irrefl, if_false]
  constructor
  · trivial
  · exact start_prompt _ _ _ filled prompt (by cases isLastMsg <;> decide)

/-- A transmit pass needs a cleared status. -/
theorem write_chunk_needs_clear (platform : Platform) (isLastMsg : Bool) (i2cAddr : BitVec 8)
    (payload : Memory) (txBuf nleft : Nat) (s : StatusController)
    (along : (fbiobI2cWriteChunk platform isLastMsg i2cAddr payload txBuf nleft).Along
      statusController CompletionLaw s) : s.cleared = true := by
  have filled : (fbiobI2cFillTxBuf platform i2cAddr payload txBuf
      (min fbiobI2cTxPayloadMax nleft)).Wp statusController (fun _ _ => True)
      (fun ret filled => (ret = _) ∧ filled.cleared = s.cleared) s :=
    access_keeps (fill_tx_buf_access _ _ _ _ _) (fun now kept => by simpa using kept) s rfl
  obtain ⟨filling, same⟩ := filled.outcome
  have zero := filling.trans (if_neg (Nat.not_lt.mpr (Nat.min_le_left _ _)))
  have continued := ((Program.along_bind _ _ _ _ _).mp along).2
  simp only [zero, lt_irrefl, if_false] at continued
  have issued := ((wp_writel _ _ _ _ _ _ _).mp continued).1 rfl (by cases isLastMsg <;> decide)
  exact same ▸ issued

/-- A transmit loop that is allowed on a prompt controller is a single pass. -/
theorem write_loop_single (platform : Platform) (isLastMsg : Bool) (i2cAddr : BitVec 8)
    (payload : Memory) (txBuf nleft : Nat) (s : StatusController) (prompt : Prompt s)
    (along : (fbiobI2cWriteLoop platform isLastMsg i2cAddr payload txBuf nleft).Along
      statusController CompletionLaw s) : nleft ≤ fbiobI2cTxPayloadMax := by
  by_contra longer
  obtain ⟨succeeded, uncleared⟩ :=
    (write_chunk_prompt platform isLastMsg i2cAddr payload txBuf nleft s prompt).outcome
  have more : 0 < nleft - min fbiobI2cTxPayloadMax nleft := by omega
  rw [fbiobI2cWriteLoop] at along
  have continued := ((Program.along_bind _ _ _ _ _).mp along).2
  simp only [succeeded, ne_eq, not_true_eq_false, if_false, more, if_true] at continued
  rw [fbiobI2cWriteLoop] at continued
  have cleared := write_chunk_needs_clear _ _ _ _ _ _ _
    ((Program.along_bind _ _ _ _ _).mp continued).1
  rw [uncleared.2] at cleared
  exact absurd cleared (by decide)

/-- A receive pass needs a cleared status. -/
theorem read_chunk_needs_clear (platform : Platform) (rxLen : Nat) (state : ReadState)
    (s : StatusController)
    (along : (fbiobI2cReadChunk platform rxLen state).Along statusController CompletionLaw s) :
    s.cleared = true := by
  have started : starts (rxCmd (min fbiobI2cRxPayloadMax rxLen = rxLen)) = true := by
    cases decide (min fbiobI2cRxPayloadMax rxLen = rxLen) <;> decide
  have issued := ((wp_writel _ _ _ _ _ _ _).mp ((wp_writel _ _ _ _ _ _ _).mp along).2).1 rfl started
  rw [access_store _ _ _ (Or.inl rfl)] at issued
  simpa using issued

/-- Words received from a prompt controller are zero. -/
theorem bulk_read_words_prompt (mmio wptr : Nat) (buf : Memory) (words : Nat)
    (s : StatusController) (uncleared : PromptUncleared s) (window : fbiobI2cIobufOffset ≤ mmio)
    (zero : buf 0 = 0 ∨ wptr = 0 ∧ words ≠ 0) :
    (bulkReadWords mmio wptr buf words).Wp statusController (fun _ _ => True)
      (fun received after => received 0 = 0 ∧ PromptUncleared after) s := by
  induction words generalizing mmio wptr buf s with
  | zero => exact ⟨zero.resolve_right (by simp), uncleared⟩
  | succ words inductionHypothesis =>
    have elsewhere : mmio ≠ fbiobI2cRegIntrSts ∧ mmio ≠ fbiobI2cRegCmdSts := by
      simp only [fbiobI2cIobufOffset, fbiobI2cRegIntrSts, fbiobI2cRegCmdSts] at *
      omega
    have replied : (statusController (.readl mmio) s).1 = 0 := by
      simp [statusController, StatusController.reply, elsewhere, uncleared.1.replies]
    refine ⟨trivial, inductionHypothesis _ _ _ _ uncleared.tick (Nat.le_add_right_of_le window) ?_⟩
    left
    rw [replied]
    simp only [Memory.store32]
    split
    · simp
    · rcases zero with zero | ⟨first, _⟩
      · exact zero
      · omega

/-- The count byte of a block received from a prompt controller is zero. -/
theorem iobuf_read_block_prompt (buf : Memory) (s : StatusController)
    (uncleared : PromptUncleared s) :
    (i2cIobufRead buf i2cSmbusBlockMax).Wp statusController (fun _ _ => True)
      (fun received after => received 0 = 0 ∧ PromptUncleared after) s := by
  apply Program.Wp.bind
  apply (bulk_read_words_prompt _ 0 buf _ s uncleared (Nat.le_refl _)
    (Or.inr ⟨rfl, by decide⟩)).weaken
  intro received after outcome
  apply Program.Wp.ite
  · intro partly
    exact absurd partly (by decide)
  · intro whole
    exact outcome

/-- Collecting a chunk from a prompt controller succeeds; an SMBus block has the
length of its zero count byte. -/
theorem collect_prompt (platform : Platform) (xferLen rxLen : Nat) (state : ReadState)
    (block : state.msg.recvLen = true → xferLen = i2cSmbusBlockMax) (s : StatusController)
    (uncleared : PromptUncleared s) :
    (if xferLen > fbiobI2cIobufSize then collectPages platform xferLen rxLen state
      else collectPage platform xferLen rxLen state).Wp statusController (fun _ _ => True)
        (fun ret after => ret.1 = 0 ∧ PromptUncleared after) s := by
  apply Program.Wp.ite
  · intro two
    exact access_keeps (collect_pages_access _ _ _ _) (fun now kept => kept.tick) s uncleared
  · intro one
    cases blockRead : state.msg.recvLen with
    | false =>
      apply Program.Wp.bind
      have reading : (i2cIobufRead platform.recvBuf xferLen).Wp statusController (fun _ _ => True)
          (fun _ after => True ∧ PromptUncleared after) s :=
        access_keeps (iobuf_read_access _ _) (fun now kept => kept.tick) s uncleared
      apply reading.weaken
      rintro recvBuf after ⟨_, uncleared⟩
      simp only [blockRead, Bool.false_eq_true, if_false]
      exact ⟨rfl, uncleared⟩
    | true =>
      rw [block blockRead]
      apply Program.Wp.seq (iobuf_read_block_prompt platform.recvBuf s uncleared)
      rintro recvBuf after ⟨zero, uncleared⟩
      have count : platform.charValue (recvBuf 0) = 0 := by
        simp [Platform.charValue, zero]
      have fits : ¬platform.charValue (recvBuf 0) > i2cSmbusBlockMax := by
        rw [count]
        decide
      simp only [blockRead, if_true]
      rw [if_neg fits]
      exact ⟨rfl, uncleared⟩

/-- A receive pass succeeds on a prompt controller and leaves its status uncleared. -/
theorem read_chunk_prompt (platform : Platform) (rxLen : Nat) (state : ReadState)
    (block : state.msg.recvLen = true → rxLen = i2cSmbusBlockMax) (s : StatusController)
    (prompt : Prompt s) :
    (fbiobI2cReadChunk platform rxLen state).Wp statusController (fun _ _ => True)
      (fun ret after => ret.1 = 0 ∧ PromptUncleared after) s := by
  have started : starts (rxCmd (min fbiobI2cRxPayloadMax rxLen = rxLen)) = true := by
    cases decide (min fbiobI2cRxPayloadMax rxLen = rxLen) <;> decide
  apply (wp_writel _ _ _ _ _ _ _).mpr
  rw [access_store _ _ _ (Or.inl rfl)]
  refine ⟨trivial, (wp_writel _ _ _ _ _ _ _).mpr ⟨trivial, ?_⟩⟩
  apply Program.Wp.seq (start_prompt _ _ _ _ prompt.tick started)
  rintro ret after ⟨rfl, uncleared⟩
  simp only [ne_eq, not_true_eq_false, if_false]
  apply collect_prompt _ _ _ _ _ _ uncleared
  intro blockRead
  rw [block blockRead]
  decide

/-- A receive loop that is allowed on a prompt controller is at most one pass. -/
theorem read_loop_single (platform : Platform) (rxLen : Nat) (state : ReadState)
    (block : state.msg.recvLen = true → rxLen = i2cSmbusBlockMax) (s : StatusController)
    (prompt : Prompt s)
    (along : (fbiobI2cReadLoop platform rxLen state).Along statusController CompletionLaw s) :
    rxLen ≤ fbiobI2cRxPayloadMax := by
  by_contra longer
  obtain ⟨succeeded, uncleared⟩ := (read_chunk_prompt platform rxLen state block s prompt).outcome
  have some : rxLen ≠ 0 := by omega
  have more : rxLen - min fbiobI2cRxPayloadMax rxLen ≠ 0 := by omega
  rw [fbiobI2cReadLoop, if_neg some] at along
  have continued := ((Program.along_bind _ _ _ _ _).mp along).2
  simp only [succeeded, ne_eq, not_true_eq_false, if_false] at continued
  rw [fbiobI2cReadLoop, if_neg more] at continued
  have cleared := read_chunk_needs_clear _ _ _ _ ((Program.along_bind _ _ _ _ _).mp continued).1
  rw [uncleared.2] at cleared
  exact absurd cleared (by decide)

/-- Clearing the status of a prompt controller keeps it prompt. -/
theorem clean_prompt (s : StatusController) (prompt : Prompt s) :
    Prompt (statusController (.writel fbiobI2cRegIntrSts cleanIntrStatus) s).2 := by
  constructor
  · exact prompt.tick.completes
  · exact prompt.tick.replies
  · exact and_eq_zero_of_part (and_not_and _ _) (by decide)

/-- The length of a block read. -/
theorem rx_len_block (msg : I2cMsg) (block : msg.recvLen = true) : msg.rxLen = i2cSmbusBlockMax := by
  simp [I2cMsg.rxLen, block]

/-- A message allowed on a prompt controller is a single chunk. -/
theorem xfer_msg_single (platform : Platform) (msg : I2cMsg) (isLast : Bool)
    (present : msg.buf.isSome) (s : StatusController) (prompt : Prompt s)
    (along : (xferMsg platform msg isLast).Along statusController CompletionLaw s) :
    SingleChunk msg := by
  obtain ⟨buf, stored⟩ := Option.isSome_iff_exists.mp present
  have cleaned := ((wp_writel _ _ _ _ _ _ _).mp along).2
  have prompt := clean_prompt s prompt
  cases read : msg.isRead with
  | true =>
    simp only [read, if_true, fbiobI2cRead, stored] at cleaned
    have looping := ((wp_writel _ _ _ _ _ _ _).mp cleaned).2
    rw [access_store _ _ _ (Or.inr (Nat.le_refl _))] at looping
    simp only [SingleChunk, read, if_true]
    exact read_loop_single _ _ _ (rx_len_block msg) _ prompt.tick
      ((Program.along_bind _ _ _ _ _).mp looping).1
  | false =>
    simp only [read, fbiobI2cWrite, stored] at cleaned
    simp only [SingleChunk, read]
    exact write_loop_single _ _ _ _ _ _ _ prompt ((Program.along_bind _ _ _ _ _).mp cleaned).1

/-- A message of one chunk succeeds on a prompt controller. -/
theorem xfer_msg_prompt (platform : Platform) (msg : I2cMsg) (isLast : Bool)
    (present : msg.buf.isSome) (single : SingleChunk msg) (s : StatusController)
    (prompt : Prompt s) :
    (xferMsg platform msg isLast).Wp statusController (fun _ _ => True)
      (fun ret after => ret.1 = 0 ∧ Prompt after) s := by
  obtain ⟨buf, stored⟩ := Option.isSome_iff_exists.mp present
  refine ⟨trivial, ?_⟩
  have prompt := clean_prompt s prompt
  apply Program.Wp.ite
  · intro read
    simp only [SingleChunk, read, if_true] at single
    simp only [fbiobI2cRead, stored]
    apply (wp_writel _ _ _ _ _ _ _).mpr
    rw [access_store _ _ _ (Or.inr (Nat.le_refl _))]
    refine ⟨trivial, Program.Wp.bind ?_⟩
    rw [fbiobI2cReadLoop]
    apply Program.Wp.ite
    · intro nothing
      exact ⟨rfl, prompt.tick⟩
    · intro nonempty
      have last : msg.rxLen - min fbiobI2cRxPayloadMax msg.rxLen = 0 := by omega
      apply Program.Wp.seq (read_chunk_prompt _ _ _ (rx_len_block msg) _ prompt.tick)
      rintro ⟨ret, state⟩ after ⟨succeeded, uncleared⟩
      have zero : ret = 0 := succeeded
      simp only [zero, ne_eq, not_true_eq_false, if_false]
      rw [last, fbiobI2cReadLoop]
      exact ⟨rfl, uncleared.1⟩
  · intro write
    simp only [SingleChunk, write, if_false] at single
    have last : ¬0 < msg.len.toNat - min fbiobI2cTxPayloadMax msg.len.toNat := by omega
    simp only [fbiobI2cWrite, stored]
    apply Program.Wp.bind
    rw [fbiobI2cWriteLoop]
    apply Program.Wp.seq (write_chunk_prompt _ _ _ _ _ _ _ prompt)
    rintro ret after ⟨succeeded, uncleared⟩
    simp only [succeeded, ne_eq, not_true_eq_false, if_false, last]
    exact ⟨rfl, uncleared.1⟩

/-- Messages allowed on a prompt controller are single chunks. -/
theorem each_message_single (platform : Platform) (msgs : List I2cMsg)
    (present : ∀ msg ∈ msgs, msg.buf.isSome) (s : StatusController) (prompt : Prompt s)
    (each : EachMessage statusController platform
      (fun msg isLast start =>
        (xferMsg platform msg isLast).Along statusController CompletionLaw start) msgs s) :
    ∀ msg ∈ msgs, SingleChunk msg := by
  induction msgs generalizing s with
  | nil => exact fun msg member => absurd member List.not_mem_nil
  | cons msg rest inductionHypothesis =>
    obtain ⟨stored, others⟩ := List.forall_mem_cons.mp present
    have single := xfer_msg_single platform msg rest.isEmpty stored s prompt each.1
    obtain ⟨succeeded, still⟩ :=
      (xfer_msg_prompt platform msg rest.isEmpty stored single s prompt).outcome
    have later := inductionHypothesis others _ still (each.2 (le_of_eq succeeded.symm))
    exact List.forall_mem_cons.mpr ⟨single, later⟩

/-- A prompt controller on which nothing executes yet. -/
def promptStatus : StatusController where
  sts := 0
  stale := 0
  active := false
  cleared := true
  command := 0
  clock := 0
  completes := fun _ => some (fbiobI2cIntrRxDoneSts ||| fbiobI2cIntrTxDoneSts)
  replies := fun _ => 0

/-- A message list is attributed right by every controller exactly when it is
refused, or when each of its messages fits one chunk.

Proof: one chunk is issued over the status cleared for its message, and no other
command executes by then. Conversely a prompt controller lets every chunk
succeed, so a longer message issues its second command without a clear. -/
theorem completions_attributed_iff (msgs : List I2cMsg) :
    (∀ platform s, (fbiobI2cMasterXfer platform msgs).Along statusController CompletionLaw s) ↔
      (checkMsgParams msgs = 0 → ∀ msg ∈ msgs, SingleChunk msg) := by
  constructor
  · intro attributed checked
    have along := attributed zeroPlatform promptStatus
    rw [master_xfer_along] at along
    have free : acquireBus.result statusController promptStatus = 0 := by decide +kernel
    have prompt : Prompt (acquireBus.final statusController promptStatus) := by
      have acquired : acquireBus.final statusController promptStatus = promptStatus.tick := rfl
      rw [acquired]
      exact Prompt.tick ⟨fun _ => rfl, fun _ => rfl, rfl⟩
    obtain ⟨_, _, accepted⟩ := check_msg_params_accepted msgs checked
    exact each_message_single zeroPlatform msgs (fun msg member => (accepted msg member).2) _
      prompt ((along checked).2 free)
  · intro single platform s
    rw [master_xfer_along]
    intro checked
    obtain ⟨along, idle⟩ := (Program.wp_iff _ _ _ _ _).mp (acquire_bus_idle s)
    constructor
    · exact along
    · intro acquired
      exact each_message_attributed platform msgs (single checked) _ (idle acquired)

/-- A controller on which no command completes from access 72 on. -/
def stalledStatus : StatusController :=
  { promptStatus with
    completes := fun n => if n < 72 then some fbiobI2cIntrTxDoneSts else none }

/-- A write of 256 bytes returns success although its second chunk never
completes: that is issued without a clear and accepts the done bit of the first. -/
theorem long_write_misattributed :
    ¬(fbiobI2cMasterXfer zeroPlatform [zeroMsg 0 256]).Along statusController CompletionLaw
        stalledStatus ∧
      ((fbiobI2cMasterXfer zeroPlatform [zeroMsg 0 256]).result statusController
        stalledStatus).1 = 1 ∧
      ((fbiobI2cMasterXfer zeroPlatform [zeroMsg 0 256]).final statusController
        stalledStatus).active = true := by
  refine ⟨?_, ?_, ?_⟩ <;> decide +kernel

end FbossBsp.I2cMaster
