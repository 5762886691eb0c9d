import FbossBsp.SpiMaster
import FbossBsp.Interaction.Calls

/-!
# Chip select across SPI transfers

The controller keeps what is written to DESC_CMD, except VALID, which it clears
when it likes. Every other reply comes from a script in its state. The chip is
selected while CS_MAN_ACT is set; only `fbiob_spi_set_cs` may change that bit,
and the commands of a transfer change nothing outside the fields they own.
-/

namespace FbossBsp.Spi

open Interaction

/-! ## The controller -/

/-- What was last written to DESC_CMD, and the script of all other replies. -/
structure DescController where
  cmd : BitVec 32
  clock : Nat
  replies : Nat → BitVec 32

namespace DescController

/-- DESC_CMD reads back as last written; its VALID bit and every other register
follow the script. -/
def reply (s : DescController) (offset : Nat) : BitVec 32 :=
  if offset = fbiobSpiRegDescCmd then
    (s.cmd &&& ~~~fbiobSpiDescBitValid) ||| (s.replies s.clock &&& fbiobSpiDescBitValid)
  else s.replies s.clock

def tick (s : DescController) : DescController := { s with clock := s.clock + 1 }

/-- The manual chip select is active. -/
def selected (s : DescController) : Bool := s.cmd &&& fbiobSpiDescBitCsManAct != 0

end DescController

def descController : Device SpiOp SpiOp.Reply DescController
  | .csr (.readl offset), s => (s.reply offset, s.tick)
  | .csr (.writel offset val), s =>
      ((), if offset = fbiobSpiRegDescCmd then { s.tick with cmd := val } else s.tick)
  | .iobuf (.readl _), s => (s.replies s.clock, s.tick)
  | .iobuf (.writel _ _), s => ((), s.tick)

/-! ## The law of a transfer -/

/-- The fields of DESC_CMD that a command of a transfer owns. -/
def commandFields : BitVec 32 :=
  fbiobSpiDescBitValid ||| fbiobSpiDescDataLenMask ||| fbiobSpiDescBitErrInt |||
    fbiobSpiDescBitDoneInt

/-- Two words agree outside the fields of a command. -/
def SameOutside (first second : BitVec 32) : Prop :=
  second &&& ~~~commandFields = first &&& ~~~commandFields

/-- A write to DESC_CMD keeps every bit outside the fields of a command. -/
def KeepsOthers : SpiOp → DescController → Prop
  | .csr (.writel offset val), s => offset = fbiobSpiRegDescCmd → SameOutside s.cmd val
  | _, _ => True

/-- The controller keeps every bit of DESC_CMD outside the fields of a command. -/
def SameSelect (before after : DescController) : Prop := SameOutside before.cmd after.cmd

/-- A controller selects what it selects. -/
theorem SameSelect.refl (s : DescController) : SameSelect s s := rfl

/-- Selecting the same is transitive. -/
theorem SameSelect.trans (first second third : DescController) (here : SameSelect first second)
    (there : SameSelect second third) : SameSelect first third :=
  Eq.trans there here

/-- Chip select is outside the fields of a command. -/
theorem SameSelect.selected {before after : DescController} (same : SameSelect before after) :
    after.selected = before.selected := by
  have apart : ~~~commandFields &&& fbiobSpiDescBitCsManAct = fbiobSpiDescBitCsManAct := by decide
  have chip (s : DescController) : s.cmd &&& fbiobSpiDescBitCsManAct =
      s.cmd &&& ~~~commandFields &&& fbiobSpiDescBitCsManAct := by
    rw [BitVec.and_assoc, apart]
  have agree : after.cmd &&& fbiobSpiDescBitCsManAct =
      before.cmd &&& fbiobSpiDescBitCsManAct := by
    rw [chip after, chip before, show after.cmd &&& ~~~commandFields = _ from same]
  simp only [DescController.selected, agree]

/-- Bit by bit, agreement is equality of the bits outside the fields. -/
theorem same_outside_of_bits {first second : BitVec 32}
    (bits : ∀ i < 32, commandFields.getLsbD i = false → second.getLsbD i = first.getLsbD i) :
    SameOutside first second := by
  apply BitVec.eq_of_getLsbD_eq
  intro i inside
  simp only [BitVec.getLsbD_and, BitVec.getLsbD_not, inside, decide_true, Bool.true_and]
  cases owned : commandFields.getLsbD i with
  | true => simp
  | false => simp [bits i inside owned]

/-- A bit outside the fields of a command is in none of them. -/
theorem outside_fields {i : Nat} (outside : commandFields.getLsbD i = false) :
    fbiobSpiDescBitValid.getLsbD i = false ∧ fbiobSpiDescDataLenMask.getLsbD i = false ∧
      fbiobSpiDescBitErrInt.getLsbD i = false ∧ fbiobSpiDescBitDoneInt.getLsbD i = false := by
  simpa [commandFields, and_assoc] using outside

/-- The word a command writes agrees with the word it has read. -/
theorem send_cmd_val_outside (val : BitVec 32) (xferLen : Nat) :
    SameOutside val (sendCmdVal val xferLen) := by
  apply same_outside_of_bits
  intro i inside owned
  obtain ⟨valid, length, error, finished⟩ := outside_fields owned
  unfold sendCmdVal
  split
  · simp only [BitVec.getLsbD_or, BitVec.getLsbD_and, BitVec.getLsbD_not, valid, length, error,
      finished, inside, decide_true, Bool.or_false, Bool.not_false, Bool.and_true, Bool.and_false]
  · simp only [BitVec.getLsbD_or, BitVec.getLsbD_and, BitVec.getLsbD_not, valid, length, error,
      finished, inside, decide_true, Bool.or_false, Bool.not_false, Bool.and_true]

/-- DESC_CMD reads back up to its VALID bit. -/
theorem reply_outside (s : DescController) :
    SameOutside s.cmd (s.reply fbiobSpiRegDescCmd) := by
  apply same_outside_of_bits
  intro i inside owned
  obtain ⟨valid, _⟩ := outside_fields owned
  simp only [DescController.reply, if_true, BitVec.getLsbD_or, BitVec.getLsbD_and,
    BitVec.getLsbD_not, valid, inside, decide_true, Bool.not_false, Bool.and_true, Bool.and_false,
    Bool.or_false]

/-- A command keeps the other bits of DESC_CMD. -/
theorem send_cmd_moves (xferLen : Nat) :
    (fbiobSpiSendCmd xferLen).Moves descController KeepsOthers SameSelect := by
  intro s
  have kept : SameOutside s.cmd (sendCmdVal (s.reply fbiobSpiRegDescCmd) xferLen) :=
    (send_cmd_val_outside _ _).trans (reply_outside s)
  exact ⟨trivial, fun _ => kept, kept⟩

/-- The access does not write DESC_CMD. -/
def Quiet : SpiOp → Prop
  | .csr (.writel offset _) => offset ≠ fbiobSpiRegDescCmd
  | _ => True

/-- A quiet operation keeps the selection. -/
theorem quiet_step (op : SpiOp) (s : DescController) (quiet : Quiet op) :
    KeepsOthers op s ∧ SameSelect s (descController op s).2 := by
  cases op with
  | csr op =>
    cases op with
    | readl offset => exact ⟨trivial, SameSelect.refl s⟩
    | writel offset val =>
      have elsewhere : offset ≠ fbiobSpiRegDescCmd := quiet
      refine ⟨fun same => absurd same elsewhere, ?_⟩
      simp only [SameSelect, descController, elsewhere, if_false]
      exact SameSelect.refl s
  | iobuf op =>
    cases op with
    | readl offset => exact ⟨trivial, SameSelect.refl s⟩
    | writel offset val => exact ⟨trivial, SameSelect.refl s⟩

/-- A routine that does not write DESC_CMD keeps it. -/
theorem quiet_moves {α : Type} {program : SpiIo α} {R : α → Prop}
    (conforms : program.Conforms Quiet R) :
    program.Moves descController KeepsOthers SameSelect :=
  conforms.moves SameSelect.refl SameSelect.trans quiet_step

/-- Polling for the end of a command only reads. -/
theorem wait_till_xfer_done_quiet (retry : Nat) :
    (waitTillXferDoneLoop retry).Conforms Quiet fun _ => True := by
  induction retry with
  | zero =>
    refine ⟨trivial, fun val => Program.Conforms.ite (fun _ => trivial) fun _ => ?_⟩
    exact Program.Conforms.ite (fun _ => trivial) fun _ => trivial
  | succ retry inductionHypothesis =>
    refine ⟨trivial, fun val => Program.Conforms.ite (fun _ => trivial) fun _ => ?_⟩
    exact Program.Conforms.ite (fun _ => trivial) fun _ => inductionHypothesis

/-- Waiting keeps the selection. -/
theorem wait_till_xfer_done_moves :
    waitTillXferDone.Moves descController KeepsOthers SameSelect :=
  quiet_moves (wait_till_xfer_done_quiet 30)

/-- Clearing the status bits writes another register. -/
theorem clear_sts_moves :
    (spiCsrWrite fbiobSpiRegDescSts clearSts).Moves descController KeepsOthers SameSelect :=
  quiet_moves (R := fun _ => True) ⟨(by decide : fbiobSpiRegDescSts ≠ fbiobSpiRegDescCmd),
    fun _ => trivial⟩

/-- The MOSI buffer is apart from the registers. -/
theorem iobuf_write_moves (data : Memory) (size : Nat) :
    (spiIobufWrite data size).Moves descController KeepsOthers SameSelect :=
  quiet_moves ((bulk_write_conforms _ data size).embed fun _ _ => trivial)

/-- The MISO buffer is apart from the registers. -/
theorem iobuf_read_moves (data : Memory) (size : Nat) :
    (spiIobufRead data size).Moves descController KeepsOthers SameSelect :=
  quiet_moves ((bulk_read_conforms _ data size).embed fun _ _ => trivial)

/-- A returned value moves nothing. -/
theorem pure_moves {α : Type} (value : α) :
    (pure value : SpiIo α).Moves descController KeepsOthers SameSelect :=
  Program.Moves.pure SameSelect.refl value

/-- One transmit pass. -/
theorem xfer_tx_chunk_moves (txbuf : Memory) (nbytes : Nat) :
    (fbiobSpiXferTxChunk txbuf nbytes).Moves descController KeepsOthers SameSelect := by
  apply clear_sts_moves.bind SameSelect.trans
  intro _
  apply (iobuf_write_moves _ _).bind SameSelect.trans
  intro _
  apply (send_cmd_moves _).bind SameSelect.trans
  intro ret
  apply Program.Moves.ite
  · exact fun failed => pure_moves ret
  · exact fun sent => wait_till_xfer_done_moves

/-- The transmit loop, by induction on what is left. -/
theorem xfer_tx_loop_moves (txbuf : Memory) (xferLen : Nat) :
    (fbiobSpiXferTxLoop txbuf xferLen).Moves descController KeepsOthers SameSelect := by
  induction xferLen using Nat.strongRecOn generalizing txbuf with
  | _ xferLen inductionHypothesis =>
    rw [fbiobSpiXferTxLoop]
    apply Program.Moves.ite
    · exact fun finished => pure_moves 0
    · intro left
      apply (xfer_tx_chunk_moves _ _).bind SameSelect.trans
      intro ret
      apply Program.Moves.ite
      · exact fun failed => pure_moves ret
      · intro sent
        have shorter : xferLen - min xferLen fbiobSpiMaxXferLen < xferLen := by
          simp only [fbiobSpiMaxXferLen]
          omega
        exact inductionHypothesis _ shorter _

/-- One receive pass. -/
theorem xfer_single_rx_moves (rxBuf : Memory) (len rxOffset : Nat) :
    (fbiobSpiXferSingleRx rxBuf len rxOffset).Moves descController KeepsOthers SameSelect := by
  apply (send_cmd_moves _).bind SameSelect.trans
  intro ret
  apply Program.Moves.ite
  · exact fun failed => pure_moves _
  · intro sent
    apply wait_till_xfer_done_moves.bind SameSelect.trans
    intro ret
    apply Program.Moves.ite
    · exact fun failed => pure_moves _
    · intro completed
      apply (iobuf_read_moves _ _).bind SameSelect.trans
      exact fun tail => pure_moves _

/-- The receive loop, by induction on what is still to come. -/
theorem xfer_rx_loop_moves (rxBuf : Memory) (len ndata : Nat) :
    (fbiobSpiXferRxLoop rxBuf len ndata).Moves descController KeepsOthers SameSelect := by
  induction remaining : len - ndata using Nat.strongRecOn generalizing rxBuf ndata with
  | _ left inductionHypothesis =>
    rw [fbiobSpiXferRxLoop]
    apply Program.Moves.ite
    · intro more
      apply clear_sts_moves.bind SameSelect.trans
      intro _
      apply (xfer_single_rx_moves _ _ _).bind SameSelect.trans
      rintro ⟨ret, received⟩
      apply Program.Moves.ite
      · exact fun failed => pure_moves _
      · intro succeeded
        have shorter : len - (ndata + min (len - ndata) fbiobSpiMaxXferLen) < left := by
          simp only [fbiobSpiMaxXferLen]
          omega
        exact inductionHypothesis _ shorter _ _ rfl
    · exact fun finished => pure_moves _

/-- A transfer keeps every bit of DESC_CMD outside the fields of its commands. -/
theorem xfer_one_moves (ret : Int) (xfer : SpiTransfer) :
    (fbiobSpiXferOne ret xfer).Moves descController KeepsOthers SameSelect := by
  obtain ⟨txBuf, rxBuf, len⟩ := xfer
  have receiving (data : Memory) (tx : Option Memory) :
      (fbiobSpiXferRx data len >>= fun outcome =>
        (pure (outcome.1, ⟨tx, some outcome.2, len⟩) : SpiIo (Int × SpiTransfer))).Moves
          descController KeepsOthers SameSelect :=
    (xfer_rx_loop_moves _ _ _).bind SameSelect.trans fun outcome => pure_moves _
  cases txBuf with
  | none =>
    cases rxBuf with
    | none => exact pure_moves _
    | some data => exact receiving data none
  | some txbuf =>
    apply (xfer_tx_loop_moves _ _).bind SameSelect.trans
    intro ret
    cases rxBuf with
    | none => exact pure_moves _
    | some data => exact receiving data (some txbuf)

/-! ## Every sequence of calls -/

/-- A call of the SPI core: select or release the chip, or transfer. -/
inductive SpiCall where
  | setCs (level : Bool)
  | xferOne (ret : Int) (xfer : SpiTransfer)

/-- The driver routine a call runs; only a transfer returns anything. -/
def SpiCall.routine : SpiCall → SpiIo (Option (Int × SpiTransfer))
  | .setCs level => do
      fbiobSpiSetCs level
      pure none
  | .xferOne ret xfer => do
      let outcome ← fbiobSpiXferOne ret xfer
      pure (some outcome)

/-- The level of the most recent call that sets it. -/
def lastLevel : List SpiCall → Option Bool
  | [] => none
  | .setCs level :: rest => some ((lastLevel rest).getD level)
  | .xferOne _ _ :: rest => lastLevel rest

/-- Inside a transfer, every write to DESC_CMD keeps the other bits. -/
def TransferKeepsOthers (call : SpiCall) (start : DescController) : Prop :=
  ∀ ret xfer, call = .xferOne ret xfer →
    (fbiobSpiXferOne ret xfer).Along descController KeepsOthers start

/-- Setting the level selects the chip exactly for the low level. -/
theorem set_cs_selected (level : Bool) (s : DescController) :
    ((SpiCall.setCs level).routine.final descController s).selected = !level := by
  have written : ((SpiCall.setCs level).routine.final descController s).cmd =
      setCsVal (s.reply fbiobSpiRegDescCmd) level := rfl
  cases level with
  | true => simp [DescController.selected, written, setCsVal, and_not_and]
  | false =>
    have active : (fbiobSpiDescBitCsManAct != 0) = true := by decide
    simp only [DescController.selected, written, setCsVal, Bool.false_eq_true, if_false,
      or_mask_and, active, Bool.not_false]

/-- A transfer leaves the chip as it was. -/
theorem xfer_one_selected (ret : Int) (xfer : SpiTransfer) (s : DescController) :
    ((SpiCall.xferOne ret xfer).routine.final descController s).selected = s.selected := by
  have moved := (xfer_one_moves ret xfer s).outcome
  simp only [SpiCall.routine, Program.final_bind, Program.final_pure]
  exact moved.selected

/-- After every sequence of calls the chip is selected exactly when the last
level set was low, and no transfer of the sequence ever changes chip select or
any other bit of DESC_CMD outside VALID, DATA_LEN, ERR_INT and DONE_INT. This
holds for all transfers, contents, status words and timings. -/
theorem chip_select_held (calls : List SpiCall) (s : DescController) :
    (Calls.final descController SpiCall.routine calls s).selected =
        ((lastLevel calls).map (!·)).getD s.selected ∧
      Calls.Each descController SpiCall.routine TransferKeepsOthers calls s := by
  induction calls generalizing s with
  | nil => exact ⟨rfl, trivial⟩
  | cons call rest inductionHypothesis =>
    obtain ⟨held, each⟩ := inductionHypothesis (call.routine.final descController s)
    cases call with
    | setCs level =>
      refine ⟨?_, fun ret xfer different => SpiCall.noConfusion different, each⟩
      rw [Calls.final, held, set_cs_selected]
      cases later : lastLevel rest <;> simp [lastLevel, later]
    | xferOne ret xfer =>
      refine ⟨?_, ?_, each⟩
      · rw [Calls.final, held, xfer_one_selected]
        rfl
      · intro ret xfer same
        cases same
        exact (xfer_one_moves ret xfer s).weaken fun _ _ _ => trivial

end FbossBsp.Spi
