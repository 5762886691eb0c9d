import FbossBsp.Interaction.Protocol
import FbossBsp.SpiChipSelect
import FbossBsp.SpiJournal

/-!
# The protocol of the SPI descriptor

Each command of a transfer has a cycle of its own: the status is written back,
transmitted data is staged in the MOSI half of the buffer, the command is
triggered over the word that DESC_CMD shows, and its status is polled. The MISO
half is read only after the command is done. A command is given up only when the
polls are used up.

Every sequence of transfers follows this protocol, whatever the controller
answers, and the value that a transfer returns tells the phase it ends in.
-/

namespace FbossBsp.Spi

open Interaction

/-! ## The protocol -/

/-- Where the commands stand. -/
inductive DescPhase where
  /-- no command was triggered -/
  | idle
  /-- the status was written back, and data may be staged -/
  | cleared
  /-- DESC_CMD was read to trigger a command -/
  | arming (descCmd : BitVec 32)
  /-- a command is in flight, with that many polls left -/
  | inFlight (left : Nat)
  /-- the command is done, and received data may be read -/
  | done
  /-- the command has ended in an error -/
  | failed
  deriving DecidableEq

/-- The offset is that of an aligned word in the half of the buffer that starts at
`half`. -/
def inHalf (half offset : Nat) : Bool :=
  half ≤ offset && offset < half + fbiobSpiMaxXferLen && offset % fbiobIoSize = 0

/-- The word triggers a command, and leaves the fields of others as DESC_CMD has
shown them. -/
def Triggers (descCmd val : BitVec 32) : Prop :=
  val &&& fbiobSpiDescBitValid ≠ 0 ∧ val &&& ~~~commandFields = descCmd &&& ~~~commandFields

instance (descCmd val : BitVec 32) : Decidable (Triggers descCmd val) :=
  inferInstanceAs (Decidable (_ ∧ _))

/-- The status is written back. -/
def cleared (offset : Nat) (val : BitVec 32) : Option DescPhase :=
  if offset = fbiobSpiRegDescSts ∧ val = clearSts then some .cleared else none

/-- What the status tells about the command in flight. -/
def polled (left : Nat) (descSts : BitVec 32) : DescPhase :=
  if descSts &&& fbiobSpiDescErrIntSts ≠ 0 then .failed
  else if descSts &&& fbiobSpiDescDoneIntSts ≠ 0 then .done
  else .inFlight left

def descProtocol : Protocol SpiOp SpiOp.Reply DescPhase
  | .idle, ⟨.csr (.writel offset val), _⟩ => cleared offset val
  | .done, ⟨.csr (.writel offset val), _⟩ => cleared offset val
  | .failed, ⟨.csr (.writel offset val), _⟩ => cleared offset val
  | .inFlight 0, ⟨.csr (.writel offset val), _⟩ => cleared offset val
  | .cleared, ⟨.iobuf (.writel offset _), _⟩ =>
      if inHalf fbiobSpiMosiBufOffset offset then some .cleared else none
  | .cleared, ⟨.csr (.readl offset), val⟩ =>
      if offset = fbiobSpiRegDescCmd then some (.arming val) else none
  | .arming descCmd, ⟨.csr (.writel offset val), _⟩ =>
      if offset = fbiobSpiRegDescCmd ∧ Triggers descCmd val then some (.inFlight pollBudget)
      else none
  | .inFlight (left + 1), ⟨.csr (.readl offset), val⟩ =>
      if offset = fbiobSpiRegDescSts then some (polled left val) else none
  | .done, ⟨.iobuf (.readl offset), _⟩ =>
      if inHalf fbiobSpiMisoBufOffset offset then some .done else none
  | _, _ => none

/-- Where a transfer may start. -/
inductive Resting : DescPhase → Prop where
  | idle : Resting .idle
  | done : Resting .done
  | failed : Resting .failed
  | givenUp : Resting (.inFlight 0)

/-- A command is waited for until it ends or the polls are used up. -/
inductive Waited : DescPhase → Int → Prop where
  | done : Waited .done 0
  | failed : Waited .failed (-eio)
  | timedOut : Waited (.inFlight 0) (-etimedout)

/-- The transfer has bytes to move: the receive part counts the length without a sign,
the transmit part alone as an `int`. -/
def SpiTransfer.Moves (xfer : SpiTransfer) : Prop :=
  xfer.rxBuf.isSome ∧ xfer.len ≠ 0 ∨
    xfer.rxBuf = none ∧ xfer.txBuf.isSome ∧ 0 < xfer.len.toInt

/-- How a transfer ends, given what its result variable holds at first: with bytes to
move it ends as its last command, and else it leaves the phase. -/
inductive TransferEnds (ret : Int) (xfer : SpiTransfer) (before : DescPhase) :
    DescPhase → Int → Prop where
  | unbuffered : xfer.txBuf = none → xfer.rxBuf = none → TransferEnds ret xfer before before ret
  | empty : xfer.txBuf.isSome ∨ xfer.rxBuf.isSome → ¬xfer.Moves →
      TransferEnds ret xfer before before 0
  | waited {last : DescPhase} {result : Int} : xfer.Moves → Waited last result →
      TransferEnds ret xfer before last result

/-! ## One command -/

/-- Waiting for the command in flight keeps to the protocol. -/
theorem wait_till_xfer_done_follows (retry : Nat) :
    (waitTillXferDoneLoop retry).Follows descProtocol Waited (.inFlight (retry + 1)) := by
  induction retry with
  | zero =>
    intro val
    refine ⟨polled 0 val, rfl, ?_⟩
    apply Program.Follows.ite
    · intro error
      rw [polled, if_pos error]
      exact .failed
    · intro fine
      rw [polled, if_neg fine]
      apply Program.Follows.ite
      · intro done
        rw [if_pos done]
        exact .done
      · intro pending
        rw [if_neg pending]
        exact .timedOut
  | succ retry inductionHypothesis =>
    intro val
    refine ⟨polled (retry + 1) val, rfl, ?_⟩
    apply Program.Follows.ite
    · intro error
      rw [polled, if_pos error]
      exact .failed
    · intro fine
      rw [polled, if_neg fine]
      apply Program.Follows.ite
      · intro done
        rw [if_pos done]
        exact .done
      · intro pending
        rw [if_neg pending]
        exact inductionHypothesis

/-- A command goes in flight from a cleared status. -/
theorem send_cmd_follows (xferLen : Nat) :
    (fbiobSpiSendCmd xferLen).Follows descProtocol
      (fun last ret => last = .inFlight pollBudget ∧ ret = 0) .cleared := by
  intro val
  refine ⟨_, rfl, .perform (fun _ => ?_) fun _ => ⟨rfl, rfl⟩⟩
  exact if_pos ⟨rfl, send_cmd_val_valid val xferLen, send_cmd_val_outside val xferLen⟩

/-- A resting driver may clear the status. -/
theorem clear_sts_follows {phase : DescPhase} (resting : Resting phase) :
    (spiCsrWrite fbiobSpiRegDescSts clearSts).Follows descProtocol
      (fun last _ => last = .cleared) phase := by
  have clears (reply : Unit) :
      descProtocol phase ⟨.csr (.writel fbiobSpiRegDescSts clearSts), reply⟩ = some .cleared := by
    cases resting <;> rfl
  exact .perform clears fun _ => rfl

/-- A word that starts in the first `size` bytes of a half. -/
theorem word_in_half {half word size : Nat} (aligned : half % 4 = 0) (inside : 4 * word < size)
    (fits : size ≤ fbiobSpiMaxXferLen) : inHalf half (half + 4 * word) = true := by
  have upper : 4 * word < fbiobSpiMaxXferLen := Nat.lt_of_lt_of_le inside fits
  have word4 : (half + 4 * word) % fbiobIoSize = 0 := by
    simp only [fbiobIoSize]
    omega
  simp [inHalf, upper, word4]

/-- Filling the MOSI half keeps the cleared status. -/
theorem iobuf_write_follows (data : Memory) {size : Nat} (fits : size ≤ fbiobSpiMaxXferLen) :
    (spiIobufWrite data size).Follows descProtocol (fun last _ => last = .cleared) .cleared := by
  have mosi : (spiIobufWrite data size).Conforms
      (fun op => ∃ offset val, op = .iobuf (.writel offset val) ∧
        inHalf fbiobSpiMosiBufOffset offset = true) fun _ => True := by
    apply (bulk_write_aligned _ data size).embed
    rintro op ⟨word, val, rfl, inside⟩
    exact ⟨_, val, rfl, word_in_half rfl inside fits⟩
  refine (mosi.follows ?_).weaken fun _ _ => And.left
  rintro op reply ⟨offset, val, rfl, inside⟩
  exact if_pos inside

/-- Emptying the MISO half leaves the command done. -/
theorem iobuf_read_follows (data : Memory) {size : Nat} (fits : size ≤ fbiobSpiMaxXferLen) :
    (spiIobufRead data size).Follows descProtocol (fun last _ => last = .done) .done := by
  have miso : (spiIobufRead data size).Conforms
      (fun op => ∃ offset, op = .iobuf (.readl offset) ∧
        inHalf fbiobSpiMisoBufOffset offset = true) fun _ => True := by
    apply (bulk_read_aligned _ data size).embed
    rintro op ⟨word, rfl, inside⟩
    exact ⟨_, rfl, word_in_half rfl inside fits⟩
  refine (miso.follows ?_).weaken fun _ _ => And.left
  rintro op reply ⟨offset, rfl, inside⟩
  exact if_pos inside

/-! ## Chunks -/

/-- After a wait the driver rests. -/
theorem Waited.resting {last : DescPhase} {ret : Int} (waited : Waited last ret) : Resting last := by
  cases waited with
  | done => exact .done
  | failed => exact .failed
  | timedOut => exact .givenUp

/-- A command that has not failed is done. -/
theorem Waited.succeeded {last : DescPhase} {ret : Int} (waited : Waited last ret)
    (succeeded : ¬ret < 0) : last = .done ∧ ret = 0 := by
  cases waited with
  | done => exact ⟨rfl, rfl⟩
  | failed => exact absurd (by decide) succeeded
  | timedOut => exact absurd (by decide) succeeded

/-- How a loop over `left` bytes ends. -/
def Looped (before : DescPhase) (left : Nat) (last : DescPhase) (ret : Int) : Prop :=
  left = 0 ∧ last = before ∧ ret = 0 ∨ left ≠ 0 ∧ Waited last ret

/-- The rest of a loop after a command that is done. -/
theorem Looped.waited {left : Nat} {last : DescPhase} {ret : Int}
    (looped : Looped .done left last ret) : Waited last ret := by
  obtain ⟨_, rfl, rfl⟩ | ⟨_, waited⟩ := looped
  · exact .done
  · exact waited

/-- One pass of the transmit loop. -/
theorem xfer_tx_chunk_follows (txbuf : Memory) {nbytes : Nat} (fits : nbytes ≤ fbiobSpiMaxXferLen)
    {phase : DescPhase} (resting : Resting phase) :
    (fbiobSpiXferTxChunk txbuf nbytes).Follows descProtocol Waited phase := by
  apply (clear_sts_follows resting).seq
  rintro _ _ rfl
  apply (iobuf_write_follows txbuf fits).seq
  rintro _ _ rfl
  apply (send_cmd_follows nbytes).seq
  rintro _ _ ⟨rfl, rfl⟩
  exact wait_till_xfer_done_follows 30

/-- The passes of a send keep to the protocol. -/
theorem xfer_tx_loop_follows (txbuf : Memory) (xferLen : Nat) {phase : DescPhase}
    (resting : Resting phase) :
    (fbiobSpiXferTxLoop txbuf xferLen).Follows descProtocol (Looped phase xferLen) phase := by
  induction xferLen using Nat.strongRecOn generalizing txbuf phase with
  | _ xferLen inductionHypothesis =>
    rw [fbiobSpiXferTxLoop]
    apply Program.Follows.ite
    · exact fun finished => Or.inl ⟨finished, rfl, rfl⟩
    · intro nonempty
      apply (xfer_tx_chunk_follows txbuf (Nat.min_le_right _ _) resting).seq
      intro last ret waited
      apply Program.Follows.ite
      · exact fun _ => Or.inr ⟨nonempty, waited⟩
      · intro succeeded
        obtain ⟨rfl, _⟩ := waited.succeeded succeeded
        have shorter : xferLen - min xferLen fbiobSpiMaxXferLen < xferLen := by
          simp only [fbiobSpiMaxXferLen]
          omega
        have rest := inductionHypothesis _ shorter
          (advance txbuf (min xferLen fbiobSpiMaxXferLen)) Resting.done
        exact rest.weaken fun last ret looped => Or.inr ⟨nonempty, looped.waited⟩

/-- One receive, from a cleared status. -/
theorem xfer_single_rx_follows (rxBuf : Memory) (len rxOffset : Nat) :
    (fbiobSpiXferSingleRx rxBuf len rxOffset).Follows descProtocol
      (fun last ret => ret.1 < 0 ∧ Waited last ret.1 ∨ ¬ret.1 < 0 ∧ last = .done) .cleared := by
  apply (send_cmd_follows _).seq
  rintro _ _ ⟨rfl, rfl⟩
  apply (wait_till_xfer_done_follows 30).seq
  intro last ret waited
  apply Program.Follows.ite
  · exact fun failed => Or.inl ⟨failed, waited⟩
  · intro succeeded
    obtain ⟨rfl, _⟩ := waited.succeeded succeeded
    apply (iobuf_read_follows (advance rxBuf rxOffset) (Nat.min_le_right _ _)).seq
    rintro _ tail rfl
    exact Or.inr ⟨Int.not_lt.mpr (Int.natCast_nonneg _), rfl⟩

/-- The passes of a receive keep to the protocol. -/
theorem xfer_rx_loop_follows (rxBuf : Memory) (len ndata : Nat) {phase : DescPhase}
    (resting : Resting phase) :
    (fbiobSpiXferRxLoop rxBuf len ndata).Follows descProtocol
      (fun last ret => Looped phase (len - ndata) last ret.1) phase := by
  induction remaining : len - ndata using Nat.strongRecOn generalizing rxBuf ndata phase with
  | _ left inductionHypothesis =>
    rw [fbiobSpiXferRxLoop]
    apply Program.Follows.ite
    · intro more
      have nonempty : left ≠ 0 := by omega
      apply (clear_sts_follows resting).seq
      rintro _ _ rfl
      apply (xfer_single_rx_follows rxBuf len ndata).seq
      rintro last ⟨ret, received⟩ ended
      apply Program.Follows.ite
      · intro failed
        obtain ⟨_, waited⟩ | ⟨succeeded, _⟩ := ended
        · exact Or.inr ⟨nonempty, waited⟩
        · exact absurd failed succeeded
      · intro succeeded
        obtain ⟨failed, _⟩ | ⟨_, rfl⟩ := ended
        · exact absurd failed succeeded
        · have shorter : len - (ndata + min (len - ndata) fbiobSpiMaxXferLen) < left := by
            simp only [fbiobSpiMaxXferLen]
            omega
          have rest := inductionHypothesis _ shorter received _ Resting.done rfl
          exact rest.weaken fun last ret looped => Or.inr ⟨nonempty, looped.waited⟩
    · intro finished
      exact Or.inl ⟨by omega, rfl, rfl⟩

/-! ## Transfers -/

/-- With a receive buffer the length alone tells whether bytes are to move. -/
theorem moves_received {xfer : SpiTransfer} {rxBuf : Memory} (rx : xfer.rxBuf = some rxBuf) :
    xfer.Moves ↔ xfer.len.toNat ≠ 0 := by
  have nonzero : xfer.len ≠ 0 ↔ xfer.len.toNat ≠ 0 :=
    not_congr ⟨fun zero => by rw [zero]; rfl, fun zero => BitVec.eq_of_toNat_eq zero⟩
  simp only [SpiTransfer.Moves, rx, Option.isSome_some, true_and, reduceCtorEq, false_and,
    or_false]
  exact nonzero

/-- Without one the length is that of the transmit loop. -/
theorem moves_sent {xfer : SpiTransfer} {txbuf : Memory} (tx : xfer.txBuf = some txbuf)
    (rx : xfer.rxBuf = none) : xfer.Moves ↔ xfer.len.toInt.toNat ≠ 0 := by
  simp only [SpiTransfer.Moves, rx, tx, Option.isSome_none, Bool.false_eq_true, false_and, false_or,
    Option.isSome_some, true_and]
  omega

/-- The receive part of a transfer, where the transmit part has ended. -/
theorem receive_follows (ret : Int) (xfer : SpiTransfer) {rxBuf : Memory}
    (rx : xfer.rxBuf = some rxBuf) {before phase : DescPhase} (resting : Resting phase)
    (same : xfer.len.toNat = 0 → phase = before) :
    (fbiobSpiXferRx rxBuf xfer.len).Follows descProtocol
      (fun last outcome => TransferEnds ret xfer before last outcome.1) phase := by
  refine (xfer_rx_loop_follows rxBuf xfer.len.toNat 0 resting).weaken ?_
  rintro last ⟨result, received⟩ (⟨empty, rfl, zero⟩ | ⟨nonempty, waited⟩)
  · dsimp only at zero
    subst zero
    rw [same empty]
    refine .empty (Or.inr (by rw [rx]; rfl)) fun moves => ?_
    exact (moves_received rx).mp moves empty
  · exact .waited ((moves_received rx).mpr nonempty) waited

/-- A transfer that starts at rest follows the protocol.

Proof: by the buffers that it has. The transmit loop leaves a phase at rest, which is
the first one where it has sent nothing, and the receive loop goes on from there. -/
theorem xfer_one_follows (ret : Int) (xfer : SpiTransfer) {before : DescPhase}
    (resting : Resting before) :
    (fbiobSpiXferOne ret xfer).Follows descProtocol
      (fun last outcome => TransferEnds ret xfer before last outcome.1) before := by
  cases tx : xfer.txBuf with
  | none =>
    cases rx : xfer.rxBuf with
    | none =>
      simp only [fbiobSpiXferOne, tx, rx]
      exact .unbuffered tx rx
    | some rxBuf =>
      simp only [fbiobSpiXferOne, tx, rx]
      exact (receive_follows ret xfer rx resting fun _ => rfl).seq fun _ _ settled => settled
  | some txbuf =>
    simp only [fbiobSpiXferOne, tx]
    apply (xfer_tx_loop_follows txbuf xfer.len.toInt.toNat resting).seq
    intro phase sent looped
    cases rx : xfer.rxBuf with
    | none =>
      obtain ⟨nothing, rfl, rfl⟩ | ⟨nonempty, waited⟩ := looped
      · exact .empty (Or.inl (by rw [tx]; rfl)) fun moves => (moves_sent tx rx).mp moves nothing
      · exact .waited ((moves_sent tx rx).mpr nonempty) waited
    | some rxBuf =>
      have later : Resting phase ∧ (xfer.len.toNat = 0 → phase = before) := by
        obtain ⟨_, rfl, _⟩ | ⟨nonempty, waited⟩ := looped
        · exact ⟨resting, fun _ => rfl⟩
        · refine ⟨waited.resting, fun empty => absurd ?_ nonempty⟩
          have zero : xfer.len = 0 := BitVec.eq_of_toNat_eq empty
          rw [zero]
          rfl
      exact (receive_follows ret xfer rx later.1 later.2).seq fun _ _ settled => settled

/-- A transfer that starts at rest ends at rest. -/
theorem TransferEnds.resting {ret : Int} {xfer : SpiTransfer} {before last : DescPhase} {result : Int}
    (settled : TransferEnds ret xfer before last result) (resting : Resting before) :
    Resting last := by
  cases settled with
  | unbuffered => exact resting
  | empty => exact resting
  | waited _ waited => exact waited.resting

/-- Every sequence of transfers follows the protocol on every controller: data is
staged and a command triggered only over a status that was written back since the
command before, that one has ended or used up its polls, received data is read
only of a command that is done, and the fields of others stay as DESC_CMD shows
them.

The transfers leave a phase at rest, and the next one may go on from each such phase.
What it returns tells where it ends: a transfer with bytes to move returns what its
last command came to, even where it started with no command triggered, and one
without leaves the phase.

Proof: one transfer at a time, from every phase at rest, and induction on the earlier
transfers. -/
theorem commands_follow_protocol {S : Type} (controller : Device SpiOp SpiOp.Reply S)
    (earlier : List (Int × SpiTransfer)) (ret : Int) (xfer : SpiTransfer) (s : S) :
    let transfer (call : Int × SpiTransfer) := fbiobSpiXferOne call.1 call.2
    let start := Calls.final controller transfer earlier s
    (∃ before, descProtocol.run .idle (Calls.events controller transfer earlier s) =
        some before ∧ Resting before) ∧
      ∀ before, Resting before → ∃ last,
        descProtocol.run before ((fbiobSpiXferOne ret xfer).events controller start) = some last ∧
          TransferEnds ret xfer before last
            ((fbiobSpiXferOne ret xfer).result controller start).1 := by
  intro transfer start
  have each (call : Int × SpiTransfer) (phase : DescPhase) (resting : Resting phase) :
      (transfer call).Follows descProtocol (fun last _ => Resting last) phase :=
    (xfer_one_follows call.1 call.2 resting).weaken fun _ _ settled => settled.resting resting
  exact ⟨Calls.follows each controller earlier .idle s,
    fun before resting => (xfer_one_follows ret xfer resting).exec controller start⟩

end FbossBsp.Spi
