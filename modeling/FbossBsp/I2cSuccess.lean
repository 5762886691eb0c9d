import FbossBsp.I2cPages

/-!
# What a successful I2C transfer has put on the bus

A message is on the bus when a START command was issued for it and the controller
reported no NACK until its completion was accepted. A poll that sees NACK fails
the transfer, so success excludes it for every message. START is another matter:
the transmit loop runs its body at least once, also for an empty message, while
the receive loop of an empty read runs not at all.
-/

namespace FbossBsp.I2cMaster

open Interaction

/-! ## Acknowledgement -/

/-- The access reads a status word that reports NACK. -/
def nacked : Event MmioOp MmioOp.Reply → Bool
  | ⟨.readl offset, val⟩ => offset == fbiobI2cRegIntrSts && val &&& fbiobI2cIntrTxNackSts != 0
  | ⟨.writel _ _, _⟩ => false

/-- A routine that does not fail has seen no NACK. -/
def Acknowledged (trace : Trace) (ret : Int) : Prop :=
  0 ≤ ret → ∀ event ∈ trace, nacked event = false

/-- Accesses that show no NACK may come before an acknowledged trace. -/
theorem Acknowledged.after {first trace : Trace} {ret : Int}
    (clean : ∀ event ∈ first, nacked event = false) (rest : Acknowledged trace ret) :
    Acknowledged (first ++ trace) ret := by
  intro succeeded
  exact List.forall_mem_append.mpr ⟨clean, rest succeeded⟩

/-- A routine that goes on only after its first part has succeeded, and fails
with it, has seen no NACK in either part. -/
theorem acknowledged_bind {α β : Type} {program : Mmio α} {continuation : α → Mmio β}
    {ret : α → Int} {out : β → Int}
    (first : program.Traces fun trace value => Acknowledged trace (ret value))
    (succeeds : ∀ value, 0 ≤ ret value →
      (continuation value).Traces fun trace outcome => Acknowledged trace (out outcome))
    (fails : ∀ value, ret value < 0 →
      (continuation value).Traces fun _ outcome => out outcome < 0) :
    (program >>= continuation).Traces fun trace outcome => Acknowledged trace (out outcome) := by
  apply first.bind
  intro before value acknowledged
  by_cases failed : ret value < 0
  · exact (fails value failed).mono fun _ _ negative succeeded => absurd succeeded (by omega)
  · have succeeded : 0 ≤ ret value := Int.not_lt.mp failed
    exact (succeeds value succeeded).mono fun _ _ rest => rest.after (acknowledged succeeded)

/-- The access does not read the status register. -/
def StatusUnread (op : MmioOp) : Prop := op ≠ .readl fbiobI2cRegIntrSts

/-- An access that does not read the status shows no NACK. -/
theorem StatusUnread.nacked {event : Event MmioOp MmioOp.Reply} (unread : StatusUnread event.op) :
    nacked event = false := by
  obtain ⟨op, reply⟩ := event
  cases op with
  | readl offset =>
    have elsewhere : offset ≠ fbiobI2cRegIntrSts := fun same => unread (by rw [same])
    simp [I2cMaster.nacked, elsewhere]
  | writel offset val => rfl

/-- A routine that never reads the status register sees no NACK. -/
theorem acknowledged_unread {α : Type} {program : Mmio α} {R : α → Prop} {ret : α → Int}
    (conforms : program.Conforms StatusUnread R) :
    program.Traces fun trace value => Acknowledged trace (ret value) :=
  conforms.traces.mono fun _ _ outcome _ event member => (outcome.1 event member).nacked

/-- The read side of the data window lies above the status register. -/
theorem iobuf_read_unread (buf : Memory) (size : Nat) :
    (i2cIobufRead buf size).Conforms StatusUnread fun _ => True := by
  refine (bulk_read_conforms _ buf size).mono ?_ fun _ _ => trivial
  rintro op ⟨offset, rfl, lower, _⟩ same
  have inside : offset = fbiobI2cRegIntrSts := MmioOp.readl.inj same
  simp only [inside, fbiobI2cIobufOffset, fbiobI2cRegIntrSts] at lower
  omega

/-- Filling a buffer does not read the status. -/
theorem iobuf_write_unread (buf : Memory) (size : Nat) :
    (i2cIobufWrite buf size).Conforms StatusUnread fun _ => True := by
  refine (bulk_write_conforms _ buf size).mono ?_ fun _ _ => trivial
  rintro op ⟨offset, val, rfl, _⟩ same
  exact MmioOp.noConfusion same

/-- Collecting a received chunk leaves the status register alone. -/
theorem collect_unread (platform : Platform) (xferLen rxLen : Nat) (state : ReadState) :
    (if xferLen > fbiobI2cIobufSize then collectPages platform xferLen rxLen state
      else collectPage platform xferLen rxLen state).Conforms StatusUnread fun _ => True := by
  apply Program.Conforms.ite
  · intro two
    apply (iobuf_read_unread _ _).bind
    intro recvBuf _
    refine ⟨by simp [StatusUnread, fbiobI2cRegBufCtrl, fbiobI2cRegIntrSts], fun regval => ?_⟩
    refine ⟨MmioOp.noConfusion, fun _ => ?_⟩
    exact (iobuf_read_unread _ _).bind fun recvBuf _ => trivial
  · intro one
    apply (iobuf_read_unread _ _).bind
    intro recvBuf _
    apply Program.Conforms.ite
    · intro block
      apply Program.Conforms.ite
      · exact fun tooLong => trivial
      · exact fun fits => trivial
    · exact fun plain => trivial

/-- Filling the transmit buffers leaves the status register alone. -/
theorem fill_tx_buf_unread (platform : Platform) (i2cAddr : BitVec 8) (payload : Memory)
    (txBuf payloadSize : Nat) :
    (fbiobI2cFillTxBuf platform i2cAddr payload txBuf payloadSize).Conforms StatusUnread
      fun _ => True := by
  apply Program.Conforms.ite
  · exact fun tooLong => trivial
  · intro fits
    refine ⟨MmioOp.noConfusion, fun _ => (iobuf_write_unread _ _).bind fun _ _ => ?_⟩
    apply Program.Conforms.ite
    · intro more
      refine ⟨MmioOp.noConfusion, fun _ => ?_⟩
      exact (iobuf_write_unread _ _).bind fun _ _ => trivial
    · exact fun finished => trivial

/-- A wait that sees NACK fails. -/
theorem wait_till_xfer_done_acknowledged (opcode : FbiobI2cOpcode) (retry : Nat) :
    (waitTillXferDoneLoop opcode retry).Traces Acknowledged := by
  have refused (val : BitVec 32) :
      (fbiobI2cStop >>= fun _ => (pure (-eio) : Mmio Int)).Traces fun trace ret =>
        Acknowledged (⟨.readl fbiobI2cRegIntrSts, val⟩ :: trace) ret := by
    intro _ _ succeeded
    exact absurd succeeded (by decide)
  have poll (val : BitVec 32) (clean : ¬val &&& fbiobI2cIntrTxNackSts ≠ 0) :
      ∀ event ∈ [⟨.readl fbiobI2cRegIntrSts, val⟩], nacked event = false := by
    intro event member
    rw [List.mem_singleton.mp member]
    simp [nacked, not_not.mp clean]
  refine wait_loop_rule (P := fun program => program.Traces Acknowledged) ?_ ?_ retry
  · exact fun succeeded => absurd succeeded (by decide)
  · intro later acknowledged
    refine (traces_readl _ _ _).mpr fun val => ?_
    apply Program.Traces.ite
    · exact fun _ => refused val
    · intro clean
      apply Program.Traces.ite
      · exact fun finished _ => poll val clean
      · exact fun running => acknowledged.mono fun _ _ rest => rest.after (poll val clean)

/-! ## The two loops -/

/-- One receive pass. -/
theorem read_chunk_acknowledged (platform : Platform) (rxLen : Nat) (state : ReadState) :
    (fbiobI2cReadChunk platform rxLen state).Traces fun trace ret => Acknowledged trace ret.1 := by
  unfold fbiobI2cReadChunk
  simp only [traces_writel]
  have written (ctrl cmd : BitVec 32) : ∀ event ∈ ([⟨.writel fbiobI2cRegBufCtrl ctrl, ()⟩,
      ⟨.writel fbiobI2cRegCmdSts cmd, ()⟩] : Trace), nacked event = false := by
    simp [nacked]
  refine Program.Traces.mono (acknowledged_bind (wait_till_xfer_done_acknowledged _ _) ?_ ?_)
    fun _ _ rest => rest.after (written _ _)
  · intro ret succeeded
    apply Program.Traces.ite
    · intro positive _ event member
      exact absurd member List.not_mem_nil
    · intro done
      exact acknowledged_unread (collect_unread _ _ _ _)
  · exact fun ret failed => failed_returns _ failed failed

/-- The receive loop: each of its passes is acknowledged. -/
theorem read_loop_acknowledged (platform : Platform) (rxLen : Nat) (state : ReadState) :
    (fbiobI2cReadLoop platform rxLen state).Traces fun trace ret => Acknowledged trace ret.1 := by
  refine read_loop_rule (P := fun _ _ program => program.Traces fun trace ret =>
    Acknowledged trace ret.1) ?_ ?_ rxLen state
  · intro state _ event member
    exact absurd member List.not_mem_nil
  · intro rxLen state later _ acknowledged
    apply acknowledged_bind (read_chunk_acknowledged platform rxLen state)
    · intro pass succeeded
      apply Program.Traces.ite
      · intro positive _ event member
        exact absurd member List.not_mem_nil
      · exact fun done => acknowledged pass.2
    · exact fun pass failed => failed_returns _ failed failed

/-- One transmit pass. -/
theorem write_chunk_acknowledged (platform : Platform) (isLastMsg : Bool) (i2cAddr : BitVec 8)
    (payload : Memory) (txBuf nleft : Nat) :
    (fbiobI2cWriteChunk platform isLastMsg i2cAddr payload txBuf nleft).Traces Acknowledged := by
  have filling : (fbiobI2cFillTxBuf platform i2cAddr payload txBuf
      (min fbiobI2cTxPayloadMax nleft)).Traces Acknowledged :=
    acknowledged_unread (fill_tx_buf_unread _ _ _ _ _)
  apply acknowledged_bind filling
  · intro ret filled
    simp only [Int.not_lt.mpr filled, if_false]
    intro _
    have written : ∀ event ∈ ([⟨.writel fbiobI2cRegCmdSts (txCmd isLastMsg), ()⟩] : Trace),
        nacked event = false := by
      simp [nacked]
    exact (wait_till_xfer_done_acknowledged _ _).mono fun _ _ rest => rest.after written
  · intro ret failed
    simp only [failed, if_true, Program.traces_pure]

/-- The transmit loop: each of its passes is acknowledged. -/
theorem write_loop_acknowledged (platform : Platform) (isLastMsg : Bool) (i2cAddr : BitVec 8)
    (payload : Memory) (txBuf nleft : Nat) :
    (fbiobI2cWriteLoop platform isLastMsg i2cAddr payload txBuf nleft).Traces Acknowledged := by
  refine write_loop_rule (P := fun _ _ program => program.Traces Acknowledged) ?_ txBuf nleft
  intro txBuf nleft later acknowledged
  apply acknowledged_bind (write_chunk_acknowledged _ _ _ _ _ _)
  · intro ret succeeded
    apply Program.Traces.ite
    · intro positive _ event member
      exact absurd member List.not_mem_nil
    · intro done
      apply Program.Traces.ite
      · exact acknowledged
      · intro sent _ event member
        exact absurd member List.not_mem_nil
  · exact fun ret failed => failed_returns _ failed failed

/-- A message that succeeds met no NACK. -/
theorem xfer_msg_acknowledged (platform : Platform) (msg : I2cMsg) (isLast : Bool) :
    (xferMsg platform msg isLast).Traces fun trace ret => Acknowledged trace ret.1 := by
  intro _
  have cleared (val : BitVec 32) :
      ∀ event ∈ ([⟨.writel fbiobI2cRegIntrSts val, ()⟩] : Trace), nacked event = false := by
    simp [nacked]
  apply Program.Traces.ite
  · intro read
    unfold fbiobI2cRead
    cases msg.buf with
    | none => exact fun succeeded => absurd succeeded (by decide : ¬0 ≤ -einval)
    | some buf =>
      have addressed (val : BitVec 32) :
          ∀ event ∈ ([⟨.writel fbiobI2cIobufOffset val, ()⟩] : Trace), nacked event = false := by
        simp [nacked]
      refine (traces_writel _ _ _ _).mpr ((read_loop_acknowledged _ _ _).bind ?_)
      rintro trace ⟨ret, state⟩ received
      simp only [Program.traces_pure, List.append_nil]
      exact (received.after (addressed _)).after (cleared _)
  · intro write
    unfold fbiobI2cWrite
    cases msg.buf with
    | none => exact fun succeeded => absurd succeeded (by decide : ¬0 ≤ -einval)
    | some buf =>
      apply (write_loop_acknowledged _ _ _ _ _ _).bind
      intro trace ret sent
      simp only [Program.traces_pure, List.append_nil]
      exact sent.after (cleared _)

/-! ## Which messages are started -/

/-- A read into an empty buffer, which is not an SMBus block read. -/
def I2cMsg.emptyRead (msg : I2cMsg) : Bool := msg.isRead && msg.rxLen == 0

/-- The loop of a message issues a START unless the message is an empty read. -/
theorem message_started (msg : I2cMsg) (isLast : Bool) :
    (messageCommands msg isLast).any starts = true ↔ msg.emptyRead = false := by
  unfold messageCommands I2cMsg.emptyRead
  cases msg.isRead with
  | true =>
    simp only [if_true, Bool.true_and, beq_eq_false_iff_ne, ne_eq]
    rw [readCommands]
    by_cases empty : msg.rxLen = 0
    · simp [empty]
    · have started : starts (rxCmd (min fbiobI2cRxPayloadMax msg.rxLen = msg.rxLen)) = true := by
        cases decide (min fbiobI2cRxPayloadMax msg.rxLen = msg.rxLen) <;> decide
      simp only [empty, if_false, List.any_cons, started, Bool.true_or, not_false_eq_true]
  | false =>
    simp only [Bool.false_eq_true, if_false, Bool.false_and, iff_true]
    obtain ⟨more, written, _⟩ := write_commands_eq isLast msg.len.toNat
    have started : starts (txCmd isLast) = true := by
      cases isLast <;> decide
    simp [written, started]

/-! ## Successful transfers -/

section Transfers

variable {S : Type} (controller : MmioDevice S) (platform : Platform)

/-- The message succeeded with a START issued for it and without a NACK. -/
def OnBus (msg : I2cMsg) (isLast : Bool) (start : S) : Prop :=
  0 ≤ ((xferMsg platform msg isLast).result controller start).1 ∧
    (commands ((xferMsg platform msg isLast).events controller start)).any starts = true ∧
    ∀ event ∈ (xferMsg platform msg isLast).events controller start, nacked event = false

/-- A message that succeeds was on the bus unless it is an empty read. -/
theorem on_bus_iff (msg : I2cMsg) (isLast : Bool) (start : S)
    (succeeded : 0 ≤ ((xferMsg platform msg isLast).result controller start).1) :
    OnBus controller platform msg isLast start ↔ msg.emptyRead = false := by
  have acknowledged := (xfer_msg_acknowledged platform msg isLast).exec controller start succeeded
  have written : commands ((xferMsg platform msg isLast).events controller start) =
      messageCommands msg isLast := by
    rcases (xfer_msg_commands platform msg isLast).exec controller start with ⟨_, written⟩ | failed
    · exact written
    · exact absurd failed (by omega)
  unfold OnBus
  rw [written, message_started]
  exact ⟨fun onBus => onBus.2.1, fun started => ⟨succeeded, started, acknowledged⟩⟩

/-- Each message of a message loop that succeeds was on the bus exactly when
none of them is an empty read. -/
theorem each_message_on_bus (ret : Int) (msgs : List I2cMsg) (state : S)
    (succeeded : 0 ≤ ((xferMsgs platform ret msgs).result controller state).1) :
    EachMessage controller platform (OnBus controller platform) msgs state ↔
      ∀ msg ∈ msgs, msg.emptyRead = false := by
  induction msgs generalizing ret state with
  | nil => simp [EachMessage]
  | cons msg rest inductionHypothesis =>
    simp only [xferMsgs, Program.result_bind] at succeeded
    by_cases failed : ((xferMsg platform msg rest.isEmpty).result controller state).1 < 0
    · simp only [failed, if_true, Program.result_pure] at succeeded
      exact absurd succeeded (by omega)
    · have first : 0 ≤ ((xferMsg platform msg rest.isEmpty).result controller state).1 :=
        Int.not_lt.mp failed
      simp only [failed, if_false, Program.result_bind, Program.result_pure] at succeeded
      rw [List.forall_mem_cons, EachMessage, on_bus_iff controller platform msg _ state first,
        ← inductionHypothesis _ _ succeeded]
      simp only [first, forall_const]

/-- In a transfer that returns the number of its messages, every message was put
on the bus and acknowledged exactly when none of them is an empty read. This
holds for every controller, every initial state of it and every message list.

Proof: a message that does not fail issued exactly the commands of its loop, and
a NACK makes its wait fail. Only the loop of an empty read has no command. -/
theorem success_on_bus_iff (state : S) (msgs : List I2cMsg)
    (returned : ((fbiobI2cMasterXfer platform msgs).result controller state).1 = msgs.length) :
    EachMessage controller platform (OnBus controller platform) msgs
        (acquireBus.final controller state) ↔
      ∀ msg ∈ msgs, msg.emptyRead = false := by
  have nonnegative : 0 ≤ ((fbiobI2cMasterXfer platform msgs).result controller state).1 := by
    rw [returned]
    exact Int.natCast_nonneg _
  rcases check_msg_params_cases msgs with checked | refused
  · have ready := (acquire_bus_silent.traces.exec controller state).2
    simp only [fbiobI2cMasterXfer, checked, ne_eq, not_true_eq_false, if_false,
      Program.result_bind] at nonnegative
    by_cases free : acquireBus.result controller state = 0
    · simp only [free, not_true_eq_false, if_false, Program.result_bind,
        Program.result_pure] at nonnegative
      apply each_message_on_bus controller platform 0
      by_contra failed
      simp only [Int.not_le.mp failed, if_true] at nonnegative
      exact failed nonnegative
    · simp only [free, not_false_eq_true, if_true, Program.result_pure] at nonnegative
      exact absurd nonnegative (by omega)
  · have nonzero : -einval ≠ 0 := by decide
    simp only [fbiobI2cMasterXfer, refused, ne_eq, nonzero, not_false_eq_true, if_true,
      Program.result_pure] at nonnegative
    exact absurd nonnegative (by decide)

instance (msg : I2cMsg) (isLast : Bool) (start : S) :
    Decidable (OnBus controller platform msg isLast start) :=
  inferInstanceAs (Decidable (_ ∧ _ ∧ _))

end Transfers

/-- An empty write, as a bus scan sends it, succeeds with its address on the bus. -/
theorem empty_write_on_bus :
    ((fbiobI2cMasterXfer zeroPlatform [zeroMsg 0 0]).result promptController ()).1 = 1 ∧
      EachMessage promptController zeroPlatform (OnBus promptController zeroPlatform)
        [zeroMsg 0 0] (acquireBus.final promptController ()) := by
  have returned : ((fbiobI2cMasterXfer zeroPlatform [zeroMsg 0 0]).result
      promptController ()).1 = 1 := by decide +kernel
  refine ⟨returned, ?_⟩
  exact (success_on_bus_iff promptController zeroPlatform () [zeroMsg 0 0] returned).mpr
    (by decide)

/-- An empty read succeeds although no START was issued for it. -/
theorem empty_read_off_bus :
    ((fbiobI2cMasterXfer zeroPlatform [zeroMsg i2cMRd 0]).result promptController ()).1 = 1 ∧
      ¬EachMessage promptController zeroPlatform (OnBus promptController zeroPlatform)
        [zeroMsg i2cMRd 0] (acquireBus.final promptController ()) := by
  constructor <;> decide +kernel

end FbossBsp.I2cMaster
