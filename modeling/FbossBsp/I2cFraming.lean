import FbossBsp.I2cMaster
import Mathlib.Data.List.Lemmas

/-!
# STOP conditions of a combined I2C transfer

A transfer is one bus transaction when its commands carry STOP exactly at the
end. The commands of a successful transfer are a function of its messages
alone, whatever the controller answers; this module computes them and decides
for which message lists they frame one transaction.

A read stops the bus with its own last chunk, also when messages follow, and
the last write stops it with every chunk. The remaining transfers, which are
writes of any length followed by one read, or by one write of a single chunk,
are framed as one transaction.
-/

namespace FbossBsp.I2cMaster

open Interaction

/-- The word an access writes to CMD_STS, if it does. -/
def command? : MmioOp → Option (BitVec 32)
  | .writel offset val => if offset = fbiobI2cRegCmdSts then some val else none
  | .readl _ => none

/-- The words a run writes to CMD_STS, in order. -/
def commands (trace : Trace) : List (BitVec 32) :=
  trace.filterMap fun event => command? event.op

/-- Without accesses there are no commands. -/
@[simp] theorem commands_nil : commands [] = [] := rfl

/-- The commands of two traces are those of the first and then those of the second. -/
@[simp] theorem commands_append (first second : Trace) :
    commands (first ++ second) = commands first ++ commands second :=
  List.filterMap_append

/-- A command that carries STOP. -/
def stops (cmd : BitVec 32) : Bool := cmd &&& fbiobI2cBusStopCmd != 0

/-- The last command carries STOP and no earlier one does. -/
def Framed (cmds : List (BitVec 32)) : Prop :=
  cmds.getLast?.any stops = true ∧ ∀ cmd ∈ cmds.dropLast, stops cmd = false

instance (cmds : List (BitVec 32)) : Decidable (Framed cmds) :=
  decidable_of_iff ((cmds.getLast?.any stops && cmds.dropLast.all (!stops ·)) = true)
    (by simp [Framed])

/-! ## The commands of a successful transfer -/

/-- The commands of the receive loop. -/
def readCommands (rxLen : Nat) : List (BitVec 32) :=
  if rxLen = 0 then [] else
    rxCmd (min fbiobI2cRxPayloadMax rxLen = rxLen) ::
      readCommands (rxLen - min fbiobI2cRxPayloadMax rxLen)
termination_by rxLen
decreasing_by simp only [fbiobI2cRxPayloadMax]; omega

/-- The commands of the transmit loop. -/
def writeCommands (isLastMsg : Bool) (nleft : Nat) : List (BitVec 32) :=
  txCmd isLastMsg ::
    if 0 < nleft - min fbiobI2cTxPayloadMax nleft then
      writeCommands isLastMsg (nleft - min fbiobI2cTxPayloadMax nleft)
    else []
termination_by nleft
decreasing_by simp only [fbiobI2cTxPayloadMax] at *; omega

def messageCommands (msg : I2cMsg) (isLast : Bool) : List (BitVec 32) :=
  if msg.isRead then readCommands msg.rxLen else writeCommands isLast msg.len.toNat

def transferCommands : List I2cMsg → List (BitVec 32)
  | [] => []
  | msg :: rest => messageCommands msg rest.isEmpty ++ transferCommands rest

/-- A routine either succeeds having written exactly these commands, or fails. -/
def Writes (cmds : List (BitVec 32)) (trace : Trace) (ret : Int) : Prop :=
  (ret = 0 ∧ commands trace = cmds) ∨ ret < 0

/-- The access writes no command. -/
def Silent (op : MmioOp) : Prop := command? op = none

/-- Accesses that issue no command show none. -/
theorem commands_silent {trace : Trace} (silent : ∀ event ∈ trace, Silent event.op) :
    commands trace = [] := by
  exact List.filterMap_eq_nil_iff.mpr silent

/-- The access reads, or writes the data window or the register that controls it. -/
def BufferAccess : MmioOp → Prop
  | .readl _ => True
  | .writel offset _ => offset = fbiobI2cRegBufCtrl ∨ fbiobI2cIobufOffset ≤ offset

/-- Accesses to the buffers issue no command. -/
theorem BufferAccess.silent {op : MmioOp} (access : BufferAccess op) : Silent op := by
  cases op with
  | readl offset => rfl
  | writel offset val =>
    have outside : offset ≠ fbiobI2cRegCmdSts := by
      simp only [BufferAccess, fbiobI2cRegBufCtrl, fbiobI2cIobufOffset, fbiobI2cRegCmdSts] at *
      omega
    simp [Silent, command?, outside]

/-- Reading a buffer accesses only the buffers. -/
theorem iobuf_read_access (buf : Memory) (size : Nat) :
    (i2cIobufRead buf size).Conforms BufferAccess (fun _ => True) := by
  refine (bulk_read_conforms _ buf size).mono ?_ fun _ _ => trivial
  rintro op ⟨offset, rfl, _⟩
  trivial

/-- Writing a buffer accesses only the buffers. -/
theorem iobuf_write_access (buf : Memory) (size : Nat) :
    (i2cIobufWrite buf size).Conforms BufferAccess (fun _ => True) := by
  refine (bulk_write_conforms _ buf size).mono ?_ fun _ _ => trivial
  rintro op ⟨offset, val, rfl, lower, _⟩
  exact Or.inr lower

/-- What was written before comes first. -/
theorem Writes.after {first trace : Trace} {cmds more : List (BitVec 32)} {ret : Int}
    (written : commands first = cmds) (rest : Writes more trace ret) :
    Writes (cmds ++ more) (first ++ trace) ret := by
  obtain ⟨succeeded, others⟩ | failed := rest
  · exact Or.inl ⟨succeeded, by rw [commands_append, written, others]⟩
  · exact Or.inr failed

/-- A routine that goes on after its first part has succeeded, and fails with
it, writes the commands of both. -/
theorem writes_bind {α β : Type} {program : Mmio α} {continuation : α → Mmio β}
    {ret : α → Int} {out : β → Int} {cmds more : List (BitVec 32)}
    (first : program.Traces fun trace value => Writes cmds trace (ret value))
    (succeeds : ∀ value, ret value = 0 →
      (continuation value).Traces fun trace outcome => Writes more trace (out outcome))
    (fails : ∀ value, ret value < 0 →
      (continuation value).Traces fun _ outcome => out outcome < 0) :
    (program >>= continuation).Traces fun trace outcome =>
      Writes (cmds ++ more) trace (out outcome) := by
  apply first.bind
  rintro before value (⟨succeeded, written⟩ | failed)
  · exact (succeeds value succeeded).mono fun _ _ rest => rest.after written
  · exact (fails value failed).mono fun _ _ => Or.inr

/-- A negative result is returned at once. -/
theorem failed_returns {α : Type} {ret : Int} {value : α} {T : α → Prop} (rest : Mmio α)
    (failed : ret < 0) (holds : T value) :
    (if ret ≠ 0 then pure value else rest).Traces fun _ => T := by
  rw [if_pos (ne_of_lt failed)]
  exact holds

/-- A successful wait writes no command; the STOP after a NACK fails the wait. -/
theorem wait_till_xfer_done_commands (opcode : FbiobI2cOpcode) (retry : Nat) :
    (waitTillXferDoneLoop opcode retry).Traces (Writes []) := by
  refine wait_loop_rule (P := fun program => program.Traces (Writes [])) ?_ ?_ retry
  · exact Or.inr (by decide)
  · intro later written
    refine (traces_readl _ _ _).mpr fun val => ?_
    apply Program.Traces.ite
    · intro nacked _ _
      exact Or.inr (by decide)
    · intro clean
      apply Program.Traces.ite
      · intro finished
        exact Or.inl ⟨rfl, rfl⟩
      · intro running
        have poll : commands [⟨.readl fbiobI2cRegCmdSts, val⟩] = [] := rfl
        exact written.mono fun _ _ rest => rest.after poll

/-- Collecting a chunk of two pages only handles the buffers. -/
theorem collect_pages_access (platform : Platform) (xferLen rxLen : Nat) (state : ReadState) :
    (collectPages platform xferLen rxLen state).Conforms BufferAccess fun ret => ret.1 = 0 := by
  apply (iobuf_read_access _ _).bind
  intro recvBuf _
  refine ⟨trivial, fun regval => ⟨Or.inl rfl, fun _ => ?_⟩⟩
  exact (iobuf_read_access _ _).bind fun recvBuf _ => rfl

/-- Collecting a chunk of one page only handles the buffers; only a block length
can refuse it. -/
theorem collect_page_access (platform : Platform) (xferLen rxLen : Nat) (state : ReadState) :
    (collectPage platform xferLen rxLen state).Conforms BufferAccess
      fun ret => ret.1 = 0 ∨ ret.1 < 0 := by
  apply (iobuf_read_access _ _).bind
  intro recvBuf _
  apply Program.Conforms.ite
  · intro block
    apply Program.Conforms.ite
    · intro tooLong
      exact Or.inr (by decide : -einval < 0)
    · intro fits
      exact Or.inl rfl
  · intro plain
    exact Or.inl rfl

/-- Collecting a chunk of either size only handles the buffers. -/
theorem collect_access (platform : Platform) (xferLen rxLen : Nat) (state : ReadState) :
    (if xferLen > fbiobI2cIobufSize then collectPages platform xferLen rxLen state
      else collectPage platform xferLen rxLen state).Conforms BufferAccess fun ret =>
        ret.1 = 0 ∨ ret.1 < 0 := by
  apply Program.Conforms.ite
  · intro two
    exact (collect_pages_access _ _ _ _).mono (fun _ access => access) fun _ => Or.inl
  · intro one
    exact collect_page_access _ _ _ _

/-- Filling the transmit buffers only handles the buffers. -/
theorem fill_tx_buf_access (platform : Platform) (i2cAddr : BitVec 8) (payload : Memory)
    (txBuf payloadSize : Nat) :
    (fbiobI2cFillTxBuf platform i2cAddr payload txBuf payloadSize).Conforms BufferAccess
      fun ret => ret = if payloadSize > fbiobI2cTxPayloadMax then -einval else 0 := by
  apply Program.Conforms.ite
  · intro tooLong
    exact (if_pos tooLong).symm
  · intro fits
    refine ⟨Or.inl rfl, fun _ => (iobuf_write_access _ _).bind fun _ _ => ?_⟩
    apply Program.Conforms.ite
    · intro more
      refine ⟨Or.inl rfl, fun _ => ?_⟩
      exact (iobuf_write_access _ _).bind fun _ _ => (if_neg fits).symm
    · intro finished
      exact (if_neg fits).symm

/-- A buffer routine that succeeds or fails writes no command when it succeeds. -/
theorem access_commands {α : Type} {program : Mmio α} {ret : α → Int}
    (conforms : program.Conforms BufferAccess fun value => ret value = 0 ∨ ret value < 0) :
    program.Traces fun trace value => Writes [] trace (ret value) := by
  refine conforms.traces.mono ?_
  rintro trace value ⟨access, succeeded | failed⟩
  · exact Or.inl ⟨succeeded, commands_silent fun event member => (access event member).silent⟩
  · exact Or.inr failed

/-- A successful receive pass writes one command, which stops the bus exactly
when the pass receives all that is left. -/
theorem read_chunk_commands (platform : Platform) (rxLen : Nat) (state : ReadState) :
    (fbiobI2cReadChunk platform rxLen state).Traces fun trace ret =>
      Writes [rxCmd (min fbiobI2cRxPayloadMax rxLen = rxLen)] trace ret.1 := by
  unfold fbiobI2cReadChunk
  simp only [traces_writel]
  have issued (ctrl cmd : BitVec 32) : commands
      [⟨.writel fbiobI2cRegBufCtrl ctrl, ()⟩, ⟨.writel fbiobI2cRegCmdSts cmd, ()⟩] = [cmd] := rfl
  refine Program.Traces.mono (writes_bind (wait_till_xfer_done_commands _ _) ?_ ?_)
    fun _ _ rest => rest.after (issued _ _)
  · intro ret succeeded
    simp only [succeeded, ne_eq, not_true_eq_false, if_false]
    exact access_commands (collect_access _ _ _ _)
  · exact fun ret failed => failed_returns _ failed failed

/-- The receive loop: each successful pass contributes its command. -/
theorem read_loop_commands (platform : Platform) (rxLen : Nat) (state : ReadState) :
    (fbiobI2cReadLoop platform rxLen state).Traces fun trace ret =>
      Writes (readCommands rxLen) trace ret.1 := by
  refine read_loop_rule (P := fun rxLen _ program => program.Traces fun trace ret =>
    Writes (readCommands rxLen) trace ret.1) ?_ ?_ rxLen state
  · intro state
    rw [readCommands]
    exact Or.inl ⟨rfl, rfl⟩
  · intro rxLen state later nonempty written
    rw [readCommands, if_neg nonempty]
    apply writes_bind (read_chunk_commands platform rxLen state)
    · intro pass succeeded
      simp only [succeeded, ne_eq, not_true_eq_false, if_false]
      exact written pass.2
    · exact fun pass failed => failed_returns _ failed failed

/-- A successful transmit pass writes one command. -/
theorem write_chunk_commands (platform : Platform) (isLastMsg : Bool) (i2cAddr : BitVec 8)
    (payload : Memory) (txBuf nleft : Nat) :
    (fbiobI2cWriteChunk platform isLastMsg i2cAddr payload txBuf nleft).Traces
      (Writes [txCmd isLastMsg]) := by
  have filling : (fbiobI2cFillTxBuf platform i2cAddr payload txBuf
      (min fbiobI2cTxPayloadMax nleft)).Conforms BufferAccess fun ret => ret = 0 ∨ ret < 0 :=
    (fill_tx_buf_access _ _ _ _ _).mono (fun _ access => access) fun ret filled =>
      Or.inl (filled.trans (if_neg (Nat.not_lt.mpr (Nat.min_le_left _ _))))
  apply writes_bind (access_commands filling)
  · intro ret succeeded
    simp only [succeeded, lt_irrefl, if_false]
    intro _
    have issued : commands [⟨.writel fbiobI2cRegCmdSts (txCmd isLastMsg), ()⟩] =
        [txCmd isLastMsg] := rfl
    exact (wait_till_xfer_done_commands _ _).mono fun _ _ rest => rest.after issued
  · intro ret failed
    simp only [failed, if_true, Program.traces_pure]

/-- The transmit loop: each successful pass contributes its command. -/
theorem write_loop_commands (platform : Platform) (isLastMsg : Bool) (i2cAddr : BitVec 8)
    (payload : Memory) (txBuf nleft : Nat) :
    (fbiobI2cWriteLoop platform isLastMsg i2cAddr payload txBuf nleft).Traces
      (Writes (writeCommands isLastMsg nleft)) := by
  refine write_loop_rule (P := fun _ nleft program =>
    program.Traces (Writes (writeCommands isLastMsg nleft))) ?_ txBuf nleft
  intro txBuf nleft later written
  rw [writeCommands]
  generalize left : (if 0 < nleft - min fbiobI2cTxPayloadMax nleft then
    writeCommands isLastMsg (nleft - min fbiobI2cTxPayloadMax nleft) else []) = rest
  apply writes_bind (write_chunk_commands _ _ _ _ _ _)
  · intro ret succeeded
    simp only [succeeded, ne_eq, not_true_eq_false, if_false]
    apply Program.Traces.ite
    · intro more
      rw [← left, if_pos more]
      exact written more
    · intro last
      rw [← left, if_neg last]
      exact Or.inl ⟨rfl, rfl⟩
  · exact fun ret failed => failed_returns _ failed failed

/-- A message that succeeds writes the commands of its own loop. -/
theorem xfer_msg_commands (platform : Platform) (msg : I2cMsg) (isLast : Bool) :
    (xferMsg platform msg isLast).Traces fun trace ret =>
      Writes (messageCommands msg isLast) trace ret.1 := by
  intro _
  have cleared (val : BitVec 32) : commands [⟨.writel fbiobI2cRegIntrSts val, ()⟩] = [] := rfl
  apply Program.Traces.ite
  · intro read
    unfold fbiobI2cRead messageCommands
    rw [if_pos read]
    cases msg.buf with
    | none => exact Or.inr (by decide : -einval < 0)
    | some buf =>
      have addressed (val : BitVec 32) :
          commands [⟨.writel fbiobI2cIobufOffset val, ()⟩] = [] := rfl
      refine (traces_writel _ _ _ _).mpr ((read_loop_commands _ _ _).bind ?_)
      rintro trace ⟨ret, state⟩ written
      simp only [Program.traces_pure, List.append_nil]
      exact (written.after (addressed _)).after (cleared _)
  · intro write
    unfold fbiobI2cWrite messageCommands
    rw [if_neg write]
    cases msg.buf with
    | none => exact Or.inr (by decide : -einval < 0)
    | some buf =>
      apply (write_loop_commands _ _ _ _ _ _).bind
      intro trace ret written
      simp only [Program.traces_pure, List.append_nil]
      exact written.after (cleared _)

/-- The message loop concatenates the commands of its messages. -/
theorem xfer_msgs_commands (platform : Platform) (msgs : List I2cMsg) :
    (xferMsgs platform 0 msgs).Traces fun trace ret =>
      Writes (transferCommands msgs) trace ret.1 := by
  induction msgs with
  | nil => exact Or.inl ⟨rfl, rfl⟩
  | cons msg rest inductionHypothesis =>
    apply writes_bind (xfer_msg_commands _ _ _)
    · intro message succeeded
      simp only [succeeded, lt_irrefl, if_false]
      apply inductionHypothesis.bind
      rintro trace ⟨ret, others⟩ written
      simpa only [Program.traces_pure, List.append_nil] using written
    · intro message failed
      simp only [failed, if_true, Program.traces_pure]

/-- Taking hold of the bus writes no command and never returns a positive value. -/
theorem acquire_bus_silent : acquireBus.Conforms Silent (fun ret => ret ≤ 0) := by
  have check : fbiobI2cCheckBusy.Conforms Silent (fun ret => ret ≤ 0) := by
    refine ⟨rfl, fun val => ?_⟩
    apply Program.Conforms.ite
    · exact fun _ => (by decide : -ebusy ≤ 0)
    · exact fun _ => Int.le_refl 0
  have free (retry : Nat) : (waitBusForFreeLoop retry).Conforms Silent (fun ret => ret ≤ 0) := by
    induction retry with
    | zero =>
      apply check.bind
      intro busy _
      apply Program.Conforms.ite
      · exact fun _ => Int.le_refl 0
      · exact fun _ => (by decide : -ebusy ≤ 0)
    | succ retry inductionHypothesis =>
      apply check.bind
      intro busy _
      apply Program.Conforms.ite
      · exact fun _ => Int.le_refl 0
      · exact fun _ => inductionHypothesis
  apply (free _).bind
  intro busy _
  apply Program.Conforms.ite
  · intro stuck
    exact ⟨rfl, fun val => ⟨rfl, fun _ => ⟨rfl, fun _ => check⟩⟩⟩
  · intro idle
    exact Int.le_refl 0

/-- The parameter check returns zero or a negated error number. -/
theorem check_msg_params_cases (msgs : List I2cMsg) :
    checkMsgParams msgs = 0 ∨ checkMsgParams msgs = -einval := by
  cases msgs with
  | nil => exact Or.inr rfl
  | cons first rest =>
    simp only [checkMsgParams]
    split_ifs
    · exact Or.inr rfl
    · exact Or.inr rfl
    · exact Or.inl rfl

/-- Accepted messages have buffers and share one 7-bit address. -/
theorem check_msg_params_accepted (msgs : List I2cMsg) (accepted : checkMsgParams msgs = 0) :
    ∃ addr ≤ 0x7f, ∀ msg ∈ msgs, msg.addr = addr ∧ msg.buf.isSome := by
  cases msgs with
  | nil => exact absurd accepted (by decide)
  | cons first rest =>
    simp only [checkMsgParams] at accepted
    by_cases large : first.addr > 0x7f
    · simp only [large, if_true] at accepted
      exact absurd accepted (by decide)
    by_cases differing : (first :: rest).any fun msg => msg.buf.isNone || first.addr != msg.addr
    · simp only [large, differing, if_false, if_true] at accepted
      exact absurd accepted (by decide)
    · refine ⟨first.addr, BitVec.not_lt.mp large, fun msg member => ?_⟩
      have fine : ¬(msg.buf.isNone || first.addr != msg.addr) = true := fun bad =>
        differing (List.any_eq_true.mpr ⟨msg, member, bad⟩)
      cases present : msg.buf <;> simp_all

/-- A transfer that does not fail wrote the commands of its messages. -/
theorem master_xfer_commands (platform : Platform) (msgs : List I2cMsg) :
    (fbiobI2cMasterXfer platform msgs).Traces fun trace ret =>
      0 ≤ ret.1 → commands trace = transferCommands msgs := by
  rcases check_msg_params_cases msgs with checked | refused
  · simp only [fbiobI2cMasterXfer, checked, ne_eq, not_true_eq_false, if_false]
    apply acquire_bus_silent.traces.bind
    rintro acquired ret ⟨silent, nonpositive⟩
    by_cases ready : ret = 0
    · simp only [ready, not_true_eq_false, if_false]
      apply (xfer_msgs_commands platform msgs).bind
      rintro trace ⟨outcome, updated⟩ (⟨_, written⟩ | failed) nonnegative
      · simp [commands_silent silent, written]
      · have negative : outcome < 0 := failed
        simp only [negative, if_true] at nonnegative
        omega
    · simp only [ready, not_false_eq_true, if_true, Program.traces_pure]
      intro nonnegative
      omega
  · have negative : ¬0 ≤ -einval := by decide
    have nonzero : -einval ≠ 0 := by decide
    simp only [fbiobI2cMasterXfer, refused, nonzero, ne_eq, not_false_eq_true, if_true,
      Program.traces_pure, negative, false_implies]

/-! ## Which transfers are framed -/

/-- A read command carries STOP exactly when it is the last one. -/
theorem stops_rx_cmd (last : Bool) : stops (rxCmd last) = last := by
  cases last <;> decide

/-- A write command carries STOP exactly when its message is the last one. -/
theorem stops_tx_cmd (isLastMsg : Bool) : stops (txCmd isLastMsg) = isLastMsg := by
  cases isLastMsg <;> decide

/-- Commands without STOP may precede a framed sequence, and no others. -/
theorem framed_append (first second : List (BitVec 32)) (nonempty : second ≠ []) :
    Framed (first ++ second) ↔ (∀ cmd ∈ first, stops cmd = false) ∧ Framed second := by
  have last : (first ++ second).getLast? = second.getLast? := by
    rw [List.getLast?_append]
    cases ending : second.getLast? with
    | none => exact absurd (List.getLast?_eq_none_iff.mp ending) nonempty
    | some cmd => rfl
  simp only [Framed, last, List.dropLast_append_of_ne_nil nonempty, List.forall_mem_append]
  tauto

/-- A receive loop over at least one byte stops with its last command only. -/
theorem read_commands_framed (rxLen : Nat) (nonempty : rxLen ≠ 0) :
    readCommands rxLen ≠ [] ∧ Framed (readCommands rxLen) := by
  induction rxLen using Nat.strongRecOn with
  | _ rxLen inductionHypothesis =>
    rw [readCommands]
    simp only [nonempty, if_false, ne_eq, reduceCtorEq, not_false_eq_true, true_and]
    by_cases last : min fbiobI2cRxPayloadMax rxLen = rxLen
    · have finished : readCommands 0 = [] := by
        rw [readCommands]
        rfl
      simp [finished, Framed, last, stops_rx_cmd]
    · have rest : rxLen - min fbiobI2cRxPayloadMax rxLen ≠ 0 := by
        simp only [fbiobI2cRxPayloadMax] at *
        omega
      have shorter : rxLen - min fbiobI2cRxPayloadMax rxLen < rxLen := by
        simp only [fbiobI2cRxPayloadMax]
        omega
      obtain ⟨more, framed⟩ := inductionHypothesis _ shorter rest
      refine (framed_append [_] _ more).mpr ⟨?_, framed⟩
      simp [last, stops_rx_cmd]

/-- Every command of a transmit loop is the same command. -/
theorem write_commands_eq (isLastMsg : Bool) (nleft : Nat) :
    ∃ more, writeCommands isLastMsg nleft = txCmd isLastMsg :: more ∧
      (∀ cmd ∈ more, cmd = txCmd isLastMsg) ∧ (more = [] ↔ nleft ≤ fbiobI2cTxPayloadMax) := by
  induction nleft using Nat.strongRecOn with
  | _ nleft inductionHypothesis =>
    rw [writeCommands]
    refine ⟨_, rfl, ?_⟩
    by_cases more : 0 < nleft - min fbiobI2cTxPayloadMax nleft
    · have shorter : nleft - min fbiobI2cTxPayloadMax nleft < nleft := by
        simp only [fbiobI2cTxPayloadMax] at *
        omega
      obtain ⟨rest, written, same, _⟩ := inductionHypothesis _ shorter
      simp only [more, if_true, written]
      refine ⟨List.forall_mem_cons.mpr ⟨rfl, same⟩, ?_⟩
      simp only [reduceCtorEq, false_iff, fbiobI2cTxPayloadMax] at *
      omega
    · have short : nleft ≤ fbiobI2cTxPayloadMax := by
        simp only [fbiobI2cTxPayloadMax] at *
        omega
      simp only [more, if_false, short]
      exact ⟨by simp, by simp⟩

/-- A message before the last keeps the bus exactly when it is a write. -/
theorem message_keeps_bus (msg : I2cMsg) (length : msg.rxLen ≠ 0) :
    (∀ cmd ∈ messageCommands msg false, stops cmd = false) ↔ msg.isRead = false := by
  cases read : msg.isRead with
  | true =>
    obtain ⟨_, stopped, _⟩ := read_commands_framed msg.rxLen length
    simp only [messageCommands, read, if_true, Bool.true_eq_false, iff_false]
    intro kept
    obtain ⟨last, ending, stopping⟩ := (Option.any_eq_true _ _).mp stopped
    have member : last ∈ readCommands msg.rxLen := List.mem_of_getLast? ending
    simp [kept last member] at stopping
  | false =>
    obtain ⟨more, written, same, _⟩ := write_commands_eq false msg.len.toNat
    simp only [messageCommands, read, Bool.false_eq_true, if_false, written, iff_true]
    intro cmd member
    rcases List.mem_cons.mp member with rfl | later
    · exact stops_tx_cmd false
    · exact (same cmd later) ▸ stops_tx_cmd false

/-- The last message is framed when it is a read or fits one transmit pass. -/
theorem last_message_framed (msg : I2cMsg) (length : msg.rxLen ≠ 0) :
    messageCommands msg true ≠ [] ∧
      (Framed (messageCommands msg true) ↔
        msg.isRead = true ∨ msg.len.toNat ≤ fbiobI2cTxPayloadMax) := by
  cases read : msg.isRead with
  | true =>
    obtain ⟨nonempty, framed⟩ := read_commands_framed msg.rxLen length
    simp [messageCommands, read, nonempty, framed]
  | false =>
    obtain ⟨more, written, same, single⟩ := write_commands_eq true msg.len.toNat
    simp only [messageCommands, read, Bool.false_eq_true, if_false, written, false_or, ← single]
    refine ⟨by simp, ?_, ?_⟩
    · intro framed
      by_contra longer
      have early : stops (txCmd true) = false := by
        obtain ⟨next, rest, rfl⟩ := List.exists_cons_of_ne_nil longer
        exact framed.2 (txCmd true) (by simp)
      simp [stops_tx_cmd] at early
    · rintro rfl
      exact ⟨by simp [stops_tx_cmd], by simp⟩

/-- The messages for which a transfer is one bus transaction: only writes before
the last message, and a last write of at most one transmit pass. -/
def OneTransaction (msgs : List I2cMsg) : Prop :=
  (∀ msg ∈ msgs.dropLast, msg.isRead = false) ∧
    ∀ msg ∈ msgs.getLast?, msg.isRead = true ∨ msg.len.toNat ≤ fbiobI2cTxPayloadMax

/-- The commands of a nonempty transfer are framed exactly for one transaction. -/
theorem transfer_framed (msgs : List I2cMsg) (nonempty : msgs ≠ [])
    (lengths : ∀ msg ∈ msgs, msg.rxLen ≠ 0) :
    transferCommands msgs ≠ [] ∧ (Framed (transferCommands msgs) ↔ OneTransaction msgs) := by
  induction msgs with
  | nil => exact absurd rfl nonempty
  | cons msg rest inductionHypothesis =>
    have length : msg.rxLen ≠ 0 := lengths msg List.mem_cons_self
    cases rest with
    | nil => simpa [transferCommands, OneTransaction] using last_message_framed msg length
    | cons next others =>
      obtain ⟨more, framed⟩ := inductionHypothesis (by simp)
        fun later member => lengths later (List.mem_cons_of_mem msg member)
      rw [transferCommands]
      refine ⟨by simp [more], ?_⟩
      rw [framed_append _ _ more, framed, List.isEmpty_cons, message_keeps_bus msg length]
      simp only [OneTransaction, List.dropLast_cons_cons, List.forall_mem_cons,
        List.getLast?_cons_cons, and_assoc]

/-- Every successful transfer of nonempty messages is one framed bus transaction
exactly when only writes precede its last message and a last write fits one
transmit pass. This holds for every controller and every initial state of it.

Proof: success means that each chunk's command was written, so the commands are
those computed from the messages; the rest is a law about that list. -/
theorem master_xfer_framed_iff {S : Type} (controller : MmioDevice S) (state : S)
    (platform : Platform) (msgs : List I2cMsg) (lengths : ∀ msg ∈ msgs, msg.len ≠ 0)
    (returned : ((fbiobI2cMasterXfer platform msgs).result controller state).1 = msgs.length) :
    Framed (commands ((fbiobI2cMasterXfer platform msgs).events controller state)) ↔
      OneTransaction msgs := by
  have written := (master_xfer_commands platform msgs).exec controller state
    (by rw [returned]; exact Int.natCast_nonneg _)
  have nonempty : msgs ≠ [] := by
    rintro rfl
    have refused : -einval = 0 := returned
    exact absurd refused (by decide)
  have receive : ∀ msg ∈ msgs, msg.rxLen ≠ 0 := by
    intro msg member
    have length : msg.len.toNat ≠ 0 := fun zero =>
      lengths msg member (BitVec.eq_of_toNat_eq zero)
    unfold I2cMsg.rxLen
    split
    · decide
    · exact length
  rw [written]
  exact (transfer_framed msgs nonempty receive).2

/-- A controller that is never busy and reports every command done at once. -/
def promptController : MmioDevice Unit
  | .readl offset, state =>
      (if offset = fbiobI2cRegIntrSts then fbiobI2cIntrRxDoneSts ||| fbiobI2cIntrTxDoneSts else 0,
        state)
  | .writel _ _, state => ((), state)

/-- A message of `len` zero bytes to the address 0x50. -/
def zeroMsg (flags len : BitVec 16) : I2cMsg := ⟨0x50, flags, len, some fun _ => 0⟩

def zeroPlatform : Platform := ⟨true, fun _ => 0, fun _ => 0⟩

/-- A write and a following read of one byte succeed as one transaction. -/
theorem write_then_read_framed :
    ((fbiobI2cMasterXfer zeroPlatform [zeroMsg 0 1, zeroMsg i2cMRd 1]).result
        promptController ()).1 = 2 ∧
      Framed (commands ((fbiobI2cMasterXfer zeroPlatform [zeroMsg 0 1, zeroMsg i2cMRd 1]).events
        promptController ())) := by
  have returned : ((fbiobI2cMasterXfer zeroPlatform [zeroMsg 0 1, zeroMsg i2cMRd 1]).result
      promptController ()).1 = 2 := by decide +kernel
  refine ⟨returned, ?_⟩
  refine (master_xfer_framed_iff promptController () zeroPlatform
    [zeroMsg 0 1, zeroMsg i2cMRd 1] (by decide) returned).mpr ?_
  exact ⟨by decide, by decide⟩

/-- A read followed by a write succeeds, but the read already stops the bus. -/
theorem read_then_write_unframed :
    ((fbiobI2cMasterXfer zeroPlatform [zeroMsg i2cMRd 1, zeroMsg 0 1]).result
        promptController ()).1 = 2 ∧
      ¬Framed (commands ((fbiobI2cMasterXfer zeroPlatform [zeroMsg i2cMRd 1, zeroMsg 0 1]).events
        promptController ())) := by
  constructor <;> decide +kernel

end FbossBsp.I2cMaster
