import FbossBsp.I2cPages
import FbossBsp.Interaction.Protocol

/-!
# The protocol of the I2C host controller

A transfer looks at the bus before anything else and resets a busy controller
once. On a free bus it clears the status, stages data, issues a command with
START and polls the status of that command only. A NACK is followed by STOP, and
then by nothing.

Every transfer follows this protocol, whatever the controller answers, and the
value it returns tells the phase it ends in.
-/

namespace FbossBsp.I2cMaster

open Interaction

/-! ## The protocol -/

/-- Where a transfer stands. -/
inductive HostPhase where
  /-- nothing is known of the bus -/
  | asked
  /-- the bus was busy when last looked at -/
  | busy
  /-- the controller was reset after that -/
  | resetting
  /-- the bus was free when last looked at -/
  | free
  /-- data may be staged, and no command is in flight -/
  | owned
  /-- a command with START is in flight -/
  | inFlight (opcode : FbiobI2cOpcode)
  /-- the command was not acknowledged -/
  | nacked
  /-- CMD_STS was read to add STOP -/
  | stopping (cmdSts : BitVec 32)
  /-- STOP was sent -/
  | stopped
  deriving DecidableEq

/-- What CMD_STS tells about the bus. -/
def look (cmdSts : BitVec 32) : HostPhase :=
  if cmdSts &&& fbiobI2cBusBusySts ≠ 0 then .busy else .free

/-- The direction of a command. -/
def direction (cmd : BitVec 32) : FbiobI2cOpcode := if receives cmd then .busRead else .busWrite

/-- The register is BUF_CTRL or an aligned word of the data window. -/
def stages (offset : Nat) : Bool :=
  offset = fbiobI2cRegBufCtrl || inIobuf offset && offset % fbiobIoSize = 0

/-- What the status tells about the command in flight. -/
def polled (opcode : FbiobI2cOpcode) (intrSts : BitVec 32) : HostPhase :=
  if intrSts &&& fbiobI2cIntrTxNackSts ≠ 0 then .nacked
  else if intrSts &&& opcode.doneSts ≠ 0 then .owned
  else .inFlight opcode

def hostProtocol : Protocol MmioOp MmioOp.Reply HostPhase
  | .asked, ⟨.readl offset, val⟩ =>
      if offset = fbiobI2cRegCmdSts then some (look val) else none
  | .busy, ⟨.readl offset, val⟩ =>
      if offset = fbiobI2cRegCmdSts then some (look val)
      else if offset = fbiobI2cRegFuncCtrl then some .resetting else none
  | .resetting, ⟨.readl offset, val⟩ =>
      if offset = fbiobI2cRegCmdSts then some (look val) else none
  | .resetting, ⟨.writel offset _, _⟩ =>
      if offset = fbiobI2cRegFuncCtrl then some .resetting else none
  | .free, ⟨.writel offset val, _⟩ =>
      if offset = fbiobI2cRegIntrSts ∧ val = cleanIntrStatus then some .owned else none
  | .owned, ⟨.readl offset, _⟩ => if stages offset then some .owned else none
  | .owned, ⟨.writel offset val, _⟩ =>
      if stages offset ∨ offset = fbiobI2cRegIntrSts ∧ val = cleanIntrStatus then some .owned
      else if offset = fbiobI2cRegCmdSts ∧ starts val then some (.inFlight (direction val))
      else none
  | .inFlight opcode, ⟨.readl offset, val⟩ =>
      if offset = fbiobI2cRegIntrSts then some (polled opcode val) else none
  | .nacked, ⟨.readl offset, val⟩ =>
      if offset = fbiobI2cRegCmdSts then some (.stopping val) else none
  | .stopping cmdSts, ⟨.writel offset val, _⟩ =>
      if offset = fbiobI2cRegCmdSts ∧ val = cmdSts ||| fbiobI2cBusStopCmd then some .stopped
      else none
  | _, _ => none

/-- How a message ends; `refusable` says that a received length can be refused. -/
inductive Ended (refusable : Prop) : HostPhase → Int → Prop where
  | succeeded : Ended refusable .owned 0
  | nacked : Ended refusable .stopped (-eio)
  | timedOut (opcode : FbiobI2cOpcode) : Ended refusable (.inFlight opcode) (-etimedout)
  | refused : refusable → Ended refusable .owned (-einval)

/-- How a transfer ends. A malformed list is refused before the bus is looked at. -/
inductive TransferEnds (msgs : List I2cMsg) : HostPhase → Int → Prop where
  | malformed : checkMsgParams msgs ≠ 0 → TransferEnds msgs .asked (-einval)
  | transferred : checkMsgParams msgs = 0 → msgs ≠ [] → TransferEnds msgs .owned msgs.length
  | stuck : checkMsgParams msgs = 0 → TransferEnds msgs .busy (-ebusy)
  | nacked : checkMsgParams msgs = 0 → TransferEnds msgs .stopped (-eio)
  | timedOut (opcode : FbiobI2cOpcode) : checkMsgParams msgs = 0 →
      TransferEnds msgs (.inFlight opcode) (-etimedout)
  | refused : checkMsgParams msgs = 0 → (∃ msg ∈ msgs, msg.isRead ∧ msg.recvLen) →
      TransferEnds msgs .owned (-einval)

/-! ## Taking the bus -/

/-- What a look at the bus returns. -/
inductive Looked : HostPhase → Int → Prop where
  | free : Looked .free 0
  | busy : Looked .busy (-ebusy)

/-- In these phases the bus may be looked at. -/
def MayLook (phase : HostPhase) : Prop := ∀ val,
  hostProtocol phase ⟨.readl fbiobI2cRegCmdSts, val⟩ = some (look val)

/-- Looking whether the bus is busy is allowed while the driver may look. -/
theorem check_busy_follows {phase : HostPhase} (may : MayLook phase) :
    fbiobI2cCheckBusy.Follows hostProtocol Looked phase := by
  intro val
  refine ⟨look val, may val, ?_⟩
  apply Program.Follows.ite
  · intro busy
    rw [look, if_pos busy]
    exact .busy
  · intro free
    rw [look, if_neg free]
    exact .free

/-- The poll loop ends on a free bus, or gives up on a busy one. -/
theorem wait_bus_for_free_follows (retry : Nat) {phase : HostPhase} (may : MayLook phase) :
    (waitBusForFreeLoop retry).Follows hostProtocol Looked phase := by
  induction retry generalizing phase with
  | zero =>
    apply (check_busy_follows may).seq
    rintro _ _ (_ | _)
    · exact .free
    · exact .busy
  | succ retry inductionHypothesis =>
    apply (check_busy_follows may).seq
    rintro _ _ (_ | _)
    · exact .free
    · exact inductionHypothesis fun _ => rfl

/-- A busy controller is reset once, and the bus is looked at again. -/
theorem acquire_bus_follows : acquireBus.Follows hostProtocol Looked .asked := by
  apply (wait_bus_for_free_follows _ fun _ => rfl).seq
  rintro _ _ (_ | _)
  · exact .free
  · have reset : fbiobI2cReset.Follows hostProtocol
        (fun last ret => last = .resetting ∧ ret = 0) .busy :=
      fun val => ⟨_, rfl, .perform (fun _ => rfl) fun _ => .perform (fun _ => rfl) fun _ => ⟨rfl, rfl⟩⟩
    apply reset.seq
    rintro _ _ ⟨rfl, rfl⟩
    exact check_busy_follows fun _ => rfl

/-! ## Waiting for a command -/

/-- A wait is over when the command is, or when it gives up. -/
theorem wait_till_xfer_done_follows (opcode : FbiobI2cOpcode) (retry : Nat) :
    (waitTillXferDoneLoop opcode retry).Follows hostProtocol (Ended False) (.inFlight opcode) := by
  refine wait_loop_rule
    (P := fun program => program.Follows hostProtocol (Ended False) (.inFlight opcode)) ?_ ?_ retry
  · exact .timedOut opcode
  · intro later goesOn val
    refine ⟨polled opcode val, rfl, ?_⟩
    apply Program.Follows.ite
    · intro nack
      rw [polled, if_pos nack]
      exact fun cmdSts => ⟨_, rfl, .perform (fun _ => if_pos ⟨rfl, rfl⟩) fun _ => .nacked⟩
    · intro quiet
      rw [polled, if_neg quiet]
      apply Program.Follows.ite
      · intro done
        rw [if_pos done]
        exact .succeeded
      · intro executing
        rw [if_neg executing]
        exact goesOn

/-! ## Staging data -/

/-- The access stages data. -/
def Stages (op : MmioOp) : Prop := stages op.offset = true

/-- Staging is allowed to the owner of the bus, who stays the owner. -/
theorem stages_follows {α : Type} {program : Mmio α} {R : α → Prop}
    (conforms : program.Conforms Stages R) :
    program.Follows hostProtocol (fun last value => last = .owned ∧ R value) .owned := by
  apply conforms.follows
  rintro (offset | ⟨offset, val⟩) reply staged
  · exact if_pos staged
  · exact if_pos (Or.inl staged)

/-- A word that starts in the first `size` bytes of the window. -/
theorem window_stages {word size : Nat} (inside : 4 * word < size)
    (fits : size ≤ fbiobI2cIobufSize) : stages (fbiobI2cIobufOffset + 4 * word) = true := by
  simp only [fbiobI2cIobufSize] at fits
  have within : inIobuf (fbiobI2cIobufOffset + 4 * word) = true := by
    have upper : 4 * word < 128 := by omega
    simp [inIobuf, fbiobI2cIobufSize, upper]
  have aligned : (fbiobI2cIobufOffset + 4 * word) % fbiobIoSize = 0 := by
    simp only [fbiobI2cIobufOffset, fbiobIoSize]
    omega
  simp [stages, within, aligned]

/-- Reading a buffer of the controller only stages. -/
theorem iobuf_read_stages (buf : Memory) {size : Nat} (fits : size ≤ fbiobI2cIobufSize) :
    (i2cIobufRead buf size).Conforms Stages fun _ => True := by
  refine (bulk_read_aligned _ buf size).mono ?_ fun _ _ => trivial
  rintro op ⟨word, rfl, inside⟩
  exact window_stages inside fits

/-- Writing a buffer of the controller only stages. -/
theorem iobuf_write_stages (buf : Memory) {size : Nat} (fits : size ≤ fbiobI2cIobufSize) :
    (i2cIobufWrite buf size).Conforms Stages fun _ => True := by
  refine (bulk_write_aligned _ buf size).mono ?_ fun _ _ => trivial
  rintro op ⟨word, val, rfl, inside⟩
  exact window_stages inside fits

/-- A chunk is collected from the window; only a block length can be refused. -/
theorem collect_stages (platform : Platform) {xferLen : Nat} (rxLen : Nat) (state : ReadState)
    (bounded : xferLen ≤ fbiobI2cRxPayloadMax) :
    (if xferLen > fbiobI2cIobufSize then collectPages platform xferLen rxLen state
      else collectPage platform xferLen rxLen state).Conforms Stages fun ret =>
        ret.2.msg.flags = state.msg.flags ∧
          (ret.1 = 0 ∨ ret.1 = -einval ∧ state.msg.recvLen = true) := by
  apply Program.Conforms.ite
  · intro two
    have remaining : xferLen - fbiobI2cIobufSize ≤ fbiobI2cIobufSize := by
      simp only [fbiobI2cRxPayloadMax, fbiobI2cIobufSize] at *
      omega
    apply (iobuf_read_stages _ (le_refl _)).bind
    intro low _
    refine ⟨rfl, fun regval => ⟨rfl, fun _ => ?_⟩⟩
    exact (iobuf_read_stages _ remaining).bind fun high _ => ⟨rfl, Or.inl rfl⟩
  · intro one
    apply (iobuf_read_stages _ (Nat.not_lt.mp one)).bind
    intro low _
    apply Program.Conforms.ite
    · intro block
      apply Program.Conforms.ite
      · exact fun tooLong => ⟨rfl, Or.inr ⟨rfl, block⟩⟩
      · exact fun fits => ⟨rfl, Or.inl rfl⟩
    · exact fun plain => ⟨rfl, Or.inl rfl⟩

/-- A chunk that fits the transmit buffers is filled in. -/
theorem fill_tx_buf_stages (platform : Platform) (i2cAddr : BitVec 8) (payload : Memory)
    (txBuf : Nat) {payloadSize : Nat} (fits : payloadSize ≤ fbiobI2cTxPayloadMax) :
    (fbiobI2cFillTxBuf platform i2cAddr payload txBuf payloadSize).Conforms Stages
      fun ret => ret = 0 := by
  simp only [fbiobI2cTxPayloadMax] at fits
  apply Program.Conforms.ite
  · intro tooLong
    simp only [fbiobI2cTxPayloadMax] at tooLong
    omega
  · intro _
    refine ⟨rfl, fun _ => (iobuf_write_stages _ ?_).bind fun _ _ => ?_⟩
    · simp only [fbiobI2cIobufSize]
      omega
    apply Program.Conforms.ite
    · intro more
      refine ⟨rfl, fun _ => (iobuf_write_stages _ ?_).bind fun _ _ => rfl⟩
      simp only [fbiobI2cIobufSize]
      omega
    · exact fun finished => rfl

/-! ## Messages -/

/-- A message may end in what a weaker condition admits. -/
theorem Ended.mono {first second : Prop} (implies : first → second) {last : HostPhase} {ret : Int}
    (ended : Ended first last ret) : Ended second last ret := by
  cases ended with
  | succeeded => exact .succeeded
  | nacked => exact .nacked
  | timedOut opcode => exact .timedOut opcode
  | refused reason => exact .refused (implies reason)

/-- A message that has not failed leaves the bus to the next one. -/
theorem Ended.owned {refusable : Prop} {last : HostPhase} {ret : Int}
    (ended : Ended refusable last ret) (succeeded : ¬ret < 0) : last = .owned ∧ ret = 0 := by
  cases ended with
  | succeeded => exact ⟨rfl, rfl⟩
  | nacked => exact absurd (by decide) succeeded
  | timedOut opcode => exact absurd (by decide) succeeded
  | refused reason => exact absurd (by decide) succeeded

/-- Results other than zero are negative. -/
theorem Ended.negative {refusable : Prop} {last : HostPhase} {ret : Int}
    (ended : Ended refusable last ret) (failed : ret ≠ 0) : ret < 0 := by
  cases ended with
  | succeeded => exact absurd rfl failed
  | nacked => decide
  | timedOut opcode => decide
  | refused reason => decide

/-- A command with START goes in flight. -/
theorem command_follows {α : Type} {cmd : BitVec 32} {opcode : FbiobI2cOpcode}
    {next : Unit → Mmio α} {ends : HostPhase → α → Prop} (start : starts cmd = true)
    (towards : direction cmd = opcode)
    (follows : (next ()).Follows hostProtocol ends (.inFlight opcode)) :
    (Program.perform (.writel fbiobI2cRegCmdSts cmd) next : Mmio α).Follows hostProtocol ends
      .owned := by
  refine .perform (fun _ => ?_) fun _ => follows
  rw [← towards]
  exact if_pos (c := fbiobI2cRegCmdSts = fbiobI2cRegCmdSts ∧ starts cmd = true) ⟨rfl, start⟩

/-- One pass of the receive loop. -/
theorem read_chunk_follows (platform : Platform) (rxLen : Nat) (state : ReadState) :
    (fbiobI2cReadChunk platform rxLen state).Follows hostProtocol
      (fun last ret => ret.2.msg.flags = state.msg.flags ∧
        Ended (state.msg.recvLen = true) last ret.1) .owned := by
  refine .perform (fun _ => rfl) fun _ => ?_
  refine command_follows ?_ (?_ : _ = FbiobI2cOpcode.busRead) ?_
  · cases decide (min fbiobI2cRxPayloadMax rxLen = rxLen) <;> decide
  · cases decide (min fbiobI2cRxPayloadMax rxLen = rxLen) <;> decide
  apply (wait_till_xfer_done_follows .busRead _).seq
  intro last ret ended
  by_cases failed : ret ≠ 0
  · rw [if_pos failed]
    exact ⟨rfl, ended.mono False.elim⟩
  · have succeeded : ret = 0 := not_not.mp failed
    rw [if_neg failed]
    obtain ⟨rfl, _⟩ := ended.owned (by omega)
    apply (stages_follows (collect_stages platform _ state (Nat.min_le_left _ _))).weaken
    rintro _ ⟨ret, later⟩ ⟨rfl, flags, rfl | ⟨rfl, block⟩⟩
    · exact ⟨flags, .succeeded⟩
    · exact ⟨flags, .refused block⟩

/-- The chunks of a read keep to the protocol. -/
theorem read_loop_follows (platform : Platform) (rxLen : Nat) (state : ReadState) :
    (fbiobI2cReadLoop platform rxLen state).Follows hostProtocol
      (fun last ret => Ended (state.msg.recvLen = true) last ret.1) .owned := by
  refine read_loop_rule (P := fun _ state program => program.Follows hostProtocol
    (fun last ret => Ended (state.msg.recvLen = true) last ret.1) .owned) ?_ ?_ rxLen state
  · exact fun _ => .succeeded
  · intro rxLen state later _ goesOn
    apply (read_chunk_follows platform rxLen state).seq
    rintro last ⟨ret, next⟩ ⟨flags, ended⟩
    have same : next.msg.recvLen = state.msg.recvLen := by
      rw [I2cMsg.recvLen, I2cMsg.recvLen, flags]
    apply Program.Follows.ite
    · exact fun _ => ended
    · intro succeeded
      obtain ⟨rfl, _⟩ := ended.owned (by omega)
      rw [← same]
      exact goesOn next

/-- One pass of the transmit loop. -/
theorem write_chunk_follows (platform : Platform) (isLastMsg : Bool) (i2cAddr : BitVec 8)
    (payload : Memory) (txBuf nleft : Nat) :
    (fbiobI2cWriteChunk platform isLastMsg i2cAddr payload txBuf nleft).Follows hostProtocol
      (Ended False) .owned := by
  apply (stages_follows (fill_tx_buf_stages platform i2cAddr payload txBuf
    (Nat.min_le_left fbiobI2cTxPayloadMax nleft))).seq
  rintro _ _ ⟨rfl, rfl⟩
  refine command_follows ?_ ?_ (wait_till_xfer_done_follows .busWrite _)
  · cases isLastMsg <;> decide
  · cases isLastMsg <;> decide

/-- The chunks of a write keep to the protocol. -/
theorem write_loop_follows (platform : Platform) (isLastMsg : Bool) (i2cAddr : BitVec 8)
    (payload : Memory) (txBuf nleft : Nat) :
    (fbiobI2cWriteLoop platform isLastMsg i2cAddr payload txBuf nleft).Follows hostProtocol
      (Ended False) .owned := by
  refine write_loop_rule
    (P := fun _ _ program => program.Follows hostProtocol (Ended False) .owned) ?_ txBuf nleft
  intro txBuf nleft later goesOn
  apply (write_chunk_follows platform isLastMsg i2cAddr payload txBuf nleft).seq
  intro last ret ended
  apply Program.Follows.ite
  · exact fun _ => ended
  · intro succeeded
    obtain ⟨rfl, _⟩ := ended.owned (by omega)
    exact Program.Follows.ite goesOn fun _ => .succeeded

/-- A message with a buffer ends in one of these ways. -/
theorem xfer_msg_follows (platform : Platform) {msg : I2cMsg} (isLast : Bool)
    (buffered : msg.buf.isSome) {phase : HostPhase} (ready : phase = .free ∨ phase = .owned) :
    (xferMsg platform msg isLast).Follows hostProtocol
      (fun last ret => Ended (msg.isRead ∧ msg.recvLen) last ret.1) phase := by
  obtain ⟨buf, present⟩ := Option.isSome_iff_exists.mp buffered
  have begins (reply : Unit) :
      hostProtocol phase ⟨.writel fbiobI2cRegIntrSts cleanIntrStatus, reply⟩ = some .owned := by
    rcases ready with rfl | rfl <;> rfl
  refine .perform begins fun _ => ?_
  apply Program.Follows.ite
  · intro read
    unfold fbiobI2cRead
    rw [present]
    refine .perform (fun _ => rfl) fun _ => ?_
    apply (read_loop_follows platform msg.rxLen ⟨msg, buf, 0⟩).seq
    exact fun last ret ended => ended.mono fun block => ⟨read, block⟩
  · intro write
    unfold fbiobI2cWrite
    rw [present]
    apply (write_loop_follows platform isLast (writeAddr msg) buf 0 msg.len.toNat).seq
    exact fun last ret ended => ended.mono False.elim

/-- The message loop ends with its last message, or with the first one that fails. -/
theorem xfer_msgs_follows (platform : Platform) {msgs : List I2cMsg}
    (buffered : ∀ msg ∈ msgs, msg.buf.isSome) {phase : HostPhase}
    (ready : phase = .owned ∨ phase = .free ∧ msgs ≠ []) :
    (xferMsgs platform 0 msgs).Follows hostProtocol
      (fun last ret => Ended (∃ msg ∈ msgs, msg.isRead ∧ msg.recvLen) last ret.1) phase := by
  induction msgs generalizing phase with
  | nil =>
    obtain rfl | ⟨_, nonempty⟩ := ready
    · exact .succeeded
    · exact absurd rfl nonempty
  | cons msg rest inductionHypothesis =>
    have bus : phase = .free ∨ phase = .owned := ready.symm.imp And.left id
    apply (xfer_msg_follows platform rest.isEmpty (buffered msg List.mem_cons_self) bus).seq
    rintro last ⟨ret, updated⟩ ended
    apply Program.Follows.ite
    · exact fun _ => ended.mono fun block => ⟨msg, List.mem_cons_self, block⟩
    · intro succeeded
      obtain ⟨rfl, zero⟩ := ended.owned succeeded
      dsimp only at zero
      subst zero
      have others := inductionHypothesis
        (fun other member => buffered other (List.mem_cons_of_mem msg member)) (Or.inl rfl)
      apply others.seq
      exact fun last ret ended => ended.mono fun ⟨other, member, block⟩ =>
        ⟨other, List.mem_cons_of_mem msg member, block⟩

/-! ## Transfers -/

/-- A transfer keeps to the protocol. -/
theorem master_xfer_follows (platform : Platform) (msgs : List I2cMsg) :
    (fbiobI2cMasterXfer platform msgs).Follows hostProtocol
      (fun last ret => TransferEnds msgs last ret.1) .asked := by
  apply Program.Follows.ite
  · intro malformed
    obtain checked | refused := check_msg_params_cases msgs
    · exact absurd checked malformed
    · rw [refused]
      exact .malformed malformed
  · intro accepted
    have checked : checkMsgParams msgs = 0 := not_not.mp accepted
    have nonempty : msgs ≠ [] := by
      rintro rfl
      exact absurd checked (by decide)
    obtain ⟨_, _, each⟩ := check_msg_params_accepted msgs checked
    apply acquire_bus_follows.seq
    rintro _ _ (_ | _)
    · apply (xfer_msgs_follows platform (fun msg member => (each msg member).2)
        (Or.inr ⟨rfl, nonempty⟩)).seq
      rintro last ⟨ret, updated⟩ ended
      dsimp only at ended
      cases ended with
      | succeeded => exact .transferred checked nonempty
      | nacked => exact .nacked checked
      | timedOut opcode => exact .timedOut opcode checked
      | refused reason => exact .refused checked reason
    · exact .stuck checked

/-- Every transfer follows the protocol on every controller: it starts commands
only on a bus that it has seen free since the last reset, handles no data while a
command is in flight, and answers a NACK with STOP at once. What it returns tells
where it ends; in particular, a bus that stays busy is left alone. -/
theorem transfers_follow_protocol {S : Type} (controller : MmioDevice S) (platform : Platform)
    (msgs : List I2cMsg) (s : S) :
    ∃ last, hostProtocol.run .asked ((fbiobI2cMasterXfer platform msgs).events controller s) =
        some last ∧
      TransferEnds msgs last ((fbiobI2cMasterXfer platform msgs).result controller s).1 :=
  (master_xfer_follows platform msgs).exec controller s

end FbossBsp.I2cMaster
