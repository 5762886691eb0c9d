import FbossBsp.I2cBuffers

/-!
# The payload of an I2C write

A write message is cut three times: into chunks of at most 255 bytes, each chunk
into the part behind the address byte in the low page and the part in the high
page, and each page into words, the last of which is padded. The frames that the
controller sends put the message together again.

The commands of a write are its own: the word that `fbiob_i2c_stop` writes back after
a NACK is read from the controller and comes last, so it is kept apart from them.
-/

namespace FbossBsp.I2cMaster

open Interaction

/-! ## Frames of a message -/

/-- The buffers hold the `size` bytes of the message from `start` on, after the
address byte. -/
structure Buffers.Holds (b : Buffers) (addr : BitVec 8) (message : Memory) (start size : Nat) :
    Prop where
  sized : txSize b.bufCtrl = size
  bounded : size ≤ fbiobI2cTxPayloadMax
  address : b.low 0 = addr
  lowPage : ∀ i < min size (fbiobI2cIobufSize - 1), b.low (1 + i) = message (start + i)
  highPage : ∀ i < size - (fbiobI2cIobufSize - 1),
    b.high i = message (start + (fbiobI2cIobufSize - 1) + i)

/-- Buffers that hold a part of the message send that part. -/
theorem Buffers.Holds.payload_eq {b : Buffers} {addr : BitVec 8} {message : Memory}
    {start size : Nat} (holds : b.Holds addr message start size) :
    b.payload = message.bytes start size := by
  rw [Buffers.payload, Memory.bytes, holds.sized]
  apply List.map_congr_left
  intro i member
  have inside : i < size := List.mem_range.mp member
  by_cases first : i < fbiobI2cIobufSize - 1
  · rw [if_pos first]
    exact holds.lowPage i (lt_min inside first)
  · have position : start + (fbiobI2cIobufSize - 1) + (i - (fbiobI2cIobufSize - 1)) = start + i := by
      omega
    rw [if_neg first, holds.highPage _ (by omega), position]

/-- The frames carry the chunks of the `len` bytes of the message from `start`
on, in order and from the first one. -/
structure Carry (addr : BitVec 8) (message : Memory) (start len : Nat) (frames : List Buffers) :
    Prop where
  chunks : ∀ k (frame : Buffers), frames[k]? = some frame →
    frame.Holds addr message (start + fbiobI2cTxPayloadMax * k)
      (min fbiobI2cTxPayloadMax (len - fbiobI2cTxPayloadMax * k))
  sent : frames.flatMap Buffers.payload =
    message.bytes start (min len (fbiobI2cTxPayloadMax * frames.length))

/-- Without commands nothing is carried. -/
theorem Carry.none (addr : BitVec 8) (message : Memory) (start len : Nat) :
    Carry addr message start len [] where
  chunks := by simp
  sent := by simp [Memory.bytes]

/-- A frame of the first chunk comes before frames of what it leaves. -/
theorem Carry.cons {addr : BitVec 8} {message : Memory} {start len : Nat} {frame : Buffers}
    {frames : List Buffers}
    (first : frame.Holds addr message start (min fbiobI2cTxPayloadMax len))
    (later : Carry addr message (start + min fbiobI2cTxPayloadMax len)
      (len - min fbiobI2cTxPayloadMax len) frames)
    (whole : frames ≠ [] → fbiobI2cTxPayloadMax ≤ len) :
    Carry addr message start len (frame :: frames) where
  chunks := by
    intro k chunk found
    cases k with
    | zero =>
      obtain rfl : frame = chunk := by simpa using found
      simpa using first
    | succ k =>
      have present : frames[k]? = some chunk := by simpa using found
      have long : fbiobI2cTxPayloadMax ≤ len := whole (by rintro rfl; simp at present)
      have rest := later.chunks k chunk present
      rw [min_eq_left long] at rest
      have from_start : start + fbiobI2cTxPayloadMax + fbiobI2cTxPayloadMax * k =
          start + fbiobI2cTxPayloadMax * (k + 1) := by rw [Nat.mul_succ]; omega
      have left : len - fbiobI2cTxPayloadMax - fbiobI2cTxPayloadMax * k =
          len - fbiobI2cTxPayloadMax * (k + 1) := by rw [Nat.mul_succ]; omega
      rwa [from_start, left] at rest
  sent := by
    rw [List.flatMap_cons, first.payload_eq, later.sent, Memory.bytes_append]
    congr 1
    rw [List.length_cons, Nat.mul_succ]
    by_cases long : fbiobI2cTxPayloadMax ≤ len
    · omega
    · have last : frames = [] := by
        by_contra more
        exact long (whole more)
      simp [last]
      omega

/-! ## What the driver puts in the buffers -/

/-- The control words of a chunk decode to its size; the first selects the low
page and the second the high page. -/
theorem tx_buf_ctrl_fields : ∀ size ≤ fbiobI2cTxPayloadMax,
    txSize (txBufCtrl size) = size ∧ txSize (txBufCtrl size ||| fbiobI2cBufMemPageSel) = size := by
  decide +kernel

/-- The low page after the address byte and `size` payload bytes were copied there. -/
theorem low_page_filled (platform : Platform) (page payload : Memory) (i2cAddr : BitVec 8)
    (txBuf size : Nat) :
    let filled := padded page ((platform.ioBuf.store8 0 i2cAddr).memcpy 1 payload txBuf size)
      (size + 1)
    filled 0 = i2cAddr ∧ ∀ i < size, filled (1 + i) = payload (txBuf + i) := by
  constructor
  · rw [padded_copied _ _ (Nat.succ_pos _)]
    simp [Memory.memcpy, Memory.store8]
  · intro i inside
    rw [padded_copied _ _ (by omega)]
    simp [Memory.memcpy, inside]

/-! ## The commands of a write -/

/-- The check of the payload size is the only error of filling the buffers. -/
theorem fill_tx_buf_clean (platform : Platform) (i2cAddr : BitVec 8) (payload : Memory)
    (txBuf payloadSize : Nat) :
    (fbiobI2cFillTxBuf platform i2cAddr payload txBuf payloadSize).Conforms (fun _ => True)
      (· ≠ -eio) := by
  have copied (buf : Memory) (size : Nat) : (i2cIobufWrite buf size).Conforms (fun _ => True)
      fun _ => True := Program.conforms_true _
  apply Program.Conforms.ite
  · exact fun tooLong => (by decide : -einval ≠ -eio)
  · intro fits
    refine ⟨trivial, fun _ => (copied _ _).bind fun _ _ => ?_⟩
    apply Program.Conforms.ite
    · exact fun more => ⟨trivial, fun _ => (copied _ _).bind fun _ _ => (by decide : 0 ≠ -eio)⟩
    · exact fun finished => (by decide : 0 ≠ -eio)

section Commands

variable (platform : Platform) (isLastMsg : Bool) (i2cAddr : BitVec 8) (payload : Memory)

/-- `fbiobI2cWriteChunk` up to the STOP that answers a NACK. -/
def unstoppedWriteChunk (txBuf nleft : Nat) : Mmio Int := do
  let ret ← fbiobI2cFillTxBuf platform i2cAddr payload txBuf (min fbiobI2cTxPayloadMax nleft)
  if ret < 0 then pure ret else do
    writel (txCmd isLastMsg) fbiobI2cRegCmdSts
    unstoppedWaitLoop .busWrite (fbossI2cSmbusMaxTimeoutUs / fbiobI2cXferPollTimeUs)

/-- `fbiobI2cWriteLoop` up to the STOP that answers a NACK. -/
def unstoppedWriteLoop (txBuf nleft : Nat) : Mmio Int := do
  let payloadLen := min fbiobI2cTxPayloadMax nleft
  let ret ← unstoppedWriteChunk platform isLastMsg i2cAddr payload txBuf nleft
  if ret ≠ 0 then pure ret
  else if 0 < nleft - payloadLen then unstoppedWriteLoop (txBuf + payloadLen) (nleft - payloadLen)
  else pure 0
termination_by nleft
decreasing_by simp only [fbiobI2cTxPayloadMax] at *; omega

/-- The STOP is the last thing that a transmit pass does. -/
theorem write_chunk_stops_last (txBuf nleft : Nat) :
    fbiobI2cWriteChunk platform isLastMsg i2cAddr payload txBuf nleft =
      unstoppedWriteChunk platform isLastMsg i2cAddr payload txBuf nleft >>= stopAfterNack := by
  rw [fbiobI2cWriteChunk, unstoppedWriteChunk, bind_assoc]
  apply (fill_tx_buf_clean platform i2cAddr payload txBuf _).bind_congr
  intro ret clean
  split
  · rw [pure_bind, stop_after_nack_clean clean]
  · rw [bind_assoc, waitTillXferDone, wait_stops_last]

/-- The STOP is the last thing that the transmit loop does.

Proof: induction on what is left to send. A pass that fails ends both loops, so its
STOP is the last of the loop. A pass that succeeds has sent no STOP. -/
theorem write_loop_stops_last (txBuf nleft : Nat) :
    fbiobI2cWriteLoop platform isLastMsg i2cAddr payload txBuf nleft =
      unstoppedWriteLoop platform isLastMsg i2cAddr payload txBuf nleft >>= stopAfterNack := by
  induction nleft using Nat.strongRecOn generalizing txBuf with
  | _ nleft inductionHypothesis =>
    rw [fbiobI2cWriteLoop, unstoppedWriteLoop, write_chunk_stops_last, bind_assoc, bind_assoc]
    refine bind_congr fun ret => ?_
    by_cases succeeded : ret = 0
    · subst succeeded
      rw [stop_after_nack_clean (by decide), pure_bind, if_neg (not_not.mpr rfl),
        if_neg (not_not.mpr rfl)]
      split
      · apply inductionHypothesis
        simp only [fbiobI2cTxPayloadMax] at *
        omega
      · rfl
    · rw [stop_after_nack_failed succeeded, if_pos succeeded, pure_bind]

end Commands

/-- `fbiobI2cWrite` up to the STOP that answers a NACK. -/
def unstoppedWrite (platform : Platform) (msg : I2cMsg) (isLastMsg : Bool) : Mmio Int :=
  match msg.buf with
  | none => pure (-einval)
  | some buf => unstoppedWriteLoop platform isLastMsg (writeAddr msg) buf 0 msg.len.toNat

/-- A write issues its commands, and after a NACK the STOP of `fbiob_i2c_stop`. -/
theorem write_stops_last (platform : Platform) (msg : I2cMsg) (isLastMsg : Bool) :
    fbiobI2cWrite platform msg isLastMsg =
      unstoppedWrite platform msg isLastMsg >>= stopAfterNack := by
  unfold fbiobI2cWrite unstoppedWrite
  cases msg.buf with
  | none => rfl
  | some buf => exact write_loop_stops_last platform isLastMsg (writeAddr msg) buf 0 msg.len.toNat

/-! ## What a write accesses -/

/-- An access of the write path: a control register, or a word of the window. -/
def WriteAccess : MmioOp → Prop
  | .readl offset => offset = fbiobI2cRegIntrSts ∨ offset = fbiobI2cRegCmdSts
  | .writel offset _ =>
      offset = fbiobI2cRegBufCtrl ∨ offset = fbiobI2cRegCmdSts ∨
        fbiobI2cIobufOffset ≤ offset ∧
          offset + fbiobIoSize ≤ fbiobI2cIobufOffset + fbiobI2cIobufSize

/-- Filling a buffer is one of the accesses of a write. -/
theorem iobuf_write_inside (buf : Memory) {size : Nat} (fits : size ≤ fbiobI2cIobufSize) :
    (i2cIobufWrite buf size).Conforms WriteAccess fun _ => True := by
  refine (bulk_write_aligned _ buf size).mono ?_ fun _ _ => trivial
  rintro op ⟨word, val, rfl, inside⟩
  simp only [fbiobI2cIobufSize] at fits
  refine Or.inr (Or.inr ⟨by omega, ?_⟩)
  simp only [fbiobIoSize, fbiobI2cIobufSize]
  omega

/-- Waiting makes only accesses of a write. -/
theorem wait_inside (opcode : FbiobI2cOpcode) (retry : Nat) :
    (waitTillXferDoneLoop opcode retry).Conforms WriteAccess fun _ => True := by
  refine wait_loop_rule (P := fun program => program.Conforms WriteAccess fun _ => True) ?_ ?_ retry
  · trivial
  · intro later inside
    refine ⟨Or.inl rfl, fun val => ?_⟩
    apply Program.Conforms.ite
    · exact fun nacked => ⟨Or.inr rfl, fun status => ⟨Or.inr (Or.inl rfl), fun _ => trivial⟩⟩
    · intro clean
      apply Program.Conforms.ite
      · exact fun finished => trivial
      · exact fun running => inside

/-- Preparing a chunk makes only accesses of a write. -/
theorem fill_tx_buf_inside (platform : Platform) (i2cAddr : BitVec 8) (payload : Memory)
    (txBuf payloadSize : Nat) :
    (fbiobI2cFillTxBuf platform i2cAddr payload txBuf payloadSize).Conforms WriteAccess
      fun _ => True := by
  apply Program.Conforms.ite
  · exact fun tooLong => trivial
  · intro fits
    refine ⟨Or.inl rfl, fun _ => (iobuf_write_inside _ ?_).bind fun _ _ => ?_⟩
    · simp only [fbiobI2cIobufSize]
      omega
    · apply Program.Conforms.ite
      · intro more
        refine ⟨Or.inl rfl, fun _ => (iobuf_write_inside _ ?_).bind fun _ _ => trivial⟩
        simp only [fbiobI2cTxPayloadMax, fbiobI2cIobufSize] at *
        omega
      · exact fun finished => trivial

/-- The chunks of a message make only accesses of a write. -/
theorem write_loop_inside (platform : Platform) (isLastMsg : Bool) (i2cAddr : BitVec 8)
    (payload : Memory) (txBuf nleft : Nat) :
    (fbiobI2cWriteLoop platform isLastMsg i2cAddr payload txBuf nleft).Conforms WriteAccess
      fun _ => True := by
  refine write_loop_rule (P := fun _ _ program => program.Conforms WriteAccess fun _ => True) ?_
    txBuf nleft
  intro txBuf nleft later inside
  have chunk : (fbiobI2cWriteChunk platform isLastMsg i2cAddr payload txBuf nleft).Conforms
      WriteAccess fun _ => True := by
    apply (fill_tx_buf_inside platform i2cAddr payload txBuf _).bind
    intro ret _
    apply Program.Conforms.ite
    · exact fun failed => trivial
    · exact fun filled => ⟨Or.inr (Or.inl rfl), fun _ => wait_inside _ _⟩
  apply chunk.bind
  intro ret _
  apply Program.Conforms.ite
  · exact fun failed => trivial
  · intro succeeded
    apply Program.Conforms.ite
    · exact inside
    · exact fun sent => trivial

/-! ## What the commands send -/

section Transmit

variable {T : Type} (csr : MmioDevice T) (platform : Platform) (payload : Memory)

/-- Filling the buffers with a chunk makes them hold it, and issues no command. -/
theorem fill_tx_buf_holds (i2cAddr : BitVec 8) (txBuf : Nat) {payloadSize : Nat}
    (fits : payloadSize ≤ fbiobI2cTxPayloadMax) (s : Iobuf T) :
    (fbiobI2cFillTxBuf platform i2cAddr payload txBuf payloadSize).Wp (iobufController csr)
      (fun _ _ => True)
      (fun ret after => ret = 0 ∧ after.sent = s.sent ∧ after.receives = s.receives ∧
        after.buffers.Holds i2cAddr payload txBuf payloadSize) s := by
  obtain ⟨lowSize, highSize⟩ := tx_buf_ctrl_fields payloadSize fits
  have lowPage : txBufCtrl payloadSize &&& fbiobI2cBufMemPageSel = 0 := and_not_and _ _
  have highPage :
      (txBufCtrl payloadSize ||| fbiobI2cBufMemPageSel) &&& fbiobI2cBufMemPageSel ≠ 0 := by
    rw [or_mask_and]
    decide
  rw [fbiobI2cFillTxBuf, if_neg (Nat.not_lt.mpr fits)]
  refine (wp_writel _ _ _ _ _ _ _).mpr ⟨trivial, ?_⟩
  obtain ⟨answers, selected⟩ := buf_ctrl_write csr s (txBufCtrl payloadSize)
  rw [selected]
  apply Program.Wp.seq (iobuf_write_stored csr _ _ ?_)
  · rintro _ filled rfl
    simp only [Iobuf.setPage, Iobuf.setBufCtrl, Buffers.set_page_low lowPage]
    obtain ⟨address, first⟩ := low_page_filled platform
      (Buffers.page ⟨txBufCtrl payloadSize, s.buffers.low, s.buffers.high⟩) payload i2cAddr txBuf
      (min payloadSize (fbiobI2cIobufSize - 1))
    apply Program.Wp.ite
    · intro twoPages
      refine (wp_writel _ _ _ _ _ _ _).mpr ⟨trivial, ?_⟩
      obtain ⟨later, switched⟩ :=
        buf_ctrl_write csr _ (txBufCtrl payloadSize ||| fbiobI2cBufMemPageSel)
      rw [switched]
      apply Program.Wp.seq (iobuf_write_stored csr _ _ ?_)
      · rintro _ complete rfl
        refine ⟨rfl, rfl, rfl, ?_⟩
        simp only [Iobuf.setPage, Iobuf.setBufCtrl, Buffers.set_page_high highPage]
        refine ⟨highSize, fits, address, first, fun i inside => ?_⟩
        refine (padded_copied _ _ (by omega)).trans ?_
        have split : min payloadSize (fbiobI2cIobufSize - 1) = fbiobI2cIobufSize - 1 := by omega
        simp [Memory.memcpy, split, inside]
      · simp only [fbiobI2cTxPayloadMax, fbiobI2cIobufSize] at *
        omega
    · intro onePage
      refine ⟨rfl, rfl, rfl, lowSize, fits, address, first, fun i inside => ?_⟩
      omega
  · simp only [fbiobI2cIobufSize]
    omega

/-- The command of one transmit pass sends one frame, which holds its chunk. -/
theorem write_chunk_sends (isLastMsg : Bool) (i2cAddr : BitVec 8) (txBuf nleft : Nat)
    (s : Iobuf T) :
    (unstoppedWriteChunk platform isLastMsg i2cAddr payload txBuf nleft).Wp (iobufController csr)
      (fun _ _ => True)
      (fun _ after => after.receives = s.receives ∧ ∃ frame : Buffers,
        frame.Holds i2cAddr payload txBuf (min fbiobI2cTxPayloadMax nleft) ∧
          after.sent = s.sent ++ [frame]) s := by
  have transmits (now : Iobuf T) : now.command (txCmd isLastMsg) = now.transmit := by
    cases isLastMsg <;> rfl
  apply Program.Wp.seq (fill_tx_buf_holds csr platform payload i2cAddr txBuf (Nat.min_le_left _ _) s)
  rintro ret filled ⟨rfl, sent, counted, holds⟩
  rw [if_neg (lt_irrefl 0)]
  refine (wp_writel _ _ _ _ _ _ _).mpr ⟨trivial, ?_⟩
  have issued := cmd_sts_write csr filled (txCmd isLastMsg)
  rw [transmits] at issued
  refine (unstopped_wait_same csr .busWrite _ _).weaken ?_
  intro ret after waited
  obtain ⟨answers, rfl⟩ := issued.trans waited
  exact ⟨counted, filled.buffers, holds, by rw [Iobuf.transmit, sent]⟩

/-- The commands of the transmit loop send frames that carry the message from its
first byte on, and a successful loop sends all of it.

Proof: induction on what is left to send. A pass that fails ends the frames, and a
pass that goes on has sent a whole chunk, which comes before the frames of the passes
after it. -/
theorem write_loop_carries (isLastMsg : Bool) (i2cAddr : BitVec 8) (txBuf nleft : Nat)
    (s : Iobuf T) :
    (unstoppedWriteLoop platform isLastMsg i2cAddr payload txBuf nleft).Wp (iobufController csr)
      (fun _ _ => True)
      (fun ret after => after.receives = s.receives ∧ ∃ frames,
        Carry i2cAddr payload txBuf nleft frames ∧ after.sent = s.sent ++ frames ∧
          (ret = 0 → frames.length = max 1 ((nleft + 254) / fbiobI2cTxPayloadMax))) s := by
  induction nleft using Nat.strongRecOn generalizing txBuf s with
  | _ nleft inductionHypothesis =>
    rw [unstoppedWriteLoop]
    apply Program.Wp.seq (write_chunk_sends csr platform payload isLastMsg i2cAddr txBuf nleft s)
    rintro ret middle ⟨counted, frame, holds, sent⟩
    have single : Carry i2cAddr payload txBuf nleft [frame] :=
      (Carry.none i2cAddr payload _ _).cons holds (by simp)
    apply Program.Wp.ite
    · intro failed
      exact ⟨counted, [frame], single, sent, fun succeeded => absurd succeeded failed⟩
    · intro succeeded
      apply Program.Wp.ite
      · intro more
        have whole : fbiobI2cTxPayloadMax ≤ nleft := by omega
        have shorter : nleft - min fbiobI2cTxPayloadMax nleft < nleft := by
          simp only [fbiobI2cTxPayloadMax] at *
          omega
        refine (inductionHypothesis _ shorter _ middle).weaken ?_
        rintro ret after ⟨countedLater, frames, carry, more, complete⟩
        refine ⟨countedLater.trans counted, frame :: frames, carry.cons holds fun _ => whole,
          ?_, ?_⟩
        · rw [more, sent, List.append_assoc, List.singleton_append]
        · intro finished
          rw [List.length_cons, complete finished]
          simp only [fbiobI2cTxPayloadMax] at *
          omega
      · intro last
        refine ⟨counted, [frame], single, sent, fun _ => ?_⟩
        simp only [List.length_singleton, fbiobI2cTxPayloadMax] at *
        omega

end Transmit

/-! ## Every write message -/

/-- Every write message reaches the controller unchanged, whatever the registers of
the controller read. `fbiob_i2c_write` issues its commands and then, after a NACK
only, the STOP of `fbiob_i2c_stop`. Each of its commands is a START that sends a
frame holding its chunk of the message; no access leaves the window; the frames
sent carry a prefix of the message, and a write that returns 0 has sent all of it
and nothing after it.

Proof: the frames are those of the transmit loop. A write that returns 0 has seen no
NACK, so that it is its commands. -/
theorem write_payload_preserved {T : Type} (csr : MmioDevice T) (platform : Platform)
    (msg : I2cMsg) (buf : Memory) (isLastMsg : Bool) (s : Iobuf T) :
    let write := fbiobI2cWrite platform { msg with buf := some buf } isLastMsg
    let commands := unstoppedWrite platform { msg with buf := some buf } isLastMsg
    let len := msg.len.toNat
    write = commands >>= stopAfterNack ∧
      (write.Conforms WriteAccess fun _ => True) ∧
      (commands.final (iobufController csr) s).receives = s.receives ∧
      ∃ frames, (commands.final (iobufController csr) s).sent = s.sent ++ frames ∧
        (∀ k (frame : Buffers), frames[k]? = some frame →
          frame.Holds (writeAddr msg) buf (fbiobI2cTxPayloadMax * k)
            (min fbiobI2cTxPayloadMax (len - fbiobI2cTxPayloadMax * k))) ∧
        frames.flatMap Buffers.payload <+: buf.bytes 0 len ∧
        (write.result (iobufController csr) s = 0 →
          write.final (iobufController csr) s = commands.final (iobufController csr) s ∧
            frames.length = max 1 ((len + 254) / fbiobI2cTxPayloadMax) ∧
            frames.flatMap Buffers.payload = buf.bytes 0 len) := by
  intro write commands len
  have split : write = commands >>= stopAfterNack := write_stops_last _ _ _
  obtain ⟨counted, frames, carry, sent, complete⟩ :=
    (write_loop_carries csr platform buf isLastMsg (writeAddr msg) 0 len s).outcome
  refine ⟨split, write_loop_inside _ _ _ _ _ _, counted, frames, sent, ?_, ?_, ?_⟩
  · intro k frame found
    have holds := carry.chunks k frame found
    rwa [Nat.zero_add] at holds
  · have whole : buf.bytes 0 (min len (fbiobI2cTxPayloadMax * frames.length)) ++
        buf.bytes (0 + min len (fbiobI2cTxPayloadMax * frames.length))
          (len - fbiobI2cTxPayloadMax * frames.length) = buf.bytes 0 len := by
      rw [Memory.bytes_append]
      congr 1
      omega
    rw [carry.sent, ← whole]
    exact List.prefix_append _ _
  · intro succeeded
    have returned : commands.result (iobufController csr) s = 0 := by
      rw [split, Program.result_bind, stop_after_nack_result] at succeeded
      exact succeeded
    have unstopped : write.final (iobufController csr) s =
        commands.final (iobufController csr) s := by
      rw [split, Program.final_bind, returned, stop_after_nack_clean (by decide),
        Program.final_pure]
    have count := complete returned
    refine ⟨unstopped, count, ?_⟩
    rw [carry.sent, count]
    congr 1
    simp only [fbiobI2cTxPayloadMax]
    omega

end FbossBsp.I2cMaster
