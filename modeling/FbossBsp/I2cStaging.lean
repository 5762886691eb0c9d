import FbossBsp.I2cBuffers

/-!
# The staging buffer of an I2C read

A read message is received in chunks of at most 256 bytes. A chunk is copied from
the low page and, when it is larger, from the high page into a staging buffer on
the stack, and from there to the message.

The routines here keep a record of the staging buffer after each bulk read. They
do what the driver does and return the record besides.
-/

namespace FbossBsp.I2cMaster

open Interaction

/-! ## The staging buffer -/

section Staging

variable (platform : Platform)

/-- The bulk reads of a chunk of two pages: the staging buffer after each. -/
def stagePages (xferLen : Nat) : Mmio (Memory × Memory) := do
  let low ← i2cIobufRead platform.recvBuf fbiobI2cIobufSize
  let regval ← readl fbiobI2cRegBufCtrl
  writel (regval ||| fbiobI2cBufMemPageSel) fbiobI2cRegBufCtrl
  let high ← i2cIobufRead low (xferLen - fbiobI2cIobufSize)
  pure (low, high)

/-- Where a chunk of two pages is put. -/
def placePages (xferLen rxLen : Nat) (state : ReadState) (low high : Memory) : ReadState :=
  let rxBuf := state.rxBuf + fbiobI2cIobufSize
  let remainingSize := xferLen - fbiobI2cIobufSize
  { state with
    memory := (state.memory.memcpy state.rxBuf low 0 fbiobI2cIobufSize).memcpy rxBuf high 0
      remainingSize
    rxBuf := if rxLen ≠ 0 then rxBuf + remainingSize else rxBuf }

/-- Where a chunk of one page is put. -/
def placePage (xferLen rxLen : Nat) (state : ReadState) (low : Memory) : Int × ReadState :=
  let rxBuf := if rxLen ≠ 0 then state.rxBuf + xferLen else state.rxBuf
  if state.msg.recvLen then
    let count := platform.charValue (low 0)
    if count > i2cSmbusBlockMax then (-einval, state)
    else
      let pec : Int := if state.msg.flags &&& i2cClientPec ≠ 0 then 2 else 1
      let msg := { state.msg with len := BitVec.ofInt 16 (count + pec) }
      (0, ⟨msg, state.memory.memcpy state.rxBuf low 0 msg.len.toNat, rxBuf⟩)
  else (0, ⟨state.msg, state.memory.memcpy state.rxBuf low 0 xferLen, rxBuf⟩)

/-- Collecting two pages is staging them and then placing what they hold. -/
theorem collect_pages_eq (xferLen rxLen : Nat) (state : ReadState) :
    collectPages platform xferLen rxLen state =
      stagePages platform xferLen >>= fun staged =>
        pure (0, placePages xferLen rxLen state staged.1 staged.2) := by
  simp only [collectPages, stagePages, placePages, bind_assoc, pure_bind]

/-- Collecting a page is reading it and then placing what it holds. -/
theorem collect_page_eq (xferLen rxLen : Nat) (state : ReadState) :
    collectPage platform xferLen rxLen state =
      i2cIobufRead platform.recvBuf xferLen >>= fun low =>
        pure (placePage platform xferLen rxLen state low) := by
  unfold collectPage placePage
  refine bind_congr fun low => ?_
  by_cases block : state.msg.recvLen = true
  · by_cases tooLong : platform.charValue (low 0) > i2cSmbusBlockMax
    · simp only [block, tooLong, if_true]
    · simp only [block, tooLong, if_true, if_false]
  · simp only [block, Bool.false_eq_true, if_false]

/-- The receive command of a chunk, and the wait for it. -/
def receiveChunk (rxLen : Nat) : Mmio Int := do
  let xferLen := min fbiobI2cRxPayloadMax rxLen
  writel (rxBufCtrl xferLen) fbiobI2cRegBufCtrl
  writel (rxCmd (xferLen = rxLen)) fbiobI2cRegCmdSts
  waitTillXferDone .busRead

/-- `fbiobI2cReadChunk` with a record of the staging buffer. -/
def stagedReadChunk (rxLen : Nat) (state : ReadState) :
    Mmio ((Int × ReadState) × List Memory) := do
  let xferLen := min fbiobI2cRxPayloadMax rxLen
  let ret ← receiveChunk rxLen
  if ret ≠ 0 then pure ((ret, state), [])
  else if xferLen > fbiobI2cIobufSize then do
    let staged ← stagePages platform xferLen
    pure ((0, placePages xferLen (rxLen - xferLen) state staged.1 staged.2),
      [staged.1, staged.2])
  else do
    let low ← i2cIobufRead platform.recvBuf xferLen
    pure (placePage platform xferLen (rxLen - xferLen) state low, [low])

/-- `fbiobI2cReadLoop` with a record of the staging buffer. -/
def stagedReadLoop (rxLen : Nat) (state : ReadState) :
    Mmio ((Int × ReadState) × List Memory) :=
  if rxLen = 0 then pure ((0, state), []) else do
    let chunk ← stagedReadChunk platform rxLen state
    if chunk.1.1 ≠ 0 then pure chunk
    else do
      let rest ← stagedReadLoop (rxLen - min fbiobI2cRxPayloadMax rxLen) chunk.1.2
      pure (rest.1, chunk.2 ++ rest.2)
termination_by rxLen
decreasing_by simp only [fbiobI2cRxPayloadMax]; omega

/-- `fbiobI2cRead` with a record of the staging buffer. -/
def stagedRead (msg : I2cMsg) : Mmio ((Int × I2cMsg) × List Memory) :=
  match msg.buf with
  | none => pure ((-einval, msg), [])
  | some buf => do
    writel (readAddr msg) fbiobI2cIobufOffset
    let outcome ← stagedReadLoop platform msg.rxLen ⟨msg, buf, 0⟩
    pure ((outcome.1.1, { outcome.1.2.msg with buf := some outcome.1.2.memory }), outcome.2)

/-- The staged chunk is the chunk of the source with its staged bytes. -/
theorem staged_read_chunk_eq (rxLen : Nat) (state : ReadState) :
    fbiobI2cReadChunk platform rxLen state =
      stagedReadChunk platform rxLen state >>= fun chunk => pure chunk.1 := by
  unfold fbiobI2cReadChunk stagedReadChunk receiveChunk
  simp only [bind_assoc]
  refine bind_congr fun _ => bind_congr fun _ => bind_congr fun ret => ?_
  split
  · rfl
  · split
    · rw [collect_pages_eq, bind_assoc]
      rfl
    · rw [collect_page_eq, bind_assoc]
      rfl

/-- The staged loop is the loop of the source with its staged bytes. -/
theorem staged_read_loop_eq (rxLen : Nat) (state : ReadState) :
    fbiobI2cReadLoop platform rxLen state =
      stagedReadLoop platform rxLen state >>= fun outcome => pure outcome.1 := by
  induction rxLen using Nat.strongRecOn generalizing state with
  | _ rxLen inductionHypothesis =>
    rw [fbiobI2cReadLoop, stagedReadLoop]
    by_cases finished : rxLen = 0
    · simp only [finished, if_true, pure_bind]
    · simp only [finished, if_false]
      rw [staged_read_chunk_eq, bind_assoc, bind_assoc]
      refine bind_congr fun chunk => ?_
      obtain ⟨⟨ret, next⟩, staged⟩ := chunk
      by_cases failed : ret ≠ 0
      · simp only [pure_bind]
        rw [if_pos failed, if_pos failed, pure_bind]
      · have shorter : rxLen - min fbiobI2cRxPayloadMax rxLen < rxLen := by
          simp only [fbiobI2cRxPayloadMax]
          omega
        simp only [pure_bind, failed, if_false, inductionHypothesis _ shorter, bind_assoc]

/-- The record does not change what the driver does. -/
theorem staged_read_eq (msg : I2cMsg) :
    fbiobI2cRead platform msg = stagedRead platform msg >>= fun outcome => pure outcome.1 := by
  unfold fbiobI2cRead stagedRead
  cases msg.buf with
  | none => rfl
  | some buf => simp only [staged_read_loop_eq, bind_assoc, pure_bind]

end Staging

/-! ## What a receive command leaves -/

namespace Iobuf

variable {T : Type}

/-- The controller after it has received a chunk of `size` bytes. -/
def received (s : Iobuf T) (size : Nat) : Iobuf T :=
  { s with
    buffers :=
      { bufCtrl := rxBufCtrl size
        low := s.buffers.low.memcpy 0 s.stream s.taken (min size fbiobI2cIobufSize)
        high := s.buffers.high.memcpy 0 s.stream (s.taken + fbiobI2cIobufSize)
          (size - fbiobI2cIobufSize) }
    taken := s.taken + size
    receives := s.receives + 1 }

/-- `size` bytes of the stream were taken by `commands` receive commands. -/
structure Took (s after : Iobuf T) (size commands : Nat) : Prop where
  stream : after.stream = s.stream
  taken : after.taken = s.taken + size
  receives : after.receives = s.receives + commands

/-- A command for some bytes takes that many from the device. -/
theorem took_received (s : Iobuf T) (size : Nat) : s.Took (s.received size) size 1 := ⟨rfl, rfl, rfl⟩

/-- What leaves the device the same takes nothing more. -/
theorem Took.same {s middle after : Iobuf T} {size commands : Nat}
    (took : s.Took middle size commands) (same : middle.Same after) : s.Took after size commands := by
  obtain ⟨_, rfl⟩ := same
  exact ⟨took.stream, took.taken, took.receives⟩

/-- Bytes and commands that are taken one after the other add up. -/
theorem Took.trans {first second third : Iobuf T} {size commands more later : Nat}
    (here : first.Took second size commands) (there : second.Took third more later) :
    first.Took third (size + more) (commands + later) where
  stream := there.stream.trans here.stream
  taken := by rw [there.taken, here.taken, Nat.add_assoc]
  receives := by rw [there.receives, here.receives, Nat.add_assoc]

end Iobuf

/-- The control word of a chunk selects the low page and asks for all of the chunk. -/
theorem rx_buf_ctrl_fields : ∀ size ≤ fbiobI2cRxPayloadMax, 0 < size →
    rxSize (rxBufCtrl size) + 1 = size ∧ rxBufCtrl size &&& fbiobI2cBufMemPageSel = 0 := by
  decide +kernel

/-- A read command within the payload limit is answered with its bytes. -/
theorem command_received {T : Type} (s : Iobuf T) {size : Nat} (fits : size ≤ fbiobI2cRxPayloadMax)
    (nonempty : 0 < size) (last : Bool) :
    (s.setBufCtrl (rxBufCtrl size)).command (rxCmd last) = s.received size := by
  have receives : I2cMaster.receives (rxCmd last) = true := by cases last <;> decide
  simp only [Iobuf.command, receives, if_true, Iobuf.receive, Iobuf.setBufCtrl,
    (rx_buf_ctrl_fields size fits nonempty).1, Iobuf.received]

section Receive

variable {T : Type} (csr : MmioDevice T) (platform : Platform)

/-- A receive command that succeeds has filled the buffers with the next bytes,
whenever it is done. -/
theorem receive_chunk_received {rxLen : Nat} (nonempty : 0 < rxLen) (s : Iobuf T)
    {waitRet : Int → Prop}
    (waited : ∀ ready last,
      let issued := (iobufController csr (.writel fbiobI2cRegCmdSts (rxCmd last)) ready).2
      (waitTillXferDone .busRead).Wp (iobufController csr) (fun _ _ => True)
        (fun ret after => waitRet ret ∧ (ret = 0 → issued.Same after)) issued) :
    (receiveChunk rxLen).Wp (iobufController csr) (fun _ _ => True)
      (fun ret after => waitRet ret ∧
        (ret = 0 → (s.received (min fbiobI2cRxPayloadMax rxLen)).Same after)) s := by
  have fits : min fbiobI2cRxPayloadMax rxLen ≤ fbiobI2cRxPayloadMax := Nat.min_le_left _ _
  have positive : 0 < min fbiobI2cRxPayloadMax rxLen := lt_min (by decide) nonempty
  refine (wp_writel _ _ _ _ _ _ _).mpr ⟨trivial, (wp_writel _ _ _ _ _ _ _).mpr ⟨trivial, ?_⟩⟩
  obtain ⟨answers, selected⟩ := buf_ctrl_write csr s (rxBufCtrl (min fbiobI2cRxPayloadMax rxLen))
  rw [selected]
  refine (waited _ _).weaken ?_
  rintro ret after ⟨returned, quiet⟩
  refine ⟨returned, fun succeeded =>
    Iobuf.Same.trans ⟨answers, ?_⟩ ((cmd_sts_write csr _ _).trans (quiet succeeded))⟩
  exact command_received { s with csr := answers } fits positive _

variable {s now : Iobuf T} {size : Nat}

/-- A received chunk of two pages passes through the staging buffer page by page. -/
theorem stage_pages_received (fits : size ≤ fbiobI2cRxPayloadMax) (large : fbiobI2cIobufSize < size)
    (same : (s.received size).Same now) :
    (stagePages platform size).Wp (iobufController csr) (fun _ _ => True)
      (fun staged after =>
        staged.1 = platform.recvBuf.memcpy 0 (s.received size).buffers.low 0 fbiobI2cIobufSize ∧
          staged.2 = staged.1.memcpy 0 (s.received size).buffers.high 0 (size - fbiobI2cIobufSize) ∧
          s.Took after size 1) now := by
  have lowPage : now.buffers.page = (s.received size).buffers.low := by
    rw [same.buffers]
    exact Buffers.page_low (rx_buf_ctrl_fields size fits (Nat.zero_lt_of_lt large)).2 _ _
  apply Program.Wp.seq (iobuf_read_shown csr _ _ (Nat.le_refl _))
  rintro low now ⟨lowCopied, rfl⟩
  refine (wp_readl _ _ _ _ _ _).mpr ⟨trivial, ?_⟩
  have polled := same.trans (control_read csr now fbiobI2cRegBufCtrl (by decide))
  generalize (iobufController csr (.readl fbiobI2cRegBufCtrl) now) = reply at polled ⊢
  refine (wp_writel _ _ _ _ _ _ _).mpr ⟨trivial, ?_⟩
  have switched := buf_ctrl_write csr reply.2 (reply.1 ||| fbiobI2cBufMemPageSel)
  generalize (iobufController csr (.writel fbiobI2cRegBufCtrl (reply.1 ||| fbiobI2cBufMemPageSel))
    reply.2).2 = after at switched ⊢
  have selected : (reply.1 ||| fbiobI2cBufMemPageSel) &&& fbiobI2cBufMemPageSel ≠ 0 := by
    rw [or_mask_and]
    decide
  have highPage : after.buffers.page = (s.received size).buffers.high := by
    rw [switched.buffers, Iobuf.setBufCtrl, Buffers.page_high selected, polled.buffers]
  have remaining : size - fbiobI2cIobufSize ≤ fbiobI2cIobufSize := by
    simp only [fbiobI2cRxPayloadMax, fbiobI2cIobufSize] at *
    omega
  have took : s.Took (reply.2.setBufCtrl (reply.1 ||| fbiobI2cBufMemPageSel)) size 1 := by
    obtain ⟨stream, taken, receives⟩ := (s.took_received size).same polled
    exact ⟨stream, taken, receives⟩
  apply Program.Wp.seq (iobuf_read_shown csr _ _ remaining)
  rintro high _ ⟨highCopied, rfl⟩
  exact ⟨by rw [lowCopied, lowPage], by rw [highCopied, highPage], took.same switched⟩

/-- A received chunk of one page passes through the staging buffer. -/
theorem stage_page_received (nonempty : 0 < size) (small : size ≤ fbiobI2cIobufSize)
    (same : (s.received size).Same now) :
    (i2cIobufRead platform.recvBuf size).Wp (iobufController csr) (fun _ _ => True)
      (fun low after =>
        low = platform.recvBuf.memcpy 0 (s.received size).buffers.low 0 size ∧
          s.Took after size 1) now := by
  have fits : size ≤ fbiobI2cRxPayloadMax := Nat.le_trans small (by decide)
  have lowPage : now.buffers.page = (s.received size).buffers.low := by
    rw [same.buffers]
    exact Buffers.page_low (rx_buf_ctrl_fields size fits nonempty).2 _ _
  refine (iobuf_read_shown csr _ _ small).weaken ?_
  rintro low _ ⟨copied, rfl⟩
  exact ⟨by rw [copied, lowPage], (s.took_received size).same same⟩

/-- The bytes of a chunk of two pages are those of the stream. -/
theorem place_pages_memory (rxLen : Nat) (state : ReadState) {staging low high : Memory}
    (large : fbiobI2cIobufSize < size)
    (lowCopied : low = staging.memcpy 0 (s.received size).buffers.low 0 fbiobI2cIobufSize)
    (highCopied : high =
      low.memcpy 0 (s.received size).buffers.high 0 (size - fbiobI2cIobufSize)) :
    (placePages size rxLen state low high).memory =
      state.memory.memcpy state.rxBuf s.stream s.taken size := by
  have whole : fbiobI2cIobufSize + (size - fbiobI2cIobufSize) = size := by omega
  have filled : fbiobI2cIobufSize ≤ min size fbiobI2cIobufSize := by omega
  have first := Memory.memcpy_through state.memory s.buffers.low s.stream state.rxBuf s.taken filled
  rw [highCopied, lowCopied]
  simp only [placePages, Iobuf.received, Memory.memcpy_through _ _ _ _ _ (Nat.le_refl _),
    first, Memory.memcpy_adjacent, whole]

/-- The staged bytes of a chunk of one page are those of the stream. -/
theorem staged_page_byte (staging : Memory) (small : size ≤ fbiobI2cIobufSize) {i : Nat}
    (inside : i < size) :
    staging.memcpy 0 (s.received size).buffers.low 0 size i = s.stream (s.taken + i) := by
  have paged : i < min size fbiobI2cIobufSize := by omega
  simp [Memory.memcpy, Iobuf.received, inside, paged]

end Receive

end FbossBsp.I2cMaster
