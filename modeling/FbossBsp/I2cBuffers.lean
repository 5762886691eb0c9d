import FbossBsp.I2cPages

/-!
# The data buffers of the I2C controller

A controller that moves data. Its window shows the page that bit 6 of BUF_CTRL
selects. A receive command loads as many bytes of the slave's stream as the RX
size field asks for, the first 128 into the low page and the rest into the high
page; a transmit command sends the frame that the pages and the TX size field
make up.

The other registers, CMD_STS among them, answer as some device of their own does,
about which nothing is assumed. So the word that `fbiob_i2c_stop` reads from CMD_STS
and writes back with STOP may start another command. The driver is therefore split
at that place: what it does up to a NACK, and the STOP that ends it.
-/

namespace FbossBsp.I2cMaster

open Interaction

/-! ## Frames -/

/-- The TX size field of BUF_CTRL: the payload bytes of a frame. -/
def txSize (bufCtrl : BitVec 32) : Nat :=
  ((bufCtrl &&& fbiobI2cTxBufSizeMask) >>> fbiobI2cTxBufSizeShift).toNat

/-- The RX size field of BUF_CTRL: one less than the bytes to receive. -/
def rxSize (bufCtrl : BitVec 32) : Nat :=
  ((bufCtrl &&& fbiobI2cRxBufSizeMask) >>> fbiobI2cRxBufSizeShift).toNat

/-- The two pages and the control word over them. -/
structure Buffers where
  bufCtrl : BitVec 32
  low : Memory
  high : Memory

namespace Buffers

/-- The window shows the high page. -/
def highPage (b : Buffers) : Bool := b.bufCtrl &&& fbiobI2cBufMemPageSel != 0

def page (b : Buffers) : Memory := if b.highPage then b.high else b.low

def setPage (b : Buffers) (page : Memory) : Buffers :=
  if b.highPage then { b with high := page } else { b with low := page }

/-- The bytes a transmit command sends after the address byte, which comes first
in the low page. -/
def payload (b : Buffers) : List (BitVec 8) :=
  (List.range (txSize b.bufCtrl)).map fun i =>
    if i < fbiobI2cIobufSize - 1 then b.low (1 + i) else b.high (i - (fbiobI2cIobufSize - 1))

/-- Writing a page does not select another one. -/
@[simp] theorem set_page_high_page (b : Buffers) (page : Memory) :
    (b.setPage page).highPage = b.highPage := by
  unfold setPage
  split <;> rfl

/-- Writing a page back changes nothing. -/
@[simp] theorem set_page_page (b : Buffers) : b.setPage b.page = b := by
  unfold setPage page
  split <;> rfl

/-- The page that is written is the one that is read. -/
@[simp] theorem page_set_page (b : Buffers) (page : Memory) : (b.setPage page).page = page := by
  rw [Buffers.page, set_page_high_page, setPage]
  split <;> rfl

/-- Of two writes of a page the later one stands. -/
@[simp] theorem set_page_set_page (b : Buffers) (page later : Memory) :
    (b.setPage page).setPage later = b.setPage later := by
  rw [setPage, set_page_high_page, setPage, setPage]
  split <;> rfl

/-- A control word without the page bit selects the low page. -/
theorem page_low {val : BitVec 32} (selected : val &&& fbiobI2cBufMemPageSel = 0)
    (low high : Memory) : page ⟨val, low, high⟩ = low := by
  simp [page, highPage, selected]

/-- With the bit clear the low page is written. -/
theorem set_page_low {val : BitVec 32} (selected : val &&& fbiobI2cBufMemPageSel = 0)
    (low high page : Memory) : setPage ⟨val, low, high⟩ page = ⟨val, page, high⟩ := by
  simp [setPage, highPage, selected]

/-- A control word with the page bit selects the high page. -/
theorem page_high {val : BitVec 32} (selected : val &&& fbiobI2cBufMemPageSel ≠ 0)
    (low high : Memory) : page ⟨val, low, high⟩ = high := by
  have switched : highPage ⟨val, low, high⟩ = true := bne_iff_ne.mpr selected
  simp [page, switched]

/-- With the bit set the high page is written. -/
theorem set_page_high {val : BitVec 32} (selected : val &&& fbiobI2cBufMemPageSel ≠ 0)
    (low high page : Memory) : setPage ⟨val, low, high⟩ page = ⟨val, low, page⟩ := by
  have switched : highPage ⟨val, low, high⟩ = true := bne_iff_ne.mpr selected
  simp [setPage, switched]

end Buffers

/-! ## The controller -/

/-- The buffers, the stream of the slave with the number of bytes taken from it,
the number of receive commands, and the frames sent. -/
structure Iobuf (T : Type) where
  buffers : Buffers
  stream : Memory
  taken : Nat
  receives : Nat
  sent : List Buffers
  csr : T

namespace Iobuf

variable {T : Type}

def setPage (s : Iobuf T) (page : Memory) : Iobuf T :=
  { s with buffers := s.buffers.setPage page }

def setBufCtrl (s : Iobuf T) (val : BitVec 32) : Iobuf T :=
  { s with buffers := { s.buffers with bufCtrl := val } }

/-- Receive the bytes that the RX size field asks for. -/
def receive (s : Iobuf T) : Iobuf T :=
  let size := rxSize s.buffers.bufCtrl + 1
  { s with
    buffers :=
      { s.buffers with
        low := s.buffers.low.memcpy 0 s.stream s.taken (min size fbiobI2cIobufSize)
        high := s.buffers.high.memcpy 0 s.stream (s.taken + fbiobI2cIobufSize)
          (size - fbiobI2cIobufSize) }
    taken := s.taken + size
    receives := s.receives + 1 }

/-- Send the frame in the buffers. -/
def transmit (s : Iobuf T) : Iobuf T := { s with sent := s.sent ++ [s.buffers] }

/-- The effect of a word written to CMD_STS. -/
def command (s : Iobuf T) (cmd : BitVec 32) : Iobuf T :=
  if I2cMaster.receives cmd then s.receive else if starts cmd then s.transmit else s

/-- The effect of a word written to a control register. -/
def control (s : Iobuf T) (offset : Nat) (val : BitVec 32) : Iobuf T :=
  if offset = fbiobI2cRegBufCtrl then s.setBufCtrl val
  else if offset = fbiobI2cRegCmdSts then s.command val
  else s

/-- The two states differ in what the other registers answer only. -/
def Same (s after : Iobuf T) : Prop := ∃ csr, after = { s with csr }

/-- A device is the same as itself. -/
theorem Same.refl (s : Iobuf T) : s.Same s := ⟨s.csr, rfl⟩

/-- The same device has the same buffers. -/
theorem Same.buffers {s after : Iobuf T} (same : s.Same after) : after.buffers = s.buffers := by
  obtain ⟨_, rfl⟩ := same
  rfl

/-- Two devices that are the same as a third are the same. -/
theorem Same.trans {first second third : Iobuf T} (here : first.Same second)
    (there : second.Same third) : first.Same third := by
  obtain ⟨_, rfl⟩ := here
  obtain ⟨csr, rfl⟩ := there
  exact ⟨csr, rfl⟩

end Iobuf

section Controller

variable {T : Type} (csr : MmioDevice T)

/-- The controller with data buffers, the other registers of which are `csr`. -/
def iobufController : MmioDevice (Iobuf T)
  | .readl offset, s =>
    if inIobuf offset then (s.buffers.page.load32 (offset - fbiobI2cIobufOffset), s)
    else ((csr (.readl offset) s.csr).1, { s with csr := (csr (.readl offset) s.csr).2 })
  | .writel offset val, s =>
    if inIobuf offset then
      ((), s.setPage (s.buffers.page.store32 (offset - fbiobI2cIobufOffset) val))
    else ((), { s.control offset val with csr := (csr (.writel offset val) s.csr).2 })

/-- The window shows the selected page. -/
theorem iobuf_shows (s : Iobuf T) {size : Nat} (fits : size ≤ fbiobI2cIobufSize) :
    ShowsPage (iobufController csr) fbiobI2cIobufOffset size s.buffers.page s := by
  intro offset small
  have inside : inIobuf (fbiobI2cIobufOffset + offset) = true := by
    simp only [inIobuf, Bool.and_eq_true, decide_eq_true_eq]
    omega
  simp [iobufController, inside]

/-- The window stores to the selected page. -/
theorem iobuf_stores (s : Iobuf T) {size : Nat} (fits : size ≤ fbiobI2cIobufSize) :
    StoresPage (iobufController csr) fbiobI2cIobufOffset size s.setPage := by
  intro offset small page val
  have inside : inIobuf (fbiobI2cIobufOffset + offset) = true := by
    simp only [inIobuf, Bool.and_eq_true, decide_eq_true_eq]
    omega
  simp [iobufController, inside, Iobuf.setPage]

/-- Copying out of the window copies the selected page. -/
theorem iobuf_read_shown (s : Iobuf T) (buf : Memory) {size : Nat}
    (fits : size ≤ fbiobI2cIobufSize) :
    (i2cIobufRead buf size).Wp (iobufController csr) (fun _ _ => True)
      (fun read after => read = buf.memcpy 0 s.buffers.page 0 size ∧ after = s) s :=
  bulk_read_shown (iobuf_shows csr s fits) buf (Nat.lt_of_le_of_lt fits (by decide))

/-- Copying into the window overwrites the selected page. -/
theorem iobuf_write_stored (s : Iobuf T) (buf : Memory) {size : Nat}
    (fits : size ≤ fbiobI2cIobufSize) :
    (i2cIobufWrite buf size).Wp (iobufController csr) (fun _ _ => True)
      (fun _ after => after = s.setPage (padded s.buffers.page buf size)) s := by
  have written := bulk_write_stored (iobuf_stores csr s fits) s.buffers.page buf
    (Nat.lt_of_le_of_lt fits (by decide))
  have same : s.setPage s.buffers.page = s := by simp [Iobuf.setPage]
  rwa [same] at written

/-- Reading a control register changes nothing of the buffers. -/
theorem control_read (s : Iobuf T) (offset : Nat) (outside : inIobuf offset = false) :
    s.Same (iobufController csr (.readl offset) s).2 := by
  refine ⟨(csr (.readl offset) s.csr).2, ?_⟩
  simp only [iobufController, outside, Bool.false_eq_true, if_false]

/-- Writing BUF_CTRL sets the control word over the buffers. -/
theorem buf_ctrl_write (s : Iobuf T) (val : BitVec 32) :
    (s.setBufCtrl val).Same (iobufController csr (.writel fbiobI2cRegBufCtrl val) s).2 := ⟨_, rfl⟩

/-- Writing CMD_STS issues a command. -/
theorem cmd_sts_write (s : Iobuf T) (cmd : BitVec 32) :
    (s.command cmd).Same (iobufController csr (.writel fbiobI2cRegCmdSts cmd) s).2 := ⟨_, rfl⟩

end Controller

/-! ## The STOP after a NACK -/

/-- One poll of `wait_till_xfer_done` up to the STOP that answers a NACK. -/
def unstoppedPoll (opcode : FbiobI2cOpcode) (later : Mmio Int) : Mmio Int := do
  let val ← readl fbiobI2cRegIntrSts
  if val &&& fbiobI2cIntrTxNackSts ≠ 0 then pure (-eio)
  else if val &&& opcode.doneSts ≠ 0 then pure 0
  else later

/-- The poll loop of `wait_till_xfer_done` up to that STOP. -/
def unstoppedWaitLoop (opcode : FbiobI2cOpcode) : (retry : Nat) → Mmio Int
  | 0 => unstoppedPoll opcode (pure (-etimedout))
  | retry + 1 => unstoppedPoll opcode (unstoppedWaitLoop opcode retry)

/-- The answer to a NACK, which is what -EIO reports. -/
def stopAfterNack (ret : Int) : Mmio Int :=
  if ret = -eio then do
    fbiobI2cStop
    pure ret
  else pure ret

/-- A result other than -EIO is returned with nothing done. -/
theorem stop_after_nack_clean {ret : Int} (clean : ret ≠ -eio) : stopAfterNack ret = pure ret :=
  if_neg clean

/-- What follows a success only does not follow the answer to a failure. -/
theorem stop_after_nack_failed {ret : Int} (failed : ret ≠ 0) (later : Mmio Int) :
    (stopAfterNack ret >>= fun ret => if ret ≠ 0 then pure ret else later) =
      stopAfterNack ret := by
  unfold stopAfterNack
  split <;> simp [failed]

/-- The STOP does not change the result. -/
theorem stop_after_nack_result {S : Type} (device : MmioDevice S) (ret : Int) (s : S) :
    (stopAfterNack ret).result device s = ret := by
  unfold stopAfterNack
  split <;> rfl

/-- One poll of the driver: a NACK is answered, and what comes later answers its own. -/
theorem poll_stops_last (opcode : FbiobI2cOpcode) (later : Mmio Int) :
    pollXferDone opcode (later >>= stopAfterNack) =
      unstoppedPoll opcode later >>= stopAfterNack := by
  rw [pollXferDone, unstoppedPoll, bind_assoc]
  refine bind_congr fun val => ?_
  split
  · rfl
  · split <;> rfl

/-- The STOP is the last thing that a wait does.

Proof: induction on the retries left. A poll that sees a NACK ends the loop on both
sides, and only there is -EIO the result. -/
theorem wait_stops_last (opcode : FbiobI2cOpcode) (retry : Nat) :
    waitTillXferDoneLoop opcode retry = unstoppedWaitLoop opcode retry >>= stopAfterNack := by
  induction retry with
  | zero => exact poll_stops_last opcode (pure (-etimedout))
  | succ retry inductionHypothesis =>
    have polled := poll_stops_last opcode (unstoppedWaitLoop opcode retry)
    rw [← inductionHypothesis] at polled
    exact polled

section Waiting

variable {T : Type} (csr : MmioDevice T)

/-- A poll changes nothing of the buffers when what comes after it does not. -/
theorem unstopped_poll_same (opcode : FbiobI2cOpcode) {later : Mmio Int}
    (quiet : ∀ s : Iobuf T, later.Wp (iobufController csr) (fun _ _ => True)
      (fun _ after => s.Same after) s) (s : Iobuf T) :
    (unstoppedPoll opcode later).Wp (iobufController csr) (fun _ _ => True)
      (fun _ after => s.Same after) s := by
  have read := control_read csr s fbiobI2cRegIntrSts (by decide)
  refine (wp_readl _ _ _ _ _ _).mpr ⟨trivial, ?_⟩
  apply Program.Wp.ite
  · exact fun nacked => read
  · intro clean
    apply Program.Wp.ite
    · exact fun finished => read
    · exact fun running => (quiet _).weaken fun _ _ => read.trans

/-- Waiting for a command changes nothing of the buffers up to the STOP. -/
theorem unstopped_wait_same (opcode : FbiobI2cOpcode) (retry : Nat) (s : Iobuf T) :
    (unstoppedWaitLoop opcode retry).Wp (iobufController csr) (fun _ _ => True)
      (fun _ after => s.Same after) s := by
  induction retry generalizing s with
  | zero => exact unstopped_poll_same csr opcode Iobuf.Same.refl s
  | succ retry inductionHypothesis => exact unstopped_poll_same csr opcode inductionHypothesis s

/-- A wait that does not end in a NACK changes nothing of the buffers. -/
theorem wait_same (opcode : FbiobI2cOpcode) (retry : Nat) (s : Iobuf T) :
    (waitTillXferDoneLoop opcode retry).Wp (iobufController csr) (fun _ _ => True)
      (fun ret after => ret ≠ -eio → s.Same after) s := by
  rw [wait_stops_last]
  apply Program.Wp.seq (unstopped_wait_same csr opcode retry s)
  intro ret middle same
  apply Program.Wp.ite
  · exact fun nacked => ⟨trivial, trivial, fun clean => absurd nacked clean⟩
  · exact fun clean _ => same

end Waiting

end FbossBsp.I2cMaster
