import FbossBsp.I2cFraming

/-!
# The address byte of every I2C command

The controller holds two 128-byte pages behind one window. Bit 6 of the last
BUF_CTRL write selects the page of the window; a START command transmits byte 0
of the low page, and received bytes overwrite both pages from that byte on.

The write path selects the low page and stores the address for every chunk. The
read path stores the address once, before it selects a page, so its first
command is addressed through whatever page an earlier transfer left selected,
and its later commands through a page the received bytes have overwritten.

Replies of the controller and received bytes come from a script in its state.
Only START is known of CMD_STS: it is a command, not a status, and reads as
zero. No assumption is made about the status bits.
-/

namespace FbossBsp.I2cMaster

open Interaction

/-! ## Messages of a run -/

section Runs

variable {S : Type} (controller : MmioDevice S) (platform : Platform)

/-- Each message that the message loop starts satisfies `P`, together with its
last-message flag, in the state in which it starts. -/
def EachMessage (P : I2cMsg → Bool → S → Prop) : List I2cMsg → S → Prop
  | [], _ => True
  | msg :: rest, state =>
      P msg rest.isEmpty state ∧
        (0 ≤ ((xferMsg platform msg rest.isEmpty).result controller state).1 →
          EachMessage P rest ((xferMsg platform msg rest.isEmpty).final controller state))

/-- Over a sequence of transfers: each one that passes its checks takes the bus
in a state satisfying `Q`, and each of its messages satisfies `P`. -/
def EachTransfer (Q : S → Prop) (P : I2cMsg → Bool → S → Prop) :
    List (List I2cMsg) → S → Prop
  | [], _ => True
  | msgs :: rest, state =>
      (checkMsgParams msgs = 0 →
        Q state ∧ (acquireBus.result controller state = 0 →
          EachMessage controller platform P msgs (acquireBus.final controller state))) ∧
      EachTransfer Q P rest ((fbiobI2cMasterXfer platform msgs).final controller state)

instance EachMessage.decidable (P : I2cMsg → Bool → S → Prop)
    [∀ msg isLast state, Decidable (P msg isLast state)] :
    (msgs : List I2cMsg) → (state : S) → Decidable (EachMessage controller platform P msgs state)
  | [], _ => .isTrue trivial
  | msg :: rest, state =>
      have := EachMessage.decidable P rest
        ((xferMsg platform msg rest.isEmpty).final controller state)
      inferInstanceAs (Decidable (P msg rest.isEmpty state ∧ (_ → _)))

instance EachTransfer.decidable (Q : S → Prop) [∀ state, Decidable (Q state)]
    (P : I2cMsg → Bool → S → Prop) [∀ msg isLast state, Decidable (P msg isLast state)] :
    (calls : List (List I2cMsg)) → (state : S) →
      Decidable (EachTransfer controller platform Q P calls state)
  | [], _ => .isTrue trivial
  | msgs :: rest, state =>
      have := EachTransfer.decidable Q P rest
        ((fbiobI2cMasterXfer platform msgs).final controller state)
      inferInstanceAs (Decidable ((checkMsgParams msgs = 0 →
        Q state ∧ (acquireBus.result controller state = 0 → _)) ∧ _))

variable {controller platform}

/-- What holds of each message may be weakened. -/
theorem EachMessage.mono {P P' : I2cMsg → Bool → S → Prop}
    (weaker : ∀ msg isLast state, P msg isLast state → P' msg isLast state)
    {msgs : List I2cMsg} {state : S} (each : EachMessage controller platform P msgs state) :
    EachMessage controller platform P' msgs state := by
  induction msgs generalizing state with
  | nil => trivial
  | cons msg rest inductionHypothesis =>
    exact ⟨weaker msg _ state each.1, fun succeeded => inductionHypothesis (each.2 succeeded)⟩

/-- What holds of each transfer may be weakened. -/
theorem EachTransfer.mono {Q Q' : S → Prop} {P P' : I2cMsg → Bool → S → Prop}
    (acquired : ∀ state, Q state → Q' state)
    (weaker : ∀ msg isLast state, P msg isLast state → P' msg isLast state)
    {calls : List (List I2cMsg)} {state : S}
    (each : EachTransfer controller platform Q P calls state) :
    EachTransfer controller platform Q' P' calls state := by
  induction calls generalizing state with
  | nil => trivial
  | cons msgs rest inductionHypothesis =>
    refine ⟨fun checked => ?_, inductionHypothesis each.2⟩
    obtain ⟨ready, started⟩ := each.1 checked
    exact ⟨acquired state ready, fun free => (started free).mono weaker⟩

/-- The message loop is allowed along its run exactly when each message is. -/
theorem xfer_msgs_along (allowed : MmioOp → S → Prop) (ret : Int) (msgs : List I2cMsg)
    (state : S) :
    (xferMsgs platform ret msgs).Along controller allowed state ↔
      EachMessage controller platform
        (fun msg isLast start => (xferMsg platform msg isLast).Along controller allowed start)
        msgs state := by
  induction msgs generalizing ret state with
  | nil => exact Iff.rfl
  | cons msg rest inductionHypothesis =>
    unfold xferMsgs
    rw [Program.along_bind]
    refine and_congr_right fun _ => ?_
    cases outcome : (xferMsg platform msg rest.isEmpty).result controller state with
    | mk ret updated =>
      by_cases failed : ret < 0
      · simp [failed, Program.Along]
      · have succeeded : 0 ≤ ret := Int.not_lt.mp failed
        simp only [failed, if_false, succeeded, forall_const]
        rw [Program.along_bind, inductionHypothesis]
        exact and_iff_left trivial

/-- Nothing of a transfer happens outside of taking the bus and of its messages. -/
theorem master_xfer_along (allowed : MmioOp → S → Prop) (msgs : List I2cMsg) (state : S) :
    (fbiobI2cMasterXfer platform msgs).Along controller allowed state ↔
      (checkMsgParams msgs = 0 →
        acquireBus.Along controller allowed state ∧
          (acquireBus.result controller state = 0 →
            EachMessage controller platform
              (fun msg isLast start => (xferMsg platform msg isLast).Along controller allowed start)
              msgs (acquireBus.final controller state))) := by
  by_cases checked : checkMsgParams msgs = 0
  · simp only [fbiobI2cMasterXfer, checked, ne_eq, not_true_eq_false, if_false, forall_const]
    rw [Program.along_bind]
    refine and_congr_right fun _ => ?_
    by_cases ready : acquireBus.result controller state = 0
    · simp only [ready, not_true_eq_false, if_false, forall_const]
      rw [Program.along_bind, xfer_msgs_along]
      exact and_iff_left trivial
    · simp [ready, Program.Along]
  · simp [fbiobI2cMasterXfer, checked, Program.Along]

end Runs

/-! ## The controller -/

/-- The two pages, the selection, and the script of what the controller does:
the word it replies to its `n`-th access and the bytes it receives then. -/
structure PageController where
  highPage : Bool
  low : Memory
  high : Memory
  clock : Nat
  replies : Nat → BitVec 32
  received : Nat → List (BitVec 8)

namespace PageController

def page (s : PageController) : Memory := if s.highPage then s.high else s.low

def setPage (s : PageController) (page : Memory) : PageController :=
  if s.highPage then { s with high := page } else { s with low := page }

def tick (s : PageController) : PageController := { s with clock := s.clock + 1 }

/-- Received bytes overwrite the low page and then the high page. -/
def receive (s : PageController) (bytes : List (BitVec 8)) : PageController :=
  let stream : Memory := fun i => bytes.getD i 0
  { s with
    low := s.low.memcpy 0 stream 0 (min bytes.length fbiobI2cIobufSize)
    high := s.high.memcpy 0 stream fbiobI2cIobufSize
      (min (bytes.length - fbiobI2cIobufSize) fbiobI2cIobufSize) }

end PageController

/-- An offset inside the data window. -/
def inIobuf (offset : Nat) : Bool :=
  fbiobI2cIobufOffset ≤ offset && offset < fbiobI2cIobufOffset + fbiobI2cIobufSize

/-- A word that carries START. -/
def starts (cmd : BitVec 32) : Bool := cmd &&& fbiobI2cBusStartCmd != 0

/-- A command that starts a receive. -/
def receives (cmd : BitVec 32) : Bool := starts cmd && cmd &&& fbiobI2cBusRcvCmd != 0

def pageController : MmioDevice PageController
  | .readl offset, s =>
      (if inIobuf offset then s.page.load32 (offset - fbiobI2cIobufOffset)
        else if offset = fbiobI2cRegCmdSts then s.replies s.clock &&& ~~~fbiobI2cBusStartCmd
        else s.replies s.clock, s.tick)
  | .writel offset val, s =>
      ((), (if inIobuf offset then
          s.setPage (s.page.store32 (offset - fbiobI2cIobufOffset) val)
        else if offset = fbiobI2cRegBufCtrl then
          { s with highPage := val &&& fbiobI2cBufMemPageSel != 0 }
        else if offset = fbiobI2cRegCmdSts ∧ receives val then
          s.receive (s.received s.clock)
        else s).tick)

/-! ## The law -/

/-- The address byte of a message: the slave address and the direction bit. -/
def wireAddr (msg : I2cMsg) : BitVec 8 :=
  ((msg.addr <<< 1) ||| (if msg.isRead then 1 else 0)).setWidth 8

/-- A command that carries START transmits the address byte of the message. -/
def AddressSent (msg : I2cMsg) : MmioOp → PageController → Prop
  | .writel offset val, s => offset = fbiobI2cRegCmdSts → starts val = true → s.low 0 = wireAddr msg
  | .readl _, _ => True

/-- No START is issued at all. -/
def NoStart (op : MmioOp) (_ : PageController) : Prop := ∀ cmd ∈ command? op, starts cmd = false

instance (msg : I2cMsg) : (op : MmioOp) → (s : PageController) → Decidable (AddressSent msg op s)
  | .writel offset val, s =>
      inferInstanceAs (Decidable
        (offset = fbiobI2cRegCmdSts → starts val = true → s.low 0 = wireAddr msg))
  | .readl _, _ => .isTrue trivial

instance (op : MmioOp) (s : PageController) : Decidable (NoStart op s) :=
  decidable_of_iff ((command? op).all (fun cmd => !starts cmd) = true)
    (by cases written : command? op <;> simp [NoStart, written])

/-- A read message whose commands are addressed right: it receives nothing, or
its single chunk finds the low page selected or already holding its address. -/
def ReadAddressed (msg : I2cMsg) (s : PageController) : Prop :=
  msg.rxLen = 0 ∨
    msg.rxLen ≤ fbiobI2cRxPayloadMax ∧ (s.highPage = false ∨ s.low 0 = wireAddr msg)

instance (msg : I2cMsg) (s : PageController) : Decidable (ReadAddressed msg s) :=
  inferInstanceAs (Decidable (_ ∨ _ ∧ (_ ∨ _)))

/-! ## Accesses that keep the address byte -/

/-- The two pages and the selection are as before. -/
def SamePages (before after : PageController) : Prop :=
  after.highPage = before.highPage ∧ after.low = before.low ∧ after.high = before.high

/-- Two states with the pages of a third have the same pages. -/
theorem SamePages.trans {first second third : PageController} (here : SamePages first second)
    (there : SamePages second third) : SamePages first third :=
  ⟨there.1.trans here.1, there.2.1.trans here.2.1, there.2.2.trans here.2.2⟩

/-- A read changes nothing but the clock. -/
theorem readl_pages (offset : Nat) (s : PageController) :
    SamePages s (pageController (.readl offset) s).2 := ⟨rfl, rfl, rfl⟩

/-- Writing a command that does not receive leaves the pages alone. -/
theorem command_pages (cmd : BitVec 32) (s : PageController) (quiet : receives cmd = false) :
    SamePages s (pageController (.writel fbiobI2cRegCmdSts cmd) s).2 := by
  simp [pageController, inIobuf, fbiobI2cIobufOffset, fbiobI2cRegCmdSts, fbiobI2cRegBufCtrl,
    quiet, SamePages, PageController.tick]

/-- Selecting a page does not change the pages. -/
theorem buf_ctrl_pages (val : BitVec 32) (s : PageController) :
    let after := (pageController (.writel fbiobI2cRegBufCtrl val) s).2
    after.highPage = (val &&& fbiobI2cBufMemPageSel != 0) ∧ after.low = s.low := by
  simp [pageController, inIobuf, fbiobI2cIobufOffset, fbiobI2cRegBufCtrl, PageController.tick]

/-- A word written through the window stores four bytes of the selected page. -/
theorem iobuf_write_low (offset : Nat) (val : BitVec 32) (s : PageController)
    (inside : inIobuf offset = true) :
    let after := (pageController (.writel offset val) s).2
    after.highPage = s.highPage ∧
      after.low = if s.highPage then s.low
        else s.low.store32 (offset - fbiobI2cIobufOffset) val := by
  cases selected : s.highPage <;>
    simp [pageController, inside, selected, PageController.tick, PageController.setPage,
      PageController.page]

/-- A write at or beyond the window that does not reach the first word of the
low page keeps byte zero of that page, and the selection. -/
theorem write_keeps_address (offset : Nat) (val : BitVec 32) (s : PageController)
    (window : fbiobI2cIobufOffset ≤ offset)
    (elsewhere : s.highPage = true ∨ fbiobI2cIobufOffset < offset) :
    let after := (pageController (.writel offset val) s).2
    after.highPage = s.highPage ∧ after.low 0 = s.low 0 := by
  cases inside : inIobuf offset with
  | true =>
    obtain ⟨selection, low⟩ := iobuf_write_low offset val s inside
    refine ⟨selection, ?_⟩
    rw [low]
    rcases elsewhere with high | beyond
    · simp [high]
    · have later : ¬(offset - fbiobI2cIobufOffset ≤ 0 ∧ 0 < offset - fbiobI2cIobufOffset + 4) := by
        omega
      split
      · rfl
      · simp only [Memory.store32, later, if_false]
  | false =>
    have control : offset ≠ fbiobI2cRegBufCtrl ∧ offset ≠ fbiobI2cRegCmdSts := by
      simp only [fbiobI2cIobufOffset, fbiobI2cRegBufCtrl, fbiobI2cRegCmdSts] at *
      omega
    simp [pageController, inside, control, PageController.tick]

/-- A write at or beyond the window is no command. -/
theorem window_allowed (msg : I2cMsg) (offset : Nat) (val : BitVec 32) (s : PageController)
    (window : fbiobI2cIobufOffset ≤ offset) : AddressSent msg (.writel offset val) s := by
  intro command
  simp only [fbiobI2cIobufOffset, fbiobI2cRegCmdSts] at *
  omega

/-- Writes at or beyond the window that stay clear of the address keep it. -/
theorem window_writes_keep (msg : I2cMsg) (first : Nat) (program : Mmio Unit)
    (s : PageController) (window : fbiobI2cIobufOffset ≤ first)
    (elsewhere : s.highPage = true ∨ fbiobI2cIobufOffset < first)
    (conforms : program.Conforms (fun op => ∃ offset val, op = .writel offset val ∧ first ≤ offset)
      fun _ => True) :
    program.Wp pageController (AddressSent msg)
      (fun _ after => after.highPage = s.highPage ∧ after.low 0 = s.low 0) s := by
  have kept : ∀ op now, (∃ offset val, op = .writel offset val ∧ first ≤ offset) →
      (now.highPage = s.highPage ∧ now.low 0 = s.low 0) →
      AddressSent msg op now ∧ (pageController op now).2.highPage = s.highPage ∧
        (pageController op now).2.low 0 = s.low 0 := by
    rintro op now ⟨offset, val, rfl, later⟩ ⟨selection, address⟩
    refine ⟨window_allowed msg offset val now (Nat.le_trans window later), ?_⟩
    have apart : now.highPage = true ∨ fbiobI2cIobufOffset < offset := by
      rcases elsewhere with high | beyond
      · exact Or.inl (selection.trans high)
      · exact Or.inr (Nat.lt_of_lt_of_le beyond later)
    obtain ⟨sameSelection, sameAddress⟩ :=
      write_keeps_address offset val now (Nat.le_trans window later) apart
    exact ⟨sameSelection.trans selection, sameAddress.trans address⟩
  exact (conforms.wp kept ⟨rfl, rfl⟩).weaken fun _ _ holds => holds.2

/-- Copying a nonempty buffer into the low page stores its first byte there. -/
theorem iobuf_write_first (msg : I2cMsg) (buf : Memory) (size : Nat) (s : PageController)
    (nonempty : 0 < size) (fits : size ≤ fbiobI2cIobufSize) (lowPage : s.highPage = false) :
    (i2cIobufWrite buf size).Wp pageController (AddressSent msg)
      (fun _ after => after.highPage = false ∧ after.low 0 = buf 0) s := by
  have first (memory : Memory) (same : memory 0 = buf 0) :
      let after := (pageController (.writel fbiobI2cIobufOffset (memory.load32 0)) s).2
      after.highPage = false ∧ after.low 0 = buf 0 := by
    obtain ⟨selection, low⟩ :=
      iobuf_write_low fbiobI2cIobufOffset (memory.load32 0) s (by decide)
    refine ⟨selection.trans lowPage, ?_⟩
    rw [low]
    simp [lowPage, Memory.store32_load32, same]
  unfold i2cIobufWrite fbiobBulkWrite
  cases count : size / fbiobIoSize % 2 ^ 32 with
  | zero =>
    have partly : size % fbiobIoSize > 0 := by
      simp only [fbiobIoSize, fbiobI2cIobufSize] at *
      omega
    simp only [partly, if_true, bulkWriteWords, Nat.zero_mul]
    refine ⟨window_allowed _ _ _ _ (by simp), ?_⟩
    exact first _ (by simp [Memory.memcpy, partly])
  | succ words =>
    obtain ⟨selection, address⟩ := first buf rfl
    refine ⟨window_allowed _ _ _ _ (by simp), ?_⟩
    refine (window_writes_keep msg (fbiobI2cIobufOffset + fbiobIoSize) _ _ (by decide)
      (Or.inr (by decide)) ?_).weaken fun _ _ kept =>
        ⟨kept.1.trans selection, kept.2.trans address⟩
    have rest : (bulkWriteWords (fbiobI2cIobufOffset + fbiobIoSize) (0 + fbiobIoSize) buf words).Conforms
        (fun op => ∃ offset val, op = .writel offset val ∧
          fbiobI2cIobufOffset + fbiobIoSize ≤ offset) fun _ => True := by
      refine (bulk_write_words_conforms _ _ buf words).mono ?_ fun _ _ => trivial
      rintro op ⟨offset, val, rfl, lower, _⟩
      exact ⟨offset, val, rfl, lower⟩
    refine rest.bind fun _ _ => (Program.conforms_ite _ _ _).mpr ⟨fun _ => ?_, fun _ => trivial⟩
    exact ⟨⟨_, _, rfl, by simp only [fbiobIoSize]; omega⟩, fun _ => trivial⟩

/-- Polling a command to its end issues no START: the STOP after a NACK writes
back a status word, in which START reads as zero. -/
theorem wait_addressed (msg : I2cMsg) (opcode : FbiobI2cOpcode) (retry : Nat)
    (s : PageController) :
    (waitTillXferDoneLoop opcode retry).Wp pageController (AddressSent msg)
      (fun _ after => SamePages s after) s := by
  have stopped (middle : PageController) :
      (fbiobI2cStop >>= fun _ => (pure (-eio) : Mmio Int)).Wp pageController (AddressSent msg)
        (fun _ after => SamePages middle after) middle := by
    have unstarted : starts ((pageController (.readl fbiobI2cRegCmdSts) middle).1 |||
        fbiobI2cBusStopCmd) = false := by
      have masked := or_and_eq_zero (and_not_and (middle.replies middle.clock) fbiobI2cBusStartCmd)
        (by decide : fbiobI2cBusStopCmd &&& fbiobI2cBusStartCmd = 0)
      simpa [starts, pageController, inIobuf, fbiobI2cIobufOffset, fbiobI2cRegCmdSts] using masked
    refine ⟨trivial, fun _ started => ?_, ?_⟩
    · exact absurd started (by simp [unstarted])
    · exact command_pages _ _ (by simp [receives, unstarted])
  refine wait_loop_rule (P := fun program => ∀ s, program.Wp pageController (AddressSent msg)
    (fun _ after => SamePages s after) s) ?_ ?_ retry s
  · exact fun s => ⟨rfl, rfl, rfl⟩
  · intro later addressed s
    refine (wp_readl _ _ _ _ _ _).mpr ⟨trivial, ?_⟩
    apply Program.Wp.ite
    · intro nacked
      exact (stopped _).weaken fun _ _ same => (readl_pages _ s).trans same
    · intro clean
      apply Program.Wp.ite
      · exact fun _ => readl_pages _ s
      · intro running
        exact (addressed _).weaken fun _ _ same => (readl_pages _ s).trans same

/-! ## Write messages -/

/-- After a successful fill the low page starts with the address byte. -/
theorem fill_tx_buf_addressed (msg : I2cMsg) (platform : Platform) (i2cAddr : BitVec 8)
    (payload : Memory) (txBuf payloadSize : Nat) (s : PageController) :
    (fbiobI2cFillTxBuf platform i2cAddr payload txBuf payloadSize).Wp pageController
      (AddressSent msg) (fun ret after => 0 ≤ ret → after.low 0 = i2cAddr) s := by
  have control (val : BitVec 32) (now : PageController) :
      AddressSent msg (.writel fbiobI2cRegBufCtrl val) now :=
    fun command => absurd command (by decide)
  apply Program.Wp.ite
  · intro tooLong refused
    exact absurd refused (by decide)
  · intro fits
    refine (wp_writel _ _ _ _ _ _ _).mpr ⟨control _ _, ?_⟩
    have lowPage : txBufCtrl payloadSize &&& fbiobI2cBufMemPageSel = 0 := and_not_and _ _
    apply Program.Wp.seq
    · refine iobuf_write_first msg _ _ _ (Nat.succ_pos _) ?_ ?_
      · simp only [fbiobI2cIobufSize]
        omega
      · simp [(buf_ctrl_pages _ s).1, lowPage]
    · intro _ filled stored
      have address : filled.low 0 = i2cAddr := by
        simpa [Memory.memcpy, Memory.store8] using stored.2
      apply Program.Wp.ite
      · intro twoPages
        refine (wp_writel _ _ _ _ _ _ _).mpr ⟨control _ _, ?_⟩
        have highPage :
            (txBufCtrl payloadSize ||| fbiobI2cBufMemPageSel) &&& fbiobI2cBufMemPageSel ≠ 0 := by
          rw [or_mask_and]
          decide
        apply Program.Wp.seq
        · refine window_writes_keep msg fbiobI2cIobufOffset _ _ (Nat.le_refl _) (Or.inl ?_) ?_
          · rw [(buf_ctrl_pages _ filled).1]
            exact bne_iff_ne.mpr highPage
          · refine (bulk_write_conforms _ _ _).mono ?_ fun _ _ => trivial
            rintro op ⟨offset, val, rfl, lower, _⟩
            exact ⟨offset, val, rfl, lower⟩
        · rintro _ after ⟨_, kept⟩ _
          rw [kept, (buf_ctrl_pages _ filled).2, address]
      · intro onePage _
        exact address

/-- One transmit pass is addressed from every state of the controller. -/
theorem write_chunk_addressed (platform : Platform) (msg : I2cMsg) (isLastMsg : Bool)
    (payload : Memory) (txBuf nleft : Nat) (s : PageController) :
    (fbiobI2cWriteChunk platform isLastMsg (wireAddr msg) payload txBuf nleft).Along
      pageController (AddressSent msg) s := by
  apply Program.Wp.seq (fill_tx_buf_addressed msg _ _ _ _ _ s)
  intro ret filled stored
  apply Program.Wp.ite
  · exact fun failed => trivial
  · intro succeeded
    refine (wp_writel _ _ _ _ _ _ _).mpr ⟨fun _ _ => stored (Int.not_lt.mp succeeded), ?_⟩
    exact (wait_addressed msg .busWrite _ _).weaken fun _ _ _ => trivial

/-- The transmit loop is addressed from every state: each pass stores the address. -/
theorem write_loop_addressed (platform : Platform) (msg : I2cMsg) (isLastMsg : Bool)
    (payload : Memory) (txBuf nleft : Nat) (s : PageController) :
    (fbiobI2cWriteLoop platform isLastMsg (wireAddr msg) payload txBuf nleft).Along
      pageController (AddressSent msg) s := by
  refine write_loop_rule (P := fun _ _ program =>
    ∀ s, program.Along pageController (AddressSent msg) s) ?_ txBuf nleft s
  intro txBuf nleft later addressed s
  refine (Program.along_bind _ _ _ _ _).mpr ⟨write_chunk_addressed _ _ _ _ _ _ _, ?_⟩
  apply Program.Wp.ite
  · exact fun failed => trivial
  · intro succeeded
    apply Program.Wp.ite
    · exact fun more => addressed more _
    · exact fun sent => trivial

/-! ## Read messages -/

/-- A routine that writes no command is allowed. -/
theorem silent_along {α : Type} (msg : I2cMsg) {program : Mmio α}
    (silent : program.Conforms Silent fun _ => True) (s : PageController) :
    program.Along pageController (AddressSent msg) s := by
  have quiet : ∀ op now, Silent op → True →
      AddressSent msg op now ∧ True := by
    intro op now silent _
    refine ⟨?_, trivial⟩
    cases op with
    | readl offset => trivial
    | writel offset val =>
      intro command
      simp [Silent, command?, command] at silent
  exact (silent.wp quiet trivial).weaken fun _ _ _ => trivial

/-- The address word of a read message starts with its address byte. -/
theorem read_addr_byte (msg : I2cMsg) (read : msg.isRead = true) :
    (readAddr msg).extractLsb' 0 8 = wireAddr msg := by
  apply BitVec.eq_of_getLsbD_eq
  intro i inByte
  interval_cases i <;> simp [readAddr, wireAddr, read]

/-- Storing the address succeeds when the low page is selected; otherwise it
leaves a low page that already holds it alone. -/
theorem read_addr_stored (msg : I2cMsg) (read : msg.isRead = true) (s : PageController)
    (ready : s.highPage = false ∨ s.low 0 = wireAddr msg) :
    (pageController (.writel fbiobI2cIobufOffset (readAddr msg)) s).2.low 0 = wireAddr msg := by
  rw [(iobuf_write_low fbiobI2cIobufOffset (readAddr msg) s (by decide)).2]
  cases selected : s.highPage with
  | true => exact (ready.resolve_left (by simp [selected]))
  | false => simpa [Memory.store32] using read_addr_byte msg read

/-- One receive pass is addressed when the low page starts with the address. -/
theorem read_chunk_addressed (platform : Platform) (msg : I2cMsg) (rxLen : Nat)
    (state : ReadState) (s : PageController) (address : s.low 0 = wireAddr msg) :
    (fbiobI2cReadChunk platform rxLen state).Along pageController (AddressSent msg) s := by
  refine (wp_writel _ _ _ _ _ _ _).mpr ⟨fun command => absurd command (by decide), ?_⟩
  refine (wp_writel _ _ _ _ _ _ _).mpr ⟨fun _ _ => ?_, ?_⟩
  · rw [(buf_ctrl_pages _ s).2, address]
  · apply Program.Wp.seq (wait_addressed msg .busRead _ _)
    intro ret after _
    apply Program.Wp.ite
    · exact fun failed => trivial
    · intro completed
      exact silent_along msg ((collect_access _ _ _ _).mono (fun _ => BufferAccess.silent)
        fun _ _ => trivial) _

/-- A read message is addressed when it receives nothing, or a single chunk for
which its address is in place. -/
theorem read_addressed (platform : Platform) (msg : I2cMsg) (s : PageController)
    (read : msg.isRead = true) (ready : ReadAddressed msg s) :
    (fbiobI2cRead platform msg).Along pageController (AddressSent msg) s := by
  unfold fbiobI2cRead
  cases msg.buf with
  | none => trivial
  | some buf =>
    refine (wp_writel _ _ _ _ _ _ _).mpr ⟨window_allowed _ _ _ _ (Nat.le_refl _), ?_⟩
    refine (Program.along_bind _ _ _ _ _).mpr ⟨?_, trivial⟩
    rw [fbiobI2cReadLoop]
    apply Program.Wp.ite
    · exact fun empty => trivial
    · intro nonempty
      obtain ⟨single, selected⟩ := ready.resolve_left nonempty
      have last : msg.rxLen - min fbiobI2cRxPayloadMax msg.rxLen = 0 := by omega
      refine (Program.along_bind _ _ _ _ _).mpr ⟨?_, ?_⟩
      · exact read_chunk_addressed _ _ _ _ _ (read_addr_stored msg read _ selected)
      · apply Program.Wp.ite
        · exact fun failed => trivial
        · intro received
          rw [last, fbiobI2cReadLoop]
          trivial

/-- A write message is addressed from every state. -/
theorem write_addressed (platform : Platform) (msg : I2cMsg) (isLast : Bool)
    (s : PageController) (write : ¬msg.isRead = true) :
    (fbiobI2cWrite platform msg isLast).Along pageController (AddressSent msg) s := by
  have address : writeAddr msg = wireAddr msg := by
    simp [writeAddr, wireAddr, write]
  unfold fbiobI2cWrite
  cases msg.buf with
  | none => trivial
  | some buf =>
    rw [address]
    exact write_loop_addressed _ _ _ _ _ _ _

/-- A message is addressed when it is a write, or a read that finds its address. -/
theorem xfer_msg_addressed (platform : Platform) (msg : I2cMsg) (isLast : Bool)
    (s : PageController) (ready : msg.isRead = true → ReadAddressed msg s) :
    (xferMsg platform msg isLast).Along pageController (AddressSent msg) s := by
  refine (wp_writel _ _ _ _ _ _ _).mpr ⟨fun command => absurd command (by decide), ?_⟩
  apply Program.Wp.ite
  · exact fun read => read_addressed platform msg _ read (ready read)
  · intro write
    apply Program.Wp.seq (write_addressed platform msg isLast _ write)
    exact fun _ _ _ => trivial

/-! ## Every sequence of transfers -/

/-- In every sequence of transfers in which each read message finds its address
in place, every START command transmits the address byte of its message, and
taking the bus issues none. The controller's replies and the bytes it receives
are arbitrary.

Proof: a write message stores its address before each of its commands. A read
message stores it once, which is enough for the only chunk it has. -/
theorem master_xfer_addressed (platform : Platform) (calls : List (List I2cMsg))
    (s : PageController)
    (condition : EachTransfer pageController platform (fun _ => True)
      (fun msg _ start => msg.isRead = true → ReadAddressed msg start) calls s) :
    EachTransfer pageController platform (fun start => acquireBus.Along pageController NoStart start)
      (fun msg isLast start =>
        (xferMsg platform msg isLast).Along pageController (AddressSent msg) start) calls s := by
  apply condition.mono
  · intro start _
    have quiet : ∀ op now, Silent op → True → NoStart op now ∧ True := by
      intro op now silent _
      exact ⟨by simp [NoStart, show command? op = none from silent], trivial⟩
    exact (acquire_bus_silent.wp quiet trivial).weaken fun _ _ _ => trivial
  · intro msg isLast start ready
    exact xfer_msg_addressed platform msg isLast start ready

/-- A controller with cleared pages that never is busy and reports each command done. -/
def idlePages : PageController where
  highPage := false
  low := fun _ => 0
  high := fun _ => 0
  clock := 0
  replies := fun _ => fbiobI2cIntrRxDoneSts ||| fbiobI2cIntrTxDoneSts
  received := fun _ => []

/-- A register read after a short write is addressed right. -/
theorem short_write_then_read_addressed :
    EachTransfer pageController zeroPlatform
      (fun start => acquireBus.Along pageController NoStart start)
      (fun msg isLast start =>
        (xferMsg zeroPlatform msg isLast).Along pageController (AddressSent msg) start)
      [[zeroMsg 0 1, zeroMsg i2cMRd 1]] idlePages :=
  master_xfer_addressed zeroPlatform [[zeroMsg 0 1, zeroMsg i2cMRd 1]] idlePages
    (by decide +kernel)

/-- A write of 128 bytes leaves the high page selected, and the read after it is
sent to the address byte of the write. -/
theorem long_write_then_read_misaddressed :
    ¬EachTransfer pageController zeroPlatform
      (fun start => acquireBus.Along pageController NoStart start)
      (fun msg isLast start =>
        (xferMsg zeroPlatform msg isLast).Along pageController (AddressSent msg) start)
      [[zeroMsg 0 128, zeroMsg i2cMRd 1]] idlePages := by
  decide +kernel

end FbossBsp.I2cMaster
