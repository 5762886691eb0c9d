import FbossBsp.I2cStaging

/-!
# Every I2C read puts its bytes together again

Against a controller that completes each receive command in time, a read message
returns the bytes of the slave in order, with one command for each chunk.
-/

namespace FbossBsp.I2cMaster

open Interaction

/-! ## A controller that completes its receive commands -/

/-- The other registers of such a controller: the polls that the last receive
command still takes, and the script of its replies and delays. The driver polls
often enough for each delay. -/
structure Receiver where
  pending : Nat
  clock : Nat
  replies : Nat → BitVec 32
  delays : Nat → Fin (fbossI2cSmbusMaxTimeoutUs / fbiobI2cXferPollTimeUs + 1)

/-- The interrupt status shows no NACK, and RX_DONE once the last receive command
is done. All other bits and registers answer by the script. -/
def receiver : MmioDevice Receiver
  | .readl offset, s =>
    let reply := s.replies s.clock
    if offset = fbiobI2cRegIntrSts then
      ((reply &&& ~~~(fbiobI2cIntrTxNackSts ||| fbiobI2cIntrRxDoneSts)) |||
          (if s.pending = 0 then fbiobI2cIntrRxDoneSts else 0),
        { s with pending := s.pending - 1, clock := s.clock + 1 })
    else (reply, { s with clock := s.clock + 1 })
  | .writel offset cmd, s =>
    ((), if offset = fbiobI2cRegCmdSts ∧ receives cmd then
        { s with pending := s.delays s.clock, clock := s.clock + 1 }
      else s)

/-- A poll of the interrupt status. -/
theorem receiver_poll (s : Iobuf Receiver) :
    let status := (iobufController receiver (.readl fbiobI2cRegIntrSts) s).1
    let after := (iobufController receiver (.readl fbiobI2cRegIntrSts) s).2
    status &&& fbiobI2cIntrTxNackSts = 0 ∧
      (status &&& FbiobI2cOpcode.busRead.doneSts ≠ 0 ↔ s.csr.pending = 0) ∧
      s.Same after ∧ after.csr.pending = s.csr.pending - 1 := by
  have masked (part : BitVec 32) (inside : part &&&
      (fbiobI2cIntrTxNackSts ||| fbiobI2cIntrRxDoneSts) = part) :
      (s.csr.replies s.csr.clock &&& ~~~(fbiobI2cIntrTxNackSts ||| fbiobI2cIntrRxDoneSts)) &&&
        part = 0 :=
    and_eq_zero_of_part (and_not_and _ _) inside
  refine ⟨?_, ?_, control_read receiver s fbiobI2cRegIntrSts (by decide), rfl⟩
  · refine or_and_eq_zero (masked _ (by decide)) ?_
    split <;> decide
  · change ((_ ||| if s.csr.pending = 0 then _ else _) &&& fbiobI2cIntrRxDoneSts ≠ 0) ↔ _
    by_cases complete : s.csr.pending = 0
    · simp only [complete, if_true, or_mask_and, iff_true]
      decide
    · simp only [complete, if_false, iff_false, not_not]
      exact or_and_eq_zero (masked _ (by decide)) (by decide)

/-- A wait that polls often enough succeeds. -/
theorem receiver_wait (retry : Nat) (s : Iobuf Receiver) (soon : s.csr.pending ≤ retry) :
    (waitTillXferDoneLoop .busRead retry).Wp (iobufController receiver) (fun _ _ => True)
      (fun ret after => ret = 0 ∧ s.Same after) s := by
  induction retry generalizing s with
  | zero =>
    obtain ⟨clean, complete, same, _⟩ := receiver_poll s
    refine (wp_readl _ _ _ _ _ _).mpr ⟨trivial, ?_⟩
    rw [if_neg (not_not.mpr clean), if_pos (complete.mpr (Nat.le_zero.mp soon))]
    exact ⟨rfl, same⟩
  | succ retry inductionHypothesis =>
    obtain ⟨clean, complete, same, polled⟩ := receiver_poll s
    refine (wp_readl _ _ _ _ _ _).mpr ⟨trivial, ?_⟩
    rw [if_neg (not_not.mpr clean)]
    apply Program.Wp.ite
    · exact fun done => ⟨rfl, same⟩
    · intro running
      refine (inductionHypothesis _ (by rw [polled]; omega)).weaken ?_
      rintro ret after ⟨returned, quiet⟩
      exact ⟨returned, same.trans quiet⟩

/-- The wait for a receive command succeeds. -/
theorem receiver_waited (ready : Iobuf Receiver) (last : Bool) :
    let issued := (iobufController receiver (.writel fbiobI2cRegCmdSts (rxCmd last)) ready).2
    (waitTillXferDone .busRead).Wp (iobufController receiver) (fun _ _ => True)
      (fun ret after => ret = 0 ∧ (ret = 0 → issued.Same after)) issued := by
  intro issued
  have receives : I2cMaster.receives (rxCmd last) = true := by cases last <;> decide
  have delay : issued.csr.pending = ready.csr.delays ready.csr.clock := by
    change (receiver (.writel fbiobI2cRegCmdSts (rxCmd last)) ready.csr).2.pending = _
    simp [receiver, receives]
  have soon : issued.csr.pending ≤ fbossI2cSmbusMaxTimeoutUs / fbiobI2cXferPollTimeUs := by
    rw [delay]
    exact Nat.lt_succ_iff.mp (Fin.isLt _)
  exact (receiver_wait _ issued soon).weaken fun _ _ waited => ⟨waited.1, fun _ => waited.2⟩

/-! ## Chunks -/

/-- What a part of a read does: it succeeds, moves `size` bytes of the stream to
where the message is filled next, and leaves the staging buffer alone behind its
128 bytes. -/
structure Reads (platform : Platform) (s : Iobuf Receiver) (state : ReadState) (size : Nat)
    (outcome : (Int × ReadState) × List Memory) : Prop where
  ret : outcome.1.1 = 0
  msg : outcome.1.2.msg = state.msg
  memory : outcome.1.2.memory = state.memory.memcpy state.rxBuf s.stream s.taken size
  staging : ∀ staged ∈ outcome.2, ∀ i, fbiobI2cIobufSize ≤ i → staged i = platform.recvBuf i

/-- What one pass of a plain read does: it reads the next chunk, and where more is
left it goes on behind the chunk. -/
structure PassReads (platform : Platform) (s : Iobuf Receiver) (state : ReadState) (rxLen : Nat)
    (outcome : (Int × ReadState) × List Memory) (after : Iobuf Receiver) : Prop where
  reads : Reads platform s state (min fbiobI2cRxPayloadMax rxLen) outcome
  advanced : rxLen - min fbiobI2cRxPayloadMax rxLen ≠ 0 →
    outcome.1.2.rxBuf = state.rxBuf + min fbiobI2cRxPayloadMax rxLen
  took : s.Took after (min fbiobI2cRxPayloadMax rxLen) 1

section Read

variable (platform : Platform)

/-- A chunk of two pages that has been received. -/
theorem stage_pages_reads {rxLen : Nat} (state : ReadState) {s now : Iobuf Receiver}
    (large : fbiobI2cIobufSize < min fbiobI2cRxPayloadMax rxLen)
    (same : (s.received (min fbiobI2cRxPayloadMax rxLen)).Same now) :
    let size := min fbiobI2cRxPayloadMax rxLen
    (stagePages platform size >>= fun staged =>
      (pure ((0, placePages size (rxLen - size) state staged.1 staged.2),
        [staged.1, staged.2]) : Mmio ((Int × ReadState) × List Memory))).Wp
      (iobufController receiver) (fun _ _ => True) (PassReads platform s state rxLen) now := by
  have fits : min fbiobI2cRxPayloadMax rxLen ≤ fbiobI2cRxPayloadMax := Nat.min_le_left _ _
  have remaining : min fbiobI2cRxPayloadMax rxLen - fbiobI2cIobufSize ≤ fbiobI2cIobufSize := by
    simp only [fbiobI2cRxPayloadMax, fbiobI2cIobufSize] at *
    omega
  apply Program.Wp.seq (stage_pages_received receiver platform fits large same)
  rintro pages after ⟨lowCopied, highCopied, took⟩
  refine ⟨⟨rfl, rfl, ?_, ?_⟩, ?_, took⟩
  · exact place_pages_memory _ state large lowCopied highCopied
  · intro staged member i beyond
    have lowKept : pages.1 i = platform.recvBuf i := by
      rw [lowCopied]
      exact Memory.memcpy_beyond _ _ _ _ (by omega)
    have highKept : pages.2 i = pages.1 i := by
      rw [highCopied]
      exact Memory.memcpy_beyond _ _ _ _ (by omega)
    rcases List.mem_pair.mp member with low | high
    · rw [low, lowKept]
    · rw [high, highKept, lowKept]
  · intro more
    have advanced : state.rxBuf + fbiobI2cIobufSize +
        (min fbiobI2cRxPayloadMax rxLen - fbiobI2cIobufSize) =
          state.rxBuf + min fbiobI2cRxPayloadMax rxLen := by omega
    exact (if_pos more).trans advanced

/-- A chunk of one page that has been received. -/
theorem stage_page_reads {rxLen : Nat} (nonempty : 0 < rxLen) (state : ReadState)
    (plain : state.msg.recvLen = false) {s now : Iobuf Receiver}
    (small : min fbiobI2cRxPayloadMax rxLen ≤ fbiobI2cIobufSize)
    (same : (s.received (min fbiobI2cRxPayloadMax rxLen)).Same now) :
    let size := min fbiobI2cRxPayloadMax rxLen
    (i2cIobufRead platform.recvBuf size >>= fun low =>
      (pure (placePage platform size (rxLen - size) state low, [low]) :
        Mmio ((Int × ReadState) × List Memory))).Wp
      (iobufController receiver) (fun _ _ => True) (PassReads platform s state rxLen) now := by
  have positive : 0 < min fbiobI2cRxPayloadMax rxLen := lt_min (by decide) nonempty
  apply Program.Wp.seq (stage_page_received receiver platform positive small same)
  rintro low after ⟨copied, took⟩
  simp only [placePage, plain, Bool.false_eq_true, if_false]
  refine ⟨⟨rfl, rfl, ?_, ?_⟩, ?_, took⟩
  · funext i
    simp only [Memory.memcpy]
    split
    · rw [Nat.zero_add, copied]
      exact staged_page_byte platform.recvBuf small (by omega)
    · rfl
  · intro staged member i beyond
    rw [List.mem_singleton.mp member, copied]
    exact Memory.memcpy_beyond _ _ _ _ (by omega)
  · exact fun more => if_pos more

/-- One receive pass of a plain read. -/
theorem staged_read_chunk_reads {rxLen : Nat} (nonempty : 0 < rxLen) (state : ReadState)
    (plain : state.msg.recvLen = false) (s : Iobuf Receiver) :
    (stagedReadChunk platform rxLen state).Wp (iobufController receiver) (fun _ _ => True)
      (PassReads platform s state rxLen) s := by
  apply Program.Wp.seq (receive_chunk_received receiver nonempty s receiver_waited)
  rintro ret now ⟨succeeded, same⟩
  have filled := same succeeded
  rw [if_neg (not_not.mpr succeeded)]
  apply Program.Wp.ite
  · exact fun large => stage_pages_reads platform state large filled
  · exact fun small => stage_page_reads platform nonempty state plain (Nat.not_lt.mp small) filled

/-- The receive loop of a plain read.

Proof: induction on what is left to receive. A pass leaves the next bytes of the
stream and the place behind the bytes it has stored. -/
theorem staged_read_loop_reads (rxLen : Nat) (state : ReadState)
    (plain : state.msg.recvLen = false) (s : Iobuf Receiver) :
    (stagedReadLoop platform rxLen state).Wp (iobufController receiver) (fun _ _ => True)
      (fun outcome after =>
        Reads platform s state rxLen outcome ∧
          s.Took after rxLen ((rxLen + 255) / fbiobI2cRxPayloadMax)) s := by
  induction rxLen using Nat.strongRecOn generalizing state s with
  | _ rxLen inductionHypothesis =>
    rw [stagedReadLoop]
    apply Program.Wp.ite
    · rintro rfl
      refine ⟨⟨rfl, rfl, ?_, by simp⟩, rfl, rfl, rfl⟩
      funext i
      simp [Memory.memcpy]
    · intro nonempty
      have positive : 0 < rxLen := Nat.pos_of_ne_zero nonempty
      have shorter : rxLen - min fbiobI2cRxPayloadMax rxLen < rxLen := by
        simp only [fbiobI2cRxPayloadMax]
        omega
      apply Program.Wp.seq (staged_read_chunk_reads platform positive state plain s)
      rintro chunk middle ⟨first, advanced, took⟩
      rw [if_neg (not_not.mpr first.ret)]
      have stillPlain : chunk.1.2.msg.recvLen = false := by rw [first.msg, plain]
      apply Program.Wp.seq (inductionHypothesis _ shorter chunk.1.2 stillPlain middle)
      rintro rest after ⟨later, tookLater⟩
      have whole : min fbiobI2cRxPayloadMax rxLen + (rxLen - min fbiobI2cRxPayloadMax rxLen) = rxLen := by
        omega
      have commands : 1 + (rxLen - min fbiobI2cRxPayloadMax rxLen + 255) / fbiobI2cRxPayloadMax =
          (rxLen + 255) / fbiobI2cRxPayloadMax := by
        simp only [fbiobI2cRxPayloadMax]
        omega
      have tookAll := took.trans tookLater
      rw [whole, commands] at tookAll
      refine ⟨⟨later.ret, later.msg.trans first.msg, ?_, ?_⟩, tookAll⟩
      · rw [later.memory, first.memory, took.stream, took.taken]
        by_cases more : rxLen - min fbiobI2cRxPayloadMax rxLen ≠ 0
        · rw [advanced more, Memory.memcpy_adjacent, whole]
        · have last : min fbiobI2cRxPayloadMax rxLen = rxLen := by omega
          funext i
          simp [Memory.memcpy, last]
      · intro staged member
        rcases List.mem_append.mp member with here | there
        · exact first.staging staged here
        · exact later.staging staged there

/-- A plain read with the record of its staging buffer. -/
theorem staged_read_reads (msg : I2cMsg) (buf : Memory) (plain : msg.recvLen = false)
    (s : Iobuf Receiver) :
    (stagedRead platform { msg with buf := some buf }).Wp (iobufController receiver)
      (fun _ _ => True)
      (fun outcome after =>
        outcome.1 = (0,
          { msg with buf := some (buf.memcpy 0 s.stream s.taken msg.len.toNat) }) ∧
        (∀ staged ∈ outcome.2, ∀ i, fbiobI2cIobufSize ≤ i → staged i = platform.recvBuf i) ∧
        s.Took after msg.len.toNat ((msg.len.toNat + 255) / fbiobI2cRxPayloadMax)) s := by
  have length : I2cMsg.rxLen { msg with buf := some buf } = msg.len.toNat :=
    if_neg (by simpa [I2cMsg.recvLen] using plain)
  refine (wp_writel _ _ _ _ _ _ _).mpr ⟨trivial, ?_⟩
  apply Program.Wp.seq (staged_read_loop_reads platform _ _ plain _)
  rintro outcome after ⟨reads, took⟩
  rw [length] at reads took
  refine ⟨?_, reads.staging, took.stream, took.taken, took.receives⟩
  simp only [reads.ret, reads.msg, reads.memory]
  rfl

end Read

/-! ## Every read message -/

/-- Every plain read message returns 0 after one receive command for each chunk, and
leaves the bytes of the slave in its buffer, in order. Its length is unchanged,
nothing is written behind the message or behind the staging buffer. -/
theorem read_reassembled (platform : Platform) (msg : I2cMsg) (buf : Memory)
    (plain : msg.recvLen = false) (s : Iobuf Receiver) :
    let read := fbiobI2cRead platform { msg with buf := some buf }
    let staged := stagedRead platform { msg with buf := some buf }
    let len := msg.len.toNat
    (read.result (iobufController receiver) s).1 = 0 ∧
      (∃ memory, (read.result (iobufController receiver) s).2 = { msg with buf := some memory } ∧
        (∀ i < len, memory i = s.stream (s.taken + i)) ∧ ∀ i, len ≤ i → memory i = buf i) ∧
      (read.final (iobufController receiver) s).receives =
        s.receives + (len + 255) / fbiobI2cRxPayloadMax ∧
      ∀ recvBuf ∈ (staged.result (iobufController receiver) s).2,
        ∀ i, fbiobI2cIobufSize ≤ i → recvBuf i = platform.recvBuf i := by
  intro read staged len
  obtain ⟨outcome, staging, took⟩ := (staged_read_reads platform msg buf plain s).outcome
  have recorded : read = staged >>= fun outcome => pure outcome.1 := staged_read_eq _ _
  have result : read.result (iobufController receiver) s =
      (staged.result (iobufController receiver) s).1 := by
    rw [recorded, Program.result_bind, Program.result_pure]
  have final : read.final (iobufController receiver) s =
      staged.final (iobufController receiver) s := by
    rw [recorded, Program.final_bind, Program.final_pure]
  rw [result, final]
  refine ⟨by rw [outcome], ⟨_, by rw [outcome], ?_, ?_⟩, took.receives, staging⟩
  · intro i inside
    have copied := Memory.memcpy_copied buf s.stream 0 s.taken inside
    rwa [Nat.zero_add] at copied
  · intro i behind
    exact Memory.memcpy_beyond _ _ _ _ (by omega)

/-- A slave that counts, behind a controller that takes three polls for a command. -/
def countingSlave : Iobuf Receiver where
  buffers := ⟨0, fun _ => 0, fun _ => 0⟩
  stream := BitVec.ofNat 8
  taken := 0
  receives := 0
  sent := []
  csr := ⟨0, 0, fun _ => 0, fun _ => 3⟩

/-- A read of 300 bytes takes two receive commands. -/
theorem counted_read_reassembled :
    ((fbiobI2cRead zeroPlatform (zeroMsg i2cMRd 300)).result (iobufController receiver)
        countingSlave).1 = 0 ∧
      ((fbiobI2cRead zeroPlatform (zeroMsg i2cMRd 300)).final (iobufController receiver)
        countingSlave).receives = 2 := by
  obtain ⟨returned, _, commands, _⟩ :=
    read_reassembled zeroPlatform (zeroMsg i2cMRd 300) (fun _ => 0) (by decide) countingSlave
  exact ⟨returned, commands⟩

end FbossBsp.I2cMaster
