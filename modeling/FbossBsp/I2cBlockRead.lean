import FbossBsp.I2cStaging

/-!
# SMBus block reads

A block read asks the controller for 32 bytes. The first of them counts the bytes
that follow, so that a block of the greatest length has 33 bytes, and one more with
a packet error code. The driver refuses a count above 32, compared as a plain
`char`, and stores as many bytes of its staging buffer as the count asks for.
-/

namespace FbossBsp.I2cMaster

open Interaction

/-- The bytes of a block besides the counted ones: the count, and the packet error
code when the message has one. -/
def I2cMsg.blockExtra (msg : I2cMsg) : Nat := if msg.flags &&& i2cClientPec ≠ 0 then 2 else 1

/-- What a block read hands over: the count is in range, the length of the message
covers the block, and each byte was received, where `s` and `after` are the
controller before and after the read. -/
structure BlockDelivered {T : Type} (s : Iobuf T) (extra : Nat) (msg : I2cMsg)
    (after : Iobuf T) : Prop where
  counted : (s.stream s.taken).toNat ≤ i2cSmbusBlockMax
  length : msg.len.toNat = (s.stream s.taken).toNat + extra
  bytes : ∃ memory, msg.buf = some memory ∧ ∀ i < msg.len.toNat,
    s.taken + i < after.taken ∧ memory i = s.stream (s.taken + i)

/-- What a block read that succeeds has done: its length is the count, as the driver
takes it, and the block extra; the bytes it has asked for are those of the stream. -/
def BlockStored {T : Type} (platform : Platform) (s : Iobuf T) (msg : I2cMsg)
    (outcome : Int × ReadState) (after : Iobuf T) : Prop :=
  outcome.1 = 0 →
    outcome.2.msg.len =
        BitVec.ofInt 16 (platform.charValue (s.stream s.taken) + msg.blockExtra) ∧
      (∀ i < outcome.2.msg.len.toNat, i < i2cSmbusBlockMax →
        outcome.2.memory i = s.stream (s.taken + i)) ∧
      after.taken = s.taken + i2cSmbusBlockMax

section BlockRead

variable {T : Type} (csr : MmioDevice T) (platform : Platform) (msg : I2cMsg) (buf : Memory)

/-- The only pass of a block read. -/
theorem block_chunk_stored (block : msg.recvLen = true) (s : Iobuf T) :
    (stagedReadChunk platform i2cSmbusBlockMax ⟨msg, buf, 0⟩).Wp (iobufController csr)
      (fun _ _ => True) (fun chunk after => BlockStored platform s msg chunk.1 after) s := by
  have waited (ready : Iobuf T) (last : Bool) :
      let issued := (iobufController csr (.writel fbiobI2cRegCmdSts (rxCmd last)) ready).2
      (waitTillXferDone .busRead).Wp (iobufController csr) (fun _ _ => True)
        (fun ret after => True ∧ (ret = 0 → issued.Same after)) issued :=
    (wait_same csr _ _ _).weaken fun ret _ same =>
      ⟨trivial, fun succeeded => same (by rw [succeeded]; decide)⟩
  apply Program.Wp.seq (receive_chunk_received csr (by decide) s waited)
  rintro ret now ⟨_, same⟩
  apply Program.Wp.ite
  · exact fun failed succeeded => absurd succeeded failed
  · intro received
    have filled := same (not_not.mp received)
    rw [if_neg (by decide)]
    apply Program.Wp.seq (stage_page_received csr platform (by decide) (by decide) filled)
    rintro low after ⟨copied, took⟩
    have bytes : ∀ i < i2cSmbusBlockMax, low i = s.stream (s.taken + i) := by
      intro i inside
      rw [copied]
      exact staged_page_byte platform.recvBuf (by decide) inside
    have count : low 0 = s.stream s.taken := bytes 0 (by decide)
    have extra : (if msg.flags &&& i2cClientPec ≠ 0 then 2 else 1 : Int) = msg.blockExtra := by
      unfold I2cMsg.blockExtra
      split <;> rfl
    simp only [placePage, block, if_true, count, extra]
    by_cases tooLong : platform.charValue (s.stream s.taken) > i2cSmbusBlockMax
    · rw [if_pos tooLong]
      exact fun succeeded => absurd succeeded (by decide : -einval ≠ 0)
    · rw [if_neg tooLong]
      refine fun _ => ⟨rfl, fun i inside received => ?_, took.taken⟩
      have stored := Memory.memcpy_copied buf low 0 0 inside
      rwa [Nat.zero_add i, bytes i received] at stored

/-- A block read, which has one pass. -/
theorem block_read_stored (block : msg.recvLen = true) (s : Iobuf T) :
    (stagedRead platform { msg with buf := some buf }).Wp (iobufController csr) (fun _ _ => True)
      (fun outcome after => ∃ state : ReadState,
        BlockStored platform s msg (outcome.1.1, state) after ∧
          outcome.1.2 = { state.msg with buf := some state.memory }) s := by
  have length : I2cMsg.rxLen { msg with buf := some buf } = i2cSmbusBlockMax :=
    if_pos (by simpa [I2cMsg.recvLen] using block)
  refine (wp_writel _ _ _ _ _ _ _).mpr ⟨trivial, ?_⟩
  have last : i2cSmbusBlockMax - min fbiobI2cRxPayloadMax i2cSmbusBlockMax = 0 := by decide
  rw [length, stagedReadLoop, if_neg (by decide)]
  apply Program.Wp.seq
  · apply Program.Wp.seq (block_chunk_stored csr platform { msg with buf := some buf } buf block _)
    rintro chunk after stored
    apply Program.Wp.ite
    · exact fun failed => stored
    · intro succeeded
      rw [last, stagedReadLoop, if_pos rfl]
      exact fun _ => stored (not_not.mp succeeded)
  · exact fun outcome after stored => ⟨outcome.1.2, stored, rfl⟩

end BlockRead

/-! ## Every block read -/

/-- A count that leaves room for the extra bytes is small as a plain `char` too. -/
theorem char_value_small (platform : Platform) {byte : BitVec 8} (small : byte.toNat < 128) :
    platform.charValue byte = byte.toNat := by
  unfold Platform.charValue
  split
  · exact BitVec.toInt_eq_toNat_of_lt (by omega)
  · rfl

/-- A block read that returns 0 hands over received bytes only, with a count in
range, exactly when the whole block fits the 32 bytes that were asked for: a count
of at most 31, or of at most 30 with a packet error code. -/
theorem block_read_delivers_iff {T : Type} (csr : MmioDevice T) (platform : Platform)
    (msg : I2cMsg) (buf : Memory) (block : msg.recvLen = true) (s : Iobuf T)
    (returned : ((fbiobI2cRead platform { msg with buf := some buf }).result
      (iobufController csr) s).1 = 0) :
    BlockDelivered s msg.blockExtra
        ((fbiobI2cRead platform { msg with buf := some buf }).result (iobufController csr) s).2
        ((fbiobI2cRead platform { msg with buf := some buf }).final (iobufController csr) s) ↔
      (s.stream s.taken).toNat + msg.blockExtra ≤ i2cSmbusBlockMax := by
  obtain ⟨state, stored, outcome⟩ := (block_read_stored csr platform msg buf block s).outcome
  have recorded := staged_read_eq platform { msg with buf := some buf }
  rw [recorded, Program.result_bind, Program.result_pure] at returned ⊢
  rw [Program.final_bind, Program.final_pure]
  obtain ⟨length, bytes, taken⟩ := stored returned
  have extra : 1 ≤ msg.blockExtra := by
    unfold I2cMsg.blockExtra
    split <;> decide
  rw [outcome]
  constructor
  · rintro ⟨_, length, _, _, received⟩
    by_contra tooLong
    have beyond := (received i2cSmbusBlockMax (by omega)).1
    omega
  · intro fits
    have whole : state.msg.len.toNat = (s.stream s.taken).toNat + msg.blockExtra := by
      rw [length, char_value_small platform (by simp only [i2cSmbusBlockMax] at fits; omega),
        ← Int.natCast_add, BitVec.ofInt_natCast, BitVec.toNat_ofNat]
      simp only [i2cSmbusBlockMax] at fits
      omega
    refine ⟨by omega, whole, state.memory, rfl, fun i inside => ?_⟩
    have asked : i < i2cSmbusBlockMax :=
      Nat.lt_of_lt_of_le inside (whole.trans_le fits)
    exact ⟨by rw [taken]; omega, bytes i inside asked⟩

/-- A slave whose first byte is the count of its block. -/
def blockSlave (count : BitVec 8) : Iobuf Unit where
  buffers := ⟨0, fun _ => 0, fun _ => 0⟩
  stream := fun i => if i = 0 then count else 0x55
  taken := 0
  receives := 0
  sent := []
  csr := ()

/-- A block read of any length to the address 0x50. -/
def blockMsg : I2cMsg := zeroMsg (i2cMRd ||| i2cMRecvLen) 1

/-- A block of two bytes is delivered. -/
theorem short_block_delivered :
    BlockDelivered (blockSlave 2) 1
      ((fbiobI2cRead zeroPlatform blockMsg).result (iobufController promptController)
        (blockSlave 2)).2
      ((fbiobI2cRead zeroPlatform blockMsg).final (iobufController promptController)
        (blockSlave 2)) :=
  (block_read_delivers_iff promptController zeroPlatform blockMsg (fun _ => 0) (by decide)
    (blockSlave 2) (by decide +kernel)).mpr (by decide)

/-- Of a block of 32 bytes the last byte is never received: what is stored is what
the staging buffer held there. -/
theorem full_block_overread :
    ((fbiobI2cRead zeroPlatform blockMsg).result (iobufController promptController)
        (blockSlave 32)).1 = 0 ∧
      ¬BlockDelivered (blockSlave 32) 1
        ((fbiobI2cRead zeroPlatform blockMsg).result (iobufController promptController)
          (blockSlave 32)).2
        ((fbiobI2cRead zeroPlatform blockMsg).final (iobufController promptController)
          (blockSlave 32)) := by
  have length : ((fbiobI2cRead zeroPlatform blockMsg).result (iobufController promptController)
      (blockSlave 32)).2.len = 33 := by decide +kernel
  have taken : ((fbiobI2cRead zeroPlatform blockMsg).final (iobufController promptController)
      (blockSlave 32)).taken = 32 := by decide +kernel
  refine ⟨by decide +kernel, ?_⟩
  rintro ⟨_, _, _, _, received⟩
  have beyond := (received 32 (by rw [length]; decide)).1
  rw [taken] at beyond
  exact absurd beyond (by decide)

end FbossBsp.I2cMaster
