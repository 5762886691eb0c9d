import FbossBsp.BulkMmio

/-!
# Copies to a window and back

A bulk write followed by a bulk read of the same size returns the bytes that were
written. Both loops count their words down in an unsigned 32-bit counter, tested
before it is decremented, while the size is of 64 bits.
-/

namespace FbossBsp

open Interaction

/-! ## The loops as they count -/

/-- The loop `while (words--)` of `fbiob_bulk_read`. It returns nothing where it still
runs after `fuel` tests of the counter. -/
def bulkReadWhile : (fuel mmio wptr : Nat) → (buf : Memory) → (words : BitVec 32) →
    Mmio (Option Memory)
  | 0, _, _, _, _ => pure none
  | fuel + 1, mmio, wptr, buf, words =>
    if words ≠ 0 then do
      let val ← readl mmio
      bulkReadWhile fuel (mmio + fbiobIoSize) (wptr + fbiobIoSize) (buf.store32 wptr val)
        (words - 1)
    else pure (some buf)

/-- The loop `while (words--)` of `fbiob_bulk_write`. -/
def bulkWriteWhile : (fuel mmio wptr : Nat) → (buf : Memory) → (words : BitVec 32) →
    Mmio (Option Unit)
  | 0, _, _, _, _ => pure none
  | fuel + 1, mmio, wptr, buf, words =>
    if words ≠ 0 then do
      writel (buf.load32 wptr) mmio
      bulkWriteWhile fuel (mmio + fbiobIoSize) (wptr + fbiobIoSize) buf (words - 1)
    else pure (some ())

/-- A word count that is not zero is one more than the next one. -/
theorem count_down {words : BitVec 32} (running : words ≠ 0) :
    words.toNat = (words - 1).toNat + 1 := by
  have positive : 0 < words.toNat := by
    rw [Nat.pos_iff_ne_zero]
    intro zero
    exact running (BitVec.eq_of_toNat_eq zero)
  have one : (1 : BitVec 32) ≤ words := positive
  rw [BitVec.toNat_sub_of_le one]
  exact (Nat.sub_add_cancel positive).symm

/-- The loop of a read ends after as many words as the counter tells. -/
theorem bulk_read_while (mmio wptr : Nat) (buf : Memory) {fuel : Nat} {words : BitVec 32}
    (enough : words.toNat < fuel) :
    bulkReadWhile fuel mmio wptr buf words =
      bulkReadWords mmio wptr buf words.toNat >>= fun read => pure (some read) := by
  induction fuel generalizing mmio wptr buf words with
  | zero => exact absurd enough (Nat.not_lt_zero _)
  | succ fuel inductionHypothesis =>
    unfold bulkReadWhile
    split
    · rename_i running
      have next := count_down running
      have shorter : (words - 1).toNat < fuel := by omega
      rw [next]
      exact congrArg (Program.perform (.readl mmio)) (funext fun val =>
        inductionHypothesis _ _ _ shorter)
    · rename_i ended
      rw [not_not.mp ended]
      rfl

/-- With fuel enough, the loop of the source is the loop over the number of words. -/
theorem bulk_write_while (mmio wptr : Nat) (buf : Memory) {fuel : Nat} {words : BitVec 32}
    (enough : words.toNat < fuel) :
    bulkWriteWhile fuel mmio wptr buf words =
      bulkWriteWords mmio wptr buf words.toNat >>= fun _ => pure (some ()) := by
  induction fuel generalizing mmio wptr words with
  | zero => exact absurd enough (Nat.not_lt_zero _)
  | succ fuel inductionHypothesis =>
    unfold bulkWriteWhile
    split
    · rename_i running
      have next := count_down running
      have shorter : (words - 1).toNat < fuel := by omega
      rw [next]
      exact congrArg (Program.perform (.writel mmio (buf.load32 wptr))) (funext fun _ =>
        inductionHypothesis _ _ shorter)
    · rename_i ended
      rw [not_not.mp ended]
      rfl

/-! ## The words of a write -/

/-- The buffer with zeros for what is behind its `size` bytes. -/
def zeroPadded (buf : Memory) (size : Nat) : Memory := Memory.memcpy (fun _ => 0) 0 buf 0 size

/-- The words of the buffer, written to consecutive registers. -/
def consecutiveWrites (mmio : Nat) (buf : Memory) (words : Nat) : List MmioOp :=
  (List.range words).map fun word =>
    .writel (mmio + fbiobIoSize * word) (buf.load32 (fbiobIoSize * word))

/-- A bulk write writes one word after another, in the order of their offsets. -/
theorem bulk_write_words_ops (mmio wptr : Nat) (buf : Memory) (words : Nat) :
    (bulkWriteWords mmio wptr buf words).Traces fun trace _ =>
      trace.map (·.op) = (List.range words).map fun word =>
        .writel (mmio + fbiobIoSize * word) (buf.load32 (wptr + fbiobIoSize * word)) := by
  induction words generalizing mmio wptr with
  | zero => rfl
  | succ words inductionHypothesis =>
    refine (traces_writel _ _ _ _).mpr ?_
    refine (inductionHypothesis (mmio + fbiobIoSize) (wptr + fbiobIoSize)).mono ?_
    intro trace _ rest
    rw [List.map_cons, rest, List.range_succ_eq_map, List.map_cons, List.map_map]
    congr 1
    apply List.map_congr_left
    intro word _
    have target : mmio + fbiobIoSize + fbiobIoSize * word = mmio + fbiobIoSize * word.succ := by
      rw [Nat.mul_succ]
      omega
    have source : wptr + fbiobIoSize + fbiobIoSize * word = wptr + fbiobIoSize * word.succ := by
      rw [Nat.mul_succ]
      omega
    rw [Function.comp_apply, target, source]

/-- The words that the counter tells. -/
def countedWords (size : Nat) : Nat := size / fbiobIoSize % 2 ^ 32

/-- The write of the bytes that are no whole word. -/
def tailWrites (mmio : Nat) (buf : Memory) (size : Nat) : List MmioOp :=
  if size % fbiobIoSize > 0 then
    [.writel (mmio + countedWords size * fbiobIoSize)
      ((Memory.memcpy (fun _ => 0) 0 buf (countedWords size * fbiobIoSize)
        (size % fbiobIoSize)).load32 0)]
  else []

/-- The accesses of a bulk write, whatever its size is. -/
theorem bulk_write_ops (mmio : Nat) (buf : Memory) (size : Nat) :
    (fbiobBulkWrite mmio buf size).Traces fun trace _ =>
      trace.map (·.op) =
        consecutiveWrites mmio buf (countedWords size) ++ tailWrites mmio buf size := by
  apply (bulk_write_words_ops mmio 0 buf (countedWords size)).bind
  intro trace _ whole
  simp only [Nat.zero_add] at whole
  apply Program.Traces.ite
  · intro partly _
    change List.map Event.op (trace ++ [_]) = _
    rw [List.map_append, whole, tailWrites, if_pos partly]
    rfl
  · intro aligned
    change List.map Event.op (trace ++ []) = _
    rw [List.append_nil, whole, tailWrites, if_neg aligned]
    exact (List.append_nil _).symm

/-- Below 2^34 bytes the writes are those of all words of the padded buffer. -/
theorem writes_all {size : Nat} (countable : size < 2 ^ 34) (mmio : Nat) (buf : Memory) :
    consecutiveWrites mmio buf (countedWords size) ++ tailWrites mmio buf size =
      consecutiveWrites mmio (zeroPadded buf size) (wordsOf size) := by
  have counted : countedWords size = size / 4 := word_count countable
  have whole : consecutiveWrites mmio buf (size / 4) =
      consecutiveWrites mmio (zeroPadded buf size) (size / 4) := by
    apply List.map_congr_left
    intro word inside
    have below := List.mem_range.mp inside
    congr 1
    apply Memory.load32_congr
    intro i small
    have copied := Memory.memcpy_copied (fun _ => 0) buf 0 0
      (show fbiobIoSize * word + i < size by simp only [fbiobIoSize]; omega)
    rw [Nat.zero_add] at copied
    exact copied.symm
  unfold tailWrites
  rw [counted, whole]
  split
  · rename_i partly
    simp only [fbiobIoSize] at partly
    have last : consecutiveWrites mmio (zeroPadded buf size) (size / 4 + 1) =
        consecutiveWrites mmio (zeroPadded buf size) (size / 4) ++
          [.writel (mmio + fbiobIoSize * (size / 4))
            ((zeroPadded buf size).load32 (fbiobIoSize * (size / 4)))] := by
      simp only [consecutiveWrites, List.range_succ, List.map_append, List.map_cons, List.map_nil]
    have tail : (Memory.memcpy (fun _ => 0) 0 buf (fbiobIoSize * (size / 4))
          (size % fbiobIoSize)).load32 0 =
        (zeroPadded buf size).load32 (fbiobIoSize * (size / 4)) := by
      apply Memory.load32_congr
      intro i small
      have same : i < size % 4 ↔ 4 * (size / 4) + i < size := by omega
      simp only [Memory.memcpy, zeroPadded, fbiobIoSize, Nat.zero_add, Nat.sub_zero, Nat.zero_le,
        true_and, same]
    have words := words_of_partial partly
    rw [words, last, Nat.mul_comm (size / 4), tail]
  · rename_i aligned
    simp only [fbiobIoSize] at aligned
    rw [words_of_whole aligned, List.append_nil]

/-! ## Back from the window -/

/-- A little-endian memory that is accessed by words. -/
def wordMemory : MmioDevice Memory
  | .readl offset, memory => (memory.load32 offset, memory)
  | .writel offset val, memory => ((), memory.store32 offset val)

/-- The memory with other bytes from an address on. -/
def overlaid (memory : Memory) (mmio : Nat) (page : Memory) : Memory := fun i =>
  if mmio ≤ i then page (i - mmio) else memory i

/-- A word of the window is a word of the page that lies over it. -/
theorem overlaid_load32 (memory page : Memory) (mmio offset : Nat) :
    (overlaid memory mmio page).load32 (mmio + offset) = page.load32 offset := by
  apply Memory.load32_congr
  intro i _
  rw [overlaid, if_pos (by omega), Nat.add_assoc, Nat.add_sub_cancel_left]

/-- Storing into the window stores into the page that lies over it. -/
theorem overlaid_store32 (memory page : Memory) (mmio offset : Nat) (val : BitVec 32) :
    (overlaid memory mmio page).store32 (mmio + offset) val =
      overlaid memory mmio (page.store32 offset val) := by
  funext i
  simp only [overlaid, Memory.store32]
  by_cases window : mmio ≤ i
  · have place : mmio + offset ≤ i ∧ i < mmio + offset + 4 ↔
        offset ≤ i - mmio ∧ i - mmio < offset + 4 := by omega
    simp only [window, if_true, place, Nat.sub_add_eq]
  · have before : ¬(mmio + offset ≤ i ∧ i < mmio + offset + 4) := by omega
    simp only [window, if_false, before]

/-- A memory whose window is laid over with its own bytes is unchanged. -/
theorem overlaid_self (memory : Memory) (mmio : Nat) :
    overlaid memory mmio (fun i => memory (mmio + i)) = memory := by
  funext i
  unfold overlaid
  split
  · rename_i window
    exact congrArg memory (Nat.add_sub_cancel' window)
  · rfl

/-- The memory after a bulk write. -/
theorem bulk_write_final {size : Nat} (countable : size < 2 ^ 34) (mmio : Nat)
    (buf memory : Memory) :
    (fbiobBulkWrite mmio buf size).final wordMemory memory =
      overlaid memory mmio (padded (fun i => memory (mmio + i)) buf size) := by
  have stored : StoresPage wordMemory mmio size (overlaid memory mmio) := by
    intro offset _ page val
    rw [← overlaid_store32]
    rfl
  have run := bulk_write_stored stored (fun i => memory (mmio + i)) buf countable
  rw [overlaid_self] at run
  exact run.outcome

/-- A bulk read of a memory copies its bytes from the address on. -/
theorem bulk_read_result {size : Nat} (countable : size < 2 ^ 34) (mmio : Nat)
    (dst memory page : Memory) :
    (fbiobBulkRead mmio dst size).result wordMemory (overlaid memory mmio page) =
      dst.memcpy 0 page 0 size := by
  have shown : ShowsPage wordMemory mmio size page (overlaid memory mmio page) := by
    intro offset _
    rw [← overlaid_load32 memory page mmio]
    rfl
  have run := bulk_read_shown shown dst countable
  exact run.outcome.1

/-- The bytes of the last word behind those of the buffer. -/
theorem padded_zero (page buf : Memory) {size i : Nat} (behind : size ≤ i)
    (inside : i < fbiobIoSize * wordsOf size) : padded page buf size i = 0 := by
  have covered : 0 ≤ i ∧ i < 0 + (size + fbiobIoSize - 1) / fbiobIoSize * fbiobIoSize := by
    rw [Nat.zero_add, Nat.mul_comm]
    exact ⟨Nat.zero_le i, inside⟩
  rw [padded, Memory.memcpy, if_pos covered]
  exact Memory.memcpy_beyond _ _ _ _ (by omega)

/-- Behind the last word nothing changes. -/
theorem padded_beyond (page buf : Memory) {size i : Nat}
    (beyond : fbiobIoSize * wordsOf size ≤ i) : padded page buf size i = page i := by
  apply Memory.memcpy_beyond
  rw [Nat.zero_add, Nat.mul_comm]
  exact beyond

/-! ## Copies -/

/-- Both loops end with their words copied, and need one test of the counter more than
they have words. -/
structure LoopsEnd (mmio size : Nat) (buf dst : Memory) : Prop where
  read : ∀ fuel > countedWords size,
    bulkReadWhile fuel mmio 0 dst (BitVec.ofNat 32 (size / fbiobIoSize)) =
      bulkReadWords mmio 0 dst (countedWords size) >>= fun read => pure (some read)
  write : ∀ fuel > countedWords size,
    bulkWriteWhile fuel mmio 0 buf (BitVec.ofNat 32 (size / fbiobIoSize)) =
      bulkWriteWords mmio 0 buf (countedWords size) >>= fun _ => pure (some ())

/-- Both loops end, for every size. -/
theorem loops_end (mmio size : Nat) (buf dst : Memory) : LoopsEnd mmio size buf dst := by
  have counter : (BitVec.ofNat 32 (size / fbiobIoSize)).toNat = countedWords size :=
    BitVec.toNat_ofNat _ 32
  constructor
  · intro fuel enough
    rw [bulk_read_while mmio 0 dst (by rw [counter]; exact enough), counter]
  · intro fuel enough
    rw [bulk_write_while mmio 0 buf (by rw [counter]; exact enough), counter]

/-- The buffer `buf` is written to the memory and read back into `dst`. -/
structure CopiesBack (mmio size : Nat) (buf dst memory : Memory) : Prop where
  writes : ((fbiobBulkWrite mmio buf size).events wordMemory memory).map (·.op) =
    consecutiveWrites mmio (zeroPadded buf size) (wordsOf size)
  padding : ∀ i, size ≤ i → i < fbiobIoSize * wordsOf size →
    (fbiobBulkWrite mmio buf size).final wordMemory memory (mmio + i) = 0
  untouched : ∀ i, i < mmio ∨ mmio + fbiobIoSize * wordsOf size ≤ i →
    (fbiobBulkWrite mmio buf size).final wordMemory memory i = memory i
  returned : ∀ i < size, (fbiobBulkRead mmio dst size).result wordMemory
    ((fbiobBulkWrite mmio buf size).final wordMemory memory) i = buf i
  kept : ∀ i, size ≤ i → (fbiobBulkRead mmio dst size).result wordMemory
    ((fbiobBulkWrite mmio buf size).final wordMemory memory) i = dst i
  loops : LoopsEnd mmio size buf dst

/-- A size whose word count fits copies a buffer out and back unchanged. -/
theorem copies_back {size : Nat} (countable : size < 2 ^ 34) (mmio : Nat)
    (buf dst memory : Memory) : CopiesBack mmio size buf dst memory := by
  have after := bulk_write_final countable mmio buf memory
  have read := bulk_read_result countable mmio dst memory
    (padded (fun i => memory (mmio + i)) buf size)
  constructor
  · have ops := (bulk_write_ops mmio buf size).exec wordMemory memory
    rw [writes_all countable] at ops
    exact ops
  · intro i behind inside
    rw [after, overlaid, if_pos (Nat.le_add_right mmio i), Nat.add_sub_cancel_left]
    exact padded_zero _ _ behind inside
  · rintro i (before | beyond)
    · rw [after, overlaid, if_neg (by omega)]
    · rw [after, overlaid, if_pos (by omega), padded_beyond _ _ (by omega)]
      exact congrArg memory (by omega)
  · intro i inside
    have copied := Memory.memcpy_copied dst (padded (fun j => memory (mmio + j)) buf size) 0 0
      inside
    rw [Nat.zero_add] at copied
    rw [after, read, copied]
    exact padded_copied _ _ inside
  · intro i behind
    rw [after, read]
    exact Memory.memcpy_beyond _ _ _ _ (by omega)
  · exact loops_end mmio size buf dst

/-- A counter that wraps leaves words out. -/
theorem writes_too_few {size : Nat} (uncountable : 2 ^ 34 ≤ size) (mmio : Nat) (buf : Memory) :
    (consecutiveWrites mmio buf (countedWords size) ++ tailWrites mmio buf size).length <
      wordsOf size := by
  have tail : (tailWrites mmio buf size).length ≤ 1 := by
    unfold tailWrites
    split <;> simp
  rw [List.length_append, consecutiveWrites, List.length_map, List.length_range]
  simp only [countedWords, wordsOf, fbiobIoSize] at *
  omega

/-- A buffer comes back from the memory exactly where the 32-bit counter holds the number
of its words, that is, below 16 GiB. -/
theorem copies_back_iff (mmio size : Nat) (buf dst memory : Memory) :
    CopiesBack mmio size buf dst memory ↔ size < 2 ^ 34 := by
  constructor
  · intro copied
    by_contra uncountable
    have few := writes_too_few (Nat.not_lt.mp uncountable) mmio buf
    have ops := (bulk_write_ops mmio buf size).exec wordMemory memory
    rw [← ops, copied.writes, consecutiveWrites, List.length_map, List.length_range] at few
    exact absurd few (Nat.lt_irrefl _)
  · intro countable
    exact copies_back countable mmio buf dst memory

/-- Of 16 GiB nothing is written and nothing is read back. -/
theorem copy_16_gib :
    (fbiobBulkWrite 0 (fun _ => 1) (2 ^ 34)).events wordMemory (fun _ => 0) = [] ∧
      ¬CopiesBack 0 (2 ^ 34) (fun _ => 1) (fun _ => 0) (fun _ => 0) := by
  have silent : fbiobBulkWrite 0 (fun _ => 1) (2 ^ 34) = pure () := rfl
  have unread : fbiobBulkRead 0 (fun _ => 0) (2 ^ 34) = pure fun _ => 0 := rfl
  refine ⟨by rw [silent]; rfl, fun copied => ?_⟩
  have first := copied.returned 0 (by decide)
  rw [unread] at first
  exact absurd first (by decide)

end FbossBsp
