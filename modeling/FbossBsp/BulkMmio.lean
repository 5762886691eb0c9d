import FbossBsp.Kernel

/-!
# Bulk copies between a buffer and a window of registers

The IOB and DOM FPGAs expect aligned 32-bit accesses only. A copy moves whole
words first and one partial word last; a partial write pads its word with
zeros, and a partial read stores only the remaining bytes.
-/

namespace FbossBsp

open Interaction

/-- `FBIOB_IO_SIZE`: the bytes of one register access. -/
def fbiobIoSize : Nat := 4

/-- The word loop of `fbiob_bulk_read`; `wptr` is the offset into the buffer. -/
def bulkReadWords (mmio wptr : Nat) (buf : Memory) : (words : Nat) → Mmio Memory
  | 0 => pure buf
  | words + 1 => do
    let val ← readl mmio
    bulkReadWords (mmio + fbiobIoSize) (wptr + fbiobIoSize) (buf.store32 wptr val) words

/-- `fbiob_bulk_read`. The word count is a `u32` whatever the size is. -/
def fbiobBulkRead (mmio : Nat) (buf : Memory) (size : Nat) : Mmio Memory := do
  let words := size / fbiobIoSize % 2 ^ 32
  let remainder := size % fbiobIoSize
  let buf ← bulkReadWords mmio 0 buf words
  if remainder > 0 then do
    let val ← readl (mmio + words * fbiobIoSize)
    let bytes := Memory.store32 (fun _ => 0) 0 val
    pure (buf.memcpy (words * fbiobIoSize) bytes 0 remainder)
  else pure buf

/-- The word loop of `fbiob_bulk_write`; `wptr` is the offset into the buffer. -/
def bulkWriteWords (mmio wptr : Nat) (buf : Memory) : (words : Nat) → Mmio Unit
  | 0 => pure ()
  | words + 1 => do
    writel (buf.load32 wptr) mmio
    bulkWriteWords (mmio + fbiobIoSize) (wptr + fbiobIoSize) buf words

/-- `fbiob_bulk_write`. The word count is a `u32` whatever the size is. -/
def fbiobBulkWrite (mmio : Nat) (buf : Memory) (size : Nat) : Mmio Unit := do
  let words := size / fbiobIoSize % 2 ^ 32
  let remainder := size % fbiobIoSize
  bulkWriteWords mmio 0 buf words
  if remainder > 0 then
    let val := (Memory.memcpy (fun _ => 0) 0 buf (words * fbiobIoSize) remainder).load32 0
    writel val (mmio + words * fbiobIoSize)
  else pure ()

/-- An access inside the `size` bytes of the window that starts at `mmio`. -/
def InWindow (mmio size : Nat) (offset : Nat) : Prop := mmio ≤ offset ∧ offset < mmio + size

/-- The operation reads a register of the window. -/
def ReadsWindow (mmio size : Nat) (op : MmioOp) : Prop :=
  ∃ offset, op = .readl offset ∧ InWindow mmio size offset

/-- The operation reads an aligned word of the window. -/
def ReadsWord (mmio size : Nat) (op : MmioOp) : Prop :=
  ∃ word, op = .readl (mmio + 4 * word) ∧ 4 * word < size

/-- Reading a word of the window stays inside it. -/
theorem ReadsWord.inside {mmio size : Nat} {op : MmioOp} (reads : ReadsWord mmio size op) :
    ReadsWindow mmio size op := by
  obtain ⟨word, rfl, inside⟩ := reads
  exact ⟨_, rfl, by omega, by omega⟩

/-- The operation writes a register of the window. -/
def WritesWindow (mmio size : Nat) (op : MmioOp) : Prop :=
  ∃ offset val, op = .writel offset val ∧ InWindow mmio size offset

/-- The operation writes an aligned word of the window. -/
def WritesWord (mmio size : Nat) (op : MmioOp) : Prop :=
  ∃ word val, op = .writel (mmio + 4 * word) val ∧ 4 * word < size

/-- Writing a word of the window stays inside it. -/
theorem WritesWord.inside {mmio size : Nat} {op : MmioOp} (writes : WritesWord mmio size op) :
    WritesWindow mmio size op := by
  obtain ⟨word, val, rfl, inside⟩ := writes
  exact ⟨_, val, rfl, by omega, by omega⟩

/-- The words read by a copy are aligned: each starts inside the copied bytes. -/
theorem bulk_read_words_aligned (mmio wptr : Nat) (buf : Memory) (words : Nat) :
    (bulkReadWords mmio wptr buf words).Conforms (ReadsWord mmio (4 * words)) (fun _ => True) := by
  induction words generalizing mmio wptr buf with
  | zero => trivial
  | succ words inductionHypothesis =>
    refine ⟨⟨0, rfl, by omega⟩, fun val => ?_⟩
    refine (inductionHypothesis (mmio + 4) (wptr + 4) (buf.store32 wptr val)).mono ?_ fun _ _ => trivial
    rintro op ⟨word, rfl, inside⟩
    exact ⟨word + 1, by congr 1; omega, by omega⟩

/-- The words written by a copy are aligned: each starts inside the copied bytes. -/
theorem bulk_write_words_aligned (mmio wptr : Nat) (buf : Memory) (words : Nat) :
    (bulkWriteWords mmio wptr buf words).Conforms (WritesWord mmio (4 * words))
      (fun _ => True) := by
  induction words generalizing mmio wptr with
  | zero => trivial
  | succ words inductionHypothesis =>
    refine ⟨⟨0, buf.load32 wptr, rfl, by omega⟩, fun _ => ?_⟩
    refine (inductionHypothesis (mmio + 4) (wptr + 4)).mono ?_ fun _ _ => trivial
    rintro op ⟨word, val, rfl, inside⟩
    exact ⟨word + 1, val, by congr 1; omega, by omega⟩

/-- A bulk write of some words stays inside their window. -/
theorem bulk_write_words_conforms (mmio wptr : Nat) (buf : Memory) (words : Nat) :
    (bulkWriteWords mmio wptr buf words).Conforms (WritesWindow mmio (4 * words))
      (fun _ => True) :=
  (bulk_write_words_aligned mmio wptr buf words).mono (fun _ => WritesWord.inside) fun _ _ => trivial

/-- The words that are counted, wrapped or not, are whole words of the size. -/
theorem whole_words_fit (size : Nat) : 4 * (size / 4 % 2 ^ 32) ≤ size - size % 4 := by
  have truncated : size / 4 % 2 ^ 32 ≤ size / 4 := Nat.mod_le _ _
  omega

/-- A bulk read only reads aligned words, the last of which may reach behind the size. -/
theorem bulk_read_aligned (mmio : Nat) (buf : Memory) (size : Nat) :
    (fbiobBulkRead mmio buf size).Conforms (ReadsWord mmio size) (fun _ => True) := by
  have whole := whole_words_fit size
  have words : (bulkReadWords mmio 0 buf (size / fbiobIoSize % 2 ^ 32)).Conforms
      (ReadsWord mmio size) fun _ => True := by
    refine (bulk_read_words_aligned mmio 0 buf _).mono ?_ fun _ _ => trivial
    rintro op ⟨word, rfl, inside⟩
    simp only [fbiobIoSize] at inside
    exact ⟨word, rfl, by omega⟩
  apply words.bind
  intro _ _
  simp only [fbiobIoSize]
  apply Program.Conforms.ite
  · intro partly
    exact ⟨⟨_, by rw [Nat.mul_comm], by omega⟩, fun _ => trivial⟩
  · intro aligned
    trivial

/-- A bulk read only reads, and only inside the window of its size. -/
theorem bulk_read_conforms (mmio : Nat) (buf : Memory) (size : Nat) :
    (fbiobBulkRead mmio buf size).Conforms (ReadsWindow mmio size) (fun _ => True) :=
  (bulk_read_aligned mmio buf size).mono (fun _ => ReadsWord.inside) fun _ _ => trivial

/-- A bulk write only writes aligned words, the last of which may be partly padding. -/
theorem bulk_write_aligned (mmio : Nat) (buf : Memory) (size : Nat) :
    (fbiobBulkWrite mmio buf size).Conforms (WritesWord mmio size) (fun _ => True) := by
  have whole := whole_words_fit size
  have words : (bulkWriteWords mmio 0 buf (size / fbiobIoSize % 2 ^ 32)).Conforms
      (WritesWord mmio size) fun _ => True := by
    refine (bulk_write_words_aligned mmio 0 buf _).mono ?_ fun _ _ => trivial
    rintro op ⟨word, val, rfl, inside⟩
    simp only [fbiobIoSize] at inside
    exact ⟨word, val, rfl, by omega⟩
  apply words.bind
  intro _ _
  simp only [fbiobIoSize]
  apply Program.Conforms.ite
  · intro partly
    exact ⟨⟨_, _, by rw [Nat.mul_comm], by omega⟩, fun _ => trivial⟩
  · intro aligned
    trivial

/-- A bulk write only writes, and only inside the window of its size. -/
theorem bulk_write_conforms (mmio : Nat) (buf : Memory) (size : Nat) :
    (fbiobBulkWrite mmio buf size).Conforms (WritesWindow mmio size) (fun _ => True) :=
  (bulk_write_aligned mmio buf size).mono (fun _ => WritesWord.inside) fun _ _ => trivial

/-! ## What a copy moves -/

section Windows

variable {S : Type} {device : MmioDevice S} {mmio size : Nat}

/-- In state `s` the window reads as `page`, and reading it changes nothing. -/
def ShowsPage (device : MmioDevice S) (mmio size : Nat) (page : Memory) (s : S) : Prop :=
  ∀ offset < size, device (.readl (mmio + offset)) s = (page.load32 offset, s)

/-- A word written to the window is stored in the page that the state holds. -/
def StoresPage (device : MmioDevice S) (mmio size : Nat) (holding : Memory → S) : Prop :=
  ∀ offset < size, ∀ page val,
    device (.writel (mmio + offset) val) (holding page) = ((), holding (page.store32 offset val))

/-- Every read of the window shows `page`, and the state counts it. -/
def ShowsWords (device : MmioDevice S) (mmio size : Nat) (page : Memory) (counting : Nat → S) :
    Prop :=
  ∀ offset < size, ∀ count,
    device (.readl (mmio + offset)) (counting count) = (page.load32 offset, counting (count + 1))

/-- A word written to the window is stored in the page, and the state counts it. -/
def StoresWords (device : MmioDevice S) (mmio size : Nat) (counting : Nat → Memory → S) : Prop :=
  ∀ offset < size, ∀ count page val,
    device (.writel (mmio + offset) val) (counting count page) =
      ((), counting (count + 1) (page.store32 offset val))

/-- The number of words a copy of `size` bytes moves. -/
def wordsOf (size : Nat) : Nat := (size + fbiobIoSize - 1) / fbiobIoSize

/-- Below 2^34 bytes the 32-bit word count does not wrap. -/
theorem word_count {size : Nat} (countable : size < 2 ^ 34) :
    size / fbiobIoSize % 2 ^ 32 = size / 4 := by
  simp only [fbiobIoSize]
  omega

/-- A copy with a remainder moves one word more than it has whole words. -/
theorem words_of_partial {size : Nat} (partly : size % 4 > 0) : wordsOf size = size / 4 + 1 := by
  simp only [wordsOf, fbiobIoSize]
  omega

/-- A copy without a remainder moves its whole words. -/
theorem words_of_whole {size : Nat} (aligned : ¬size % 4 > 0) : wordsOf size = size / 4 := by
  simp only [wordsOf, fbiobIoSize]
  omega

/-- The words of a copy have all of its bytes. -/
theorem words_cover (size : Nat) : min size (fbiobIoSize * wordsOf size) = size := by
  simp only [wordsOf, fbiobIoSize]
  omega

/-- A page after `size` bytes were copied into it: the last word is padded. -/
def padded (page buf : Memory) (size : Nat) : Memory :=
  page.memcpy 0 (Memory.memcpy (fun _ => 0) 0 buf 0 size) 0
    ((size + fbiobIoSize - 1) / fbiobIoSize * fbiobIoSize)

/-- The copied bytes are those of the buffer. -/
theorem padded_copied (page buf : Memory) {size i : Nat} (inside : i < size) :
    padded page buf size i = buf i := by
  have covered : i < (size + fbiobIoSize - 1) / fbiobIoSize * fbiobIoSize := by
    simp only [fbiobIoSize]
    omega
  simp [padded, Memory.memcpy, inside, covered]

/-- The word loop of a read copies the words of the page, and reads each once. -/
theorem bulk_read_words_counted {page : Memory} {counting : Nat → S}
    (shown : ShowsWords device mmio size page counting) (wptr count : Nat) (buf : Memory)
    (words : Nat) (fits : wptr + 4 * words ≤ size) :
    (bulkReadWords (mmio + wptr) wptr buf words).Wp device (fun _ _ => True)
      (fun read after => read = buf.memcpy wptr page wptr (4 * words) ∧
        after = counting (count + words)) (counting count) := by
  induction words generalizing wptr count buf with
  | zero =>
    refine ⟨?_, rfl⟩
    funext i
    simp [Memory.memcpy]
  | succ words inductionHypothesis =>
    have first := shown wptr (by omega) count
    refine (wp_readl _ _ _ _ _ _).mpr ⟨trivial, ?_⟩
    rw [first, Memory.store32_load32_eq]
    refine (inductionHypothesis (wptr + 4) (count + 1) _ (by omega)).weaken ?_
    rintro read after ⟨copied, counted⟩
    refine ⟨?_, by rw [counted, Nat.add_right_comm, Nat.add_assoc]⟩
    rw [copied, Memory.memcpy_adjacent]
    congr 1
    omega

/-- A bulk read of a window that shows a page copies the page, and reads each word
once. The size stays below what the 32-bit word count can tell. -/
theorem bulk_read_counted {page : Memory} {counting : Nat → S}
    (shown : ShowsWords device mmio size page counting) (count : Nat) (buf : Memory)
    (countable : size < 2 ^ 34) :
    (fbiobBulkRead mmio buf size).Wp device (fun _ _ => True)
      (fun read after => read = buf.memcpy 0 page 0 size ∧
        after = counting (count + wordsOf size)) (counting count) := by
  have total := word_count countable
  have whole : size / 4 * 4 + size % 4 = size := by omega
  unfold fbiobBulkRead
  simp only [total]
  apply Program.Wp.seq (bulk_read_words_counted shown 0 count buf (size / 4) (by omega))
  rintro read after ⟨copied, rfl⟩
  apply Program.Wp.ite
  · intro partly
    simp only [fbiobIoSize] at partly ⊢
    have last := shown (size / 4 * 4) (by omega) (count + size / 4)
    have rounded := words_of_partial partly
    refine (wp_readl _ _ _ _ _ _).mpr ⟨trivial, ?_⟩
    rw [last, Memory.store32_load32_eq, Memory.memcpy_through _ _ _ _ _ (by omega), rounded]
    refine ⟨?_, rfl⟩
    have aligned : 4 * (size / 4) = 0 + size / 4 * 4 := by omega
    have joined := Memory.memcpy_adjacent buf page 0 0 (size / 4 * 4) (size % 4)
    rw [copied, aligned, Nat.zero_add] at *
    simpa [whole] using joined
  · intro aligned
    simp only [fbiobIoSize] at aligned
    have rounded := words_of_whole aligned
    refine ⟨?_, by rw [rounded]⟩
    rw [copied]
    congr 1
    omega

/-- A bulk read of a window that shows a page copies the page. -/
theorem bulk_read_shown {page : Memory} {s : S} (shown : ShowsPage device mmio size page s)
    (buf : Memory) (countable : size < 2 ^ 34) :
    (fbiobBulkRead mmio buf size).Wp device (fun _ _ => True)
      (fun read after => read = buf.memcpy 0 page 0 size ∧ after = s) s := by
  have uncounted : ShowsWords device mmio size page fun _ => s :=
    fun offset inside _ => shown offset inside
  exact bulk_read_counted uncounted 0 buf countable

/-- The word loop of a write stores the words of the buffer, and writes each once. -/
theorem bulk_write_words_counted {counting : Nat → Memory → S}
    (stored : StoresWords device mmio size counting) (wptr count : Nat) (page buf : Memory)
    (words : Nat) (fits : wptr + 4 * words ≤ size) :
    (bulkWriteWords (mmio + wptr) wptr buf words).Wp device (fun _ _ => True)
      (fun _ after => after = counting (count + words) (page.memcpy wptr buf wptr (4 * words)))
      (counting count page) := by
  induction words generalizing wptr count page with
  | zero =>
    refine congrArg (counting count) ?_
    funext i
    simp [Memory.memcpy]
  | succ words inductionHypothesis =>
    have first := stored wptr (by omega) count page (buf.load32 wptr)
    refine (wp_writel _ _ _ _ _ _ _).mpr ⟨trivial, ?_⟩
    rw [first, Memory.store32_load32_eq]
    refine (inductionHypothesis (wptr + 4) (count + 1) _ (by omega)).weaken ?_
    rintro _ after copied
    rw [copied, Memory.memcpy_adjacent, Nat.add_right_comm count, Nat.add_assoc count]
    congr 2
    omega

/-- A bulk write stores the buffer in the page of the window, pads the last word
and writes each word once. -/
theorem bulk_write_counted {counting : Nat → Memory → S}
    (stored : StoresWords device mmio size counting) (count : Nat) (page buf : Memory)
    (countable : size < 2 ^ 34) :
    (fbiobBulkWrite mmio buf size).Wp device (fun _ _ => True)
      (fun _ after => after = counting (count + wordsOf size) (padded page buf size))
      (counting count page) := by
  have total := word_count countable
  unfold fbiobBulkWrite
  simp only [total]
  apply Program.Wp.seq (bulk_write_words_counted stored 0 count page buf (size / 4) (by omega))
  rintro _ after rfl
  apply Program.Wp.ite
  · intro partly
    simp only [fbiobIoSize] at partly ⊢
    have last := stored (size / 4 * 4) (by omega) (count + size / 4)
    have rounded := words_of_partial partly
    refine ⟨trivial, ?_⟩
    rw [last, Memory.store32_load32_eq, rounded]
    refine congrArg (counting (count + size / 4 + 1)) ?_
    funext i
    simp only [Memory.memcpy, padded, fbiobIoSize]
    by_cases word : size / 4 * 4 ≤ i
    · by_cases inside : i < size
      · simp [show i < size / 4 * 4 + 4 by omega, show i < (size + 3) / 4 * 4 by omega, word,
          inside, show i - size / 4 * 4 < size % 4 by omega]
      · by_cases padding : i < size / 4 * 4 + 4
        · simp [show i < (size + 3) / 4 * 4 by omega, word, inside, padding,
            show ¬i - size / 4 * 4 < size % 4 by omega]
        · simp [show ¬i < (size + 3) / 4 * 4 by omega, padding,
            show ¬i < 4 * (size / 4) by omega]
    · simp [word, show i < 4 * (size / 4) by omega, show i < (size + 3) / 4 * 4 by omega,
        show i < size by omega]
  · intro aligned
    simp only [fbiobIoSize] at aligned
    have rounded := words_of_whole aligned
    rw [rounded]
    refine congrArg (counting (count + size / 4)) ?_
    funext i
    simp only [Memory.memcpy, padded, fbiobIoSize]
    by_cases inside : i < size
    · simp [inside, show i < 4 * (size / 4) by omega, show i < (size + 3) / 4 * 4 by omega]
    · simp [show ¬i < 4 * (size / 4) by omega, show ¬i < (size + 3) / 4 * 4 by omega]

/-- A bulk write stores the buffer in the page of the window, and pads the last word. -/
theorem bulk_write_stored {holding : Memory → S} (stored : StoresPage device mmio size holding)
    (page buf : Memory) (countable : size < 2 ^ 34) :
    (fbiobBulkWrite mmio buf size).Wp device (fun _ _ => True)
      (fun _ after => after = holding (padded page buf size)) (holding page) := by
  have uncounted : StoresWords device mmio size fun _ => holding :=
    fun offset inside _ => stored offset inside
  exact bulk_write_counted uncounted 0 page buf countable

end Windows

end FbossBsp
