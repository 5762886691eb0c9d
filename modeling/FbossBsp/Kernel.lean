import FbossBsp.Interaction.Program
import Mathlib.Data.BitVec
import Mathlib.Data.Int.Notation
import Mathlib.Tactic.IntervalCases

/-!
# What the drivers take from the kernel

Error numbers, bit masks, byte memory and the two register buses. An MMIO
driver reads and writes 32-bit registers; a CPLD driver performs SMBus byte
transfers, each of which may fail with an error number.

The C type `int` is modeled by the integers: no modeled expression of that type
leaves its range. Registers and the fixed-width fields keep their width.
-/

namespace FbossBsp

open Interaction

/-! ## Error numbers -/

def eio : Int := 5
def enxio : Int := 6
def enomem : Int := 12
def efault : Int := 14
def ebusy : Int := 16
def eexist : Int := 17
def enodev : Int := 19
def einval : Int := 22
def enotty : Int := 25
def enospc : Int := 28
def eopnotsupp : Int := 95
def etimedout : Int := 110

/-- A check that comes first is passed by what the checks after it see. -/
theorem passes_iff {condition : Prop} [Decidable condition] {rest : Int} :
    (if condition then -einval else rest) = 0 ↔ ¬condition ∧ rest = 0 := by
  have refused : -einval ≠ 0 := by decide
  by_cases holds : condition <;> simp [holds, refused]

/-- A positive error number; the kernel reports it negated. -/
structure Errno where
  code : Nat
  positive : 0 < code
  bounded : code ≤ 4095

/-! ## Bit masks -/

/-- `BIT(n)` in a 32-bit register. -/
def bit (n : Nat) : BitVec 32 := 1#32 <<< n

/-- `GENMASK(h, l)` in the 64-bit `unsigned long`; C defines it for `l ≤ h < 64`. -/
def genmask (h l : Nat) : BitVec 64 :=
  (BitVec.allOnes 64 <<< l) &&& (BitVec.allOnes 64 >>> (63 - h))

/-- `GENMASK(h, l)` stored into a `u32`. -/
def genmask32 (h l : Nat) : BitVec 32 := (genmask h l).setWidth 32

/-- Inside the word, a mask has exactly the bits from `l` to `h`. -/
theorem genmask32_bit (h l i : Nat) (inside : h < 32) :
    (genmask32 h l).getLsbD i = (decide (l ≤ i) && decide (i ≤ h)) := by
  have low : (genmask h l).getLsbD i =
      (decide (i < 64) && (decide (l ≤ i) && decide (63 - h + i < 64))) := by
    simp only [genmask, BitVec.getLsbD_and, BitVec.getLsbD_shiftLeft, BitVec.getLsbD_ushiftRight,
      BitVec.getLsbD_allOnes]
    by_cases below : i < 64 <;> by_cases above : l ≤ i <;> simp [below, above]
    omega
  rw [genmask32, BitVec.getLsbD_setWidth, low]
  by_cases above : l ≤ i <;> by_cases bounded : i ≤ h <;> simp [above, bounded] <;> omega

/-- Assignment to a bit-field of `width` bits from bit `low` on. -/
def setField (word : BitVec 32) (low width : Nat) (val : BitVec 32) : BitVec 32 :=
  (word &&& ~~~genmask32 (low + width - 1) low) ||| ((val &&& genmask32 (width - 1) 0) <<< low)

/-- An assignment changes the bits of the field and no others. -/
theorem set_field_bit (word : BitVec 32) (low width : Nat) (val : BitVec 32) (i : Nat)
    (nonempty : 0 < width) (inside : low + width ≤ 32) (word32 : i < 32) :
    (setField word low width val).getLsbD i =
      if low ≤ i ∧ i < low + width then val.getLsbD (i - low) else word.getLsbD i := by
  simp only [setField, BitVec.getLsbD_or, BitVec.getLsbD_and, BitVec.getLsbD_not,
    BitVec.getLsbD_shiftLeft]
  rw [genmask32_bit _ _ _ (by omega), genmask32_bit _ _ _ (by omega)]
  by_cases covered : low ≤ i ∧ i < low + width
  · have upper : i ≤ low + width - 1 := by omega
    have within : i - low ≤ width - 1 := by omega
    simp [covered, upper, within, word32, Nat.not_lt.mpr covered.1]
  · by_cases lower : low ≤ i
    · have beyond : ¬i ≤ low + width - 1 := by omega
      have outside : ¬i - low ≤ width - 1 := by omega
      simp [covered, beyond, outside, word32]
    · simp [lower, Nat.not_le.mp lower, word32]

/-- A bit-field reads back what was assigned to it. -/
theorem set_field_inside (word : BitVec 32) {low width : Nat} (val : BitVec 32)
    (nonempty : 0 < width) (inside : low + width ≤ 32) :
    (setField word low width val).extractLsb' low width = val.extractLsb' 0 width := by
  apply BitVec.eq_of_getLsbD_eq
  intro i bit
  have covered : low ≤ low + i ∧ low + i < low + width := by omega
  rw [BitVec.getLsbD_extractLsb', BitVec.getLsbD_extractLsb',
    set_field_bit word low width val (low + i) nonempty inside (by omega), if_pos covered,
    Nat.add_sub_cancel_left, Nat.zero_add]

/-- An assignment to a bit-field leaves the others alone. -/
theorem set_field_outside (word : BitVec 32) {low width start len : Nat} (val : BitVec 32)
    (nonempty : 0 < width) (inside : low + width ≤ 32) (within : start + len ≤ 32)
    (apart : start + len ≤ low ∨ low + width ≤ start) :
    (setField word low width val).extractLsb' start len = word.extractLsb' start len := by
  apply BitVec.eq_of_getLsbD_eq
  intro i bit
  have uncovered : ¬(low ≤ start + i ∧ start + i < low + width) := by omega
  rw [BitVec.getLsbD_extractLsb', BitVec.getLsbD_extractLsb',
    set_field_bit word low width val (start + i) nonempty inside (by omega), if_neg uncovered]

/-- Two words clear on a mask are clear on it together. -/
theorem or_and_eq_zero {w : Nat} {first second mask : BitVec w} (one : first &&& mask = 0)
    (other : second &&& mask = 0) : (first ||| second) &&& mask = 0 := by
  have apart : (first ||| second) &&& mask = first &&& mask ||| second &&& mask := by
    apply BitVec.eq_of_getLsbD_eq
    intro i _
    simp only [BitVec.getLsbD_and, BitVec.getLsbD_or]
    exact Bool.and_or_distrib_right _ _ _
  rw [apart, one, other]
  exact BitVec.or_zero

/-- A mask that was just cleared is clear. -/
theorem and_not_and {w : Nat} (val mask : BitVec w) : (val &&& ~~~mask) &&& mask = 0 := by
  rw [BitVec.and_assoc, BitVec.not_and_self]
  exact BitVec.and_zero

/-- A mask that was just set is set. -/
theorem or_mask_and {w : Nat} (val mask : BitVec w) : (val ||| mask) &&& mask = mask := by
  apply BitVec.eq_of_getLsbD_eq
  intro i _
  simp only [BitVec.getLsbD_and, BitVec.getLsbD_or]
  cases mask.getLsbD i <;> simp

/-- A word clear on a mask is clear on every part of the mask. -/
theorem and_eq_zero_of_part {w : Nat} {val mask part : BitVec w} (clear : val &&& mask = 0)
    (inside : part &&& mask = part) : val &&& part = 0 := by
  rw [← inside, BitVec.and_comm part, ← BitVec.and_assoc, clear]
  exact BitVec.zero_and

/-! ## Byte memory -/

/-- The bytes at non-negative offsets from some pointer. -/
abbrev Memory := Nat → BitVec 8

namespace Memory

/-- `memcpy(dst + at, src + from, size)`. -/
def memcpy (dst : Memory) (dstAt : Nat) (src : Memory) (srcAt size : Nat) : Memory := fun i =>
  if dstAt ≤ i ∧ i < dstAt + size then src (srcAt + (i - dstAt)) else dst i

/-- Store one byte. -/
def store8 (memory : Memory) (offset : Nat) (val : BitVec 8) : Memory := fun i =>
  if i = offset then val else memory i

/-- Store a 32-bit value; the processors of these boards are little-endian. -/
def store32 (memory : Memory) (offset : Nat) (val : BitVec 32) : Memory := fun i =>
  if offset ≤ i ∧ i < offset + 4 then val.extractLsb' (8 * (i - offset)) 8 else memory i

/-- Load a little-endian 32-bit value. -/
def load32 (memory : Memory) (offset : Nat) : BitVec 32 :=
  (memory (offset + 3) ++ memory (offset + 2) ++ memory (offset + 1) ++ memory offset)

/-- The `size` bytes from `start` on. -/
def bytes (memory : Memory) (start size : Nat) : List (BitVec 8) :=
  (List.range size).map fun i => memory (start + i)

/-- Bytes that follow each other in memory are one run of bytes. -/
theorem bytes_append (memory : Memory) (start first second : Nat) :
    memory.bytes start first ++ memory.bytes (start + first) second =
      memory.bytes start (first + second) := by
  simp only [bytes, List.range_add, List.map_append, List.map_map, Function.comp_def, Nat.add_assoc]

/-- Equal bytes are equal words. -/
theorem load32_congr {memory other : Memory} {start otherStart : Nat}
    (same : ∀ i < 4, memory (start + i) = other (otherStart + i)) :
    memory.load32 start = other.load32 otherStart := by
  have first := same 0 (by decide)
  rw [Nat.add_zero, Nat.add_zero] at first
  unfold load32
  rw [same 3 (by decide), same 2 (by decide), same 1 (by decide), first]

/-- A stored word reads back byte for byte from where it was loaded. -/
theorem store32_load32 (dst src : Memory) (dstAt srcAt i : Nat) :
    dst.store32 dstAt (src.load32 srcAt) i =
      if dstAt ≤ i ∧ i < dstAt + 4 then src (srcAt + (i - dstAt)) else dst i := by
  by_cases inside : dstAt ≤ i ∧ i < dstAt + 4
  · have byte : ∀ k < 4, (src.load32 srcAt).extractLsb' (8 * k) 8 = src (srcAt + k) := by
      intro k small
      apply BitVec.eq_of_getLsbD_eq
      intro j inByte
      interval_cases k <;>
        simp only [load32, BitVec.getLsbD_extractLsb', BitVec.getLsbD_append, inByte, decide_true,
          Bool.true_and, Nat.mul_zero, Nat.zero_add, if_true, Nat.add_zero] <;>
        grind
    simp only [store32, inside, and_self, if_true, byte (i - dstAt) (by omega)]
  · simp only [store32, inside, if_false]

/-- Storing a loaded word copies four bytes. -/
theorem store32_load32_eq (dst src : Memory) (dstAt srcAt : Nat) :
    dst.store32 dstAt (src.load32 srcAt) = dst.memcpy dstAt src srcAt 4 := by
  funext i
  exact store32_load32 dst src dstAt srcAt i

/-- A copy moves the bytes of the source. -/
theorem memcpy_copied (dst src : Memory) (dstAt srcAt : Nat) {size i : Nat} (inside : i < size) :
    dst.memcpy dstAt src srcAt size (dstAt + i) = src (srcAt + i) := by
  simp [memcpy, inside]

/-- A copy changes nothing behind it. -/
theorem memcpy_beyond (dst src : Memory) (dstAt srcAt : Nat) {size i : Nat}
    (beyond : dstAt + size ≤ i) : dst.memcpy dstAt src srcAt size i = dst i := by
  simp [memcpy, Nat.not_lt.mpr beyond]

/-- Two adjacent copies are one. -/
theorem memcpy_adjacent (dst src : Memory) (dstAt srcAt first second : Nat) :
    (dst.memcpy dstAt src srcAt first).memcpy (dstAt + first) src (srcAt + first) second =
      dst.memcpy dstAt src srcAt (first + second) := by
  funext i
  simp only [memcpy]
  by_cases later : dstAt + first ≤ i
  · by_cases inside : i < dstAt + (first + second)
    · have source : srcAt + first + (i - (dstAt + first)) = srcAt + (i - dstAt) := by omega
      simp [show dstAt + first ≤ i ∧ i < dstAt + first + second by omega,
        show dstAt ≤ i ∧ i < dstAt + (first + second) by omega, source]
    · simp [show ¬(dstAt + first ≤ i ∧ i < dstAt + first + second) by omega,
        show ¬(dstAt ≤ i ∧ i < dstAt + (first + second)) by omega,
        show ¬(dstAt ≤ i ∧ i < dstAt + first) by omega]
  · by_cases inside : dstAt ≤ i
    · simp [show ¬(dstAt + first ≤ i ∧ i < dstAt + first + second) by omega,
        show dstAt ≤ i ∧ i < dstAt + (first + second) by omega,
        show dstAt ≤ i ∧ i < dstAt + first by omega]
    · simp [later, inside]

/-- A copy through a buffer that was filled at least as far is a direct copy. -/
theorem memcpy_through (dst buffer src : Memory) (dstAt srcAt : Nat) {size filled : Nat}
    (covered : size ≤ filled) :
    dst.memcpy dstAt (buffer.memcpy 0 src srcAt filled) 0 size =
      dst.memcpy dstAt src srcAt size := by
  funext i
  simp only [memcpy]
  split
  · have within : 0 ≤ 0 + (i - dstAt) ∧ 0 + (i - dstAt) < 0 + filled := by omega
    rw [if_pos within]
    simp
  · rfl

end Memory

/-! ## Memory-mapped registers -/

/-- One access to a 32-bit register, at its byte offset. -/
inductive MmioOp where
  | readl (offset : Nat)
  | writel (offset : Nat) (val : BitVec 32)
  deriving DecidableEq

/-- A read replies with the register's value. -/
@[reducible] def MmioOp.Reply : MmioOp → Type
  | .readl _ => BitVec 32
  | .writel _ _ => Unit

/-- The byte offset of the accessed register. -/
def MmioOp.offset : MmioOp → Nat
  | .readl offset => offset
  | .writel offset _ => offset

/-- A driver routine over memory-mapped registers. -/
abbrev Mmio := Program MmioOp MmioOp.Reply

/-- A controller seen through its registers. -/
abbrev MmioDevice (S : Type) := Device MmioOp MmioOp.Reply S

def readl (offset : Nat) : Mmio (BitVec 32) := .perform (.readl offset) .done

def writel (val : BitVec 32) (offset : Nat) : Mmio Unit := .perform (.writel offset val) .done

/-- The performed register accesses of a run. -/
abbrev Trace := List (Event MmioOp MmioOp.Reply)

/-- A register write continues with nothing learned. -/
theorem traces_writel {α : Type} (val : BitVec 32) (offset : Nat) (continuation : Unit → Mmio α)
    (T : Trace → α → Prop) :
    (writel val offset >>= continuation).Traces T ↔
      (continuation ()).Traces fun trace value => T (⟨.writel offset val, ()⟩ :: trace) value :=
  ⟨fun traced => traced (), fun traced _ => traced⟩

/-- A register read continues with any word. -/
theorem traces_readl {α : Type} (offset : Nat) (continuation : BitVec 32 → Mmio α)
    (T : Trace → α → Prop) :
    (readl offset >>= continuation).Traces T ↔
      ∀ val, (continuation val).Traces fun trace value => T (⟨.readl offset, val⟩ :: trace) value :=
  Iff.rfl

section Preconditions

variable {α S : Type} (device : MmioDevice S) (allowed : MmioOp → S → Prop)

/-- The precondition of a register write. -/
theorem wp_writel (val : BitVec 32) (offset : Nat) (continuation : Unit → Mmio α)
    (post : α → S → Prop) (state : S) :
    (writel val offset >>= continuation).Wp device allowed post state ↔
      allowed (.writel offset val) state ∧
        (continuation ()).Wp device allowed post (device (.writel offset val) state).2 :=
  Iff.rfl

/-- The precondition of a register read. -/
theorem wp_readl (offset : Nat) (continuation : BitVec 32 → Mmio α)
    (post : α → S → Prop) (state : S) :
    (readl offset >>= continuation).Wp device allowed post state ↔
      allowed (.readl offset) state ∧
        (continuation (device (.readl offset) state).1).Wp device allowed post
          (device (.readl offset) state).2 :=
  Iff.rfl

end Preconditions

/-- Registers that read back as they were last written. -/
def registerFile : MmioDevice (Nat → BitVec 32)
  | .readl offset, registers => (registers offset, registers)
  | .writel offset val, registers => ((), Function.update registers offset val)

/-! ## SMBus byte registers -/

/-- One SMBus byte-data transfer with the CPLD. -/
inductive SmbusOp where
  | readByteData (command : BitVec 8)
  | writeByteData (command value : BitVec 8)
  deriving DecidableEq

/-- A transfer replies with its byte, or fails with an error number. -/
@[reducible] def SmbusOp.Reply : SmbusOp → Type
  | .readByteData _ => Except Errno (BitVec 8)
  | .writeByteData _ _ => Except Errno Unit

/-- A driver routine over SMBus byte registers. -/
abbrev Smbus := Program SmbusOp SmbusOp.Reply

/-- The CPLD and the bus to it. -/
abbrev SmbusDevice (S : Type) := Device SmbusOp SmbusOp.Reply S

/-- The `s32` a byte read returns: the byte, or a negated error number. -/
def readResult : Except Errno (BitVec 8) → Int
  | .ok byte => byte.toNat
  | .error errno => -errno.code

/-- The `s32` a word read returns: the word, or a negated error number. -/
def wordResult : Except Errno (BitVec 16) → Int
  | .ok word => word.toNat
  | .error errno => -errno.code

/-- The `s32` a byte write returns: zero, or a negated error number. -/
def writeResult : Except Errno Unit → Int
  | .ok () => 0
  | .error errno => -errno.code

/-- `i2c_smbus_read_byte_data`; the register number is passed as a `u8`. -/
def i2cSmbusReadByteData (command : Int) : Smbus Int :=
  .perform (.readByteData (BitVec.ofInt 8 command)) fun reply => .done (readResult reply)

/-- `i2c_smbus_write_byte_data`; register number and value are passed as `u8`. -/
def i2cSmbusWriteByteData (command value : Int) : Smbus Int :=
  .perform (.writeByteData (BitVec.ofInt 8 command) (BitVec.ofInt 8 value)) fun reply =>
    .done (writeResult reply)

/-- A CPLD whose transfers may fail: `outcomes` says which errors the next ones
end with, and those after them succeed. -/
structure Cpld where
  registers : BitVec 8 → BitVec 8
  outcomes : List (Option Errno)

namespace Cpld

/-- The error of the next transfer. -/
def outcome (s : Cpld) : Option Errno := s.outcomes.headD none

/-- A transfer has passed. -/
def passed (s : Cpld) : Cpld := { s with outcomes := s.outcomes.tail }

end Cpld

/-- A failed write leaves the registers unchanged. -/
def cpld : SmbusDevice Cpld
  | .readByteData command, s =>
    match s.outcome with
    | some errno => (.error errno, s.passed)
    | none => (.ok (s.registers command), s.passed)
  | .writeByteData command value, s =>
    match s.outcome with
    | some errno => (.error errno, s.passed)
    | none => (.ok (), { s.passed with registers := Function.update s.registers command value })

section Transfers

variable {α : Type} (s : Cpld)

/-- A read continues with the register, or with the error of its transfer. -/
theorem wp_cpld_read (command : Int) (continuation : Int → Smbus α) (post : α → Cpld → Prop) :
    (i2cSmbusReadByteData command >>= continuation).Wp cpld (fun _ _ => True) post s ↔
      (∀ errno, s.outcome = some errno →
        (continuation (-errno.code)).Wp cpld (fun _ _ => True) post s.passed) ∧
      (s.outcome = none →
        (continuation (s.registers (BitVec.ofInt 8 command)).toNat).Wp cpld (fun _ _ => True) post
          s.passed) := by
  have step : (i2cSmbusReadByteData command >>= continuation).Wp cpld (fun _ _ => True) post s ↔
      True ∧ (continuation (readResult (cpld (.readByteData (BitVec.ofInt 8 command)) s).1)).Wp cpld
        (fun _ _ => True) post (cpld (.readByteData (BitVec.ofInt 8 command)) s).2 := Iff.rfl
  rw [step]
  cases outcome : s.outcome with
  | none => simp [cpld, outcome, readResult]
  | some errno => simp [cpld, outcome, readResult]

/-- A write changes its register, or returns the error of its transfer. -/
theorem wp_cpld_write (command value : Int) (post : Int → Cpld → Prop) :
    (i2cSmbusWriteByteData command value).Wp cpld (fun _ _ => True) post s ↔
      (∀ errno, s.outcome = some errno → post (-errno.code) s.passed) ∧
      (s.outcome = none → post 0 { s.passed with
        registers := Function.update s.registers (BitVec.ofInt 8 command)
          (BitVec.ofInt 8 value) }) := by
  have step : (i2cSmbusWriteByteData command value).Wp cpld (fun _ _ => True) post s ↔
      True ∧ post (writeResult (cpld (.writeByteData (BitVec.ofInt 8 command)
        (BitVec.ofInt 8 value)) s).1) (cpld (.writeByteData (BitVec.ofInt 8 command)
          (BitVec.ofInt 8 value)) s).2 := Iff.rfl
  rw [step]
  cases outcome : s.outcome with
  | none => simp [cpld, outcome, writeResult]
  | some errno => simp [cpld, outcome, writeResult]

end Transfers

/-- A CPLD that answers the reads of each register in one way, be it a byte or an
error. -/
def answeringCpld : SmbusDevice (BitVec 8 → Except Errno (BitVec 8))
  | .readByteData command, answers => (answers command, answers)
  | .writeByteData _ _, answers => (.ok (), answers)

/-- A reported error is negative. -/
theorem errno_negative (errno : Errno) : -(errno.code : Int) < 0 := by
  have positive := errno.positive
  omega

/-- The result of a read is a byte or a negated error number. -/
theorem read_result_bounds (result : Except Errno (BitVec 8)) :
    -4095 ≤ readResult result ∧ readResult result ≤ 255 := by
  cases result with
  | error errno =>
    have bounded := errno.bounded
    simp only [readResult]
    omega
  | ok byte =>
    have bounded : byte.toNat < 2 ^ 8 := byte.isLt
    simp only [readResult]
    omega

/-- An `int` that holds a byte, converted to a word. -/
theorem of_int_byte (w : Nat) (byte : BitVec 8) :
    BitVec.ofInt w (byte.toNat : Int) = byte.setWidth w := by
  rw [BitVec.ofInt_natCast, BitVec.ofNat_toNat]

/-- A masked `int` that holds a byte, converted to a byte. -/
theorem of_int_byte_and (byte mask : BitVec 8) :
    (BitVec.ofInt 32 (byte.toNat : Int) &&& mask.setWidth 32).setWidth 8 = byte &&& mask := by
  simp

/-- A byte is passed as it is. -/
theorem of_int_passed (byte : BitVec 8) : BitVec.ofInt 8 (byte.toNat : Int) = byte := by
  rw [of_int_byte, BitVec.setWidth_eq]

/-- A read continues with the answer of its register. -/
theorem answered_read {α : Type} (answers : BitVec 8 → Except Errno (BitVec 8))
    (command : BitVec 8) (continuation : Int → Smbus α) :
    (i2cSmbusReadByteData command.toNat >>= continuation).result answeringCpld answers =
      (continuation (readResult (answers command))).result answeringCpld answers := by
  rw [i2cSmbusReadByteData, of_int_passed]
  rfl

/-- Writing a byte to a register is one operation on the bus. -/
theorem write_byte_data_eq (command value : BitVec 8) :
    i2cSmbusWriteByteData command.toNat value.toNat =
      .perform (.writeByteData command value) fun reply => .done (writeResult reply) := by
  rw [i2cSmbusWriteByteData, of_int_passed, of_int_passed]

end FbossBsp
