import FbossBsp.SpiMaster
import FbossBsp.Interaction.Calls

/-!
# The timing of the SPI controller

The SPI core sets the controller up for each device. The setup reads the timing
register, sets or clears the bits of the clock mode, and puts the clock divider and
the sample delay in by an OR. What was in these two fields before stays there.
-/

namespace FbossBsp.Spi

open Interaction

/-! ## Setup -/

def fbiobSpiRegTiming : Nat := 0

def fbiobSpiCtlCpol : BitVec 32 := bit 15
def fbiobSpiCtlSampleDelayMask : BitVec 32 := genmask32 14 12
def fbiobSpiCtlCpha : BitVec 32 := bit 11
def fbiobSpiCtlClkDivMask : BitVec 32 := genmask32 7 0

/-- `SPI_CPHA` and `SPI_CPOL` in the mode of a device. -/
def spiCpha : BitVec 32 := bit 0
def spiCpol : BitVec 32 := bit 1

/-- The word `fbiob_spi_setup_xfer` writes back. -/
def setupXferVal (mode val : BitVec 32) : BitVec 32 :=
  let val := if mode &&& spiCpol ≠ 0 then val ||| fbiobSpiCtlCpol else val &&& ~~~fbiobSpiCtlCpol
  let val := if mode &&& spiCpha ≠ 0 then val ||| fbiobSpiCtlCpha else val &&& ~~~fbiobSpiCtlCpha
  let val := val ||| (0x1 &&& fbiobSpiCtlClkDivMask)
  val ||| ((0x2 <<< 12) &&& fbiobSpiCtlSampleDelayMask)

/-- `fbiob_spi_setup_xfer` for a device with the mode. -/
def fbiobSpiSetupXfer (mode : BitVec 32) : SpiIo Int := do
  let val ← spiCsrRead fbiobSpiRegTiming
  spiCsrWrite fbiobSpiRegTiming (setupXferVal mode val)
  return 0

/-- A controller whose control registers read back as they were written. -/
def csrRegisters : Device SpiOp SpiOp.Reply (Nat → BitVec 32)
  | .csr op, registers => registerFile op registers
  | .iobuf (.readl _), registers => (0, registers)
  | .iobuf (.writel _ _), registers => ((), registers)

/-! ## Fields -/

/-- The bits of the clock mode. -/
def modeFields : BitVec 32 := fbiobSpiCtlCpol ||| fbiobSpiCtlCpha

/-- The bits that the setup is about. -/
def timingFields : BitVec 32 := modeFields ||| fbiobSpiCtlClkDivMask ||| fbiobSpiCtlSampleDelayMask

/-- The divider and the delay of a 12.5 MHz clock. -/
def timing12M5 : BitVec 32 := 0x1 ||| 0x2 <<< 12

/-- The bits of the divider and the delay that are zero for that clock. -/
def strayBits : BitVec 32 :=
  (fbiobSpiCtlClkDivMask ||| fbiobSpiCtlSampleDelayMask) &&& ~~~timing12M5

/-- The clock mode of a device, as the register has it. -/
def modeBits (mode : BitVec 32) : BitVec 32 :=
  (if mode &&& spiCpol ≠ 0 then fbiobSpiCtlCpol else 0) |||
    if mode &&& spiCpha ≠ 0 then fbiobSpiCtlCpha else 0

/-- The setup clears the mode fields, and then sets the mode and the timing bits. -/
theorem setup_xfer_val_eq (mode val : BitVec 32) :
    setupXferVal mode val = (val &&& ~~~modeFields) ||| (modeBits mode ||| timing12M5) := by
  apply BitVec.eq_of_getLsbD_eq
  intro i inside
  unfold setupXferVal modeBits
  split <;> split <;> interval_cases i <;>
    simp [modeFields, fbiobSpiCtlCpol, fbiobSpiCtlCpha, timing12M5, bit, genmask32, genmask,
      fbiobSpiCtlClkDivMask, fbiobSpiCtlSampleDelayMask]

/-- After the same pattern was put into two words by an OR, a field is the same in both
exactly when the bits that the pattern leaves out were. -/
theorem or_agree_iff {w : Nat} (word other pattern field : BitVec w) :
    (word ||| pattern) &&& field = (other ||| pattern) &&& field ↔
      word &&& (field &&& ~~~pattern) = other &&& (field &&& ~~~pattern) := by
  have bitwise (i : Nat) (bound : i < w) :
      ((word ||| pattern) &&& field).getLsbD i = ((other ||| pattern) &&& field).getLsbD i ↔
        (word &&& (field &&& ~~~pattern)).getLsbD i =
          (other &&& (field &&& ~~~pattern)).getLsbD i := by
    simp only [BitVec.getLsbD_and, BitVec.getLsbD_or, BitVec.getLsbD_not, bound, decide_true,
      Bool.true_and]
    generalize word.getLsbD i = wordBit, other.getLsbD i = otherBit,
      pattern.getLsbD i = patternBit, field.getLsbD i = fieldBit
    revert wordBit otherBit patternBit fieldBit
    decide
  constructor
  · intro same
    apply BitVec.eq_of_getLsbD_eq
    intro i bound
    exact (bitwise i bound).mp (by rw [same])
  · intro same
    apply BitVec.eq_of_getLsbD_eq
    intro i bound
    exact (bitwise i bound).mpr (by rw [same])

/-- A field shows the pattern put in by an OR exactly when its other bits were zero. -/
theorem or_shows_iff {w : Nat} (word pattern field : BitVec w) :
    (word ||| pattern) &&& field = pattern &&& field ↔ word &&& (field &&& ~~~pattern) = 0 := by
  have against := or_agree_iff word 0#w pattern field
  rwa [BitVec.zero_or, BitVec.zero_and] at against

/-- The mode bits lie inside the mode fields. -/
theorem mode_bits_inside (mode : BitVec 32) : modeBits mode &&& modeFields = modeBits mode := by
  unfold modeBits
  split <;> split <;> decide

/-- The clock mode after a setup is that of the device. -/
theorem setup_mode_fields (mode val : BitVec 32) :
    setupXferVal mode val &&& modeFields = modeBits mode := by
  have apart : timing12M5 &&& modeFields = 0 := by decide
  rw [setup_xfer_val_eq, BitVec.and_or_distrib_right, BitVec.and_or_distrib_right, and_not_and,
    mode_bits_inside, apart]
  exact BitVec.zero_or.trans BitVec.or_zero

/-- Outside the clock mode a setup only adds bits. -/
theorem setup_other_fields (mode val : BitVec 32) {field : BitVec 32}
    (kept : ~~~modeFields &&& field = field) :
    setupXferVal mode val &&& field = (val ||| timing12M5) &&& field := by
  have apart : modeFields &&& field = 0 := by
    rw [← kept, ← BitVec.and_assoc, BitVec.and_not_self]
    exact BitVec.zero_and
  have none : modeBits mode &&& field = 0 := by
    rw [← mode_bits_inside, BitVec.and_assoc, apart]
    exact BitVec.and_zero
  rw [setup_xfer_val_eq, BitVec.and_or_distrib_right, BitVec.and_or_distrib_right,
    BitVec.and_or_distrib_right, BitVec.and_assoc, kept, none]
  exact congrArg (val &&& field ||| ·) BitVec.zero_or

/-- A setup leaves nothing of the clock mode before it. -/
theorem setup_setup (mode before val : BitVec 32) :
    setupXferVal mode (setupXferVal before val) = setupXferVal mode val := by
  have same : setupXferVal before val &&& ~~~modeFields =
      (val ||| timing12M5) &&& ~~~modeFields :=
    setup_other_fields before val (BitVec.and_self)
  rw [setup_xfer_val_eq mode, setup_xfer_val_eq mode, same, BitVec.and_or_distrib_right]
  have pattern : timing12M5 &&& ~~~modeFields = timing12M5 := by decide
  rw [pattern, BitVec.or_assoc, BitVec.or_comm timing12M5, BitVec.or_assoc, BitVec.or_self]

/-! ## Calls -/

/-- The timing register after a sequence of setups. -/
def timingAfter (modes : List (BitVec 32)) (registers : Nat → BitVec 32) : BitVec 32 :=
  Calls.final csrRegisters fbiobSpiSetupXfer modes registers fbiobSpiRegTiming

/-- The setup leaves its word in the register. -/
theorem setup_final (mode : BitVec 32) (registers : Nat → BitVec 32) :
    (fbiobSpiSetupXfer mode).final csrRegisters registers fbiobSpiRegTiming =
      setupXferVal mode (registers fbiobSpiRegTiming) :=
  Function.update_self fbiobSpiRegTiming _ registers

/-- However many setups there were, the last one decides, and it starts from what the
register held at first. -/
theorem timing_after_concat (earlier : List (BitVec 32)) (mode : BitVec 32)
    (registers : Nat → BitVec 32) :
    timingAfter (earlier ++ [mode]) registers =
      setupXferVal mode (registers fbiobSpiRegTiming) := by
  induction earlier generalizing registers with
  | nil => exact setup_final mode registers
  | cons first rest inductionHypothesis =>
    have later := inductionHypothesis ((fbiobSpiSetupXfer first).final csrRegisters registers)
    rw [setup_final, setup_setup] at later
    exact later

/-- The register shows the mode, the divider and the delay, and nothing else changed. -/
structure Settled (mode initial after : BitVec 32) : Prop where
  cpol : after &&& fbiobSpiCtlCpol ≠ 0 ↔ mode &&& spiCpol ≠ 0
  cpha : after &&& fbiobSpiCtlCpha ≠ 0 ↔ mode &&& spiCpha ≠ 0
  clkDiv : after &&& fbiobSpiCtlClkDivMask = 0x1
  sampleDelay : after &&& fbiobSpiCtlSampleDelayMask = 0x2 <<< 12
  others : after &&& ~~~timingFields = initial &&& ~~~timingFields

/-- The word shows polarity and phase of the mode. -/
theorem mode_shown (mode val : BitVec 32) :
    (setupXferVal mode val &&& fbiobSpiCtlCpol ≠ 0 ↔ mode &&& spiCpol ≠ 0) ∧
      (setupXferVal mode val &&& fbiobSpiCtlCpha ≠ 0 ↔ mode &&& spiCpha ≠ 0) := by
  have fields (field : BitVec 32) (inside : modeFields &&& field = field) :
      setupXferVal mode val &&& field = modeBits mode &&& field := by
    rw [← setup_mode_fields mode val, BitVec.and_assoc, inside]
  rw [fields fbiobSpiCtlCpol (by decide), fields fbiobSpiCtlCpha (by decide)]
  unfold modeBits
  constructor
  · split <;> split <;> simp_all [fbiobSpiCtlCpol, fbiobSpiCtlCpha, bit]
  · split <;> split <;> simp_all [fbiobSpiCtlCpol, fbiobSpiCtlCpha, bit]

/-- The divider is as configured exactly when no other bit of it was set before. -/
theorem clk_div_iff (mode val : BitVec 32) :
    setupXferVal mode val &&& fbiobSpiCtlClkDivMask = 0x1 ↔
      val &&& (fbiobSpiCtlClkDivMask &&& ~~~timing12M5) = 0 := by
  rw [setup_other_fields mode val (by decide)]
  exact or_shows_iff val timing12M5 fbiobSpiCtlClkDivMask

/-- The delay is as configured exactly when no other bit of it was set before. -/
theorem sample_delay_iff (mode val : BitVec 32) :
    setupXferVal mode val &&& fbiobSpiCtlSampleDelayMask = 0x2 <<< 12 ↔
      val &&& (fbiobSpiCtlSampleDelayMask &&& ~~~timing12M5) = 0 := by
  rw [setup_other_fields mode val (by decide)]
  exact or_shows_iff val timing12M5 fbiobSpiCtlSampleDelayMask

/-- The bits outside the timing fields are kept. -/
theorem others_kept (mode val : BitVec 32) :
    setupXferVal mode val &&& ~~~timingFields = val &&& ~~~timingFields := by
  have none : timing12M5 &&& ~~~timingFields = 0 := by decide
  rw [setup_other_fields mode val (by decide), BitVec.and_or_distrib_right, none]
  exact BitVec.or_zero

/-- The stray bits are those of the divider and of the delay. -/
theorem stray_iff (val : BitVec 32) :
    val &&& strayBits = 0 ↔
      val &&& (fbiobSpiCtlClkDivMask &&& ~~~timing12M5) = 0 ∧
        val &&& (fbiobSpiCtlSampleDelayMask &&& ~~~timing12M5) = 0 := by
  constructor
  · intro clear
    exact ⟨and_eq_zero_of_part clear (by decide), and_eq_zero_of_part clear (by decide)⟩
  · rintro ⟨divider, delay⟩
    rw [strayBits, BitVec.and_or_distrib_right, BitVec.and_or_distrib_left, divider, delay]
    exact BitVec.or_zero

/-- One setup settles the word exactly when no stray bit was set before. -/
theorem setup_settled_iff (mode val : BitVec 32) :
    Settled mode val (setupXferVal mode val) ↔ val &&& strayBits = 0 := by
  rw [stray_iff, ← clk_div_iff mode, ← sample_delay_iff mode]
  constructor
  · intro settled
    exact ⟨settled.clkDiv, settled.sampleDelay⟩
  · rintro ⟨divider, delay⟩
    obtain ⟨cpol, cpha⟩ := mode_shown mode val
    exact ⟨cpol, cpha, divider, delay, others_kept mode val⟩

/-- Setups for the same mode agree on the fields exactly when the words they start from
agree on the bits that stay. -/
theorem setup_agree_iff (mode val other : BitVec 32) :
    setupXferVal mode val &&& timingFields = setupXferVal mode other &&& timingFields ↔
      val &&& strayBits = other &&& strayBits := by
  have apart (word : BitVec 32) :
      setupXferVal mode word &&& timingFields = modeBits mode |||
        setupXferVal mode word &&& (fbiobSpiCtlClkDivMask ||| fbiobSpiCtlSampleDelayMask) := by
    rw [timingFields, BitVec.or_assoc, BitVec.and_or_distrib_left, setup_mode_fields]
  have part : timingFields &&& (fbiobSpiCtlClkDivMask ||| fbiobSpiCtlSampleDelayMask) =
      fbiobSpiCtlClkDivMask ||| fbiobSpiCtlSampleDelayMask := by decide
  have only := or_agree_iff val other timing12M5
    (fbiobSpiCtlClkDivMask ||| fbiobSpiCtlSampleDelayMask)
  rw [← setup_other_fields mode val (by decide),
    ← setup_other_fields mode other (by decide)] at only
  rw [strayBits, ← only]
  constructor
  · intro same
    rw [← part, ← BitVec.and_assoc, ← BitVec.and_assoc, same]
  · intro same
    rw [apart, apart, same]

/-- The timing after any sequence of setups is that of the last mode exactly when the
register held no other bits in the divider and the delay at first. Two sequences that
end in the same mode agree on the fields exactly when these bits agreed at first. -/
theorem timing_settled_iff (earlier : List (BitVec 32)) (mode : BitVec 32)
    (registers : Nat → BitVec 32) :
    (Settled mode (registers fbiobSpiRegTiming) (timingAfter (earlier ++ [mode]) registers) ↔
        registers fbiobSpiRegTiming &&& strayBits = 0) ∧
      ∀ (others : List (BitVec 32)) (initially : Nat → BitVec 32),
        timingAfter (earlier ++ [mode]) registers &&& timingFields =
            timingAfter (others ++ [mode]) initially &&& timingFields ↔
          registers fbiobSpiRegTiming &&& strayBits =
            initially fbiobSpiRegTiming &&& strayBits := by
  constructor
  · rw [timing_after_concat]
    exact setup_settled_iff mode _
  · intro others initially
    rw [timing_after_concat, timing_after_concat]
    exact setup_agree_iff mode _ _

/-- A register that is all ones, as a bootloader may leave it, keeps the divider of 255
and the delay of 7. -/
theorem timing_history :
    ¬Settled 0 0xFFFFFFFF (timingAfter [0] fun _ => 0xFFFFFFFF) ∧
      timingAfter [0] (fun _ => 0xFFFFFFFF) &&& fbiobSpiCtlClkDivMask = 0xFF ∧
      timingAfter [0] (fun _ => 0xFFFFFFFF) &&& timingFields ≠
        timingAfter [0] (fun _ => 0) &&& timingFields := by
  refine ⟨?_, by decide, by decide⟩
  intro settled
  exact absurd settled.clkDiv (by decide)

end FbossBsp.Spi
