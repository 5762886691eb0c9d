import FbossBsp.FanLeds
import FbossBsp.FanReplacement

/-!
# The mode bit of a PWM register

The register of a fan holds the duty value, and in bit 7 the mode. The driver
changes either of them by reading the register and writing it back. The duty
value may be as large as the configured maximum, up to 255, and it is read back
with the mode bit; the mode is put in by an OR, and read back inverted.

Transfers may fail while the driver writes, and succeed while it reads back.
-/

namespace FbossBsp.Fbfancpld

open Interaction LegacyFan

/-! ## The register -/

/-- The PWM register of a channel. -/
def pwmReg (channel : Nat) : BitVec 8 := BitVec.ofInt 8 (regFanPwm ((channel : Int) + 1))

/-- The mode bit in a byte. -/
def modeBit : BitVec 8 := 0x80

/-- An `unsigned long` that becomes an `int` and then a byte keeps its low bits. -/
theorem of_int_to_int (word : BitVec 64) : BitVec.ofInt 8 (toInt word) = word.setWidth 8 := by
  have narrowed : BitVec.ofInt 8 (toInt word) = (word.setWidth 32).signExtend 8 := rfl
  rw [narrowed, BitVec.signExtend_eq_setWidth_of_le _ (by decide)]
  exact BitVec.setWidth_setWidth_of_le word (by decide)

/-- A byte as an operand of an `unsigned long` expression. -/
theorem to_unsigned_long_byte (byte : BitVec 8) :
    toUnsignedLong (byte.toNat : Int) = byte.setWidth 64 := of_int_byte 64 byte

/-! ## Writing a register back -/

/-- Write a register back changed, unless reading it has failed. -/
def writeBack (regAddr : Int) (change : Int → Int) (regData : Int) : Smbus Int :=
  if regData < 0 then return regData else i2cSmbusWriteByteData regAddr (change regData)

/-- Read a register, and write it back. -/
def rewrite (regAddr : Int) (change : Int → Int) : Smbus Int :=
  i2cSmbusReadByteData regAddr >>= writeBack regAddr change

section Rewrite

variable (regAddr : Int) (change : Int → Int) (s : Cpld)

/-- Both transfers of a rewrite succeed. -/
def Undisturbed (s : Cpld) : Prop := s.outcome = none ∧ s.passed.outcome = none

/-- The byte that a register is rewritten with. -/
def rewritten (byte : BitVec 8) : BitVec 8 := BitVec.ofInt 8 (change (byte.toNat : Int))

/-- A rewrite fails and leaves the registers, or succeeds and changes the one
register. -/
theorem rewrite_run :
    (rewrite regAddr change).Wp cpld (fun _ _ => True)
      (fun ret after =>
        (ret < 0 ∧ ¬Undisturbed s ∧ after.registers = s.registers) ∨
        (ret = 0 ∧ Undisturbed s ∧
          after.registers = Function.update s.registers (BitVec.ofInt 8 regAddr)
            (rewritten change (s.registers (BitVec.ofInt 8 regAddr))))) s := by
  refine (wp_cpld_read _ _ _ _).mpr ⟨fun errno failed => ?_, fun read => ?_⟩
  · rw [writeBack, if_pos (errno_negative errno)]
    have disturbed : ¬Undisturbed s := fun both => by simp [both.1] at failed
    exact Or.inl ⟨errno_negative errno, disturbed, rfl⟩
  · have byte : ¬((s.registers (BitVec.ofInt 8 regAddr)).toNat : Int) < 0 := by omega
    rw [writeBack, if_neg byte]
    refine (wp_cpld_write _ _ _ _).mpr ⟨fun errno failed => ?_, fun wrote => ?_⟩
    · have disturbed : ¬Undisturbed s := fun both => by simp [both.2] at failed
      exact Or.inl ⟨errno_negative errno, disturbed, rfl⟩
    · exact Or.inr ⟨rfl, ⟨read, wrote⟩, rfl⟩

/-- A rewrite succeeds exactly when both of its transfers do. -/
theorem rewrite_succeeds_iff : (rewrite regAddr change).result cpld s = 0 ↔ Undisturbed s := by
  obtain ⟨failed, disturbed, _⟩ | ⟨succeeded, undisturbed, _⟩ :=
    (rewrite_run regAddr change s).outcome
  · exact iff_of_false (Int.ne_of_lt failed) disturbed
  · exact iff_of_true succeeded undisturbed

/-- A rewrite that succeeds changes its register only. -/
theorem rewrite_final (undisturbed : Undisturbed s) :
    ((rewrite regAddr change).final cpld s).registers =
      Function.update s.registers (BitVec.ofInt 8 regAddr)
        (rewritten change (s.registers (BitVec.ofInt 8 regAddr))) := by
  obtain ⟨_, disturbed, _⟩ | ⟨_, _, changed⟩ :=
    (rewrite_run regAddr change s).outcome
  · exact absurd undisturbed disturbed
  · exact changed

end Rewrite

/-! ## What the files show -/

/-- The mode that a byte shows. -/
def shownMode (byte : BitVec 8) : Int := if byte &&& modeBit ≠ 0 then 0 else 1

section Shown

variable (channel : Nat) (registers : BitVec 8 → BitVec 8)

/-- A file that is read shows what it makes of the register. -/
theorem pwm_shown (shown : Int → Int) :
    (i2cSmbusReadByteData (regFanPwm ((channel : Int) + 1)) >>= fun regData =>
      (if regData < 0 then pure (.error regData) else pure (.ok (shown regData)) :
        Smbus (Except Int Int))).result registerCpld registers =
      .ok (shown (registers (pwmReg channel)).toNat) := by
  have run : (i2cSmbusReadByteData (regFanPwm ((channel : Int) + 1)) >>= fun regData =>
      (if regData < 0 then pure (.error regData) else pure (.ok (shown regData)) :
        Smbus (Except Int Int))) =
      .perform (.readByteData (pwmReg channel)) fun reply =>
        if readResult reply < 0 then .done (.error (readResult reply))
        else .done (.ok (shown (readResult reply))) := rfl
  have read : readResult (.ok (registers (pwmReg channel))) = (registers (pwmReg channel)).toNat :=
    rfl
  have byte : ¬((registers (pwmReg channel)).toNat : Int) < 0 := by omega
  rw [run]
  simp only [Program.result, registerCpld, read, byte, if_false]

/-- `pwmN` shows the register, up to the configured maximum. -/
theorem pwm_input_shown (data : Data) :
    (fbfancpldPwmInputRead data channel).result registerCpld registers =
      .ok (min (registers (pwmReg channel)).toNat data.config.pwmMax) := by
  have capped (value limit : Int) : (if value > limit then limit else value) = min value limit := by
    omega
  rw [← capped]
  exact pwm_shown channel registers _

/-- `pwmN_enable` shows the mode bit, inverted. -/
theorem pwm_enable_shown :
    (fbfancpldPwmEnableRead channel).result registerCpld registers =
      .ok (shownMode (registers (pwmReg channel))) := by
  have masked (byte : BitVec 8) : toUnsignedLong (byte.toNat : Int) &&& fanModeMask ≠ 0 ↔
      byte &&& modeBit ≠ 0 := by
    rw [to_unsigned_long_byte]
    revert byte
    decide
  refine (pwm_shown channel registers _).trans ?_
  simp only [masked]
  rfl

end Shown

/-! ## The bytes that are written -/

/-- The duty value is written with the mode bit of the register. -/
theorem input_byte (byte : BitVec 8) {duty : Int} (nonnegative : 0 ≤ duty) :
    BitVec.ofInt 8 (toInt ((toUnsignedLong (byte.toNat : Int) &&& fanModeMask) |||
      toUnsignedLong duty)) = byte &&& modeBit ||| BitVec.ofInt 8 duty := by
  obtain ⟨value, rfl⟩ := Int.eq_ofNat_of_zero_le nonnegative
  have mask : fanModeMask.setWidth 8 = modeBit := by decide
  have narrowed : (toUnsignedLong (value : Int)).setWidth 8 = BitVec.ofInt 8 (value : Int) := by
    rw [toUnsignedLong, BitVec.ofInt_natCast, BitVec.ofInt_natCast]
    exact BitVec.setWidth_ofNat_of_le (by decide) value
  rw [of_int_to_int, BitVec.setWidth_or, BitVec.setWidth_and, mask, narrowed, to_unsigned_long_byte,
    BitVec.setWidth_setWidth_of_le byte (by decide), BitVec.setWidth_eq]

/-- The mode is put into the byte of the register. -/
theorem enable_byte (byte : BitVec 8) (on : Bool) :
    BitVec.ofInt 8 (toInt ((toUnsignedLong (if on then 1 else 0) <<< fanModeBitOffset) |||
      toUnsignedLong (byte.toNat : Int))) = byte ||| if on then modeBit else 0 := by
  rw [of_int_to_int, to_unsigned_long_byte]
  cases on <;> revert byte <;> decide

/-- `fbfancpld_pwm_input_write` rewrites the register. -/
theorem input_write_eq (data : Data) (channel : Nat) {val : Int} (nonnegative : 0 ≤ val) :
    fbfancpldPwmInputWrite data channel val =
      rewrite (regFanPwm ((channel : Int) + 1)) fun regData =>
        toInt ((toUnsignedLong regData &&& fanModeMask) |||
          toUnsignedLong (min val data.config.pwmMax)) := by
  have capped : min val data.config.pwmMax =
      if val > data.config.pwmMax then data.config.pwmMax else val := by omega
  rw [fbfancpldPwmInputWrite, if_neg (Int.not_lt.mpr nonnegative), capped]
  rfl

/-- `fbfancpld_pwm_enable_write` rewrites the register. -/
theorem enable_write_eq (channel : Nat) (on : Bool) :
    fbfancpldPwmEnableWrite channel (if on then 1 else 0) =
      rewrite (regFanPwm ((channel : Int) + 1)) fun regData =>
        toInt ((toUnsignedLong (if on then 1 else 0) <<< fanModeBitOffset) |||
          toUnsignedLong regData) := by
  cases on <;> rfl

/-! ## Duty and mode -/

/-- The mode bit is set or not. -/
theorem mode_bit_cases : ∀ byte : BitVec 8, byte &&& modeBit = 0 ∨ byte &&& modeBit = modeBit := by
  decide

/-- A duty value lies beside the mode bit, or beyond it. -/
theorem duty_beside : ∀ duty : BitVec 8, duty &&& modeBit = 0 ↔ duty.toNat < 128 := by
  decide

/-- The mode bit is added to the duty only where the duty leaves it free. -/
theorem duty_beside_mode : ∀ duty : BitVec 8,
    (modeBit ||| duty).toNat = if duty.toNat < 128 then 128 + duty.toNat else duty.toNat := by
  decide

/-- The duty value and the mode of the register stay apart: without the mode bit
the value is below it, and with the mode bit the value either has that bit or is
the maximum, which hides the bit when it is read back. -/
def Apart (pwmMax val : Int) (byte : BitVec 8) : Prop :=
  if byte &&& modeBit = 0 then min val pwmMax < 128 else 128 ≤ min val pwmMax ∨ pwmMax ≤ val

instance (pwmMax val : Int) (byte : BitVec 8) : Decidable (Apart pwmMax val byte) :=
  inferInstanceAs (Decidable (if byte &&& modeBit = 0 then _ else _ ∨ _))

/-- The byte that is written shows the duty value and the old mode exactly when
they stay apart. -/
theorem written_apart_iff (byte : BitVec 8) {pwmMax val : Int} (positive : 1 ≤ pwmMax)
    (small : pwmMax ≤ 255) (nonnegative : 0 ≤ val) :
    (min ((byte &&& modeBit ||| BitVec.ofInt 8 (min val pwmMax)).toNat : Int) pwmMax =
        min val pwmMax ∧
      shownMode (byte &&& modeBit ||| BitVec.ofInt 8 (min val pwmMax)) = shownMode byte) ↔
      Apart pwmMax val byte := by
  have duty : ((BitVec.ofInt 8 (min val pwmMax)).toNat : Int) = min val pwmMax := by
    rw [BitVec.toNat_ofInt]
    omega
  have beside := duty_beside (BitVec.ofInt 8 (min val pwmMax))
  have marked := duty_beside_mode (BitVec.ofInt 8 (min val pwmMax))
  unfold Apart
  generalize BitVec.ofInt 8 (min val pwmMax) = written at *
  obtain clear | set := mode_bit_cases byte
  · have plain : byte &&& modeBit ||| written = written := by
      rw [clear]
      exact BitVec.zero_or
    have shows : min (written.toNat : Int) pwmMax = min val pwmMax := by omega
    have kept : shownMode written = shownMode byte ↔ written &&& modeBit = 0 := by
      simp [shownMode, clear]
    rw [plain, if_pos clear, kept, beside]
    omega
  · have nonzero : byte &&& modeBit ≠ 0 := by
      rw [set]
      decide
    have kept : shownMode (modeBit ||| written) = shownMode byte := by
      have still : (modeBit ||| written) &&& modeBit ≠ 0 := by
        rw [BitVec.or_comm, or_mask_and]
        decide
      rw [shownMode, if_pos still, shownMode, if_pos nonzero]
    rw [set, if_neg (by decide : modeBit ≠ 0), kept, marked]
    split <;> omega

/-- After the duty value was written it is shown up to the maximum, the mode is
shown as before, and no other register has changed. -/
structure Separates (data : Data) (channel : Nat) (val : Int) (before after : BitVec 8 → BitVec 8) :
    Prop where
  duty : (fbfancpldPwmInputRead data channel).result registerCpld after =
    .ok (min val data.config.pwmMax)
  mode : (fbfancpldPwmEnableRead channel).result registerCpld after =
    (fbfancpldPwmEnableRead channel).result registerCpld before
  others : ∀ command, command ≠ pwmReg channel → after command = before command

/-- A write that succeeds separates duty and mode where they stay apart. -/
theorem input_write_separates_iff {data : Data} (positive : 1 ≤ data.config.pwmMax)
    (small : data.config.pwmMax ≤ 255) (channel : Nat) {val : Int} (nonnegative : 0 ≤ val)
    (s : Cpld) :
    ((fbfancpldPwmInputWrite data channel val).result cpld s = 0 →
        Separates data channel val s.registers
          ((fbfancpldPwmInputWrite data channel val).final cpld s).registers) ↔
      (Undisturbed s → Apart data.config.pwmMax val (s.registers (pwmReg channel))) := by
  rw [input_write_eq data channel nonnegative, rewrite_succeeds_iff]
  apply imp_congr_right
  intro undisturbed
  have apart := written_apart_iff (s.registers (pwmReg channel)) positive small nonnegative
  have written := rewrite_final (regFanPwm ((channel : Int) + 1)) (fun regData =>
    toInt ((toUnsignedLong regData &&& fanModeMask) |||
      toUnsignedLong (min val data.config.pwmMax))) s undisturbed
  rw [← pwmReg] at written
  rw [rewritten, input_byte _ (by omega)] at written
  rw [written]
  constructor
  · rintro ⟨duty, mode, _⟩
    rw [pwm_input_shown, Function.update_self] at duty
    rw [pwm_enable_shown, pwm_enable_shown, Function.update_self] at mode
    exact apart.mp ⟨Except.ok.inj duty, Except.ok.inj mode⟩
  · intro holds
    obtain ⟨duty, mode⟩ := apart.mpr holds
    constructor
    · rw [pwm_input_shown, Function.update_self, duty]
    · rw [pwm_enable_shown, pwm_enable_shown, Function.update_self, mode]
    · exact fun command other => Function.update_of_ne other _ _

/-- An accepted maximum is between 1 and 255. -/
theorem accepted_pwm_max {ucfg : IoctlConfig} (accepted : fbfancpldValidateConfig ucfg = 0) :
    1 ≤ (configured ucfg).config.pwmMax ∧ (configured ucfg).config.pwmMax ≤ 255 := by
  simp only [fbfancpldValidateConfig, passes_iff, not_or] at accepted
  obtain ⟨_, ⟨some, few⟩, _⟩ := accepted
  have stored : (configured ucfg).config.pwmMax = ucfg.pwmMax.toInt := rfl
  have value : ucfg.pwmMax.toInt = ucfg.pwmMax.toNat :=
    BitVec.toInt_eq_toNat_of_lt (by bv_omega)
  rw [stored, value]
  bv_omega

/-- For every accepted configuration, every channel, every register content and
every value that may be written: a write that succeeds leaves duty and mode
separate exactly when, without the mode bit, the value up to the maximum is below
128, or, with it, that is at least 128 or the maximum itself. -/
theorem duty_mode_separate_iff (ucfg : IoctlConfig) (accepted : fbfancpldValidateConfig ucfg = 0)
    (channel : Nat) (val : Int) (nonnegative : 0 ≤ val) (s : Cpld) :
    ((fbfancpldPwmInputWrite (configured ucfg) channel val).result cpld s = 0 →
        Separates (configured ucfg) channel val s.registers
          ((fbfancpldPwmInputWrite (configured ucfg) channel val).final cpld s).registers) ↔
      (Undisturbed s →
        Apart (configured ucfg).config.pwmMax val (s.registers (pwmReg channel))) := by
  obtain ⟨positive, small⟩ := accepted_pwm_max accepted
  exact input_write_separates_iff positive small channel nonnegative s

/-- In the manual mode of a platform with maximum 40, any duty value is separate. -/
theorem manual_duty_separate :
    ((fbfancpldPwmInputWrite (configured ⟨8, 40, 150, 1, 0⟩) 2 25).result cpld
          ⟨fun _ => 0x13, []⟩ = 0 →
        Separates (configured ⟨8, 40, 150, 1, 0⟩) 2 25 (fun _ => 0x13)
          ((fbfancpldPwmInputWrite (configured ⟨8, 40, 150, 1, 0⟩) 2 25).final cpld
            ⟨fun _ => 0x13, []⟩).registers) ↔
      (Undisturbed ⟨fun _ => 0x13, []⟩ → Apart 40 25 0x13) :=
  duty_mode_separate_iff ⟨8, 40, 150, 1, 0⟩ (by decide) 2 25 (by decide) ⟨fun _ => 0x13, []⟩

/-- With the mode bit set the duty value 10 reads back as the maximum 40, and with
the maximum 255 the duty value 200 sets the mode bit. -/
theorem duty_and_mode_mixed :
    ¬((fbfancpldPwmInputWrite (configured ⟨8, 40, 150, 1, 0⟩) 0 10).result cpld
          ⟨fun _ => 0x80, []⟩ = 0 →
        Separates (configured ⟨8, 40, 150, 1, 0⟩) 0 10 (fun _ => 0x80)
          ((fbfancpldPwmInputWrite (configured ⟨8, 40, 150, 1, 0⟩) 0 10).final cpld
            ⟨fun _ => 0x80, []⟩).registers) ∧
      ¬((fbfancpldPwmInputWrite (configured ⟨8, 255, 150, 1, 0⟩) 0 200).result cpld
          ⟨fun _ => 0, []⟩ = 0 →
        Separates (configured ⟨8, 255, 150, 1, 0⟩) 0 200 (fun _ => 0)
          ((fbfancpldPwmInputWrite (configured ⟨8, 255, 150, 1, 0⟩) 0 200).final cpld
            ⟨fun _ => 0, []⟩).registers) := by
  constructor
  · intro claim
    have apart := (input_write_separates_iff (by decide) (by decide) 0 (by decide)
      ⟨fun _ => 0x80, []⟩).mp claim ⟨rfl, rfl⟩
    exact absurd apart (by decide)
  · intro claim
    have apart := (input_write_separates_iff (by decide) (by decide) 0 (by decide)
      ⟨fun _ => 0, []⟩).mp claim ⟨rfl, rfl⟩
    exact absurd apart (by decide)

/-! ## Histories of modes -/

/-- The routines behind the files `pwmN_enable`. -/
structure EnableFile where
  read : Nat → Smbus (Except Int Int)
  write : Nat → Int → Smbus Int

/-- The files of the generic driver. -/
def fbfancpldEnable : EnableFile := ⟨fbfancpldPwmEnableRead, fbfancpldPwmEnableWrite⟩

/-- The files of the per-platform drivers. -/
def mcbfanEnable : EnableFile := ⟨mcbfanPwmEnableRead, mcbfanPwmEnableWrite⟩

/-- Both drivers set the same bit. -/
theorem mcbfan_enable_eq : mcbfanEnable = fbfancpldEnable := rfl

/-- One write of 0 or 1 to the file of a channel. -/
structure EnableWrite (fans : Nat) where
  channel : Fin fans
  on : Bool
  deriving DecidableEq

section Modes

variable {fans : Nat}

def EnableWrite.val (call : EnableWrite fans) : Int := if call.on then 1 else 0

def EnableFile.perform (file : EnableFile) (call : EnableWrite fans) : Smbus Int :=
  file.write call.channel call.val

/-- The value that was last written to a channel, if any. -/
def lastVal : List (EnableWrite fans) → Fin fans → Option Int
  | [], _ => none
  | call :: rest, channel =>
    match lastVal rest channel with
    | some val => some val
    | none => if call.channel = channel then some call.val else none

/-- Some call has written 1 to a channel of this register. -/
def turnsOn (calls : List (EnableWrite fans)) (command : BitVec 8) : Bool :=
  calls.any fun call => decide (pwmReg call.channel = command) && call.on

/-- Each written channel reads as it was last written, and the other bits of all
registers are unchanged. -/
structure ReadsBack (file : EnableFile) (calls : List (EnableWrite fans))
    (before after : BitVec 8 → BitVec 8) : Prop where
  shown : ∀ channel val, lastVal calls channel = some val →
    (file.read channel).result registerCpld after = .ok val
  others : ∀ command, after command &&& ~~~modeBit = before command &&& ~~~modeBit

/-- On each written channel the last value is 0, and the mode bit was there from
the beginning or was set by one of the calls. -/
def EndsInMode (calls : List (EnableWrite fans)) (before : BitVec 8 → BitVec 8) : Prop :=
  ∀ channel val, lastVal calls channel = some val →
    val = 0 ∧ (before (pwmReg channel) &&& modeBit ≠ 0 ∨ turnsOn calls (pwmReg channel) = true)

/-- A write that succeeds only ever sets the mode bit. -/
theorem enable_write_final (call : EnableWrite fans) (s : Cpld)
    (succeeds : (fbfancpldEnable.perform call).result cpld s = 0) :
    ((fbfancpldEnable.perform call).final cpld s).registers =
      Function.update s.registers (pwmReg call.channel)
        (s.registers (pwmReg call.channel) ||| if call.on then modeBit else 0) := by
  have run : fbfancpldEnable.perform call = rewrite (regFanPwm ((call.channel : Int) + 1))
      fun regData => toInt ((toUnsignedLong (if call.on then 1 else 0) <<< fanModeBitOffset) |||
        toUnsignedLong regData) := enable_write_eq call.channel call.on
  rw [run] at succeeds ⊢
  rw [rewrite_final _ _ s ((rewrite_succeeds_iff _ _ s).mp succeeds), ← pwmReg, rewritten,
    enable_byte]

/-- Writes that succeed set the mode bits of the registers where they write 1.

Proof: induction on the calls; each puts its bit into the register that the calls
before it have left. -/
theorem enable_writes_final (calls : List (EnableWrite fans)) (s : Cpld)
    (succeed : ∀ ret ∈ Calls.results cpld fbfancpldEnable.perform calls s, ret = 0)
    (command : BitVec 8) :
    (Calls.final cpld fbfancpldEnable.perform calls s).registers command =
      s.registers command ||| if turnsOn calls command then modeBit else 0 := by
  induction calls generalizing s with
  | nil => exact BitVec.or_zero.symm
  | cons call rest inductionHypothesis =>
    obtain ⟨first, later⟩ := List.forall_mem_cons.mp succeed
    rw [Calls.final, inductionHypothesis _ later, enable_write_final call s first]
    have grown : turnsOn (call :: rest) command =
        ((decide (pwmReg call.channel = command) && call.on) || turnsOn rest command) := rfl
    have twice (byte : BitVec 8) : byte ||| modeBit ||| modeBit = byte ||| modeBit := by
      rw [BitVec.or_assoc, BitVec.or_self]
    by_cases same : pwmReg call.channel = command
    · subst same
      rw [Function.update_self, grown]
      cases call.on <;> cases turnsOn rest (pwmReg call.channel) <;> simp [twice]
    · rw [Function.update_of_ne (Ne.symm same), grown]
      simp [same]

/-- The last value was written to the channel by one of the calls. -/
theorem last_val_written (calls : List (EnableWrite fans)) (channel : Fin fans) {val : Int}
    (last : lastVal calls channel = some val) :
    ∃ call ∈ calls, call.channel = channel ∧ call.val = val := by
  induction calls with
  | nil => cases last
  | cons call rest inductionHypothesis =>
    unfold lastVal at last
    cases later : lastVal rest channel with
    | some other =>
      rw [later] at last
      obtain ⟨found, member, same⟩ := inductionHypothesis (later.trans last)
      exact ⟨found, List.mem_cons_of_mem call member, same⟩
    | none =>
      simp only [later, Option.ite_none_right_eq_some, Option.some.injEq] at last
      exact ⟨call, List.mem_cons_self, last⟩

/-- The last value is 0, or it is 1 and a call has turned the mode on. -/
theorem last_val_cases {calls : List (EnableWrite fans)} {channel : Fin fans} {val : Int}
    (last : lastVal calls channel = some val) :
    val = 0 ∨ (val = 1 ∧ turnsOn calls (pwmReg channel) = true) := by
  obtain ⟨call, member, rfl, rfl⟩ := last_val_written calls channel last
  cases on : call.on with
  | false => exact Or.inl (by simp [EnableWrite.val, on])
  | true =>
    refine Or.inr ⟨by simp [EnableWrite.val, on], ?_⟩
    exact List.any_eq_true.mpr ⟨call, member, by simp [on]⟩

/-- A byte shows the mode 0 exactly when the bit was there or was put in. -/
theorem shown_mode_or (byte : BitVec 8) (on : Bool) :
    shownMode (byte ||| if on then modeBit else 0) =
      if byte &&& modeBit ≠ 0 ∨ on = true then 0 else 1 := by
  cases on <;> revert byte <;> decide

/-- The bits beside the mode bit stay. -/
theorem or_mode_beside (byte : BitVec 8) (on : Bool) :
    (byte ||| if on then modeBit else 0) &&& ~~~modeBit = byte &&& ~~~modeBit := by
  cases on <;> revert byte <;> decide

/-- Where the generic driver reads back what was written. -/
theorem enable_reads_back_iff (calls : List (EnableWrite fans)) (s : Cpld)
    (succeed : ∀ ret ∈ Calls.results cpld fbfancpldEnable.perform calls s, ret = 0) :
    ReadsBack fbfancpldEnable calls s.registers
        (Calls.final cpld fbfancpldEnable.perform calls s).registers ↔
      EndsInMode calls s.registers := by
  have final := enable_writes_final calls s succeed
  have shows (channel : Fin fans) :
      (fbfancpldEnable.read channel).result registerCpld
        (Calls.final cpld fbfancpldEnable.perform calls s).registers =
      .ok (if s.registers (pwmReg channel) &&& modeBit ≠ 0 ∨ turnsOn calls (pwmReg channel) = true
        then 0 else 1) := by
    rw [← shown_mode_or, ← final]
    exact pwm_enable_shown _ _
  constructor
  · intro readsBack channel val last
    have shown := readsBack.shown channel val last
    rw [shows] at shown
    have same := Except.ok.inj shown
    obtain rfl | ⟨rfl, on⟩ := last_val_cases last
    · exact ⟨rfl, by_contra fun unset => absurd ((if_neg unset).symm.trans same) (by decide)⟩
    · exact absurd same (by simp [on])
  · intro ends
    constructor
    · intro channel val last
      obtain ⟨rfl, set⟩ := ends channel val last
      rw [shows, if_pos set]
    · intro command
      rw [final, or_mode_beside]

/-- A history of successful writes, each of 0 or 1 to any channel, is read back
exactly when on every written channel the last value is 0 and the mode bit is
set, be it from the beginning or by an earlier write of 1. The texts of all fan
drivers agree in this. -/
theorem pwm_enable_read_back_iff (fans : Nat) (calls : List (EnableWrite fans)) (s : Cpld)
    (file : EnableFile) (text : file = fbfancpldEnable ∨ file = mcbfanEnable)
    (succeed : ∀ ret ∈ Calls.results cpld file.perform calls s, ret = 0) :
    ReadsBack file calls s.registers (Calls.final cpld file.perform calls s).registers ↔
      EndsInMode calls s.registers := by
  have generic : file = fbfancpldEnable := text.elim id fun legacy => legacy.trans mcbfan_enable_eq
  subst generic
  exact enable_reads_back_iff calls s succeed

/-- Writing 1 and then 0 is read back as 0. -/
theorem mode_set_then_cleared :
    ReadsBack mcbfanEnable [⟨(2 : Fin 8), true⟩, ⟨2, false⟩] (fun _ => 0x20)
        (Calls.final cpld mcbfanEnable.perform [⟨(2 : Fin 8), true⟩, ⟨2, false⟩]
          ⟨fun _ => 0x20, []⟩).registers ↔
      EndsInMode [⟨(2 : Fin 8), true⟩, ⟨2, false⟩] fun _ => 0x20 :=
  pwm_enable_read_back_iff 8 [⟨2, true⟩, ⟨2, false⟩] ⟨fun _ => 0x20, []⟩ mcbfanEnable (Or.inr rfl)
    (by decide)

/-- A written 1 is read back as 0, and a 0 on a fresh register as 1. -/
theorem mode_read_inverted :
    ¬ReadsBack fbfancpldEnable [⟨(0 : Fin 8), true⟩] (fun _ => 0)
        (Calls.final cpld fbfancpldEnable.perform [⟨(0 : Fin 8), true⟩] ⟨fun _ => 0, []⟩).registers ∧
      ¬ReadsBack fbfancpldEnable [⟨(0 : Fin 8), false⟩] (fun _ => 0)
        (Calls.final cpld fbfancpldEnable.perform [⟨(0 : Fin 8), false⟩]
          ⟨fun _ => 0, []⟩).registers := by
  constructor
  · intro claim
    have ends := (enable_reads_back_iff _ ⟨fun _ => 0, []⟩ (by decide)).mp claim
    exact absurd (ends 0 1 rfl).1 (by decide)
  · intro claim
    have ends := (enable_reads_back_iff _ ⟨fun _ => 0, []⟩ (by decide)).mp claim
    exact absurd (ends 0 0 rfl).2 (by decide)

end Modes

end FbossBsp.Fbfancpld
