import FbossBsp.FanModes
import Mathlib.Tactic.Linarith

/-!
# The numbers of the boost and speed files

`pwm_boost` parses a signed number, limits it from above and passes it on as a
byte. A speed file multiplies the byte of a tach register by a number that user
space has supplied as a `u32` and that the driver keeps as an `int`.
-/

namespace FbossBsp.Fbfancpld

open Interaction

/-! ## Printed numbers -/

/-- A number is printed with a minus sign exactly when it is negative. -/
theorem sprintf_minus_iff (val : Int) : '-' ∈ (sprintfInt val).toList ↔ val < 0 := by
  cases val with
  | ofNat n =>
    have text : (sprintfInt (Int.ofNat n)).toList = Nat.toDigits 10 n ++ ['\n'] := by
      have printed : sprintfInt (Int.ofNat n) = n.repr ++ "\n" := rfl
      rw [printed, String.toList_append, Nat.toList_repr]
      rfl
    have digits : '-' ∉ Nat.toDigits 10 n := fun minus =>
      absurd (Nat.isDigit_of_mem_toDigits (by decide) (by decide) minus) (by decide)
    rw [text]
    simp [digits]
  | negSucc n =>
    have printed : sprintfInt (Int.negSucc n) = "-" ++ (n + 1).repr ++ "\n" := rfl
    rw [printed]
    simp [Int.negSucc_lt_zero]

/-! ## Boost PWM -/

/-- The register of the boost PWM. -/
def boostReg : BitVec 8 := BitVec.ofInt 8 wdtPwmReg

section Boost

variable (data : Data) (kstrtoint : String → Except Errno Int) (buf : String) (count : Nat)
variable (s : Cpld)

/-- The CPLD after a transfer has written a number to the register. -/
def boosted (duty : Int) : Cpld :=
  ⟨Function.update s.registers boostReg (BitVec.ofInt 8 duty), s.passed.outcomes⟩

/-- A store returns an error and writes nothing, or it writes the number that was
parsed, up to the maximum, and the file then shows what was written. -/
def BoostInRange : Prop :=
  let store := fanBoostPwmStore data kstrtoint buf count
  let after := store.final cpld s
  (store.result cpld s < 0 ∧ after.registers = s.registers) ∨
    ∃ val : Nat, kstrtoint buf = .ok val ∧
      ((after.registers boostReg).toNat : Int) = min (val : Int) data.config.pwmMax ∧
      (∀ command, command ≠ boostReg → after.registers command = s.registers command) ∧
      (fanBoostPwmShow data).result cpld after = sprintfInt (min (val : Int) data.config.pwmMax)

/-- Where a number is parsed and its transfer succeeds, it is not negative, and the
transfer that reads it back succeeds. -/
def BoostFits : Prop :=
  ∀ val, kstrtoint buf = .ok val → s.outcome = none → 0 ≤ val ∧ s.passed.outcome = none

/-- The comparison with the maximum takes the smaller number. -/
theorem capped (val : Int) :
    (if val > data.config.pwmMax then data.config.pwmMax else val) = min val data.config.pwmMax := by
  omega

/-- A number that is a byte is written as it is. -/
theorem boosted_byte {duty : Int} (nonnegative : 0 ≤ duty) (small : duty ≤ 255) :
    (((boosted s duty).registers boostReg).toNat : Int) = duty := by
  have written : (boosted s duty).registers boostReg = BitVec.ofInt 8 duty :=
    Function.update_self boostReg _ s.registers
  rw [written, BitVec.toNat_ofInt]
  omega

/-- A string that is refused changes nothing. -/
theorem boost_refused {errno : Errno} (refused : kstrtoint buf = .error errno) :
    (fanBoostPwmStore data kstrtoint buf count).result cpld s = -errno.code ∧
      (fanBoostPwmStore data kstrtoint buf count).final cpld s = s := by
  have run : fanBoostPwmStore data kstrtoint buf count = return -(errno.code : Int) := by
    simp only [fanBoostPwmStore, refused]
  rw [run]
  exact ⟨rfl, rfl⟩

/-- A number that is parsed is written up to the maximum, unless the transfer fails. -/
theorem boost_parsed {val : Int} (parsed : kstrtoint buf = .ok val) :
    (fanBoostPwmStore data kstrtoint buf count).Wp cpld (fun _ _ => True)
      (fun ret after =>
        (∀ errno, s.outcome = some errno → ret = -errno.code ∧ after.registers = s.registers) ∧
        (s.outcome = none → ret = count ∧ after = boosted s (min val data.config.pwmMax))) s := by
  simp only [fanBoostPwmStore, parsed, capped]
  refine Program.Wp.bind ((wp_cpld_write _ _ _ _).mpr ⟨fun errno failed => ?_, fun wrote => ?_⟩)
  · have negative := errno_negative errno
    simp only [failed, reduceCtorEq, false_implies, and_true, Option.some.injEq, Program.wp_pure]
    rintro other rfl
    exact ⟨if_neg (by omega), rfl⟩
  · simp only [wrote, reduceCtorEq, false_implies, implies_true, true_and, Program.wp_pure, if_true]
    exact fun _ => rfl

/-- The file shows what its transfer returns, up to the maximum. -/
theorem boost_show_result :
    (fanBoostPwmShow data).result cpld s =
      sprintfInt (min (readResult (cpld (.readByteData boostReg) s).1) data.config.pwmMax) :=
  congrArg sprintfInt (capped data _)

/-- What the file shows when its transfer succeeds. -/
theorem boost_shown (succeeds : s.outcome = none) :
    (fanBoostPwmShow data).result cpld s =
      sprintfInt (min ((s.registers boostReg).toNat : Int) data.config.pwmMax) := by
  have reply : (cpld (.readByteData boostReg) s).1 = .ok (s.registers boostReg) := by
    simp only [cpld, succeeds]
  rw [boost_show_result, reply]
  rfl

/-- A read that fails shows a negative number. -/
theorem boost_show_fails {errno : Errno} (failed : s.outcome = some errno) :
    ∃ ret < 0, (fanBoostPwmShow data).result cpld s = sprintfInt ret := by
  have negative := errno_negative errno
  have reply : (cpld (.readByteData boostReg) s).1 = .error errno := by
    simp only [cpld, failed]
  refine ⟨min (-errno.code) data.config.pwmMax, by omega, ?_⟩
  rw [boost_show_result, reply]
  rfl

end Boost

/-- For every accepted configuration, every string, every outcome of the parsing
and every state of the CPLD: the boost PWM stays in range exactly where no negative
number is passed on and what was written can be read back. -/
theorem boost_in_range_iff (ucfg : IoctlConfig) (accepted : fbfancpldValidateConfig ucfg = 0)
    (kstrtoint : String → Except Errno Int) (buf : String) (count : Nat) (s : Cpld) :
    BoostInRange (configured ucfg) kstrtoint buf count s ↔ BoostFits kstrtoint buf s := by
  obtain ⟨positive, small⟩ := accepted_pwm_max accepted
  unfold BoostInRange BoostFits
  cases parsed : kstrtoint buf with
  | error errno =>
    obtain ⟨result, final⟩ := boost_refused (configured ucfg) kstrtoint buf count s parsed
    have negative := errno_negative errno
    exact iff_of_true (Or.inl ⟨by omega, by rw [final]⟩) (by simp)
  | ok val =>
    obtain ⟨failing, writing⟩ :=
      (boost_parsed (configured ucfg) kstrtoint buf count s parsed).outcome
    cases outcome : s.outcome with
    | some errno =>
      obtain ⟨result, kept⟩ := failing errno outcome
      have negative := errno_negative errno
      exact iff_of_true (Or.inl ⟨by omega, kept⟩) (by simp)
    | none =>
      obtain ⟨result, after⟩ := writing outcome
      simp only [result, after, Except.ok.injEq]
      constructor
      · rintro (⟨negative, _⟩ | ⟨n, rfl, _, _, shown⟩)
        · omega
        · rintro _ rfl _
          refine ⟨Int.natCast_nonneg n, ?_⟩
          by_contra disturbed
          obtain ⟨errno, failed⟩ := Option.ne_none_iff_exists'.mp disturbed
          obtain ⟨ret, negative, printed⟩ := boost_show_fails (configured ucfg)
            (boosted s (min (n : Int) (configured ucfg).config.pwmMax)) failed
          have minus := (sprintf_minus_iff ret).mpr negative
          rw [← printed, shown, sprintf_minus_iff] at minus
          omega
      · intro fits
        obtain ⟨nonnegative, succeeds⟩ := fits val rfl trivial
        obtain ⟨n, rfl⟩ := Int.eq_ofNat_of_zero_le nonnegative
        have written := (boosted_byte s (by omega) (by omega) :
          _ = min (n : Int) (configured ucfg).config.pwmMax)
        refine Or.inr ⟨n, rfl, written, fun command other => Function.update_of_ne other _ _, ?_⟩
        rw [boost_shown _ (boosted s _) succeeds, written, min_assoc, min_self]

/-- A number below the maximum. -/
theorem boost_in_range_25 :
    BoostInRange (configured ⟨8, 40, 150, 1, 0⟩) (fun _ => .ok 25) "25\n" 3 ⟨fun _ => 0, []⟩ ↔
      BoostFits (fun _ => .ok 25) "25\n" ⟨fun _ => 0, []⟩ :=
  boost_in_range_iff ⟨8, 40, 150, 1, 0⟩ (by decide) (fun _ => .ok 25) "25\n" 3 ⟨fun _ => 0, []⟩

/-- The number -1 is written as 255. -/
theorem boost_negative_written :
    ¬BoostInRange (configured ⟨8, 40, 150, 1, 0⟩) (fun _ => .ok (-1)) "-1\n" 3
      ⟨fun _ => 0, []⟩ ∧
    ((fanBoostPwmStore (configured ⟨8, 40, 150, 1, 0⟩) (fun _ => .ok (-1)) "-1\n" 3).final cpld
      ⟨fun _ => 0, []⟩).registers boostReg = 255 := by
  refine ⟨?_, by decide⟩
  rintro (⟨negative, _⟩ | ⟨val, parsed, _⟩)
  · exact absurd negative (by decide)
  · have same : (-1 : Int) = val := Except.ok.inj parsed
    omega

/-! ## Fan speed -/

/-- The tach register of a channel: with rear tachs, front and rear of a fan
alternate. -/
def tachReg (ucfg : IoctlConfig) (channel : Nat) : BitVec 8 :=
  BitVec.ofInt 8 <|
    if ucfg.hasRearTach ≠ 0 then
      if channel % 2 = 0 then regFanTachF (channel / 2 + 1) else regFanTachR (channel / 2 + 1)
    else regFanTachF (channel + 1)

/-- The PWM, LED and status registers of the fans, and the watchdog registers. -/
def otherRegs : List (BitVec 8) :=
  ((List.range maxFans).flatMap fun i : Nat =>
    [regFanPwm (i + 1), regFanLed (i + 1), regFanStatus (i + 1)]).map (BitVec.ofInt 8) ++
    [wdtCtrl0, wdtCtrl1, wdtStaReg, wdtPwmReg].map (BitVec.ofInt 8)

/-- The configured device has a speed file for the channel. -/
def ShowsSpeed (kstrtoint : String → Except Errno Int) (ucfg : IoctlConfig) (channel : Nat) :
    Prop :=
  (fbfancpld kstrtoint (configured ucfg)).chip.Exposes 0o444 .fan .fanInput channel

instance (kstrtoint : String → Except Errno Int) (ucfg : IoctlConfig) (channel : Nat) :
    Decidable (ShowsSpeed kstrtoint ucfg channel) :=
  inferInstanceAs (Decidable (HwmonChip.Exposes _ _ _ _ _))

/-- A speed is read from the tach register of its channel, which is that of no other
channel and has no other use; what is read is the byte times the multiplier that
the user has supplied. -/
structure SpeedScaled (kstrtoint : String → Except Errno Int) (ucfg : IoctlConfig) (channel : Nat)
    (s : Cpld) : Prop where
  value : ∀ val, (fbfancpldFanInputRead (configured ucfg) channel).result cpld s = .ok val →
    val = (s.registers (tachReg ucfg channel)).toNat * ucfg.speedMultiplier.toNat ∧ 0 ≤ val
  reads : ((fbfancpldFanInputRead (configured ucfg) channel).events cpld s).map Event.op =
    [.readByteData (tachReg ucfg channel)]
  distinct : ∀ other, ShowsSpeed kstrtoint ucfg other → other ≠ channel →
    tachReg ucfg other ≠ tachReg ucfg channel
  apart : tachReg ucfg channel ∉ otherRegs

/-- Where the register can be read, the multiplier fits an `int`, or the fan stands
still. -/
def SpeedFits (ucfg : IoctlConfig) (channel : Nat) (s : Cpld) : Prop :=
  s.outcome = none →
    ucfg.speedMultiplier.toNat < 2 ^ 31 ∨ s.registers (tachReg ucfg channel) = 0

section Speed

variable {kstrtoint : String → Except Errno Int} {ucfg : IoctlConfig}

/-- There are at most eight fans with at most two tachs each. -/
theorem speed_channel_lt (accepted : fbfancpldValidateConfig ucfg = 0) {channel : Nat}
    (shows : ShowsSpeed kstrtoint ucfg channel) :
    channel < if ucfg.hasRearTach ≠ 0 then 16 else 8 := by
  obtain ⟨_, few⟩ := accepted_fans accepted
  obtain ⟨listed, _⟩ := shows
  rw [HwmonChip.config, fan_channels kstrtoint accepted] at listed
  simp only [maxFans] at few
  by_contra beyond
  have outside : ∀ count ≤ if ucfg.hasRearTach ≠ 0 then 16 else 8,
      HwmonAttr.fanInput ∉ (List.replicate count fanChannelAttrs).getD channel [] := by
    intro count bounded
    rw [List.getD, List.getElem?_eq_none (by rw [List.length_replicate]; omega)]
    exact List.not_mem_nil
  exact outside _ (by split <;> omega) listed

/-- The number of a tach register. -/
theorem tach_reg_value {channel : Nat}
    (inside : channel < if ucfg.hasRearTach ≠ 0 then 16 else 8) :
    (tachReg ucfg channel).toNat =
      if ucfg.hasRearTach ≠ 0 then 0x30 + 0x10 * (channel / 2) + channel % 2
      else 0x30 + 0x10 * channel := by
  simp only [tachReg, regFanTachF, regFanTachR, BitVec.toNat_ofInt]
  split at inside <;> rename_i rear
  · rw [if_pos rear, if_pos rear]
    split <;> omega
  · rw [if_neg rear, if_neg rear]
    omega

/-- Different channels have different tach registers. -/
theorem tach_reg_distinct {channel other : Nat}
    (inside : channel < if ucfg.hasRearTach ≠ 0 then 16 else 8)
    (otherInside : other < if ucfg.hasRearTach ≠ 0 then 16 else 8) (differ : other ≠ channel) :
    tachReg ucfg other ≠ tachReg ucfg channel := by
  intro same
  have values := congrArg BitVec.toNat same
  rw [tach_reg_value inside, tach_reg_value otherInside] at values
  split at values <;> omega

/-- The last digit of a register of another use tells it from a tach register. -/
theorem other_regs_value :
    ∀ reg ∈ otherRegs, reg.toNat < 0x30 ∨ 2 ≤ reg.toNat % 16 := by
  decide

/-- The tachometer registers are none of the others. -/
theorem tach_reg_apart {channel : Nat}
    (inside : channel < if ucfg.hasRearTach ≠ 0 then 16 else 8) :
    tachReg ucfg channel ∉ otherRegs := by
  intro listed
  have value := other_regs_value _ listed
  rw [tach_reg_value inside] at value
  split at value <;> omega

/-- A speed is read in one transfer. -/
theorem fan_input_read_eq (channel : Nat) :
    fbfancpldFanInputRead (configured ucfg) channel =
      .perform (.readByteData (tachReg ucfg channel)) fun reply =>
        if readResult reply < 0 then .done (.error (readResult reply))
        else .done (.ok (wrapLong (readResult reply * ucfg.speedMultiplier.toInt))) := by
  have register : (if (configured ucfg).config.hasRearTach = true then
      if channel % 2 ≠ 0 then regFanTachR (channel / 2 + 1)
      else regFanTachF (channel / 2 + 1)
    else regFanTachF (channel + 1)) =
      if ucfg.hasRearTach ≠ 0 then
        if channel % 2 = 0 then regFanTachF (channel / 2 + 1) else regFanTachR (channel / 2 + 1)
      else regFanTachF (channel + 1) := by
    have stored : (configured ucfg).config.hasRearTach = true ↔ ucfg.hasRearTach ≠ 0 :=
      decide_eq_true_iff
    simp only [stored, ne_eq, ite_not]
  rw [tachReg, ← register]
  rfl

/-- The product of a byte and the stored multiplier. -/
theorem speed_exact_iff (byte : BitVec 8) (multiplier : BitVec 32) :
    wrapLong (byte.toNat * multiplier.toInt) = byte.toNat * multiplier.toNat ↔
      multiplier.toNat < 2 ^ 31 ∨ byte = 0 := by
  have small := byte.isLt
  have wide := multiplier.isLt
  have zero : byte = 0 ↔ byte.toNat = 0 := by
    rw [← BitVec.toNat_inj]
    rfl
  have bounds : -2 ^ 63 ≤ (byte.toNat : Int) * multiplier.toInt ∧
      (byte.toNat : Int) * multiplier.toInt < 2 ^ 63 := by
    have lower : (-2 ^ 31 : Int) ≤ multiplier.toInt := BitVec.le_toInt multiplier
    have upper : multiplier.toInt < (2 ^ 31 : Int) := BitVec.toInt_lt
    have nonnegative : (0 : Int) ≤ byte.toNat := Int.natCast_nonneg _
    have atMost : (byte.toNat : Int) ≤ 255 := by omega
    constructor <;> nlinarith only [lower, upper, nonnegative, atMost]
  rw [wrap_long_exact bounds.1 bounds.2, zero]
  by_cases fits : multiplier.toNat < 2 ^ 31
  · rw [BitVec.toInt_eq_toNat_of_lt (by omega)]
    exact iff_of_true rfl (Or.inl fits)
  · rw [BitVec.toInt_eq_toNat_cond, if_neg (by omega), Int.mul_sub]
    constructor
    · intro same
      right
      omega
    · rintro (inside | still)
      · exact absurd inside fits
      · simp [still]

/-- What a speed file shows: the product, or the error of the transfer. -/
theorem fan_input_read_result (channel : Nat) (s : Cpld) :
    (fbfancpldFanInputRead (configured ucfg) channel).result cpld s =
      match s.outcome with
      | some errno => .error (-errno.code)
      | none => .ok (wrapLong
          ((s.registers (tachReg ucfg channel)).toNat * ucfg.speedMultiplier.toInt)) := by
  rw [fan_input_read_eq]
  cases outcome : s.outcome with
  | some errno =>
    simp [Program.result, cpld, outcome, readResult, errno.positive]
  | none =>
    have byte : ¬((s.registers (tachReg ucfg channel)).toNat : Int) < 0 := by omega
    simp [Program.result, cpld, outcome, readResult, byte]

/-- The transfer of a speed file. -/
theorem fan_input_read_ops (channel : Nat) (s : Cpld) :
    ((fbfancpldFanInputRead (configured ucfg) channel).events cpld s).map Event.op =
      [.readByteData (tachReg ucfg channel)] := by
  rw [fan_input_read_eq, Program.events]
  split <;> rfl

end Speed

/-- For every accepted configuration, every channel with a speed file and every state
of the CPLD: the speed is the scaled byte of the channel's own register exactly
where the multiplier fits an `int` or the byte is zero. -/
theorem speed_scaled_iff (kstrtoint : String → Except Errno Int) (ucfg : IoctlConfig)
    (accepted : fbfancpldValidateConfig ucfg = 0) (channel : Nat)
    (shows : ShowsSpeed kstrtoint ucfg channel) (s : Cpld) :
    SpeedScaled kstrtoint ucfg channel s ↔ SpeedFits ucfg channel s := by
  have inside := speed_channel_lt accepted shows
  have exact_iff := speed_exact_iff (s.registers (tachReg ucfg channel)) ucfg.speedMultiplier
  unfold SpeedFits
  constructor
  · intro scaled succeeds
    have result := @fan_input_read_result ucfg channel s
    rw [succeeds] at result
    exact exact_iff.mp (scaled.value _ result).1
  · intro fits
    refine ⟨fun val shown => ?_, fan_input_read_ops channel s, fun other otherShows differ =>
      tach_reg_distinct inside (speed_channel_lt accepted otherShows) differ, tach_reg_apart inside⟩
    rw [fan_input_read_result] at shown
    cases outcome : s.outcome with
    | some errno => simp [outcome] at shown
    | none =>
      simp only [outcome, Except.ok.injEq] at shown
      rw [← shown, exact_iff.mpr (fits outcome)]
      exact ⟨rfl, Int.natCast_nonneg _⟩

/-- The rear tach of the second fan. -/
theorem speed_scaled_rear :
    SpeedScaled (fun _ => .ok 0) ⟨8, 40, 150, 1, 0⟩ 3 ⟨fun _ => 40, []⟩ ↔
      SpeedFits ⟨8, 40, 150, 1, 0⟩ 3 ⟨fun _ => 40, []⟩ :=
  speed_scaled_iff (fun _ => .ok 0) ⟨8, 40, 150, 1, 0⟩ (by decide) 3 (by decide) ⟨fun _ => 40, []⟩

/-- With the multiplier 2^31 a running fan has a negative speed. -/
theorem speed_negative :
    fbfancpldValidateConfig ⟨8, 40, 0x80000000, 0, 0⟩ = 0 ∧
      ShowsSpeed (fun _ => .ok 0) ⟨8, 40, 0x80000000, 0, 0⟩ 0 ∧
      ¬SpeedScaled (fun _ => .ok 0) ⟨8, 40, 0x80000000, 0, 0⟩ 0 ⟨fun _ => 1, []⟩ := by
  refine ⟨by decide, by decide, fun scaled => ?_⟩
  have shown : (fbfancpldFanInputRead (configured ⟨8, 40, 0x80000000, 0, 0⟩) 0).result cpld
      ⟨fun _ => 1, []⟩ = .ok (-0x80000000) := by decide
  exact absurd (scaled.value _ shown).2 (by decide)

end FbossBsp.Fbfancpld
