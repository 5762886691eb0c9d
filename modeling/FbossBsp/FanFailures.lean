import FbossBsp.FanLeds

/-!
# Failing reads of the generic fan driver

Seven operations of the driver read the CPLD for user space. Four of them check
what a read has returned. The show handlers of `fanN_present` and `pwm_boost`
print a text made of the error number, and the watchdog computes with it.
-/

namespace FbossBsp.Fbfancpld

open Interaction

/-! ## Read operations -/

/-- A read operation that user space can call. -/
inductive ReadOp where
  | fanInput (channel : Nat)
  | pwmInput (channel : Nat)
  | pwmEnable (channel : Nat)
  | present (fn : Int)
  | boost
  | led (ldata : FanLedData)
  | timeleft

/-- The operation on a configured device. -/
def ReadOp.perform (data : Data) : ReadOp → FanIo FanReply
  | .fanInput channel => do return .value (← fbfancpldFanInputRead data channel)
  | .pwmInput channel => do return .value (← fbfancpldPwmInputRead data channel)
  | .pwmEnable channel => do return .value (← fbfancpldPwmEnableRead channel)
  | .present fn => do return .text (← fanPresentShow fn)
  | .boost => do return .text (← fanBoostPwmShow data)
  | .led ldata => do return .status (← fanLedBrightnessGet ldata)
  | .timeleft => do return .timeleft (← fanWdtGetTimeleft)

/-- What the caller takes for a failure. A show handler returns the length of
its text. -/
def Failed : FanReply → Prop
  | .value (.error ret) => ret < 0
  | .value (.ok _) => False
  | .status ret => ret < 0
  | .text buf => (buf.length : Int) < 0
  | .timeleft seconds => seconds = 0

/-- The hardware timeout bounds the seconds that are left. -/
def Bounded (answers : BitVec 8 → Except Errno (BitVec 8)) : FanReply → Prop
  | .timeleft seconds =>
      ∀ byte, answers (BitVec.ofInt 8 wdtCtrl1) = .ok byte → seconds.toNat ≤ 5 * byte.toNat
  | _ => True

/-- A CPLD that answers each read in one way, and `wdd->timeout`. -/
abbrev answeringFan := withTimeout answeringCpld

/-- A read of the run has failed. -/
def ReadFails (routine : FanIo FanReply) (answers : BitVec 8 → Except Errno (BitVec 8))
    (timeout : BitVec 32) : Prop :=
  ∃ (command : BitVec 8) (errno : Errno),
    (⟨.smbus (.readByteData command), .error errno⟩ : Event FanOp FanOp.Reply) ∈
      routine.events answeringFan (answers, timeout)

/-- A failing read is reported as a failure, and no more seconds are left than
the timeout of the hardware. -/
def Reports (routine : FanIo FanReply) (answers : BitVec 8 → Except Errno (BitVec 8))
    (timeout : BitVec 32) : Prop :=
  (ReadFails routine answers timeout → Failed (routine.result answeringFan (answers, timeout))) ∧
    Bounded answers (routine.result answeringFan (answers, timeout))

/-- Which answers the operation handles: the show handlers none that is an
error, and the watchdog an error of WDT_CTRL_1 that no larger error outweighs. -/
def ReadOp.Handles (answers : BitVec 8 → Except Errno (BitVec 8)) : ReadOp → Prop
  | .present fn => (answers (BitVec.ofInt 8 (regFanStatus fn))).isOk
  | .boost => (answers (BitVec.ofInt 8 wdtPwmReg)).isOk
  | .timeleft =>
      match answers (BitVec.ofInt 8 wdtCtrl1), answers (BitVec.ofInt 8 wdtStaReg) with
      | .ok _, .ok _ => True
      | .ok _, .error _ => False
      | .error _, .ok _ => True
      | .error errno, .error other => other.code ≤ errno.code
  | .fanInput _ | .pwmInput _ | .pwmEnable _ | .led _ => True

/-! ## Operations with one read -/

/-- One read, and a reply made of its result. -/
def readOne (command : BitVec 8) (reply : Int → FanReply) : FanIo FanReply :=
  .perform (.smbus (.readByteData command)) fun answer => .done (reply (readResult answer))

/-- The event of a failed read says which register was read. -/
theorem failed_event_iff {command reg : BitVec 8} {errno : Errno}
    {answer : Except Errno (BitVec 8)} :
    (⟨.smbus (.readByteData command), .error errno⟩ : Event FanOp FanOp.Reply) =
        ⟨.smbus (.readByteData reg), answer⟩ ↔ command = reg ∧ answer = .error errno := by
  constructor
  · intro same
    cases same
    exact ⟨rfl, rfl⟩
  · rintro ⟨rfl, rfl⟩
    rfl

section One

variable (answers : BitVec 8 → Except Errno (BitVec 8)) (timeout : BitVec 32)

/-- The read of the routine is the one that may fail. -/
theorem read_one_fails_iff (command : BitVec 8) (reply : Int → FanReply) :
    ReadFails (readOne command reply) answers timeout ↔ ∃ errno, answers command = .error errno := by
  have events : (readOne command reply).events answeringFan (answers, timeout) =
      [⟨.smbus (.readByteData command), answers command⟩] := rfl
  simp only [ReadFails, events, List.mem_singleton, failed_event_iff]
  constructor
  · rintro ⟨_, errno, rfl, failed⟩
    exact ⟨errno, failed⟩
  · rintro ⟨errno, failed⟩
    exact ⟨command, errno, rfl, failed⟩

/-- A routine that reads one register makes its reply of the result. -/
theorem read_one_result (command : BitVec 8) (reply : Int → FanReply) :
    (readOne command reply).result answeringFan (answers, timeout) =
      reply (readResult (answers command)) := rfl

/-- A routine that passes every negative result on reports a failing read. -/
theorem passed_on_reports (command : BitVec 8) (reply : Int → FanReply)
    (passed : ∀ ret, ret < 0 → Failed (reply ret))
    (untimed : ∀ ret, Bounded answers (reply ret)) :
    Reports (readOne command reply) answers timeout := by
  rw [Reports, read_one_fails_iff, read_one_result]
  refine ⟨?_, untimed _⟩
  rintro ⟨errno, failed⟩
  rw [failed]
  exact passed _ (errno_negative errno)

/-- A routine that prints every result reports well where nothing fails. -/
theorem printed_reports_iff (command : BitVec 8) (print : Int → String) :
    Reports (readOne command fun ret => .text (print ret)) answers timeout ↔
      (answers command).isOk := by
  have printed (text : String) : ¬Failed (.text text) :=
    Int.not_lt.mpr (Int.natCast_nonneg text.length)
  rw [Reports, read_one_fails_iff, read_one_result]
  cases answers command with
  | error errno => exact iff_of_false (fun reports => printed _ (reports.1 ⟨errno, rfl⟩)) nofun
  | ok byte =>
    have succeeds : ¬∃ errno, (Except.ok byte : Except Errno (BitVec 8)) = .error errno := nofun
    exact iff_of_true ⟨fun fails => absurd fails succeeds, trivial⟩ rfl

end One

/-- A routine that returns early where its read has failed. -/
theorem checked_read {α : Type} (command : Int) (failure success : Int → α) (wrap : α → FanReply) :
    (liftM (i2cSmbusReadByteData command >>= fun ret =>
      if ret < 0 then pure (failure ret) else pure (success ret) : Smbus α) >>= fun value =>
        pure (wrap value) : FanIo FanReply) =
      readOne (BitVec.ofInt 8 command) fun ret =>
        wrap (if ret < 0 then failure ret else success ret) := by
  change Program.perform _ _ = Program.perform _ _
  congr 1
  funext answer
  change (liftM (if readResult answer < 0 then pure (failure (readResult answer))
      else pure (success (readResult answer)) : Smbus α) >>= fun value => pure (wrap value)) =
    Program.done (wrap
      (if readResult answer < 0 then failure (readResult answer) else success (readResult answer)))
  by_cases negative : readResult answer < 0
  · rw [if_pos negative, if_pos negative]
    rfl
  · rw [if_neg negative, if_neg negative]
    rfl

section Operations

variable (data : Data) (answers : BitVec 8 → Except Errno (BitVec 8)) (timeout : BitVec 32)

/-- A routine that returns early where its read has failed reports the failure. -/
theorem checked_reports {α : Type} {command : Int} {failure success : Int → α}
    (wrap : α → FanReply) (failed : ∀ ret, ret < 0 → Failed (wrap (failure ret)))
    (untimed : ∀ value, Bounded answers (wrap value)) :
    Reports (liftM (i2cSmbusReadByteData command >>= fun ret =>
      if ret < 0 then pure (failure ret) else pure (success ret) : Smbus α) >>= fun value =>
        pure (wrap value)) answers timeout := by
  rw [checked_read]
  apply passed_on_reports
  · intro ret negative
    rw [if_pos negative]
    exact failed ret negative
  · exact fun ret => untimed _

/-- A failed read of a speed is reported. -/
theorem fan_input_reports (channel : Nat) :
    Reports (ReadOp.perform data (.fanInput channel)) answers timeout :=
  checked_reports answers timeout FanReply.value (fun _ negative => negative) fun _ => trivial

/-- A failed read of a duty is reported. -/
theorem pwm_input_reports (channel : Nat) :
    Reports (ReadOp.perform data (.pwmInput channel)) answers timeout :=
  checked_reports answers timeout FanReply.value (fun _ negative => negative) fun _ => trivial

/-- A failed read of a mode is reported. -/
theorem pwm_enable_reports (channel : Nat) :
    Reports (ReadOp.perform data (.pwmEnable channel)) answers timeout :=
  checked_reports answers timeout FanReply.value (fun _ negative => negative) fun _ => trivial

/-- A failed read of a LED is reported. -/
theorem led_reports (ldata : FanLedData) :
    Reports (ReadOp.perform data (.led ldata)) answers timeout :=
  checked_reports answers timeout FanReply.status (fun _ negative => negative) fun _ => trivial

/-- `fan_present_show` prints a state even where its read has failed. -/
theorem present_reports_iff (fn : Int) :
    Reports (ReadOp.perform data (.present fn)) answers timeout ↔
      ReadOp.Handles answers (.present fn) :=
  printed_reports_iff answers timeout (BitVec.ofInt 8 (regFanStatus fn)) fun regData =>
    sprintfInt (if BitVec.ofInt 32 regData &&& fanPresentMask ≠ 0 then 0 else 1)

/-- `fan_boost_pwm_show` prints a number even where its read has failed. -/
theorem boost_reports_iff :
    Reports (ReadOp.perform data .boost) answers timeout ↔ ReadOp.Handles answers .boost :=
  printed_reports_iff answers timeout (BitVec.ofInt 8 wdtPwmReg) fun ret =>
    sprintfInt (if ret > data.config.pwmMax then data.config.pwmMax else ret)

/-! ## The time left -/

/-- `fan_wdt_get_timeleft` on the results of its reads. -/
def timeleftOf (maxTimeout counter : Int) : BitVec 32 :=
  BitVec.ofInt 32 (if (maxTimeout - counter) * 5 < 0 then 0 else (maxTimeout - counter) * 5)

/-- Such results are small, so the seconds are computed without overflow. -/
theorem timeleft_to_nat (first second : Except Errno (BitVec 8)) :
    (timeleftOf (readResult first) (readResult second)).toNat =
      ((readResult first - readResult second) * 5).toNat := by
  obtain ⟨firstLow, firstHigh⟩ := read_result_bounds first
  obtain ⟨secondLow, secondHigh⟩ := read_result_bounds second
  generalize readResult first = maxTimeout at *
  generalize readResult second = counter at *
  rw [timeleftOf, BitVec.toNat_ofInt]
  by_cases negative : (maxTimeout - counter) * 5 < 0
  · rw [if_pos negative]
    have none : ((maxTimeout - counter) * 5).toNat = 0 := Int.toNat_of_nonpos (by omega)
    rw [none]
    rfl
  · rw [if_neg negative, Int.emod_eq_of_lt (by omega)]
    have bound : (maxTimeout - counter) * 5 ≤ 21750 := by omega
    exact lt_of_le_of_lt bound (by decide)

/-- Time left is computed from the two registers, both of which are read. -/
theorem timeleft_run :
    ReadOp.perform data .timeleft =
      .perform (.smbus (.readByteData (BitVec.ofInt 8 wdtCtrl1))) fun maxTimeout =>
        .perform (.smbus (.readByteData (BitVec.ofInt 8 wdtStaReg))) fun counter =>
          .done (.timeleft (timeleftOf (readResult maxTimeout) (readResult counter))) := rfl

/-- The time left is made of the results of two reads. -/
theorem timeleft_result :
    (ReadOp.perform data .timeleft).result answeringFan (answers, timeout) =
      .timeleft (timeleftOf (readResult (answers (BitVec.ofInt 8 wdtCtrl1)))
        (readResult (answers (BitVec.ofInt 8 wdtStaReg)))) := by
  rw [timeleft_run]
  rfl

/-- A read of the time left fails where one of its two transfers does. -/
theorem timeleft_fails_iff :
    ReadFails (ReadOp.perform data .timeleft) answers timeout ↔
      (∃ errno, answers (BitVec.ofInt 8 wdtCtrl1) = .error errno) ∨
        ∃ errno, answers (BitVec.ofInt 8 wdtStaReg) = .error errno := by
  have events : (ReadOp.perform data .timeleft).events answeringFan (answers, timeout) =
      [⟨.smbus (.readByteData (BitVec.ofInt 8 wdtCtrl1)), answers (BitVec.ofInt 8 wdtCtrl1)⟩,
        ⟨.smbus (.readByteData (BitVec.ofInt 8 wdtStaReg)), answers (BitVec.ofInt 8 wdtStaReg)⟩] := by
    rw [timeleft_run]
    rfl
  simp only [ReadFails, events, List.mem_cons, List.not_mem_nil, or_false, failed_event_iff]
  constructor
  · rintro ⟨_, errno, ⟨_, failed⟩ | ⟨_, failed⟩⟩
    · exact .inl ⟨errno, failed⟩
    · exact .inr ⟨errno, failed⟩
  · rintro (⟨errno, failed⟩ | ⟨errno, failed⟩)
    · exact ⟨_, errno, .inl ⟨rfl, failed⟩⟩
    · exact ⟨_, errno, .inr ⟨rfl, failed⟩⟩

/-- The time left is zero when the first result does not exceed the second. -/
theorem timeleft_failed_iff :
    Failed ((ReadOp.perform data .timeleft).result answeringFan (answers, timeout)) ↔
      readResult (answers (BitVec.ofInt 8 wdtCtrl1)) ≤
        readResult (answers (BitVec.ofInt 8 wdtStaReg)) := by
  rw [timeleft_result, Failed, ← BitVec.toNat_inj, timeleft_to_nat]
  change ((_ : Int) * 5).toNat = 0 ↔ _
  omega

/-- `get_timeleft` reports its failures exactly where the condition holds.

Proof: by the outcomes of the two reads. An error number counts as so many steps,
and only a count below zero is cut to the failure. -/
theorem timeleft_reports_iff :
    Reports (ReadOp.perform data .timeleft) answers timeout ↔ ReadOp.Handles answers .timeleft := by
  have seconds := timeleft_to_nat (answers (BitVec.ofInt 8 wdtCtrl1))
    (answers (BitVec.ofInt 8 wdtStaReg))
  rw [Reports, timeleft_fails_iff, timeleft_failed_iff, timeleft_result, ReadOp.Handles, Bounded,
    seconds]
  cases answers (BitVec.ofInt 8 wdtCtrl1) with
  | ok maxTimeout =>
    cases answers (BitVec.ofInt 8 wdtStaReg) with
    | ok counter =>
      refine iff_of_true ⟨?_, ?_⟩ trivial
      · rintro (⟨_, failed⟩ | ⟨_, failed⟩) <;> cases failed
      · intro byte same
        cases same
        simp only [readResult]
        omega
    | error errno =>
      refine iff_of_false (fun reports => ?_) id
      have outweighed := reports.1 (.inr ⟨errno, rfl⟩)
      have positive := errno.positive
      simp only [readResult] at outweighed
      omega
  | error errno =>
    have refused (byte : BitVec 8) : Except.error errno ≠ .ok byte := by simp
    cases answers (BitVec.ofInt 8 wdtStaReg) with
    | ok counter =>
      refine iff_of_true ⟨fun _ => ?_, fun byte same => absurd same (refused byte)⟩ trivial
      simp only [readResult]
      omega
    | error other =>
      simp only [readResult, neg_le_neg_iff, Nat.cast_le]
      constructor
      · exact fun reports => reports.1 (.inl ⟨errno, rfl⟩)
      · exact fun smaller => ⟨fun _ => smaller, fun byte same => absurd same (refused byte)⟩

/-- Whatever the configuration is and whatever the registers answer, a read
operation reports failing reads exactly where it handles the answers. -/
theorem read_failures_reported_iff (op : ReadOp) :
    Reports (op.perform data) answers timeout ↔ op.Handles answers := by
  cases op with
  | fanInput channel => exact iff_of_true (fan_input_reports data answers timeout channel) trivial
  | pwmInput channel => exact iff_of_true (pwm_input_reports data answers timeout channel) trivial
  | pwmEnable channel => exact iff_of_true (pwm_enable_reports data answers timeout channel) trivial
  | present fn => exact present_reports_iff data answers timeout fn
  | boost => exact boost_reports_iff data answers timeout
  | led ldata => exact iff_of_true (led_reports data answers timeout ldata) trivial
  | timeleft => exact timeleft_reports_iff data answers timeout

end Operations

/-- After an error a fan is shown as absent or present all the same, the error
number is shown as the boost, and a failing counter leaves 1300 seconds of a
timeout of 1275. -/
theorem failing_reads_unreported :
    ¬Reports (ReadOp.perform (configured ⟨1, 100, 150, 0, 1⟩) (.present 1))
        (fun _ => .error ⟨5, by decide, by decide⟩) 0 ∧
      ¬Reports (ReadOp.perform (configured ⟨1, 100, 150, 0, 1⟩) .boost)
        (fun _ => .error ⟨5, by decide, by decide⟩) 0 ∧
      ¬Reports (ReadOp.perform (configured ⟨1, 100, 150, 0, 1⟩) .timeleft)
        (fun reg => if reg = 0x20 then .ok 0xFF else .error ⟨5, by decide, by decide⟩) 0 := by
  refine ⟨fun reports => ?_, fun reports => ?_, fun reports => ?_⟩
  · exact Bool.false_ne_true ((present_reports_iff _ _ _ 1).mp reports)
  · exact Bool.false_ne_true ((boost_reports_iff _ _ _).mp reports)
  · exact (timeleft_reports_iff _ _ _).mp reports

end FbossBsp.Fbfancpld
