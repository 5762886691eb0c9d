import FbossBsp.FanCpld

/-!
# The fan watchdog and its hardware timeout

The CPLD counts in steps of five seconds up to the number in WDT_CTRL_1, and the
watchdog runs while WDT_CTRL_0 holds WDT_ENABLE. The driver keeps the timeout in
seconds in `wdd->timeout`. The two agree only as long as every call meets a
condition, because the driver stores the timeout before it writes the register,
rounds it for the register only, and never writes the register at its start.
-/

namespace FbossBsp.Fbfancpld

open Interaction

/-! ## The CPLD -/

/-- A CPLD whose writes may fail. `control` is the last value written to
WDT_CTRL_0 since the driver started, and `outcomes` says which errors the next
writes end with. -/
structure WdtCpld where
  registers : BitVec 8 → BitVec 8
  control : Option (BitVec 8)
  outcomes : List (Option Errno)

/-- A failed write leaves the registers unchanged. -/
def wdtCpld : SmbusDevice WdtCpld
  | .readByteData command, s => (.ok (s.registers command), s)
  | .writeByteData command value, s =>
    match s.outcomes.headD none with
    | some errno => (.error errno, { s with outcomes := s.outcomes.tail })
    | none => (.ok (), {
        registers := Function.update s.registers command value
        control := if command = 0x1F then some value else s.control
        outcomes := s.outcomes.tail })

/-- The CPLD and `wdd->timeout`. -/
abbrev Watchdog := WdtCpld × BitVec 32

namespace Watchdog

variable (s : Watchdog)

/-- The next write succeeds. -/
def Accepts : Prop := (s.1.outcomes.headD none).isNone

/-- The last successful control write set WDT_ENABLE. -/
def Enabled : Prop := s.1.control.any fun value => value &&& wdtEnable.setWidth 8 ≠ 0

/-- The seconds after which the hardware fires. -/
def hardwareTimeout : Nat := 5 * (s.1.registers 0x20).toNat

/-- While enabled, the watchdog runs with the timeout it reports. -/
def Synchronized : Prop := s.Enabled → s.hardwareTimeout = s.2.toNat

instance : Decidable s.Accepts := inferInstanceAs (Decidable (_ = true))
instance : Decidable s.Enabled := inferInstanceAs (Decidable (_ = true))
instance : Decidable s.Synchronized := inferInstanceAs (Decidable (_ → _))

end Watchdog

/-! ## Calls -/

inductive WdtCall where
  | setTimeout (timeout : BitVec 32)
  | start
  | ping
  | stop

namespace WdtCall

def perform : WdtCall → FanIo Int
  | .setTimeout timeout => fanWdtSetTimeout timeout
  | .start => fanWdtStart
  | .ping => fanWdtPing
  | .stop => fanWdtStop

/-- The watchdog core passes no timeout above the maximum. -/
def InRange : WdtCall → Prop
  | .setTimeout timeout => timeout ≤ wdtTimeoutMax
  | _ => True

/-- A `set_timeout` that returns an error leaves the timeout unchanged. -/
def FailureKeeps (call : WdtCall) (s : Watchdog) : Prop :=
  match call with
  | .setTimeout _ =>
      call.perform.result (withTimeout wdtCpld) s ≠ 0 →
        (call.perform.final (withTimeout wdtCpld) s).2 = s.2
  | _ => True

/-- What keeps the timeouts equal: the watchdog is enabled only while they are
equal, an enabled watchdog gets multiples of five, and a `set_timeout` that will
fail repeats the current timeout. -/
def Harmless (call : WdtCall) (s : Watchdog) : Prop :=
  match call with
  | .setTimeout timeout =>
      (s.Accepts → s.Enabled → 5 ∣ timeout.toNat) ∧ (¬s.Accepts → timeout = s.2)
  | .start | .ping => s.Accepts → s.hardwareTimeout = s.2.toNat
  | .stop => True

instance : DecidablePred InRange
  | .setTimeout _ => inferInstanceAs (Decidable (_ ≤ _))
  | .start | .ping | .stop => .isTrue trivial

instance (call : WdtCall) (s : Watchdog) : Decidable (call.FailureKeeps s) :=
  match call with
  | .setTimeout _ => inferInstanceAs (Decidable (_ → _))
  | .start | .ping | .stop => .isTrue trivial

instance (call : WdtCall) (s : Watchdog) : Decidable (call.Harmless s) :=
  match call with
  | .setTimeout _ => inferInstanceAs (Decidable ((_ → _ → _) ∧ (_ → _)))
  | .start | .ping => inferInstanceAs (Decidable (_ → _))
  | .stop => .isTrue trivial

end WdtCall

/-! ## Writes -/

section Writes

variable (s : Watchdog) (command value : BitVec 8)

/-- The watchdog after a write that succeeds. -/
def Watchdog.written : Watchdog :=
  ({ registers := Function.update s.1.registers command value
     control := if command = 0x1F then some value else s.1.control
     outcomes := s.1.outcomes.tail }, s.2)

/-- The watchdog after a write that fails. -/
def Watchdog.refused : Watchdog := ({ s.1 with outcomes := s.1.outcomes.tail }, s.2)

/-- A write succeeds and stores its value, or fails and stores nothing. -/
theorem write_cases :
    (s.Accepts ∧ withTimeout wdtCpld (.smbus (.writeByteData command value)) s =
      (.ok (), s.written command value)) ∨
    (¬s.Accepts ∧ ∃ errno, withTimeout wdtCpld (.smbus (.writeByteData command value)) s =
      (.error errno, s.refused)) := by
  obtain ⟨cpld, timeout⟩ := s
  cases outcome : cpld.outcomes.headD none with
  | none =>
    left
    constructor
    · simp only [Watchdog.Accepts, outcome, Option.isNone_none]
    · simp only [withTimeout, wdtCpld, outcome, Watchdog.written]
  | some errno =>
    right
    constructor
    · simp [Watchdog.Accepts, outcome, -List.headD_eq_head?_getD]
    · use errno
      simp only [withTimeout, wdtCpld, outcome, Watchdog.refused]

/-- A control write keeps the timeouts equal unless it enables the watchdog with
another timeout. -/
theorem control_synchronized (synchronized : s.Synchronized) :
    Watchdog.Synchronized (withTimeout wdtCpld (.smbus (.writeByteData 0x1F value)) s).2 ↔
      (s.Accepts → value &&& wdtEnable.setWidth 8 ≠ 0 → s.hardwareTimeout = s.2.toNat) := by
  obtain ⟨accepts, written⟩ | ⟨refuses, errno, failed⟩ := write_cases s 0x1F value
  · have enables : (s.written 0x1F value).Enabled ↔ value &&& wdtEnable.setWidth 8 ≠ 0 := by
      simp [Watchdog.Enabled, Watchdog.written]
    have running : (s.written 0x1F value).hardwareTimeout = s.hardwareTimeout := by
      simp [Watchdog.hardwareTimeout, Watchdog.written]
    rw [written, Watchdog.Synchronized, enables, running]
    exact ⟨fun kept _ => kept, fun kept => kept accepts⟩
  · rw [failed]
    exact ⟨fun _ accepts => absurd accepts refuses, fun _ => synchronized⟩

end Writes

/-! ## One call -/

section Step

variable (s : Watchdog)

/-- A timeout in range is written as its number of five-second steps. -/
theorem timeout_register {timeout : BitVec 32} (inRange : timeout ≤ wdtTimeoutMax) :
    ((timeout / 5).setWidth 8).toNat = timeout.toNat / 5 := by
  have bound : timeout.toNat ≤ 1275 := inRange
  rw [BitVec.toNat_setWidth, BitVec.toNat_udiv]
  exact Nat.mod_eq_of_lt (by change timeout.toNat / 5 < 256; omega)

/-- `set_timeout` stores the timeout and then writes the register. -/
theorem set_timeout_run {timeout : BitVec 32} (inRange : timeout ≤ wdtTimeoutMax) :
    let op : FanOp := .smbus (.writeByteData 0x20 ((timeout / 5).setWidth 8))
    (fanWdtSetTimeout timeout).final (withTimeout wdtCpld) s =
        (withTimeout wdtCpld op (s.1, timeout)).2 ∧
      (fanWdtSetTimeout timeout).result (withTimeout wdtCpld) s =
        writeResult (withTimeout wdtCpld op (s.1, timeout)).1 := by
  have capped : (if timeout < wdtTimeoutMax then timeout else wdtTimeoutMax) = timeout := by
    split
    · rfl
    · bv_omega
  have byte : BitVec.ofInt 8 (((timeout / 5).setWidth 8).toNat : Int) =
      (timeout / 5).setWidth 8 := by
    rw [BitVec.ofInt_natCast, BitVec.ofNat_toNat, BitVec.setWidth_eq]
  have run : fanWdtSetTimeout timeout = .perform (.storeTimeout timeout) fun _ =>
      .perform .loadTimeout fun stored =>
        .perform (.smbus (.writeByteData 0x20
          (BitVec.ofInt 8 (((stored / 5).setWidth 8).toNat : Int)))) fun reply =>
            .done (writeResult reply) := by
    unfold fanWdtSetTimeout
    rw [capped]
    rfl
  rw [run]
  simp only [Program.final, Program.result, withTimeout]
  rw [byte]
  exact ⟨rfl, rfl⟩

/-- The step of `set_timeout`. -/
theorem set_timeout_step {timeout : BitVec 32} (inRange : timeout ≤ wdtTimeoutMax)
    (synchronized : s.Synchronized) :
    let call := WdtCall.setTimeout timeout
    Watchdog.Synchronized (call.perform.final (withTimeout wdtCpld) s) ∧ call.FailureKeeps s ↔
      call.Harmless s := by
  have register := timeout_register inRange
  obtain ⟨final, result⟩ := set_timeout_run s inRange
  simp only [WdtCall.FailureKeeps, WdtCall.Harmless, WdtCall.perform, final, result]
  obtain ⟨accepts, written⟩ | ⟨refuses, errno, failed⟩ :=
    write_cases (s.1, timeout) 0x20 ((timeout / 5).setWidth 8)
  · have accepted : s.Accepts := accepts
    have hardware : Watchdog.hardwareTimeout
        (Watchdog.written (s.1, timeout) 0x20 ((timeout / 5).setWidth 8)) =
          5 * (timeout.toNat / 5) := by
      rw [← register]
      simp only [Watchdog.hardwareTimeout, Watchdog.written, Function.update_self]
    have running : Watchdog.Synchronized
        (Watchdog.written (s.1, timeout) 0x20 ((timeout / 5).setWidth 8)) ↔
          (s.Enabled → 5 * (timeout.toNat / 5) = timeout.toNat) := by
      rw [Watchdog.Synchronized, hardware]
      rfl
    rw [written, running]
    simp only [writeResult, ne_eq, not_true_eq_false, false_implies, and_true, accepted,
      true_implies]
    constructor
    · intro equal enabled
      exact ⟨timeout.toNat / 5, (equal enabled).symm⟩
    · intro divides enabled
      exact Nat.mul_div_cancel' (divides enabled)
  · have refused : ¬s.Accepts := refuses
    have error : writeResult (.error errno) ≠ 0 := by
      have positive := errno.positive
      simp only [writeResult]
      omega
    rw [failed]
    simp only [refused, false_implies, not_false_eq_true, true_implies, true_and]
    constructor
    · rintro ⟨_, keeps⟩
      exact keeps error
    · rintro rfl
      exact ⟨synchronized, fun _ => rfl⟩

/-- Each call keeps the timeouts equal, and a failing `set_timeout` keeps the
reported one, exactly when the call is harmless. -/
theorem call_step (call : WdtCall) (inRange : call.InRange) (synchronized : s.Synchronized) :
    Watchdog.Synchronized (call.perform.final (withTimeout wdtCpld) s) ∧ call.FailureKeeps s ↔
      call.Harmless s := by
  cases call with
  | setTimeout timeout => exact set_timeout_step s inRange synchronized
  | start =>
    have run := control_synchronized s 0x10 synchronized
    constructor
    · rintro ⟨kept, _⟩ accepts
      exact run.mp kept accepts (by decide)
    · intro equal
      exact ⟨run.mpr fun accepts _ => equal accepts, trivial⟩
  | ping =>
    have run := control_synchronized s 0x30 synchronized
    constructor
    · rintro ⟨kept, _⟩ accepts
      exact run.mp kept accepts (by decide)
    · intro equal
      exact ⟨run.mpr fun accepts _ => equal accepts, trivial⟩
  | stop =>
    have run := control_synchronized s 0 synchronized
    exact ⟨fun _ => trivial, fun _ => ⟨run.mpr fun _ enables => absurd rfl enables, trivial⟩⟩

/-- The same of every state and call of a run.

Proof: the law of one call, by induction on the run. -/
theorem run_step (calls : List WdtCall) (inRange : ∀ call ∈ calls, call.InRange)
    (synchronized : s.Synchronized) :
    Calls.Throughout (withTimeout wdtCpld) WdtCall.perform Watchdog.Synchronized calls s ∧
        Calls.Each (withTimeout wdtCpld) WdtCall.perform WdtCall.FailureKeeps calls s ↔
      Calls.Each (withTimeout wdtCpld) WdtCall.perform WdtCall.Harmless calls s := by
  apply Calls.throughout_iff
  · intro call member start synchronized
    exact call_step start call (inRange call member) synchronized
  · exact synchronized

end Step

/-! ## The condition by the earlier calls -/

/-- What the calls so far have told the driver: the timeout of the last
`set_timeout` that succeeded, and whether the last successful control write
enabled the watchdog. -/
structure Told where
  timeout : Option (BitVec 32)
  enabled : Bool

namespace Told

/-- A call whose write succeeds is told. -/
def tell (told : Told) : WdtCall → Told
  | .setTimeout timeout => { told with timeout := some timeout }
  | .start | .ping => { told with enabled := true }
  | .stop => { told with enabled := false }

section Conditions

variable (initial : BitVec 32) (steps : BitVec 8)

/-- A call is permitted, given whether its write succeeds. A start or a ping that
succeeds follows a timeout that is a multiple of five, or without one meets an
initial timeout of just the steps that WDT_CTRL_1 holds. -/
def Permits (told : Told) (accepted : Bool) : WdtCall → Prop
  | .setTimeout timeout =>
      (accepted = true → told.enabled = true → 5 ∣ timeout.toNat) ∧
        (accepted = false → timeout = told.timeout.getD initial)
  | .start | .ping =>
      accepted = true → told.timeout.elim (5 * steps.toNat = initial.toNat) (5 ∣ ·.toNat)
  | .stop => True

/-- Each call is permitted after the ones before it, where the writes of the calls
end with the errors. -/
def PermitsAll : List WdtCall → List (Option Errno) → Told → Prop
  | [], _, _ => True
  | call :: rest, outcomes, told =>
      let accepted := (outcomes.headD none).isNone
      told.Permits initial steps accepted call ∧
        PermitsAll rest outcomes.tail (if accepted then told.tell call else told)

/-- The watchdog is as the calls have left it. -/
structure Of (told : Told) (s : Watchdog) : Prop where
  timeout : s.2 = told.timeout.getD initial
  register : s.1.registers 0x20 = told.timeout.elim steps fun timeout => (timeout / 5).setWidth 8
  enabled : s.Enabled ↔ told.enabled = true
  inRange : ∀ timeout, told.timeout = some timeout → timeout ≤ wdtTimeoutMax

end Conditions

end Told

section Inputs

variable {initial : BitVec 32} {steps : BitVec 8} {told : Told} {s : Watchdog}

/-- The hardware runs with the reported timeout when that is a multiple of five, or
the initial one that the steps make. -/
theorem told_hardware (of : told.Of initial steps s) :
    s.hardwareTimeout = s.2.toNat ↔
      told.timeout.elim (5 * steps.toNat = initial.toNat) (5 ∣ ·.toNat) := by
  rw [Watchdog.hardwareTimeout, of.timeout, of.register]
  cases set : told.timeout with
  | none => rfl
  | some timeout =>
    simp only [Option.elim_some, Option.getD_some, timeout_register (of.inRange timeout set)]
    constructor
    · intro equal
      exact ⟨timeout.toNat / 5, equal.symm⟩
    · exact Nat.mul_div_cancel'

/-- What a call needs is what the earlier calls permit. -/
theorem harmless_permitted (of : told.Of initial steps s) (call : WdtCall) :
    call.Harmless s ↔ told.Permits initial steps (s.1.outcomes.headD none).isNone call := by
  cases call with
  | setTimeout timeout =>
    simp only [WdtCall.Harmless, Told.Permits, of.enabled, of.timeout, Watchdog.Accepts,
      Bool.not_eq_true]
  | start | ping => exact imp_congr_right fun _ => told_hardware of
  | stop => exact Iff.rfl

/-- A control write tells whether the watchdog is enabled. -/
theorem told_control (of : told.Of initial steps s) (value : BitVec 8) (next : Told)
    (timeout : next.timeout = told.timeout)
    (enables : next.enabled = true ↔ value &&& wdtEnable.setWidth 8 ≠ 0) :
    (if s.Accepts then next else told).Of initial steps
      (withTimeout wdtCpld (.smbus (.writeByteData 0x1F value)) s).2 := by
  obtain ⟨accepts, written⟩ | ⟨refuses, errno, failed⟩ := write_cases s 0x1F value
  · rw [written, if_pos accepts]
    constructor
    · exact of.timeout.trans (by rw [timeout])
    · rw [timeout, ← of.register]
      have other : (0x20 : BitVec 8) ≠ 0x1F := by decide
      exact Function.update_of_ne other value s.1.registers
    · rw [enables]
      simp [Watchdog.Enabled, Watchdog.written]
    · rw [timeout]
      exact of.inRange
  · rw [failed, if_neg refuses]
    exact ⟨of.timeout, of.register, of.enabled, of.inRange⟩

/-- After a permitted call the watchdog is as the calls have left it. -/
theorem told_step (of : told.Of initial steps s) (call : WdtCall) (inRange : call.InRange)
    (harmless : call.Harmless s) :
    (if s.Accepts then told.tell call else told).Of initial steps
      (call.perform.final (withTimeout wdtCpld) s) := by
  cases call with
  | setTimeout timeout =>
    obtain ⟨final, _⟩ := set_timeout_run s inRange
    rw [WdtCall.perform, final]
    have same : Watchdog.Accepts (s.1, timeout) ↔ s.Accepts := Iff.rfl
    obtain ⟨accepts, written⟩ | ⟨refuses, errno, failed⟩ :=
      write_cases (s.1, timeout) 0x20 ((timeout / 5).setWidth 8)
    · rw [written, if_pos (same.mp accepts)]
      constructor
      · rfl
      · exact Function.update_self (0x20 : BitVec 8) _ s.1.registers
      · exact of.enabled
      · rintro _ ⟨⟩
        exact inRange
    · have repeated : timeout = s.2 := harmless.2 refuses
      rw [failed, if_neg (mt same.mpr refuses), repeated]
      exact ⟨of.timeout, of.register, of.enabled, of.inRange⟩
  | start =>
    exact told_control of 0x10 { told with enabled := true } rfl (iff_of_true rfl (by decide))
  | ping =>
    exact told_control of 0x30 { told with enabled := true } rfl (iff_of_true rfl (by decide))
  | stop =>
    exact told_control of 0 { told with enabled := false } rfl
      (iff_of_false Bool.false_ne_true fun enables => enables rfl)

/-- A call consumes the outcome of its write. -/
theorem call_outcomes (call : WdtCall) (s : Watchdog) (inRange : call.InRange) :
    (call.perform.final (withTimeout wdtCpld) s).1.outcomes = s.1.outcomes.tail := by
  have written (command value : BitVec 8) (now : Watchdog) :
      (withTimeout wdtCpld (.smbus (.writeByteData command value)) now).2.1.outcomes =
        now.1.outcomes.tail := by
    obtain ⟨_, written⟩ | ⟨_, errno, failed⟩ := write_cases now command value
    · rw [written]
      rfl
    · rw [failed]
      rfl
  cases call with
  | setTimeout timeout =>
    rw [WdtCall.perform, (set_timeout_run s inRange).1]
    exact written _ _ _
  | start | ping | stop => exact written _ _ _

/-- The calls of a run are harmless exactly when each is permitted after the ones
before it. -/
theorem harmless_told (of : told.Of initial steps s) (calls : List WdtCall)
    (inRange : ∀ call ∈ calls, call.InRange) :
    Calls.Each (withTimeout wdtCpld) WdtCall.perform WdtCall.Harmless calls s ↔
      Told.PermitsAll initial steps calls s.1.outcomes told := by
  induction calls generalizing s told with
  | nil => exact Iff.rfl
  | cons call rest inductionHypothesis =>
    have first := inRange call List.mem_cons_self
    have later (harmless : call.Harmless s) :=
      inductionHypothesis (told_step of call first harmless) fun other member =>
        inRange other (List.mem_cons_of_mem _ member)
    rw [call_outcomes call s first] at later
    constructor
    · rintro ⟨harmless, each⟩
      exact ⟨(harmless_permitted of call).mp harmless, (later harmless).mp each⟩
    · rintro ⟨permitted, all⟩
      have harmless := (harmless_permitted of call).mpr permitted
      exact ⟨harmless, (later harmless).mpr all⟩

end Inputs

/-! ## Runs -/

section Runs

variable (wdtTimeout : Int) (registers : BitVec 8 → BitVec 8) (outcomes : List (Option Errno))
variable (watchdogInitTimeout : BitVec 32 → BitVec 32 → BitVec 32 → BitVec 32 × Int)

/-- The watchdog after a successful `fan_wdt_init`. -/
def started : Watchdog :=
  (fanWdtInit wdtTimeout true watchdogInitTimeout 0).final (withTimeout wdtCpld)
    (⟨registers, none, outcomes⟩, 0)

/-- The initialization enables nothing. -/
theorem started_synchronized :
    (started wdtTimeout registers outcomes watchdogInitTimeout).Synchronized := by
  have disabled (timeout : BitVec 32) :
      Watchdog.Synchronized (⟨registers, none, outcomes⟩, timeout) :=
    fun enabled => nomatch enabled
  have stopped (timeout : BitVec 32) := control_synchronized _ 0 (disabled timeout)
  exact (stopped _).mpr fun _ enables => absurd rfl enables

/-- After a successful initialization, with any parameter, any registers and any
failures: the watchdog runs with the timeout it reports in every state of a run,
and failing `set_timeout` calls leave the timeout unchanged, exactly when every
call is harmless in the state it meets.

Proof: the initialization enables nothing, and each call keeps the timeouts equal
exactly when it is harmless. -/
theorem timeout_synchronized_iff (calls : List WdtCall)
    (inRange : ∀ call ∈ calls, call.InRange) :
    Calls.Throughout (withTimeout wdtCpld) WdtCall.perform Watchdog.Synchronized calls
        (started wdtTimeout registers outcomes watchdogInitTimeout) ∧
      Calls.Each (withTimeout wdtCpld) WdtCall.perform WdtCall.FailureKeeps calls
        (started wdtTimeout registers outcomes watchdogInitTimeout) ↔
    Calls.Each (withTimeout wdtCpld) WdtCall.perform WdtCall.Harmless calls
      (started wdtTimeout registers outcomes watchdogInitTimeout) := by
  apply run_step
  · exact inRange
  · exact started_synchronized wdtTimeout registers outcomes watchdogInitTimeout

/-- The timeout that the initialization settles. -/
def initialTimeout : BitVec 32 :=
  (watchdogInitTimeout (BitVec.ofInt 32 wdtTimeout) wdtTimeoutMax (BitVec.ofInt 32 wdtTimeout)).1

/-- The initialization tells no timeout, and its own control write enables nothing. -/
theorem started_told :
    (⟨none, false⟩ : Told).Of (initialTimeout wdtTimeout watchdogInitTimeout) (registers 0x20)
        (started wdtTimeout registers outcomes watchdogInitTimeout) ∧
      (started wdtTimeout registers outcomes watchdogInitTimeout).1.outcomes = outcomes.tail := by
  let before : Watchdog := (⟨registers, none, outcomes⟩,
    initialTimeout wdtTimeout watchdogInitTimeout)
  have of : (⟨none, false⟩ : Told).Of (initialTimeout wdtTimeout watchdogInitTimeout)
      (registers 0x20) before :=
    ⟨rfl, rfl, iff_of_false Bool.false_ne_true Bool.false_ne_true, nofun⟩
  constructor
  · have stopped := told_step of .stop trivial trivial
    rwa [WdtCall.perform, Told.tell, ite_self] at stopped
  · exact call_outcomes .stop before trivial

/-- The timeouts are equal in every state of a run, and failing `set_timeout` calls
leave the timeout unchanged, exactly when each call is permitted by the calls before
it and the errors of the writes.

Proof: each call leaves the registers and the timeout as the calls so far have told
them, so that what the next call needs of them is what those calls permit. -/
theorem told_synchronized_iff (calls : List WdtCall) (inRange : ∀ call ∈ calls, call.InRange) :
    Calls.Throughout (withTimeout wdtCpld) WdtCall.perform Watchdog.Synchronized calls
        (started wdtTimeout registers outcomes watchdogInitTimeout) ∧
      Calls.Each (withTimeout wdtCpld) WdtCall.perform WdtCall.FailureKeeps calls
        (started wdtTimeout registers outcomes watchdogInitTimeout) ↔
    Told.PermitsAll (initialTimeout wdtTimeout watchdogInitTimeout) (registers 0x20) calls
      outcomes.tail ⟨none, false⟩ := by
  obtain ⟨of, consumed⟩ := started_told wdtTimeout registers outcomes watchdogInitTimeout
  have told := harmless_told of calls inRange
  rw [consumed] at told
  refine Iff.trans ?_ told
  apply run_step
  · exact inRange
  · exact started_synchronized wdtTimeout registers outcomes watchdogInitTimeout

end Runs

/-- A parameter inside the range is accepted and becomes the timeout. -/
def validTimeout (timeout maxTimeout timeoutParm : BitVec 32) : BitVec 32 × Int :=
  if timeoutParm ≠ 0 ∧ timeoutParm ≤ maxTimeout then (timeoutParm, 0) else (timeout, -einval)

/-- A timeout set before the start, and kept to multiples of five, stays the
timeout of the hardware, although one control write fails. -/
theorem set_before_start_synchronized :
    Calls.Throughout (withTimeout wdtCpld) WdtCall.perform Watchdog.Synchronized
        [.setTimeout 30, .start, .ping, .setTimeout 60, .ping, .stop]
        (started 315 (fun _ => 0) [none, none, none, some ⟨5, by decide, by decide⟩] validTimeout) ∧
      Calls.Each (withTimeout wdtCpld) WdtCall.perform WdtCall.FailureKeeps
        [.setTimeout 30, .start, .ping, .setTimeout 60, .ping, .stop]
        (started 315 (fun _ => 0) [none, none, none, some ⟨5, by decide, by decide⟩] validTimeout) :=
  (timeout_synchronized_iff 315 (fun _ => 0) _ validTimeout
    [.setTimeout 30, .start, .ping, .setTimeout 60, .ping, .stop] (by decide)).mpr
    (by decide +kernel)

/-- The default parameter never reaches the register, so a start runs with what
the register held; seven seconds run as five; and a failing `set_timeout` leaves
the timeout it could not set. -/
theorem default_start_unsynchronized :
    ¬Calls.Throughout (withTimeout wdtCpld) WdtCall.perform Watchdog.Synchronized [.start]
        (started wdtDftTimeout (fun _ => 0) [] validTimeout) ∧
      ¬Calls.Throughout (withTimeout wdtCpld) WdtCall.perform Watchdog.Synchronized
        [.setTimeout 10, .start, .setTimeout 7]
        (started wdtDftTimeout (fun _ => 0) [] validTimeout) ∧
      ¬Calls.Each (withTimeout wdtCpld) WdtCall.perform WdtCall.FailureKeeps [.setTimeout 30]
        (started wdtDftTimeout (fun _ => 0) [none, some ⟨5, by decide, by decide⟩]
          validTimeout) := by
  refine ⟨fun throughout => ?_, fun throughout => ?_, by decide +kernel⟩
  · exact absurd (throughout [.start] (List.prefix_refl _)) (by decide +kernel)
  · exact absurd (throughout _ (List.prefix_refl _)) (by decide +kernel)

end FbossBsp.Fbfancpld
