import FbossBsp.FanDriver

/-!
# The fan watchdog of the MTIA rack

The watchdog counts down in steps of five seconds from the number in its COUNT
register. The driver stores a timeout only after the register has been written,
and every ping writes the number of the stored timeout again. So what the
register was last given and what the driver reports agree in every state.

The register cannot be read back, since it counts down: the CPLD answers a read
in any way. The kernel's `watchdog_init_timeout` is a parameter.
-/

namespace FbossBsp.MtiaFanWatchdog

open Interaction

/-! ## The driver -/

def rackFanWdCmdEn : Int := 0x00
def rackFanWdCmdCount : Int := 0x02
def fanWdStart : Int := 0x01
def fanWdStop : Int := 0x00
def fanWdTimeoutMin : BitVec 32 := 5
def fanWdTimeoutMax : BitVec 32 := 1275
def fanWdTimeoutDefault : Int := 30
def fanTimeoutStep : BitVec 32 := 5

/-- `mtia_fan_wdt_start`. -/
def mtiaFanWdtStart : FanIo Int := i2cSmbusWriteByteData rackFanWdCmdEn fanWdStart

/-- `mtia_fan_wdt_stop`. -/
def mtiaFanWdtStop : FanIo Int := i2cSmbusWriteByteData rackFanWdCmdEn fanWdStop

/-- `mtia_fan_wdt_ping`. -/
def mtiaFanWdtPing : FanIo Int := do
  let timeout ← loadTimeout
  i2cSmbusWriteByteData rackFanWdCmdCount (timeout / fanTimeoutStep).toNat

/-- `mtia_fan_wdt_set_timeout`. -/
def mtiaFanWdtSetTimeout (timeout : BitVec 32) : FanIo Int :=
  if timeout > fanWdTimeoutMax ∨ timeout < fanWdTimeoutMin ∨ timeout % fanTimeoutStep ≠ 0 then
    return -einval
  else do
    let ret ← i2cSmbusWriteByteData rackFanWdCmdCount (timeout / fanTimeoutStep).toNat
    if ret = 0 then storeTimeout timeout
    return ret

/-- `mtia_fan_wdt_get_timeleft`. -/
def mtiaFanWdtGetTimeleft : FanIo (BitVec 32) := do
  let ret ← i2cSmbusReadByteData rackFanWdCmdCount
  let ret := if ret < 0 then 0 else ret
  return BitVec.ofInt 32 (ret * fanTimeoutStep.toNat)

section Probe

variable (watchdogInitTimeout : BitVec 32 → BitVec 32 → BitVec 32 → BitVec 32 → BitVec 32 × Int)
variable (wdtTimeout : Int)

/-- The timeout setup of `mtia_fan_wdt_probe`. The kernel's `watchdog_init_timeout`
takes the timeout, its bounds and the parameter. -/
def timeoutSetup : FanIo Int := do
  let timeout ← loadTimeout
  storeTimeout
    (watchdogInitTimeout timeout fanWdTimeoutMin fanWdTimeoutMax (BitVec.ofInt 32 wdtTimeout)).1
  let timeout ← loadTimeout
  if timeout = 0 then
    let count ← i2cSmbusReadByteData rackFanWdCmdCount
    let val := count * fanTimeoutStep.toNat
    if val < 0 then return val
    let val := if val > fanWdTimeoutMax.toNat ∨ val < fanWdTimeoutMin.toNat then fanWdTimeoutDefault
      else val
    storeTimeout (BitVec.ofInt 32 val)
  let timeout ← loadTimeout
  mtiaFanWdtSetTimeout timeout

/-- `mtia_fan_wdt_probe`, given whether the adapter has the functionality and the
allocation succeeds, and what `devm_watchdog_register_device` returns. -/
def mtiaFanWdtProbe (functionality allocated : Bool) (registerDevice : Int) : FanIo Int := do
  if !functionality then return -enodev
  if !allocated then return -enomem
  let ret ← timeoutSetup watchdogInitTimeout wdtTimeout
  if ret ≠ 0 then return ret
  return registerDevice

end Probe

/-! ## The CPLD -/

/-- A CPLD with the answers of all its reads and the errors of all its writes,
and the value of the last write of the COUNT register that succeeded. -/
structure RackCpld where
  now : Nat
  reads : Nat → Except Errno (BitVec 8)
  failures : Nat → Option Errno
  count : Option (BitVec 8)

def rackCpld : SmbusDevice RackCpld
  | .readByteData _, s => (s.reads s.now, { s with now := s.now + 1 })
  | .writeByteData command value, s =>
    match s.failures s.now with
    | some errno => (.error errno, { s with now := s.now + 1 })
    | none => (.ok (), { s with
        now := s.now + 1
        count := if command = 0x02 then some value else s.count })

/-- The CPLD and `wdd->timeout`. -/
abbrev Watchdog := RackCpld × BitVec 32

/-- The timeout is valid, and the register was last given its number of steps. -/
structure Watchdog.Watched (s : Watchdog) : Prop where
  steps : 5 ∣ s.2.toNat
  lower : 5 ≤ s.2.toNat
  upper : s.2.toNat ≤ 1275
  count : s.1.count.map BitVec.toNat = some (s.2.toNat / 5)

/-- The same timeout stays watched when the register is given its steps again. -/
theorem Watchdog.Watched.renewed {s after : Watchdog} (watched : s.Watched)
    (timeout : after.2 = s.2) (count : after.1.count.map BitVec.toNat = some (s.2.toNat / 5)) :
    after.Watched := by
  obtain ⟨steps, lower, upper, _⟩ := watched
  constructor
  case steps => rwa [timeout]
  case lower => rwa [timeout]
  case upper => rwa [timeout]
  case count => rwa [timeout]

/-- The same timeout stays watched when the register is given nothing. -/
theorem Watchdog.Watched.kept {s after : Watchdog} (watched : s.Watched)
    (timeout : after.2 = s.2) (count : after.1.count = s.1.count) : after.Watched :=
  watched.renewed timeout (count ▸ watched.count)

inductive WdtCall where
  | setTimeout (timeout : BitVec 32)
  | ping
  | start
  | stop
  | getTimeleft

namespace WdtCall

def perform : WdtCall → FanIo Int
  | .setTimeout timeout => mtiaFanWdtSetTimeout timeout
  | .ping => mtiaFanWdtPing
  | .start => mtiaFanWdtStart
  | .stop => mtiaFanWdtStop
  | .getTimeleft => do return (← mtiaFanWdtGetTimeleft).toNat

/-- A `set_timeout` that returns an error changes neither the timeout nor the
register. -/
def FailureKeeps (call : WdtCall) (s : Watchdog) : Prop :=
  match call with
  | .setTimeout _ =>
      call.perform.result (withTimeout rackCpld) s ≠ 0 →
        (call.perform.final (withTimeout rackCpld) s).2 = s.2 ∧
          (call.perform.final (withTimeout rackCpld) s).1.count = s.1.count
  | _ => True

end WdtCall

/-! ## One call -/

/-- Every operation may be performed. -/
def anything : FanOp → Watchdog → Prop := fun _ _ => True

/-- A write succeeds and is the last one of its register, or fails and changes
nothing. -/
theorem write_wp (command value : Int) (s : Watchdog) :
    (liftM (i2cSmbusWriteByteData command value) : FanIo Int).Wp (withTimeout rackCpld) anything
      (fun ret after => after.2 = s.2 ∧
        (ret = 0 ∧ after.1.count =
            (if BitVec.ofInt 8 command = 0x02 then some (BitVec.ofInt 8 value) else s.1.count) ∨
          ret ≠ 0 ∧ after.1.count = s.1.count)) s := by
  have run : (liftM (i2cSmbusWriteByteData command value) : FanIo Int) =
      .perform (.smbus (.writeByteData (BitVec.ofInt 8 command) (BitVec.ofInt 8 value)))
        fun reply => .done (writeResult reply) := rfl
  rw [run]
  refine ⟨trivial, ?_⟩
  cases fails : s.1.failures s.1.now with
  | none =>
    simp only [withTimeout, rackCpld, fails]
    exact ⟨rfl, .inl ⟨rfl, rfl⟩⟩
  | some errno =>
    simp only [withTimeout, rackCpld, fails]
    exact ⟨rfl, .inr ⟨(errno_negative errno).ne, rfl⟩⟩

/-- The steps of a valid timeout fit the register. -/
theorem steps_byte {timeout : BitVec 32} (upper : timeout.toNat ≤ 1275) :
    (BitVec.ofInt 8 ((timeout / fanTimeoutStep).toNat : Int)).toNat = timeout.toNat / 5 := by
  have quotient : (timeout / fanTimeoutStep).toNat = timeout.toNat / 5 := BitVec.toNat_udiv
  rw [BitVec.ofInt_natCast, BitVec.toNat_ofNat, quotient]
  omega

/-- What the checks of `set_timeout` accept. -/
theorem accepted_timeout {timeout : BitVec 32}
    (accepted : ¬(timeout > fanWdTimeoutMax ∨ timeout < fanWdTimeoutMin ∨
      timeout % fanTimeoutStep ≠ 0)) :
    5 ∣ timeout.toNat ∧ 5 ≤ timeout.toNat ∧ timeout.toNat ≤ 1275 := by
  simp only [fanWdTimeoutMax, fanWdTimeoutMin, fanTimeoutStep, not_or, not_not] at accepted
  obtain ⟨upper, lower, divides⟩ := accepted
  have remainder : timeout.toNat % 5 = 0 := congrArg BitVec.toNat divides
  exact ⟨Nat.dvd_of_mod_eq_zero remainder, by bv_omega, by bv_omega⟩

/-- A `set_timeout` that succeeds leaves its timeout watched, and one that fails
changes nothing. -/
theorem set_timeout_wp (timeout : BitVec 32) (s : Watchdog) :
    (mtiaFanWdtSetTimeout timeout).Wp (withTimeout rackCpld) anything
      (fun ret after => ret = 0 ∧ Watchdog.Watched after ∨
        ret ≠ 0 ∧ after.2 = s.2 ∧ after.1.count = s.1.count) s := by
  apply Program.Wp.ite
  · intro refused
    exact .inr ⟨by decide, rfl, rfl⟩
  · intro accepted
    obtain ⟨divides, lower, upper⟩ := accepted_timeout accepted
    refine (write_wp rackFanWdCmdCount (timeout / fanTimeoutStep).toNat s).seq ?_
    rintro ret after ⟨kept, ⟨succeeds, count⟩ | ⟨fails, count⟩⟩
    · rw [if_pos succeeds]
      have written : after.1.count = some (BitVec.ofInt 8 ((timeout / fanTimeoutStep).toNat : Int)) :=
        count
      refine ⟨trivial, .inl ⟨succeeds, divides, lower, upper, ?_⟩⟩
      change after.1.count.map BitVec.toNat = some (timeout.toNat / 5)
      rw [written, Option.map_some, steps_byte upper]
    · rw [if_neg fails]
      exact .inr ⟨fails, kept, count⟩

/-- A call keeps the watchdog watched, and a failing `set_timeout` keeps the
timeout and the register. -/
theorem call_step (call : WdtCall) (s : Watchdog) (watched : s.Watched) :
    Watchdog.Watched (call.perform.final (withTimeout rackCpld) s) ∧ call.FailureKeeps s := by
  cases call with
  | setTimeout timeout =>
    obtain ⟨succeeds, set⟩ | ⟨fails, kept, count⟩ :=
      (set_timeout_wp timeout s).outcome
    · exact ⟨set, fun fails => absurd succeeds fails⟩
    · exact ⟨watched.kept kept count, fun _ => ⟨kept, count⟩⟩
  | ping =>
    have written := write_wp rackFanWdCmdCount (s.2 / fanTimeoutStep).toNat s
    obtain ⟨kept, ⟨_, count⟩ | ⟨_, count⟩⟩ := written.outcome
    · have given : some (BitVec.ofInt 8 ((s.2 / fanTimeoutStep).toNat : Int)) =
          (mtiaFanWdtPing.final (withTimeout rackCpld) s).1.count := count.symm
      refine ⟨watched.renewed kept ?_, trivial⟩
      change (mtiaFanWdtPing.final (withTimeout rackCpld) s).1.count.map BitVec.toNat = _
      rw [← given, Option.map_some, steps_byte watched.upper]
    · exact ⟨watched.kept kept count, trivial⟩
  | start =>
    obtain ⟨kept, ⟨_, count⟩ | ⟨_, count⟩⟩ :=
      (write_wp rackFanWdCmdEn fanWdStart s).outcome
    · exact ⟨watched.kept kept count, trivial⟩
    · exact ⟨watched.kept kept count, trivial⟩
  | stop =>
    obtain ⟨kept, ⟨_, count⟩ | ⟨_, count⟩⟩ :=
      (write_wp rackFanWdCmdEn fanWdStop s).outcome
    · exact ⟨watched.kept kept count, trivial⟩
    · exact ⟨watched.kept kept count, trivial⟩
  | getTimeleft => exact ⟨watched.kept rfl rfl, trivial⟩

/-! ## Runs -/

section Runs

variable (watchdogInitTimeout : BitVec 32 → BitVec 32 → BitVec 32 → BitVec 32 → BitVec 32 × Int)
variable (wdtTimeout : Int)

/-- The setup fails, or ends with a `set_timeout` that succeeds. -/
theorem timeout_setup_wp (s : Watchdog) :
    (timeoutSetup watchdogInitTimeout wdtTimeout).Wp (withTimeout rackCpld) anything
      (fun ret after => ret = 0 → Watchdog.Watched after) s := by
  have own (s : Watchdog) : (loadTimeout >>= mtiaFanWdtSetTimeout).Wp (withTimeout rackCpld) anything
      (fun ret after => ret = 0 → Watchdog.Watched after) s := by
    refine ⟨trivial, (set_timeout_wp _ _).weaken ?_⟩
    rintro ret after (⟨_, watched⟩ | ⟨fails, _⟩) succeeds
    · exact watched
    · exact absurd succeeds fails
  refine ⟨trivial, trivial, trivial, ?_⟩
  apply Program.Wp.ite
  · intro unset
    refine ⟨trivial, ?_⟩
    apply Program.Wp.ite
    · intro failed succeeds
      exact absurd succeeds failed.ne
    · intro read
      exact ⟨trivial, own _⟩
  · intro set
    exact own _

/-- What follows the setup in the probe performs nothing. -/
theorem probe_final (registerDevice : Int) (s : Watchdog) :
    (mtiaFanWdtProbe watchdogInitTimeout wdtTimeout true true registerDevice).final
        (withTimeout rackCpld) s =
      (timeoutSetup watchdogInitTimeout wdtTimeout).final (withTimeout rackCpld) s := by
  have run : mtiaFanWdtProbe watchdogInitTimeout wdtTimeout true true registerDevice =
      timeoutSetup watchdogInitTimeout wdtTimeout >>= fun ret =>
        if ret ≠ 0 then pure ret else pure registerDevice := rfl
  rw [run, Program.final_bind]
  split <;> rfl

/-- After a probe whose timeout setup succeeds, with any parameter, any reads and
any failing writes, the watchdog is watched in every state of a run, and no
failing `set_timeout` changes the timeout or the register.

Proof: the law of one call, by induction on the run. -/
theorem rack_watchdog_invariant (reads : Nat → Except Errno (BitVec 8))
    (failures : Nat → Option Errno) (registerDevice : Int) (calls : List WdtCall)
    (passed : (timeoutSetup watchdogInitTimeout wdtTimeout).result (withTimeout rackCpld)
      (⟨0, reads, failures, none⟩, 0) = 0) :
    let probed := (mtiaFanWdtProbe watchdogInitTimeout wdtTimeout true true registerDevice).final
      (withTimeout rackCpld) (⟨0, reads, failures, none⟩, 0)
    Calls.Throughout (withTimeout rackCpld) WdtCall.perform Watchdog.Watched calls probed ∧
      Calls.Each (withTimeout rackCpld) WdtCall.perform WdtCall.FailureKeeps calls probed := by
  have setup := timeout_setup_wp watchdogInitTimeout wdtTimeout (⟨0, reads, failures, none⟩, 0)
  have initially := setup.outcome passed
  rw [← probe_final watchdogInitTimeout wdtTimeout registerDevice] at initially
  have step (call : WdtCall) (_ : call ∈ calls) (s : Watchdog) (watched : s.Watched) :
      Watchdog.Watched (call.perform.final (withTimeout rackCpld) s) ∧ call.FailureKeeps s ↔ True :=
    iff_true_intro (call_step call s watched)
  exact (Calls.throughout_iff step initially).mpr
    (Calls.each_of_forall (fun _ _ => trivial) calls _)

end Runs

/-- A parameter inside its bounds becomes the timeout. -/
def boundedTimeout (timeout minTimeout maxTimeout timeoutParm : BitVec 32) : BitVec 32 × Int :=
  if timeoutParm ≠ 0 ∧ minTimeout ≤ timeoutParm ∧ timeoutParm ≤ maxTimeout then (timeoutParm, 0)
  else (timeout, -einval)

/-- Without a parameter the timeout is the one of the hardware; an invalid
timeout and a failing write change nothing. -/
theorem hardware_timeout_watched :
    let probed := (mtiaFanWdtProbe boundedTimeout 0 true true 0).final (withTimeout rackCpld)
      (⟨0, fun _ => .ok 12, fun now => if now = 3 then some ⟨5, by decide, by decide⟩ else none,
        none⟩, 0)
    Calls.Throughout (withTimeout rackCpld) WdtCall.perform Watchdog.Watched
        [.setTimeout 7, .ping, .setTimeout 100, .start, .setTimeout 200, .getTimeleft] probed ∧
      Calls.Each (withTimeout rackCpld) WdtCall.perform WdtCall.FailureKeeps
        [.setTimeout 7, .ping, .setTimeout 100, .start, .setTimeout 200, .getTimeleft] probed :=
  rack_watchdog_invariant boundedTimeout 0 (fun _ => .ok 12)
    (fun now => if now = 3 then some ⟨5, by decide, by decide⟩ else none) 0
    [.setTimeout 7, .ping, .setTimeout 100, .start, .setTimeout 200, .getTimeleft]
    (by decide +kernel)

end FbossBsp.MtiaFanWatchdog
