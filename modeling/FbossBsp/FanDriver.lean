import FbossBsp.Interaction.Calls
import FbossBsp.Kernel

/-!
# What a fan driver offers

The fan drivers register the same three interfaces: a hwmon chip with fan and
PWM channels, the sysfs files `fanN_present` and `pwm_boost`, and a watchdog. A
driver is the record of the tables it registers; user space reaches it only
through a call of one of their entries.

The operations are SMBus transfers with the CPLD and the accesses to
`wdd->timeout`, the only memory a call leaves for a later one. Mutexes are not
modeled: a call is one program.
-/

namespace FbossBsp

open Interaction

/-! ## C arithmetic -/

/-- The value of an `int` expression. -/
def wrapInt (value : Int) : Int := value.bmod (2 ^ 32)

/-- The value of a `long` expression. -/
def wrapLong (value : Int) : Int := value.bmod (2 ^ 64)

/-- A value inside the range of `int` is itself. -/
theorem wrap_int_exact {value : Int} (lower : -2 ^ 31 ≤ value) (upper : value < 2 ^ 31) :
    wrapInt value = value := by
  apply Int.bmod_eq_of_le <;> omega

/-- A value inside the range of `long` is itself. -/
theorem wrap_long_exact {value : Int} (lower : -2 ^ 63 ≤ value) (upper : value < 2 ^ 63) :
    wrapLong value = value := by
  apply Int.bmod_eq_of_le <;> omega

/-- An `unsigned long` converted to `int`. -/
def toInt (word : BitVec 64) : Int := (word.setWidth 32).toInt

/-- An `int` operand of an `unsigned long` expression. -/
def toUnsignedLong (value : Int) : BitVec 64 := BitVec.ofInt 64 value

/-- `sprintf(buf, "%d\n", value)`. -/
def sprintfInt (value : Int) : String := toString value ++ "\n"

/-! ## Operations -/

/-- One transfer with the CPLD, or one access to `wdd->timeout`. -/
inductive FanOp where
  | smbus (op : SmbusOp)
  | loadTimeout
  | storeTimeout (timeout : BitVec 32)
  deriving DecidableEq

@[reducible] def FanOp.Reply : FanOp → Type
  | .smbus op => op.Reply
  | .loadTimeout => BitVec 32
  | .storeTimeout _ => Unit

/-- A routine of a fan driver. -/
abbrev FanIo := Program FanOp FanOp.Reply

instance : MonadLift Smbus FanIo where
  monadLift routine := routine.embed FanOp.smbus fun _ reply => reply

def loadTimeout : FanIo (BitVec 32) := .perform .loadTimeout .done

def storeTimeout (timeout : BitVec 32) : FanIo Unit := .perform (.storeTimeout timeout) .done

/-- A CPLD together with the driver's `wdd->timeout`. -/
def withTimeout {S : Type} (cpld : SmbusDevice S) : Device FanOp FanOp.Reply (S × BitVec 32)
  | .smbus op, (state, timeout) => ((cpld op state).1, (cpld op state).2, timeout)
  | .loadTimeout, (state, timeout) => (timeout, state, timeout)
  | .storeTimeout timeout, (state, _) => ((), state, timeout)

/-! ## The hwmon chip -/

inductive HwmonSensorType where
  | fan
  | pwm
  | other
  deriving DecidableEq

inductive HwmonAttr where
  | fanInput
  | fanLabel
  | pwmInput
  | pwmEnable
  | other
  deriving DecidableEq

/-- `HWMON_F_INPUT | HWMON_F_LABEL`. -/
def fanChannelAttrs : List HwmonAttr := [.fanInput, .fanLabel]

/-- `HWMON_PWM_INPUT | HWMON_PWM_ENABLE`. -/
def pwmChannelAttrs : List HwmonAttr := [.pwmInput, .pwmEnable]

/-- A registered `struct hwmon_chip_info`: the attributes of each channel and
the operations. A read returns a value or a negative error. -/
structure HwmonChip where
  fanConfig : List (List HwmonAttr)
  pwmConfig : List (List HwmonAttr)
  isVisible : HwmonSensorType → HwmonAttr → Nat → Nat
  read : HwmonSensorType → HwmonAttr → Nat → Smbus (Except Int Int)
  write : HwmonSensorType → HwmonAttr → Nat → Int → Smbus Int

namespace HwmonChip

variable (chip : HwmonChip)

/-- The channels of a sensor type. -/
def config : HwmonSensorType → List (List HwmonAttr)
  | .fan => chip.fanConfig
  | .pwm => chip.pwmConfig
  | .other => []

/-- The chip has a file for the attribute of the channel, with one of the
permissions. -/
def Exposes (permissions : Nat) (type : HwmonSensorType) (attr : HwmonAttr)
    (channel : Nat) : Prop :=
  attr ∈ (chip.config type).getD channel [] ∧ chip.isVisible type attr channel &&& permissions ≠ 0

instance (permissions : Nat) (type : HwmonSensorType) (attr : HwmonAttr) (channel : Nat) :
    Decidable (chip.Exposes permissions type attr channel) :=
  inferInstanceAs (Decidable (_ ∧ _))

end HwmonChip

/-! ## The driver -/

/-- `struct watchdog_ops`. -/
structure WatchdogOps where
  start : FanIo Int
  stop : FanIo Int
  ping : FanIo Int
  setTimeout : BitVec 32 → FanIo Int
  getTimeleft : FanIo (BitVec 32)

/-- The tables a configured fan driver has registered. The `fanN_present` files
are listed by their index. -/
structure FanDriver where
  chip : HwmonChip
  presentFans : List Int
  fanPresentShow : Int → Smbus String
  fanBoostPwmShow : Smbus String
  fanBoostPwmStore : String → Nat → Smbus Int
  watchdog : WatchdogOps

/-- One call from user space. -/
inductive FanCall where
  | hwmonRead (type : HwmonSensorType) (attr : HwmonAttr) (channel : Nat)
  | hwmonWrite (type : HwmonSensorType) (attr : HwmonAttr) (channel : Nat) (val : Int)
  | presentShow (fn : Int)
  | boostShow
  | boostStore (buf : String) (count : Nat)
  | wdtStart
  | wdtStop
  | wdtPing
  | wdtSetTimeout (timeout : BitVec 32)
  | wdtGetTimeleft

/-- What a call returns to user space. -/
inductive FanReply where
  | value (val : Except Int Int)
  | status (ret : Int)
  | text (buf : String)
  | timeleft (seconds : BitVec 32)

namespace FanDriver

variable (driver : FanDriver)

/-- The program of a call. -/
def serve : FanCall → FanIo FanReply
  | .hwmonRead type attr channel => do return .value (← driver.chip.read type attr channel)
  | .hwmonWrite type attr channel val => do
      return .status (← driver.chip.write type attr channel val)
  | .presentShow fn => do return .text (← driver.fanPresentShow fn)
  | .boostShow => do return .text (← driver.fanBoostPwmShow)
  | .boostStore buf count => do return .status (← driver.fanBoostPwmStore buf count)
  | .wdtStart => .status <$> driver.watchdog.start
  | .wdtStop => .status <$> driver.watchdog.stop
  | .wdtPing => .status <$> driver.watchdog.ping
  | .wdtSetTimeout timeout => .status <$> driver.watchdog.setTimeout timeout
  | .wdtGetTimeleft => .timeleft <$> driver.watchdog.getTimeleft

/-- The driver offers the file or the watchdog entry that the call uses. -/
def Exposes : FanCall → Prop
  | .hwmonRead type attr channel => driver.chip.Exposes 0o444 type attr channel
  | .hwmonWrite type attr channel _ => driver.chip.Exposes 0o222 type attr channel
  | .presentShow fn => fn ∈ driver.presentFans
  | _ => True

instance : DecidablePred driver.Exposes
  | .hwmonRead _ _ _ => inferInstanceAs (Decidable (HwmonChip.Exposes _ _ _ _ _))
  | .hwmonWrite _ _ _ _ => inferInstanceAs (Decidable (HwmonChip.Exposes _ _ _ _ _))
  | .presentShow _ => inferInstanceAs (Decidable (_ ∈ _))
  | .boostShow | .boostStore _ _ | .wdtStart | .wdtStop | .wdtPing | .wdtSetTimeout _
  | .wdtGetTimeleft => .isTrue trivial

end FanDriver

end FbossBsp
