import FbossBsp.FanLeds
import FbossBsp.Interaction.Locked

/-!
# Concurrent calls of the generic fan driver

The hwmon files and the files of the driver's own use the CPLD under
`data->lock`. The watchdog and the LEDs use it without the lock, and so do calls
that are refused before they reach the CPLD; no register is used in both ways.

Any number of threads call any entry. The calls under the lock are serial in
every interleaving: a write that reads its register first loses no update.
-/

namespace FbossBsp.Fbfancpld

open Interaction

/-! ## The driver with its lock -/

/-- A routine among operations on `data->lock`. -/
abbrev LockedFanIo := LockProgram FanOp FanOp.Reply

instance : MonadLift Smbus LockedFanIo where
  monadLift routine := (routine : FanIo _).unlocked

section Hwmon

variable (data : Data)

/-- `fbfancpld_fan_input_read`, with its lock. -/
def fbfancpldFanInputReadLocked (channel : Nat) : LockedFanIo (Except Int Int) := do
  let regAddr : Int :=
    if data.config.hasRearTach then
      let fn : Int := channel / 2 + 1
      if channel % 2 ≠ 0 then regFanTachR fn else regFanTachF fn
    else
      let fn : Int := channel + 1
      regFanTachF fn
  takeLock
  let regData ← i2cSmbusReadByteData regAddr
  releaseLock
  if regData < 0 then return .error regData
  return .ok (wrapLong (regData * data.config.speedMultiplier))

/-- `fbfancpld_pwm_input_read`, with its lock. -/
def fbfancpldPwmInputReadLocked (channel : Nat) : LockedFanIo (Except Int Int) := do
  let fn : Int := channel + 1
  takeLock
  let regData ← i2cSmbusReadByteData (regFanPwm fn)
  releaseLock
  if regData < 0 then return .error regData
  return .ok (if regData > data.config.pwmMax then data.config.pwmMax else regData)

/-- `fbfancpld_pwm_enable_read`, with its lock. -/
def fbfancpldPwmEnableReadLocked (channel : Nat) : LockedFanIo (Except Int Int) := do
  let fn : Int := channel + 1
  takeLock
  let regData ← i2cSmbusReadByteData (regFanPwm fn)
  releaseLock
  if regData < 0 then return .error regData
  return .ok (if toUnsignedLong regData &&& fanModeMask ≠ 0 then 0 else 1)

/-- `fbfancpld_pwm_input_write`, with its lock; `unlock_out` releases it on both
ways out. -/
def fbfancpldPwmInputWriteLocked (channel : Nat) (val : Int) : LockedFanIo Int := do
  if val < 0 then return -einval
  let targetPwm := if val > data.config.pwmMax then data.config.pwmMax else val
  let fn : Int := channel + 1
  let regAddr := regFanPwm fn
  takeLock
  let regData ← i2cSmbusReadByteData regAddr
  let err ←
    if regData < 0 then pure regData
    else
      let byteVal := toInt ((toUnsignedLong regData &&& fanModeMask) ||| toUnsignedLong targetPwm)
      i2cSmbusWriteByteData regAddr byteVal
  releaseLock
  return err

/-- `fbfancpld_pwm_enable_write`, with its lock. -/
def fbfancpldPwmEnableWriteLocked (channel : Nat) (val : Int) : LockedFanIo Int := do
  if val ≠ 0 ∧ val ≠ 1 then return -einval
  let fn : Int := channel + 1
  let regAddr := regFanPwm fn
  takeLock
  let regData ← i2cSmbusReadByteData regAddr
  let err ←
    if regData < 0 then pure regData
    else
      let byteVal := toInt ((toUnsignedLong val <<< fanModeBitOffset) ||| toUnsignedLong regData)
      i2cSmbusWriteByteData regAddr byteVal
  releaseLock
  return err

/-- `fbfancpld_read`, over `fbfancpld_fan_read` and `fbfancpld_pwm_read`. -/
def fbfancpldReadLocked (type : HwmonSensorType) (attr : HwmonAttr) (channel : Nat) :
    LockedFanIo (Except Int Int) :=
  match type, attr with
  | .fan, .fanInput => fbfancpldFanInputReadLocked data channel
  | .pwm, .pwmInput => fbfancpldPwmInputReadLocked data channel
  | .pwm, .pwmEnable => fbfancpldPwmEnableReadLocked channel
  | _, _ => return .error (-eopnotsupp)

/-- `fbfancpld_write`, over `fbfancpld_pwm_write`. -/
def fbfancpldWriteLocked (type : HwmonSensorType) (attr : HwmonAttr) (channel : Nat) (val : Int) :
    LockedFanIo Int :=
  match type, attr with
  | .pwm, .pwmInput => fbfancpldPwmInputWriteLocked data channel val
  | .pwm, .pwmEnable => fbfancpldPwmEnableWriteLocked channel val
  | _, _ => return -eopnotsupp

/-- `fan_present_show`, with its lock. -/
def fanPresentShowLocked (fn : Int) : LockedFanIo String := do
  takeLock
  let regData ← i2cSmbusReadByteData (regFanStatus fn)
  releaseLock
  return sprintfInt (if BitVec.ofInt 32 regData &&& fanPresentMask ≠ 0 then 0 else 1)

/-- `fan_boost_pwm_show`, with its lock. -/
def fanBoostPwmShowLocked : LockedFanIo String := do
  takeLock
  let ret ← i2cSmbusReadByteData wdtPwmReg
  releaseLock
  return sprintfInt (if ret > data.config.pwmMax then data.config.pwmMax else ret)

/-- `fan_boost_pwm_store`, with its lock. -/
def fanBoostPwmStoreLocked (kstrtoint : String → Except Errno Int) (buf : String) (count : Nat) :
    LockedFanIo Int :=
  match kstrtoint buf with
  | .error errno => return -errno.code
  | .ok val => do
    let val := if val > data.config.pwmMax then data.config.pwmMax else val
    takeLock
    let ret ← i2cSmbusWriteByteData wdtPwmReg val
    releaseLock
    return if ret = 0 then count else ret

end Hwmon

/-- The program of a call, with its lock. -/
def serveLocked (kstrtoint : String → Except Errno Int) (data : Data) :
    FanCall → LockedFanIo FanReply
  | .hwmonRead type attr channel => do
      return .value (← fbfancpldReadLocked data type attr channel)
  | .hwmonWrite type attr channel val => do
      return .status (← fbfancpldWriteLocked data type attr channel val)
  | .presentShow fn => do return .text (← fanPresentShowLocked fn)
  | .boostShow => do return .text (← fanBoostPwmShowLocked data)
  | .boostStore buf count => do return .status (← fanBoostPwmStoreLocked data kstrtoint buf count)
  | .wdtStart => (.status <$> fanWdtStart : FanIo _).unlocked
  | .wdtStop => (.status <$> fanWdtStop : FanIo _).unlocked
  | .wdtPing => (.status <$> fanWdtPing : FanIo _).unlocked
  | .wdtSetTimeout timeout => (.status <$> fanWdtSetTimeout timeout : FanIo _).unlocked
  | .wdtGetTimeleft => (.timeleft <$> fanWdtGetTimeleft : FanIo _).unlocked

/-- The calls that take the lock. -/
def takesLock (kstrtoint : String → Except Errno Int) : FanCall → Bool
  | .hwmonRead .fan .fanInput _ => true
  | .hwmonRead .pwm .pwmInput _ => true
  | .hwmonRead .pwm .pwmEnable _ => true
  | .hwmonWrite .pwm .pwmInput _ val => decide ¬val < 0
  | .hwmonWrite .pwm .pwmEnable _ val => decide ¬(val ≠ 0 ∧ val ≠ 1)
  | .presentShow _ => true
  | .boostShow => true
  | .boostStore buf _ => (kstrtoint buf).isOk
  | _ => false

/-- A read under the lock, whose result is judged after the lock is released. -/
theorem read_locked {α : Type} (regAddr : Int) (first second : Int → α) (wrap : α → FanReply) :
    (do
      let value ← (do
        takeLock
        let regData ← i2cSmbusReadByteData regAddr
        releaseLock
        if regData < 0 then return first regData
        return second regData : LockedFanIo α)
      return wrap value : LockedFanIo FanReply) =
    (do
      let value ← (do
        let regData ← i2cSmbusReadByteData regAddr
        if regData < 0 then return first regData
        return second regData : Smbus α)
      return wrap value : FanIo FanReply).locked := by
  apply congrArg (Program.perform _)
  funext _
  apply congrArg (Program.perform _)
  funext reply
  change Program.perform _ (fun _ => (if readResult reply < 0 then _ else _ : LockedFanIo α) >>= _) =
    ((if readResult reply < 0 then _ else _ : Smbus α).embed _ _ >>= _).release
  by_cases failed : readResult reply < 0
  · rw [if_pos failed, if_pos failed]
    rfl
  · rw [if_neg failed, if_neg failed]
    rfl

/-- A register read and written back under the lock.

Proof: both routines perform the same operations, whichever way the read ends. -/
theorem update_locked (regAddr : Int) (byteVal : Int → Int) :
    (do
      let status ← (do
        takeLock
        let regData ← i2cSmbusReadByteData regAddr
        let err ←
          if regData < 0 then pure regData
          else i2cSmbusWriteByteData regAddr (byteVal regData)
        releaseLock
        return err : LockedFanIo Int)
      return .status status : LockedFanIo FanReply) =
    (do
      let status ← (do
        let regData ← i2cSmbusReadByteData regAddr
        if regData < 0 then return regData
        i2cSmbusWriteByteData regAddr (byteVal regData) : Smbus Int)
      return .status status : FanIo FanReply).locked := by
  apply congrArg (Program.perform _)
  funext _
  apply congrArg (Program.perform _)
  funext reply
  change (if readResult reply < 0 then _ else _ : LockedFanIo Int) >>= _ =
    ((if readResult reply < 0 then _ else _ : Smbus Int).embed _ _ >>= _).release
  by_cases failed : readResult reply < 0
  · rw [if_pos failed, if_pos failed]
    rfl
  · rw [if_neg failed, if_neg failed]
    rfl

/-- A write is refused before it takes the lock, or it updates its register under
the lock. -/
theorem write_locked (refused : Prop) [Decidable refused] (regAddr : Int) (byteVal : Int → Int) :
    (do
      let status ← (do
        if refused then return -einval
        takeLock
        let regData ← i2cSmbusReadByteData regAddr
        let err ←
          if regData < 0 then pure regData
          else i2cSmbusWriteByteData regAddr (byteVal regData)
        releaseLock
        return err : LockedFanIo Int)
      return .status status : LockedFanIo FanReply) =
    (⟨decide ¬refused, do
      let status ← (do
        if refused then return -einval
        let regData ← i2cSmbusReadByteData regAddr
        if regData < 0 then return regData
        i2cSmbusWriteByteData regAddr (byteVal regData) : Smbus Int)
      return .status status⟩ : Access FanOp FanOp.Reply FanReply).program := by
  by_cases early : refused
  · simp only [Access.program, early, not_true_eq_false, decide_false, if_true]
    rfl
  · simp only [Access.program, early, not_false_eq_true, decide_true, if_true, if_false]
    exact update_locked regAddr byteVal

section Calls

variable (kstrtoint : String → Except Errno Int) (data : Data)

/-- A call with its place under the lock or beside it. -/
def callAccess (call : FanCall) : Access FanOp FanOp.Reply FanReply :=
  ⟨takesLock kstrtoint call, (fbfancpld kstrtoint data).serve call⟩

/-- Every call uses the CPLD under the lock or without it, and is otherwise the
program that the driver serves.

Proof: by the call, which selects one routine of the driver. -/
theorem serve_locked (call : FanCall) :
    serveLocked kstrtoint data call = (callAccess kstrtoint data call).program := by
  cases call with
  | hwmonRead type attr channel =>
    cases type with
    | fan =>
      cases attr with
      | fanInput => exact read_locked _ _ _ _
      | _ => rfl
    | pwm =>
      cases attr with
      | pwmInput => exact read_locked _ _ _ _
      | pwmEnable => exact read_locked _ _ _ _
      | _ => rfl
    | other => rfl
  | hwmonWrite type attr channel val =>
    cases type with
    | pwm =>
      cases attr with
      | pwmInput => exact write_locked (val < 0) _ _
      | pwmEnable => exact write_locked (val ≠ 0 ∧ val ≠ 1) _ _
      | _ => rfl
    | _ => cases attr <;> rfl
  | boostStore buf count =>
    cases parsed : kstrtoint buf with
    | error errno =>
      simp only [serveLocked, fanBoostPwmStoreLocked, callAccess, Access.program, takesLock,
        FanDriver.serve, fbfancpld, fanBoostPwmStore, parsed]
      rfl
    | ok val =>
      simp only [serveLocked, fanBoostPwmStoreLocked, callAccess, Access.program, takesLock,
        FanDriver.serve, fbfancpld, fanBoostPwmStore, parsed]
      rfl
  | _ => rfl

end Calls

/-! ## Registers under the lock and beside it -/

/-- The registers of the watchdog and of the LEDs. -/
def besideRegisters : List (BitVec 8) :=
  ([wdtCtrl0, wdtCtrl1, wdtStaReg] ++ (List.range maxFans).map fun i : Nat => regFanLed (i + 1)).map
    (BitVec.ofInt 8)

/-- The register of a transfer. -/
def register : SmbusOp → BitVec 8
  | .readByteData command => command
  | .writeByteData command _ => command

/-- An operation of the calls under the lock. -/
def UnderLock : FanOp → Prop
  | .smbus op => register op ∉ besideRegisters
  | .loadTimeout | .storeTimeout _ => False

/-- An operation of the watchdog or of an LED. -/
def BesideLock : FanOp → Prop
  | .smbus op => register op ∈ besideRegisters
  | .loadTimeout | .storeTimeout _ => True

section Banks

variable {S T : Type}

/-- A CPLD in two parts, and `wdd->timeout`. -/
structure FanBanks (S T : Type) where
  locked : S
  beside : T
  timeout : BitVec 32

/-- The registers of the watchdog and of the LEDs are independent of the others. -/
def bankedCpld (locked : SmbusDevice S) (beside : SmbusDevice T) :
    Device FanOp FanOp.Reply (FanBanks S T)
  | .smbus op, s =>
    if register op ∈ besideRegisters then
      ((beside op s.beside).1, { s with beside := (beside op s.beside).2 })
    else ((locked op s.locked).1, { s with locked := (locked op s.locked).2 })
  | .loadTimeout, s => (s.timeout, s)
  | .storeTimeout timeout, s => ((), { s with timeout })

/-- The part that is used under the lock; no call there uses `wdd->timeout`. -/
def lockedBank (locked : SmbusDevice S) : Device FanOp FanOp.Reply S
  | .smbus op, s => locked op s
  | .loadTimeout, s => (0, s)
  | .storeTimeout _, s => ((), s)

/-- The calls under the lock see the one bank alone, and the others leave it as it
is. -/
theorem banks_view (locked : SmbusDevice S) (beside : SmbusDevice T) :
    Views FanBanks.locked (lockedBank locked) (bankedCpld locked beside)
      (bankedCpld locked beside) UnderLock BesideLock where
  holder := by
    rintro (op | _ | timeout) s under
    · have outside : register op ∉ besideRegisters := under
      simp only [bankedCpld, if_neg outside, lockedBank, and_self]
    · exact under.elim
    · exact under.elim
  others := by
    rintro (op | _ | timeout) s within
    · have inside : register op ∈ besideRegisters := within
      simp only [bankedCpld, if_pos inside]
    · rfl
    · rfl

end Banks

/-! ## What the calls access -/

/-- No register of a fan is one of the watchdog or an LED. -/
theorem fan_registers : ∀ fan < maxFans,
    BitVec.ofInt 8 (regFanTachF ((fan : Int) + 1)) ∉ besideRegisters ∧
      BitVec.ofInt 8 (regFanTachR ((fan : Int) + 1)) ∉ besideRegisters ∧
      BitVec.ofInt 8 (regFanPwm ((fan : Int) + 1)) ∉ besideRegisters ∧
      BitVec.ofInt 8 (regFanStatus ((fan : Int) + 1)) ∉ besideRegisters := by
  decide

/-- The boost register is used under the lock. -/
theorem boost_register : BitVec.ofInt 8 wdtPwmReg ∉ besideRegisters := by decide

/-- The registers of the watchdog are used beside the lock. -/
theorem watchdog_registers : BitVec.ofInt 8 wdtCtrl0 ∈ besideRegisters ∧
    BitVec.ofInt 8 wdtCtrl1 ∈ besideRegisters ∧ BitVec.ofInt 8 wdtStaReg ∈ besideRegisters := by
  decide

/-- A routine whose transfers use no register of the watchdog or an LED. -/
def KeepsBeside {α : Type} (routine : Smbus α) : Prop :=
  routine.Conforms (fun op => register op ∉ besideRegisters) fun _ => True

/-- A routine that keeps to the registers under the lock does so as a call of the
driver. -/
theorem KeepsBeside.lift {α : Type} {routine : Smbus α} (keeps : KeepsBeside routine)
    (wrap : α → FanReply) :
    (do return wrap (← routine) : FanIo FanReply).Conforms UnderLock fun _ => True :=
  Program.Conforms.bind (keeps.embed fun _ outside => outside) fun _ _ => trivial

/-- A routine that reads one register. -/
theorem keeps_read {α : Type} {regAddr : Int} (rest : Int → Smbus α)
    (outside : BitVec.ofInt 8 regAddr ∉ besideRegisters)
    (later : ∀ regData, KeepsBeside (rest regData)) :
    KeepsBeside (i2cSmbusReadByteData regAddr >>= rest) :=
  ⟨outside, fun reply => later (readResult reply)⟩

/-- A routine that reads one register and judges what it has read. -/
theorem keeps_judged_read {α : Type} {regAddr : Int} (first second : Int → α)
    (outside : BitVec.ofInt 8 regAddr ∉ besideRegisters) :
    KeepsBeside (do
      let regData ← i2cSmbusReadByteData regAddr
      if regData < 0 then return first regData
      return second regData) := by
  apply keeps_read _ outside
  intro regData
  exact Program.Conforms.ite (fun _ => trivial) fun _ => trivial

/-- A routine that reads one register and writes it back. -/
theorem keeps_update {regAddr : Int} (refused : Prop) [Decidable refused] (byteVal : Int → Int)
    (outside : BitVec.ofInt 8 regAddr ∉ besideRegisters) :
    KeepsBeside (do
      if refused then return -einval
      let regData ← i2cSmbusReadByteData regAddr
      if regData < 0 then return regData
      i2cSmbusWriteByteData regAddr (byteVal regData)) := by
  apply Program.Conforms.ite
  · exact fun _ => trivial
  · intro _
    apply keeps_read _ outside
    intro regData
    exact Program.Conforms.ite (fun _ => trivial) fun _ => ⟨outside, fun _ => trivial⟩

/-- A write is refused before any transfer, or it updates its register under the
lock. -/
theorem update_inside {regAddr : Int} (refused : Prop) [Decidable refused] (byteVal : Int → Int)
    (outside : BitVec.ofInt 8 regAddr ∉ besideRegisters) :
    (⟨decide ¬refused, do
      let status ← (do
        if refused then return -einval
        let regData ← i2cSmbusReadByteData regAddr
        if regData < 0 then return regData
        i2cSmbusWriteByteData regAddr (byteVal regData) : Smbus Int)
      return .status status⟩ : Access FanOp FanOp.Reply FanReply).Inside UnderLock BesideLock := by
  by_cases early : refused
  · simp only [Access.Inside, early, if_true]
    exact trivial
  · have keeps := keeps_update refused byteVal outside
    simp only [Access.Inside, early, not_false_eq_true, decide_true, if_true, if_false] at keeps ⊢
    exact keeps.lift _

/-- A table with the same entry for all of its channels has none for others. -/
theorem channel_inside {attrs : List HwmonAttr} {count channel : Nat} {attr : HwmonAttr}
    (listed : attr ∈ (List.replicate count attrs).getD channel []) : channel < count := by
  by_contra outside
  rw [List.getD_eq_getElem?_getD, List.getElem?_eq_none (by simpa using outside)] at listed
  exact List.not_mem_nil listed

section Exposed

variable {kstrtoint : String → Except Errno Int} {ucfg : IoctlConfig}
variable (accepted : fbfancpldValidateConfig ucfg = 0)

include accepted

/-- Reading the speed of a fan uses no register beside the lock. -/
theorem fan_input_keeps {channel : Nat}
    (exposed : (fbfancpld kstrtoint (configured ucfg)).Exposes (.hwmonRead .fan .fanInput channel)) :
    KeepsBeside (fbfancpldFanInputRead (configured ucfg) channel) := by
  obtain ⟨_, few⟩ := accepted_fans accepted
  simp only [maxFans] at few
  have listed := exposed.1
  simp only [HwmonChip.config, fan_channels kstrtoint accepted] at listed
  have inside := channel_inside listed
  have known : (configured ucfg).config.hasRearTach = decide (ucfg.hasRearTach ≠ 0) := rfl
  apply keeps_judged_read
  by_cases rear : ucfg.hasRearTach ≠ 0
  · rw [if_pos rear] at inside
    have half := fan_registers (channel / 2) (by simp only [maxFans]; omega)
    simp only [known, decide_eq_true rear, if_true]
    split
    · exact half.2.1
    · exact half.1
  · rw [if_neg rear] at inside
    have fan := fan_registers channel (by simp only [maxFans]; omega)
    simp only [known, decide_eq_false rear, Bool.false_eq_true, if_false]
    exact fan.1

/-- The duty register of an exposed channel is used under the lock. -/
theorem pwm_register {channel : Nat} {attr : HwmonAttr}
    (listed : attr ∈ (fbfancpld kstrtoint (configured ucfg)).chip.pwmConfig.getD channel []) :
    BitVec.ofInt 8 (regFanPwm ((channel : Int) + 1)) ∉ besideRegisters := by
  obtain ⟨_, few⟩ := accepted_fans accepted
  rw [pwm_channels kstrtoint accepted] at listed
  exact (fan_registers channel (Nat.lt_of_lt_of_le (channel_inside listed) few)).2.2.1

/-- The status register of a listed fan is used under the lock. -/
theorem present_register {fn : Int}
    (listed : fn ∈ (fbfancpld kstrtoint (configured ucfg)).presentFans) :
    BitVec.ofInt 8 (regFanStatus fn) ∉ besideRegisters := by
  obtain ⟨_, few⟩ := accepted_fans accepted
  rw [present_fans kstrtoint accepted] at listed
  obtain ⟨fan, member, rfl⟩ := List.mem_map.mp listed
  exact (fan_registers fan (Nat.lt_of_lt_of_le (List.mem_range.mp member) few)).2.2.2

/-- A call uses the registers of its kind.

Proof: by the call. The channels and files that the driver exposes are in the range
of the fans, and the registers of that range are found by their numbers. -/
theorem call_inside (call : FanCall)
    (exposed : (fbfancpld kstrtoint (configured ucfg)).Exposes call) :
    (callAccess kstrtoint (configured ucfg) call).Inside UnderLock BesideLock := by
  cases call with
  | hwmonRead type attr channel =>
    cases type with
    | fan =>
      cases attr with
      | fanInput => exact (fan_input_keeps accepted exposed).lift _
      | _ => exact trivial
    | pwm =>
      have outside := pwm_register accepted exposed.1
      cases attr with
      | pwmInput => exact (keeps_judged_read _ _ outside).lift _
      | pwmEnable => exact (keeps_judged_read _ _ outside).lift _
      | _ => exact trivial
    | other => exact trivial
  | hwmonWrite type attr channel val =>
    cases type with
    | pwm =>
      have outside := pwm_register accepted exposed.1
      cases attr with
      | pwmInput => exact update_inside (val < 0) _ outside
      | pwmEnable => exact update_inside (val ≠ 0 ∧ val ≠ 1) _ outside
      | _ => exact trivial
    | _ => cases attr <;> exact trivial
  | presentShow fn =>
    apply KeepsBeside.lift
    exact keeps_read _ (present_register accepted exposed) fun _ => trivial
  | boostShow =>
    apply KeepsBeside.lift
    exact keeps_read _ boost_register fun _ => trivial
  | boostStore buf count =>
    cases parsed : kstrtoint buf with
    | error errno =>
      simp only [callAccess, Access.Inside, takesLock, FanDriver.serve, fbfancpld, fanBoostPwmStore,
        parsed]
      exact trivial
    | ok val =>
      simp only [callAccess, Access.Inside, takesLock, FanDriver.serve, fbfancpld, fanBoostPwmStore,
        parsed]
      apply KeepsBeside.lift
      exact ⟨boost_register, fun _ => trivial⟩
  | wdtStart => exact ⟨watchdog_registers.1, fun _ => trivial⟩
  | wdtStop => exact ⟨watchdog_registers.1, fun _ => trivial⟩
  | wdtPing => exact ⟨watchdog_registers.1, fun _ => trivial⟩
  | wdtSetTimeout timeout =>
    exact ⟨trivial, fun _ => ⟨trivial, fun _ => ⟨watchdog_registers.2.1, fun _ => trivial⟩⟩⟩
  | wdtGetTimeleft =>
    exact ⟨watchdog_registers.2.1, fun _ => ⟨watchdog_registers.2.2, fun _ => trivial⟩⟩

end Exposed

/-! ## All interleavings -/

/-- The driver that `ucfg` has configured. -/
def configuredDriver (kstrtoint : String → Except Errno Int) (ucfg : IoctlConfig) : FanDriver :=
  fbfancpld kstrtoint (configured ucfg)

/-- What a thread does: a call that the driver offers, or one on an LED. -/
inductive FanTask (kstrtoint : String → Except Errno Int) (ucfg : IoctlConfig) where
  | call (request : FanCall) (exposed : (configuredDriver kstrtoint ucfg).Exposes request)
  | ledGet (fan : Fan) (color : FanLedColor)
  | ledSet (fan : Fan) (color : FanLedColor) (value : Nat)

def serveLedGet (fan : Fan) (color : FanLedColor) : FanIo FanReply := do
  return .status (← fanLedBrightnessGet (fan.led color))

def serveLedSet (fan : Fan) (color : FanLedColor) (value : Nat) : FanIo FanReply := do
  return .status (← fanLedBrightnessSet (fan.led color) value)

section Tasks

variable {kstrtoint : String → Except Errno Int} {ucfg : IoctlConfig}

/-- The program of a thread. The LEDs take no lock. -/
def FanTask.program : FanTask kstrtoint ucfg → LockedFanIo FanReply
  | .call request _ => serveLocked kstrtoint (configured ucfg) request
  | .ledGet fan color => (serveLedGet fan color).unlocked
  | .ledSet fan color value => (serveLedSet fan color value).unlocked

def FanTask.access : FanTask kstrtoint ucfg → Access FanOp FanOp.Reply FanReply
  | .call request _ => callAccess kstrtoint (configured ucfg) request
  | .ledGet fan color => ⟨false, serveLedGet fan color⟩
  | .ledSet fan color value => ⟨false, serveLedSet fan color value⟩

/-- A task runs its access, under the lock or without it. -/
theorem task_program (task : FanTask kstrtoint ucfg) :
    task.program = task.access.program := by
  cases task with
  | call request exposed => exact serve_locked kstrtoint (configured ucfg) request
  | ledGet fan color => rfl
  | ledSet fan color value => rfl

/-- The LED registers of all fans are used beside the lock. -/
theorem led_registers : ∀ fn ≤ maxFans, 1 ≤ fn →
    BitVec.ofInt 8 (regFanLed (fn : Nat)) ∈ besideRegisters := by
  decide

/-- A task under the lock uses the registers of the one bank, and any other task
those of the other. -/
theorem task_inside (accepted : fbfancpldValidateConfig ucfg = 0)
    (task : FanTask kstrtoint ucfg) :
    task.access.Inside UnderLock BesideLock := by
  have led (fan : Fan) : BitVec.ofInt 8 (fan.regAddr.toNat : Int) ∈ besideRegisters := by
    rw [of_int_passed]
    exact led_registers fan.fn fan.last fan.first
  cases task with
  | call request exposed => exact call_inside accepted request exposed
  | ledSet fan color value => exact ⟨led fan, fun _ => trivial⟩
  | ledGet fan color =>
    have reads : (fanLedBrightnessGet (fan.led color)).Conforms
        (fun op => register op ∈ besideRegisters) fun _ => True :=
      ⟨led fan, fun _ => Program.Conforms.ite (fun _ => trivial) fun _ => trivial⟩
    exact Program.Conforms.bind (reads.embed fun _ within => within) fun _ _ => trivial

/-- The calls before their start. -/
def startFanTasks {Thread S T : Type} (tasks : Thread → FanTask kstrtoint ucfg)
    (cpld : FanBanks S T) : LockPool Thread FanOp FanOp.Reply FanReply (FanBanks S T) where
  shared := ⟨none, [], cpld⟩
  program thread := (tasks thread).program

/-- Any number of threads call the entries of a configured driver, on any CPLD
whose watchdog and LED registers are independent of the others. In every
interleaving, the calls under the lock return what they return one after the
other, in the order in which they have taken the lock; while the lock is free,
the registers that they use are as after these calls; and while a call is
unfinished, some call can go on.

Proof: the registers of the watchdog and the LEDs are not used under the lock, and
no others beside it. So the calls beside the lock leave alone what the calls under
it see, and these are serial. -/
theorem fan_calls_serial {Thread S T : Type} [DecidableEq Thread]
    (accepted : fbfancpldValidateConfig ucfg = 0)
    (tasks : Thread → FanTask kstrtoint ucfg) (locked : SmbusDevice S)
    (beside : SmbusDevice T) (cpld : FanBanks S T) (schedule : List Thread)
    (last : LockPool Thread FanOp FanOp.Reply FanReply (FanBanks S T))
    (ran : (startFanTasks tasks cpld).run
      (lockedDevice (bankedCpld locked beside) (bankedCpld locked beside)) schedule = some last) :
    let serial := serialFinal (fun thread => (tasks thread).access) (lockedBank locked) cpld.locked
    (∀ thread request exposed reply, tasks thread = .call request exposed →
      takesLock kstrtoint request = true → last.program thread = .done reply →
      ∃ before after, last.shared.taken = before ++ thread :: after ∧
        reply = ((configuredDriver kstrtoint ucfg).serve request).result (lockedBank locked)
          (serial before)) ∧
    (last.shared.holder = none → last.shared.device.locked = serial last.shared.taken) ∧
    ∀ thread, ¬(last.program thread).Finished → ∃ other next,
      last.advance (lockedDevice (bankedCpld locked beside) (bankedCpld locked beside)) other =
        some next := by
  intro serial
  have start : startFanTasks tasks cpld =
      lockedCalls (fun thread => (tasks thread).access) cpld := by
    simp only [startFanTasks, lockedCalls, task_program]
  rw [start] at ran
  have order := Serial.run (fun thread => task_inside accepted (tasks thread))
    (banks_view locked beside) cpld ran
  refine ⟨?_, order.idle, fun thread unfinished => order.progress unfinished⟩
  intro thread request exposed reply task takes finished
  have guarded : (tasks thread).access.guarded = true := by
    rw [task]
    exact takes
  obtain ⟨before, after, taken, returned⟩ := order.returned guarded finished
  refine ⟨before, after, taken, returned.trans ?_⟩
  simp only [task]
  rfl

end Tasks

def eightFans : IoctlConfig := ⟨8, 40, 150, 1, 1⟩

/-- One thread sets the duty of the first fan and another one its mode. -/
def dutyAndMode (mode : Bool) : FanTask (fun _ => .ok 0) eightFans :=
  if mode then .call (.hwmonWrite .pwm .pwmEnable 0 1) (by decide)
  else .call (.hwmonWrite .pwm .pwmInput 0 30) (by decide)

/-- Both take effect. -/
theorem duty_and_mode_kept :
    ∃ last, (startFanTasks dutyAndMode ⟨fun _ => 0, fun _ => 0, 0⟩).run
        (lockedDevice (bankedCpld registerCpld registerCpld) (bankedCpld registerCpld registerCpld))
        [false, false, false, false, true, true, true, true] = some last ∧
      last.shared.device.locked 0x32 = 0x9E := by
  refine ⟨_, rfl, ?_⟩
  have serial := fan_calls_serial (by decide) dutyAndMode registerCpld registerCpld
    ⟨fun _ => 0, fun _ => 0, 0⟩ [false, false, false, false, true, true, true, true] _ rfl
  exact (congrFun (serial.2.1 rfl) 0x32).trans (by decide)

end FbossBsp.Fbfancpld
