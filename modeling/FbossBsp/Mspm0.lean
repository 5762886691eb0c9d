import FbossBsp.Kernel

/-!
# The voltage monitor MSPM0

The monitor has one register for each of its ADC channels. A table takes the channel
numbers of hwmon to the registers. Two channels are left out, in the same way by the
read and by the visibility of the files; the read also has bounds of its own for the
channel before it uses it as an index.
-/

namespace FbossBsp.Mspm0

open Interaction

/-! ## hwmon -/

/-- `enum hwmon_sensor_types`. -/
inductive HwmonSensorTypes where
  | hwmonChip
  | hwmonTemp
  | hwmonIn
  | hwmonCurr
  | hwmonPower
  | hwmonEnergy
  | hwmonHumidity
  | hwmonFan
  | hwmonPwm
  | hwmonIntrusion
  deriving DecidableEq

def hwmonInInput : BitVec 32 := 1

/-- `HWMON_I_INPUT`. -/
def hwmonIInput : BitVec 32 := bit hwmonInInput.toNat

/-- `struct hwmon_channel_info`: a sensor type and the attributes of each channel. -/
structure HwmonChannelInfo where
  type : HwmonSensorTypes
  config : List (BitVec 32)

/-! ## Bus and memory -/

/-- An access to the table beyond its places, or one word transfer with the monitor. -/
inductive Mspm0Op where
  | beyondMap (channel : Int)
  | readWordData (command : BitVec 8)
  deriving DecidableEq

/-- Beyond the table any number may lie. -/
@[reducible] def Mspm0Op.Reply : Mspm0Op → Type
  | .beyondMap _ => Int
  | .readWordData _ => Except Errno (BitVec 16)

abbrev Mspm0Io := Program Mspm0Op Mspm0Op.Reply

/-- `i2c_smbus_read_word_data`; the register number is passed as a `u8`. -/
def i2cSmbusReadWordData (command : Int) : Mspm0Io Int :=
  .perform (.readWordData (BitVec.ofInt 8 command)) fun reply => .done (wordResult reply)

/-! ## The driver -/

def adcResolutionBit : Nat := 12
def adcVRef : Nat := 2500

/-- `ADC_VIN` of a number that is not negative. -/
def adcVin (n : Nat) : Int := (adcVRef * n / (1 <<< adcResolutionBit) : Nat)

def mspm0NumChannels : Int := 22
def mspm0AdcSkippedCh : Int := 4
def mspm0AdcUnusedCh : Int := 12

def mspm0AdcRegMap : List Int := [
  0x00, 0x01, 0x02, 0x03,
    -1, 0x04, 0x05, 0x06,
  0x07, 0x08, 0x09, 0x0a,
  0x0b, 0x0c, 0x0d, 0x0e,
  0x0f, 0x10, 0x11, 0x12,
  0x13, 0x14]

/-- The entry of the table at a place inside it. -/
def mapEntry (channel : Int) : Option Int :=
  if 0 ≤ channel then mspm0AdcRegMap[channel.toNat]? else none

/-- `mspm0_adc_reg_map[channel]`. -/
def mspm0AdcReg (channel : Int) : Mspm0Io Int :=
  match mapEntry channel with
  | some reg => .done reg
  | none => .perform (.beyondMap channel) .done

def swab16 (word : BitVec 16) : BitVec 16 := word <<< 8 ||| word >>> 8

/-- `mspm0_read`: a negative error, or the voltage. -/
def mspm0Read (type : HwmonSensorTypes) (attr : BitVec 32) (channel : Int) :
    Mspm0Io (Except Int Int) := do
  if type ≠ .hwmonIn ∨ attr ≠ hwmonInInput then return .error (-eopnotsupp)
  if channel = mspm0AdcSkippedCh ∨ channel = mspm0AdcUnusedCh then return .error (-einval)
  if channel < 0 ∨ channel > mspm0NumChannels then return .error (-einval)
  let reg ← mspm0AdcReg channel
  let ret ← i2cSmbusReadWordData reg
  if ret < 0 then return .error ret
  let valRaw := swab16 (BitVec.ofInt 16 ret)
  let valRaw := if valRaw.toNat > (1 <<< adcResolutionBit) - 1
    then BitVec.ofNat 16 ((1 <<< adcResolutionBit) - 1) else valRaw
  return .ok (adcVin valRaw.toNat)

/-- `mspm0_is_visible`. -/
def mspm0IsVisible (type : HwmonSensorTypes) (attr : BitVec 32) (channel : Int) : Nat :=
  if channel = mspm0AdcSkippedCh ∨ channel = mspm0AdcUnusedCh then 0
  else if type = .hwmonIn ∧ attr = hwmonInInput then 0o444
  else 0

def mspm0Info : List HwmonChannelInfo := [⟨.hwmonIn, List.replicate 22 hwmonIInput⟩]

/-! ## Channels -/

/-- The driver declares the channel for the sensor type. -/
def Declared (type : HwmonSensorTypes) (channel : Int) : Prop :=
  ∃ info ∈ mspm0Info, info.type = type ∧ 0 ≤ channel ∧ channel < info.config.length

/-- The declared channels are the 22 voltage inputs. -/
theorem declared_iff (type : HwmonSensorTypes) (channel : Int) :
    Declared type channel ↔ type = .hwmonIn ∧ 0 ≤ channel ∧ channel < 22 := by
  simp [Declared, mspm0Info, eq_comm]

/-- The channel is declared and its file can be read. -/
def Readable (type : HwmonSensorTypes) (attr : BitVec 32) (channel : Int) : Prop :=
  Declared type channel ∧ mspm0IsVisible type attr channel &&& 0o444 ≠ 0

/-- Every place of the table but the skipped one holds a register. -/
theorem map_entry_register {channel : Int} (lower : 0 ≤ channel) (upper : channel < 22)
    (used : channel ≠ mspm0AdcSkippedCh) : ∃ reg, mapEntry channel = some reg ∧ 0 ≤ reg := by
  have places : ∀ place : Nat, place < 22 → (place : Int) ≠ mspm0AdcSkippedCh →
      ∃ reg ∈ mspm0AdcRegMap[place]?, 0 ≤ reg := by decide
  have inside : channel.toNat < 22 := by omega
  have back : (channel.toNat : Int) = channel := Int.toNat_of_nonneg lower
  obtain ⟨reg, entry, nonneg⟩ := places channel.toNat inside (by rw [back]; exact used)
  exact ⟨reg, (if_pos lower).trans entry, nonneg⟩

/-- The end of the read, from the reply of the monitor. -/
def voltage (ret : Int) : Except Int Int :=
  if ret < 0 then .error ret
  else
    let valRaw := swab16 (BitVec.ofInt 16 ret)
    let valRaw := if valRaw.toNat > (1 <<< adcResolutionBit) - 1
      then BitVec.ofNat 16 ((1 <<< adcResolutionBit) - 1) else valRaw
    .ok (adcVin valRaw.toNat)

/-- What the guards of the read let through. -/
def Admitted (type : HwmonSensorTypes) (attr : BitVec 32) (channel : Int) : Prop :=
  (type = .hwmonIn ∧ attr = hwmonInInput) ∧
    (channel ≠ mspm0AdcSkippedCh ∧ channel ≠ mspm0AdcUnusedCh) ∧
      0 ≤ channel ∧ channel ≤ mspm0NumChannels

/-- An admitted read is one word read from the register of its channel. -/
theorem mspm0_read_admitted {type : HwmonSensorTypes} {attr : BitVec 32} {channel : Int}
    (admitted : Admitted type attr channel) :
    mspm0Read type attr channel = do
      let reg ← mspm0AdcReg channel
      let ret ← i2cSmbusReadWordData reg
      return voltage ret := by
  obtain ⟨offered, used, lower, upper⟩ := admitted
  have pass : ¬(type ≠ .hwmonIn ∨ attr ≠ hwmonInInput) := by tauto
  have kept : ¬(channel = mspm0AdcSkippedCh ∨ channel = mspm0AdcUnusedCh) := by tauto
  have within : ¬(channel < 0 ∨ channel > mspm0NumChannels) := by omega
  simp only [mspm0Read, if_neg pass, if_neg kept, if_neg within]
  congr
  funext reg
  congr
  funext ret
  unfold voltage
  split <;> rfl

/-- A refused read is an error without any access. -/
theorem mspm0_read_refused {type : HwmonSensorTypes} {attr : BitVec 32} {channel : Int}
    (refused : ¬Admitted type attr channel) :
    ∃ err < 0, mspm0Read type attr channel = .done (.error err) := by
  unfold mspm0Read
  split
  · exact ⟨-eopnotsupp, by decide, rfl⟩
  split
  · exact ⟨-einval, by decide, rfl⟩
  split
  · exact ⟨-einval, by decide, rfl⟩
  · exact absurd (by unfold Admitted; push Not at *; tauto) refused

section Read

variable {S : Type} (device : Device Mspm0Op Mspm0Op.Reply S) (state : S)
variable (type : HwmonSensorTypes) (attr : BitVec 32) (channel : Int)

/-- The accesses of a read. -/
def accesses : List Mspm0Op :=
  ((mspm0Read type attr channel).events device state).map (·.op)

/-- A read fails before it reaches the bus, or it asks for the register that the table
has at its channel. It reaches the bus for the readable channels alone. -/
structure Bounded : Prop where
  indexed : (accesses device state type attr channel = [] ∧
      ∃ err < 0, (mspm0Read type attr channel).result device state = .error err) ∨
    ∃ reg, mapEntry channel = some reg ∧ 0 ≤ reg ∧
      accesses device state type attr channel = [.readWordData (BitVec.ofInt 8 reg)]
  reached : (∃ command, .readWordData command ∈ accesses device state type attr channel) ↔
    Readable type attr channel

/-- The readable channels are the admitted ones but the number of channels itself. -/
theorem readable_iff :
    Readable type attr channel ↔ Admitted type attr channel ∧ channel ≠ mspm0NumChannels := by
  unfold Readable Admitted mspm0IsVisible
  rw [declared_iff]
  constructor
  · rintro ⟨⟨rfl, lower, upper⟩, visible⟩
    split at visible
    · exact absurd rfl visible
    split at visible
    · rename_i used offered
      refine ⟨⟨offered, ?_, lower, ?_⟩, ?_⟩
      · tauto
      · unfold mspm0NumChannels; omega
      · unfold mspm0NumChannels; omega
    · exact absurd rfl visible
  · rintro ⟨⟨offered, used, lower, upper⟩, inside⟩
    have skips : ¬(channel = mspm0AdcSkippedCh ∨ channel = mspm0AdcUnusedCh) := by tauto
    unfold mspm0NumChannels at upper inside
    rw [if_neg skips, if_pos offered]
    exact ⟨⟨offered.1, lower, by omega⟩, by decide⟩

/-- A refused read is bounded. -/
theorem bounded_of_refused (refused : ¬Admitted type attr channel) :
    Bounded device state type attr channel := by
  obtain ⟨err, negative, read⟩ := mspm0_read_refused refused
  have silent : accesses device state type attr channel = [] := by
    rw [accesses, read]
    rfl
  constructor
  · exact Or.inl ⟨silent, err, negative, by rw [read]; rfl⟩
  · rw [silent, readable_iff]
    simp [refused]

/-- An admitted read inside the table is bounded. -/
theorem bounded_of_admitted (admitted : Admitted type attr channel)
    (inside : channel ≠ mspm0NumChannels) : Bounded device state type attr channel := by
  obtain ⟨offered, used, lower, upper⟩ := id admitted
  have below : channel < 22 := by
    unfold mspm0NumChannels at upper inside
    omega
  obtain ⟨reg, entry, nonneg⟩ := map_entry_register lower below used.1
  have only : accesses device state type attr channel = [.readWordData (BitVec.ofInt 8 reg)] := by
    rw [accesses, mspm0_read_admitted admitted, mspm0AdcReg, entry]
    rfl
  constructor
  · exact Or.inr ⟨reg, entry, nonneg, only⟩
  · rw [only, readable_iff]
    simp [admitted, inside]

/-- The channel just beyond the declared ones is not bounded. -/
theorem not_bounded (offered : type = .hwmonIn ∧ attr = hwmonInInput) :
    ¬Bounded device state type attr mspm0NumChannels := by
  intro bounded
  have admitted : Admitted type attr mspm0NumChannels := by
    refine ⟨offered, ?_, ?_⟩ <;> decide
  have beyond : mapEntry mspm0NumChannels = none := by decide
  have first : .beyondMap mspm0NumChannels ∈ accesses device state type attr mspm0NumChannels := by
    rw [accesses, mspm0_read_admitted admitted, mspm0AdcReg, beyond]
    exact List.mem_cons_self
  rcases bounded.indexed with ⟨silent, _⟩ | ⟨reg, entry, _⟩
  · rw [silent] at first
    exact absurd first List.not_mem_nil
  · rw [beyond] at entry
    exact absurd entry (by simp)

/-- The read is bounded but where it passes its guards with the number of the channels
as the channel. -/
theorem mspm0_read_bounded_iff :
    Bounded device state type attr channel ↔
      ¬(type = .hwmonIn ∧ attr = hwmonInInput ∧ channel = mspm0NumChannels) := by
  constructor
  · rintro bounded ⟨sensor, input, rfl⟩
    exact not_bounded device state type attr ⟨sensor, input⟩ bounded
  · intro apart
    by_cases admitted : Admitted type attr channel
    · refine bounded_of_admitted device state type attr channel admitted fun last => ?_
      exact apart ⟨admitted.1.1, admitted.1.2, last⟩
    · exact bounded_of_refused device state type attr channel admitted

end Read

/-- A monitor with the words of its registers, and a number beyond the table. -/
def monitor (beyond : Int) (registers : BitVec 8 → BitVec 16) : Device Mspm0Op Mspm0Op.Reply Unit
  | .beyondMap _, _ => (beyond, ())
  | .readWordData command, _ => (.ok (registers command), ())

/-- The read of channel 22 takes a number from beyond the table and asks for it. -/
theorem channel_22_beyond :
    accesses (monitor 0x77 fun _ => 0) () .hwmonIn hwmonInInput 22 =
        [.beyondMap 22, .readWordData 0x77] ∧
      ¬Bounded (monitor 0x77 fun _ => 0) () .hwmonIn hwmonInInput 22 :=
  ⟨by decide, not_bounded _ () .hwmonIn hwmonInInput ⟨rfl, rfl⟩⟩

end FbossBsp.Mspm0
