import FbossBsp.Kernel

/-!
# Register bits as sysfs files

A `regbit` attribute is a bit range of one register, shown and stored as a
number. Storing reads the register, replaces the range and writes it back, all
under the mutex of the attribute.

Registers are reached through a regmap whose values have 32 bits over MMIO and
8 bits over I2C. Parsing the user's string is the kernel's `kstrtou32`, a
parameter. The regmap of the device exists once its attributes do, and log
messages are not modeled.
-/

namespace FbossBsp.Regbit

open Interaction

/-! ## Operations -/

/-- One step of an attribute handler: the mutex of an entry, or one regmap
transaction. -/
inductive RegmapOp (Entry : Type) where
  | mutexLock (entry : Entry)
  | mutexUnlock (entry : Entry)
  | regmapRead (reg : BitVec 32)
  | regmapWrite (reg val : BitVec 32)
  deriving DecidableEq

@[reducible] def RegmapOp.Reply {Entry : Type} : RegmapOp Entry → Type
  | .mutexLock _ => Unit
  | .mutexUnlock _ => Unit
  | .regmapRead _ => Except Errno (BitVec 32)
  | .regmapWrite _ _ => Except Errno Unit

abbrev Regmap (Entry : Type) := Program (RegmapOp Entry) RegmapOp.Reply

/-! ## Attributes -/

def rbsFlagValNegate : BitVec 32 := bit 3

/-- The fields of `struct regbit_sysfs_config` that the default handlers use. -/
structure RegbitSysfsConfig where
  regAddr : BitVec 32
  bitOffset : BitVec 32
  numBits : BitVec 32
  flags : BitVec 32

namespace RegbitSysfsConfig

variable (config : RegbitSysfsConfig)

/-- `GENMASK(num_bits - 1, 0)`. -/
def valueMask : BitVec 32 := genmask32 (config.numBits - 1).toNat 0

/-- `GENMASK(bit_offset + num_bits - 1, bit_offset)`. -/
def rangeMask : BitVec 32 :=
  genmask32 (config.bitOffset + config.numBits - 1).toNat config.bitOffset.toNat

/-- The value `regbit_sysfs_show` prints for a register content. -/
def shownVal (regVal : BitVec 32) : BitVec 32 :=
  if config.flags &&& rbsFlagValNegate ≠ 0 then
    (~~~regVal >>> config.bitOffset.toNat) &&& config.valueMask
  else (regVal >>> config.bitOffset.toNat) &&& config.valueMask

/-- The register content `regbit_sysfs_store` writes over the content `val`. -/
def storedVal (input val : BitVec 32) : BitVec 32 :=
  (val &&& ~~~config.rangeMask) ||| ((input &&& config.valueMask) <<< config.bitOffset.toNat)

end RegbitSysfsConfig

section Handlers

variable {Entry : Type} (config : RegbitSysfsConfig) (entry : Entry) (count : Nat)

/-- The exit path of `regbit_sysfs_store`. -/
def regbitStoreExit (ret : Except Errno Unit) : Regmap Entry Int :=
  .perform (.mutexUnlock entry) fun _ =>
    match ret with
    | .error errno => pure (-errno.code)
    | .ok () => pure count

/-- The read-modify-write of `regbit_sysfs_store`, with the mutex held. -/
def regbitStoreLocked (input : BitVec 32) : Regmap Entry Int :=
  .perform (.regmapRead config.regAddr) fun
    | .error errno => regbitStoreExit entry count (.error errno)
    | .ok val =>
      .perform (.regmapWrite config.regAddr (config.storedVal input val))
        (regbitStoreExit entry count)

/-- `regbit_sysfs_store`. -/
def regbitSysfsStore (kstrtou32 : String → Option (BitVec 32)) (buf : String) :
    Regmap Entry Int :=
  match kstrtou32 buf with
  | none => pure (-einval)
  | some input =>
    .perform (.mutexLock entry) fun _ => regbitStoreLocked config entry count input

end Handlers

/-! ## Bit ranges -/

namespace RegbitSysfsConfig

/-- The attribute covers a bit of its register. -/
def Covers (config : RegbitSysfsConfig) (i : Nat) : Prop :=
  config.bitOffset.toNat ≤ i ∧ i < config.bitOffset.toNat + config.numBits.toNat

instance (config : RegbitSysfsConfig) (i : Nat) : Decidable (config.Covers i) :=
  inferInstanceAs (Decidable (_ ∧ _))

/-- A nonempty bit range inside a register of `w` bits, shown as it is stored. -/
structure WellFormed (w : Nat) (config : RegbitSysfsConfig) : Prop where
  nonempty : 0 < config.numBits.toNat
  inside : config.bitOffset.toNat + config.numBits.toNat ≤ w
  plain : config.flags &&& rbsFlagValNegate = 0

variable {w : Nat} {config : RegbitSysfsConfig}

/-- The mask of a value has as many low bits as the file. -/
theorem value_mask_bit (wellFormed : config.WellFormed w) (small : w ≤ 32) (i : Nat) :
    config.valueMask.getLsbD i = decide (i < config.numBits.toNat) := by
  obtain ⟨nonempty, inside, _⟩ := wellFormed
  have last : (config.numBits - 1).toNat = config.numBits.toNat - 1 := by
    rw [BitVec.toNat_sub]
    have one : (1 : BitVec 32).toNat = 1 := rfl
    omega
  rw [valueMask, last, genmask32_bit _ _ _ (by omega)]
  have same : i ≤ config.numBits.toNat - 1 ↔ i < config.numBits.toNat := by omega
  simp [same]

/-- The mask of a range has the bits that the file covers. -/
theorem range_mask_bit (wellFormed : config.WellFormed w) (small : w ≤ 32) (i : Nat) :
    config.rangeMask.getLsbD i = decide (config.Covers i) := by
  obtain ⟨nonempty, inside, _⟩ := wellFormed
  have last : (config.bitOffset + config.numBits - 1).toNat =
      config.bitOffset.toNat + config.numBits.toNat - 1 := by
    rw [BitVec.toNat_sub, BitVec.toNat_add]
    have one : (1 : BitVec 32).toNat = 1 := rfl
    omega
  rw [rangeMask, last, genmask32_bit _ _ _ (by omega)]
  have same : i ≤ config.bitOffset.toNat + config.numBits.toNat - 1 ↔
      i < config.bitOffset.toNat + config.numBits.toNat := by omega
  rw [Bool.eq_iff_iff]
  simp only [Bool.and_eq_true, decide_eq_true_eq, same]
  rfl

/-- Storing replaces the bits of the range and no others. -/
theorem stored_val_bit (wellFormed : config.WellFormed w) (small : w ≤ 32)
    (input val : BitVec 32) (i : Nat) (inside : i < w) :
    (config.storedVal input val).getLsbD i =
      if config.Covers i then input.getLsbD (i - config.bitOffset.toNat) else val.getLsbD i := by
  simp only [storedVal, BitVec.getLsbD_or, BitVec.getLsbD_and, BitVec.getLsbD_not,
    BitVec.getLsbD_shiftLeft, range_mask_bit wellFormed small, value_mask_bit wellFormed small]
  have word : i < 32 := by omega
  by_cases covered : config.Covers i
  · obtain ⟨lower, upper⟩ := covered
    have within : i - config.bitOffset.toNat < config.numBits.toNat := by omega
    simp [Covers, lower, upper, within, word, Nat.not_lt.mpr lower]
  · by_cases lower : config.bitOffset.toNat ≤ i
    · have beyond : ¬i - config.bitOffset.toNat < config.numBits.toNat := fun within =>
        covered ⟨lower, by omega⟩
      simp [covered, beyond, word]
    · simp [covered, Nat.not_le.mp lower, word]

/-- The shifted value lies inside the range. -/
theorem shifted_inside (wellFormed : config.WellFormed w) (small : w ≤ 32) (input : BitVec 32) :
    ((input &&& config.valueMask) <<< config.bitOffset.toNat) &&& config.rangeMask =
      (input &&& config.valueMask) <<< config.bitOffset.toNat := by
  apply BitVec.eq_of_getLsbD_eq
  intro i _
  simp only [BitVec.getLsbD_and, BitVec.getLsbD_shiftLeft, value_mask_bit wellFormed small,
    range_mask_bit wellFormed small, Covers]
  by_cases lower : config.bitOffset.toNat ≤ i
  · by_cases within : i - config.bitOffset.toNat < config.numBits.toNat
    · have upper : i < config.bitOffset.toNat + config.numBits.toNat := by omega
      simp [lower, upper]
    · simp [within]
  · simp [lower]

/-- Writing back what was read from a register of `w` bits changes the bits of
the range only. -/
theorem written_back_bit (wellFormed : config.WellFormed w) (small : w ≤ 32) (input : BitVec 32)
    (val : BitVec w) (i : Nat) :
    ((config.storedVal input (val.setWidth 32)).setWidth w).getLsbD i =
      if config.Covers i then input.getLsbD (i - config.bitOffset.toNat) else val.getLsbD i := by
  rw [BitVec.getLsbD_setWidth]
  by_cases inside : i < w
  · have word : i < 32 := Nat.lt_of_lt_of_le inside small
    rw [stored_val_bit wellFormed small _ _ _ inside]
    simp [inside, word]
  · have uncovered : ¬config.Covers i := fun covered =>
      inside (Nat.lt_of_lt_of_le covered.2 wellFormed.inside)
    simp [inside, uncovered, BitVec.getLsbD_of_ge val i (Nat.not_lt.mp inside)]

/-- A register shows the value whose bits its range holds. -/
theorem shown_val_eq (wellFormed : config.WellFormed w) (small : w ≤ 32) (input val : BitVec 32)
    (held : ∀ i, config.Covers i → val.getLsbD i = input.getLsbD (i - config.bitOffset.toNat)) :
    config.shownVal val = input &&& config.valueMask := by
  have plain := wellFormed.plain
  simp only [shownVal, plain, ne_eq, not_true_eq_false, if_false]
  apply BitVec.eq_of_getLsbD_eq
  intro i _
  simp only [BitVec.getLsbD_and, BitVec.getLsbD_ushiftRight, value_mask_bit wellFormed small]
  by_cases within : i < config.numBits.toNat
  · have bits := held (config.bitOffset.toNat + i) ⟨Nat.le_add_right _ _, by omega⟩
    rw [Nat.add_sub_cancel_left] at bits
    rw [bits]
  · simp [within]

end RegbitSysfsConfig

end FbossBsp.Regbit
