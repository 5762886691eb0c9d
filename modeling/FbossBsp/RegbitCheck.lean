import FbossBsp.RegbitHandlers

/-!
# The check of a bit range

`regbit_config_check` adds the first bit and the number of bits as `u32`, and
asks for no bit at all. The default handlers build their masks and shifts from
the same two fields.
-/

namespace FbossBsp.Regbit

/-! ## Usable ranges -/

section Ranges

variable {Entry : Type} (config : RegbitFileConfig Entry) (regmapCfg : RegmapConfig)

/-- The file can be read or written, as the mode says. -/
def HasMode : Prop := config.mode &&& (sIrusr ||| sIwusr) ≠ 0

/-- The attribute gets a default handler. -/
def UsesDefault : Prop :=
  (config.mode &&& sIrusr ≠ 0 ∧ config.showFunc = none) ∨
    (config.mode &&& sIwusr ≠ 0 ∧ config.storeFunc = none)

/-- The bounds on register and bits, over the natural numbers. -/
structure InBounds : Prop where
  nonempty : 1 ≤ config.numBits.toNat
  inside : config.bitOffset.toNat + config.numBits.toNat ≤ regmapCfg.valBits.toNat
  register : config.regAddr.toNat ≤ regmapCfg.maxRegister.toNat

/-- The operands of the masks and shifts in the default handlers: `GENMASK(num_bits
- 1, 0)`, `GENMASK(bit_offset + num_bits - 1, bit_offset)` and the shifts by
`bit_offset`. -/
structure OperandsInside : Prop where
  valueHigh : (config.numBits - 1).toNat < regmapCfg.valBits.toNat
  rangeHigh : (config.bitOffset + config.numBits - 1).toNat < regmapCfg.valBits.toNat
  rangeLow : config.bitOffset.toNat ≤ (config.bitOffset + config.numBits - 1).toNat
  shift : config.bitOffset.toNat < regmapCfg.valBits.toNat

/-- The check accepts usable ranges only, and all of them. -/
structure ChecksRange : Prop where
  sound : regbitConfigCheck config regmapCfg = 0 → UsesDefault config →
    InBounds config regmapCfg ∧ OperandsInside config regmapCfg
  complete : InBounds config regmapCfg → HasMode config → regbitConfigCheck config regmapCfg = 0

/-- With a default handler, and a register and a first bit that the device has, the
range has a bit, and its end is a `u32`. -/
def EndFits : Prop :=
  UsesDefault config → config.regAddr ≤ regmapCfg.maxRegister →
    config.bitOffset < regmapCfg.valBits →
    1 ≤ config.numBits.toNat ∧ config.bitOffset.toNat + config.numBits.toNat < 2 ^ 32

/-- What the check accepts. -/
theorem config_check_iff :
    regbitConfigCheck config regmapCfg = 0 ↔
      HasMode config ∧ config.regAddr ≤ regmapCfg.maxRegister ∧
        config.bitOffset < regmapCfg.valBits ∧
        config.bitOffset + config.numBits ≤ regmapCfg.valBits := by
  simp only [regbitConfigCheck, passes_iff, and_true, not_or, HasMode, ne_eq]
  rw [BitVec.not_lt, BitVec.not_le, BitVec.not_lt]

variable {config regmapCfg}

/-- A default handler is used only for a file that can be read or written. -/
theorem UsesDefault.hasMode (default : UsesDefault config) : HasMode config := by
  have part {mode mask other : BitVec 32} (set : mode &&& mask ≠ 0)
      (inside : mask &&& other = mask) : mode &&& other ≠ 0 :=
    fun clear => set (and_eq_zero_of_part clear inside)
  obtain ⟨readable, _⟩ | ⟨writable, _⟩ := default
  · exact part readable (by decide)
  · exact part writable (by decide)

/-- Bounds over the natural numbers are bounds on the operands. -/
theorem InBounds.operands (bounds : InBounds config regmapCfg) (small : regmapCfg.valBits ≤ 32) :
    OperandsInside config regmapCfg := by
  obtain ⟨nonempty, inside, _⟩ := bounds
  constructor <;> bv_omega

/-- Within the bounds, the sum does not wrap. -/
theorem InBounds.accepted (bounds : InBounds config regmapCfg) (small : regmapCfg.valBits ≤ 32)
    (mode : HasMode config) : regbitConfigCheck config regmapCfg = 0 := by
  obtain ⟨nonempty, inside, register⟩ := bounds
  refine (config_check_iff config regmapCfg).mpr ⟨mode, register, ?_, ?_⟩ <;> bv_omega

end Ranges

/-- For either regmap and every configuration: the check accepts exactly the usable
ranges if and only if an attribute with a default handler has a bit and the end of
its range does not wrap. -/
theorem checks_range_iff {Entry : Type} (config : RegbitFileConfig Entry)
    (regmapCfg : RegmapConfig) (either : regmapCfg = mmioRegmapCfg ∨ regmapCfg = i2cRegmapCfg) :
    ChecksRange config regmapCfg ↔ EndFits config regmapCfg := by
  have small : regmapCfg.valBits ≤ 32 := by
    obtain rfl | rfl := either <;> decide
  constructor
  · intro checks default register start
    by_contra fails
    -- an empty range and a range whose end wraps both end below their first bit
    have wraps : config.bitOffset + config.numBits ≤ regmapCfg.valBits := by
      bv_omega
    have accepted := (config_check_iff config regmapCfg).mpr
      ⟨default.hasMode, register, start, wraps⟩
    obtain ⟨⟨nonempty, inside, _⟩, _⟩ := checks.sound accepted default
    exact fails ⟨nonempty, by bv_omega⟩
  · intro fits
    refine ⟨fun accepted default => ?_, fun bounds mode => bounds.accepted small mode⟩
    obtain ⟨_, register, start, ends⟩ := (config_check_iff config regmapCfg).mp accepted
    obtain ⟨nonempty, exact⟩ := fits default register start
    have bounds : InBounds config regmapCfg := ⟨nonempty, by bv_omega, register⟩
    exact ⟨bounds, bounds.operands small⟩

/-- Bits 4 to 7 of an 8-bit register. -/
theorem nibble_checked :
    ChecksRange (⟨⟨3, 4, 4, 0⟩, ascii "nibble", 0o644, none, none, none⟩ : RegbitFileConfig Unit)
        i2cRegmapCfg ↔
      EndFits (⟨⟨3, 4, 4, 0⟩, ascii "nibble", 0o644, none, none, none⟩ : RegbitFileConfig Unit)
        i2cRegmapCfg :=
  checks_range_iff _ i2cRegmapCfg (Or.inr rfl)

/-- No bits at all are accepted, and so are 2^32 - 1 bits from bit 1 on. -/
theorem unusable_accepted :
    ¬ChecksRange (⟨⟨3, 4, 0, 0⟩, ascii "none", 0o644, none, none, none⟩ : RegbitFileConfig Unit)
        i2cRegmapCfg ∧
      ¬ChecksRange
        (⟨⟨3, 1, 0xFFFFFFFF, 0⟩, ascii "all", 0o644, none, none, none⟩ : RegbitFileConfig Unit)
        mmioRegmapCfg := by
  constructor
  · intro checks
    have usable := checks.sound (by decide) (Or.inl ⟨by decide, rfl⟩)
    exact absurd usable.1.nonempty (by decide)
  · intro checks
    have usable := checks.sound (by decide) (Or.inl ⟨by decide, rfl⟩)
    exact absurd usable.1.inside (by decide)

end FbossBsp.Regbit
