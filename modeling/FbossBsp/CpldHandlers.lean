import FbossBsp.CpldTable
import FbossBsp.RegbitVariables
import Mathlib.Data.List.TakeWhile

/-!
# The handlers of run-time attributes

`fbcpld` has handlers of its own for the files it creates at run time. They do
by `regmap_update_bits` what the handlers of `regbit` do by hand, and take no
mutex. An attribute that user space may create and read is one that `regbit`
accepts, and both engines serve it alike.

The regmap of the device exists, and log messages are not modeled.
-/

namespace FbossBsp.Fbcpld

open Interaction

open Regbit (Text ascii formatDec formatHex RegbitSysfsConfig RegbitFileConfig RegmapConfig
  RegmapBus regmapBus regbitSysfsShow regbitSysfsStore regbitConfigCheck i2cRegmapCfg)

/-! ## Operations -/

/-- One regmap call of a handler. -/
inductive DynOp where
  | regmapRead (reg : BitVec 32)
  | regmapWrite (reg val : BitVec 32)
  | regmapUpdateBits (reg mask val : BitVec 32)
  deriving DecidableEq

@[reducible] def DynOp.Reply : DynOp → Type
  | .regmapRead _ => Except Errno (BitVec 32)
  | .regmapWrite _ _ => Except Errno Unit
  | .regmapUpdateBits _ _ _ => Except Errno Unit

abbrev DynIo := Program DynOp DynOp.Reply

/-- `fbcpld_i2c_regmap_cfg`. -/
def fbcpldI2cRegmapCfg : RegmapConfig := ⟨8, 0xFF⟩

/-! ## Handlers -/

def fbcpldFlagShowNotes : BitVec 32 := bit 1
def fbcpldFlagShowDec : BitVec 32 := bit 2
def fbcpldFlagValNegate : BitVec 32 := bit 3

namespace FbcpldSysfsAttr

variable (cfg : FbcpldSysfsAttr)

/-- `GENMASK(num_bits - 1, 0)`. -/
def valueMask : BitVec 32 := genmask32 (cfg.numBits - 1).toNat 0

/-- `GENMASK(bit_offset + num_bits - 1, bit_offset)`. -/
def rangeMask : BitVec 32 :=
  genmask32 (cfg.bitOffset + cfg.numBits - 1).toNat cfg.bitOffset.toNat

/-- The value `fbcpld_dyn_show` prints for a register content. -/
def shownVal (regVal : BitVec 32) : BitVec 32 :=
  if cfg.flags &&& fbcpldFlagValNegate ≠ 0 then
    (~~~regVal >>> cfg.bitOffset.toNat) &&& cfg.valueMask
  else (regVal >>> cfg.bitOffset.toNat) &&& cfg.valueMask

/-- The help string; without a NUL in its field it runs into what lies `beyond`
the entry. -/
def helpText (beyond : List (BitVec 8)) : Text :=
  if cfg.helpStr ⟨0, by decide⟩ ≠ 0 then CString.text (List.ofFn cfg.helpStr ++ beyond) else []

/-- What `fbcpld_dyn_show` prints for a value. -/
def showText (beyond : List (BitVec 8)) (val : BitVec 32) : Text :=
  let data := if cfg.flags &&& fbcpldFlagShowDec ≠ 0 then formatDec val
    else ascii "0x" ++ formatHex val
  if cfg.flags &&& fbcpldFlagShowNotes ≠ 0 then
    data ++ ascii "\n\nNote:\nRegister 0x" ++ formatHex cfg.regAddr ++ ascii ", bit[" ++
      formatDec (cfg.bitOffset + cfg.numBits - 1) ++ ascii ":" ++ formatDec cfg.bitOffset ++
      ascii "]\n" ++ cfg.helpText beyond ++ ascii "\n"
  else data ++ ascii "\n"

end FbcpldSysfsAttr

section Handlers

variable (cfg : FbcpldSysfsAttr)

/-- `fbcpld_dyn_show`. -/
def fbcpldDynShow (beyond : List (BitVec 8)) : DynIo (Except Int Text) :=
  .perform (.regmapRead cfg.regAddr) fun
    | .error errno => pure (.error (-errno.code))
    | .ok regVal => pure (.ok (cfg.showText beyond (cfg.shownVal regVal)))

/-- The end of `fbcpld_dyn_store`. -/
def dynStoreExit (count : Nat) : Except Errno Unit → DynIo Int
  | .error errno => pure (-errno.code)
  | .ok () => pure count

/-- `fbcpld_dyn_store`; a file that cannot be read is written without reading
the register. -/
def fbcpldDynStore (kstrtou32 : String → Option (BitVec 32)) (buf : String) (count : Nat) :
    DynIo Int :=
  match kstrtou32 buf with
  | none => pure (-einval)
  | some input =>
    let input := input &&& cfg.valueMask
    if cfg.mode &&& sIrusr = 0 then
      .perform (.regmapWrite cfg.regAddr (input <<< cfg.bitOffset.toNat)) (dynStoreExit count)
    else
      .perform (.regmapUpdateBits cfg.regAddr cfg.rangeMask (input <<< cfg.bitOffset.toNat))
        (dynStoreExit count)

end Handlers

/-! ## The device -/

/-- `regmap_update_bits` replaces the bits of the mask in one transaction. -/
def dynBus {w : Nat} : Device DynOp DynOp.Reply (RegmapBus w)
  | .regmapRead reg, s =>
    match s.outcome with
    | some errno => (.error errno, s.next)
    | none => (.ok ((s.regs reg).setWidth 32), s.next)
  | .regmapWrite reg val, s =>
    match s.outcome with
    | some errno => (.error errno, s.next)
    | none => (.ok (), { s.next with regs := Function.update s.regs reg (val.setWidth w) })
  | .regmapUpdateBits reg mask val, s =>
    match s.outcome with
    | some errno => (.error errno, s.next)
    | none => (.ok (), {
        regs := Function.update s.regs reg
          ((((s.regs reg).setWidth 32 &&& ~~~mask) ||| (val &&& mask)).setWidth w)
        outcomes := s.next.outcomes })

/-! ## One attribute in two engines -/

/-- The configuration that gives `regbit` the same attribute. -/
structure Corresponds {Entry : Type} (cfg : FbcpldSysfsAttr) (config : RegbitFileConfig Entry) :
    Prop where
  mode : config.mode = cfg.mode
  regAddr : config.regAddr = cfg.regAddr
  bitOffset : config.bitOffset = cfg.bitOffset
  numBits : config.numBits = cfg.numBits
  flags : config.flags = cfg.flags
  helpStr : config.helpStr.getD [] = CString.text (List.ofFn cfg.helpStr)

/-- The checks of `regbit` ask for no more than those of `fbcpld`. -/
theorem config_check_accepts {Entry : Type} {cfg : FbcpldSysfsAttr}
    {config : RegbitFileConfig Entry} (same : Corresponds cfg config) (valid : Valid cfg) :
    regbitConfigCheck config i2cRegmapCfg = 0 := by
  have inside := valid.inside
  have start := valid.bitOffset
  simp only [regbitConfigCheck, passes_iff, and_true, i2cRegmapCfg, same.mode, same.regAddr,
    same.bitOffset, same.numBits, not_or]
  refine ⟨valid.mode, BitVec.not_lt.mpr valid.regAddr, BitVec.not_le.mpr start, ?_⟩
  bv_omega

/-- The range of a valid attribute is well-formed when its value is not negated. -/
theorem valid_well_formed {cfg : FbcpldSysfsAttr} (valid : Valid cfg) :
    (⟨cfg.regAddr, cfg.bitOffset, cfg.numBits, 0⟩ : RegbitSysfsConfig).WellFormed 8 where
  nonempty := by
    have some := valid.numBits.1
    simp only
    bv_omega
  inside := valid.inside
  plain := BitVec.zero_and

/-- A field that starts with the terminator holds the empty string. -/
theorem text_ofFn_nil (n : ℕ) (bytes : Fin (n + 1) → BitVec 8) (empty : bytes 0 = 0) :
    CString.text (List.ofFn bytes) = [] := by
  rw [List.ofFn_succ, empty]
  exact CString.text_zero _

/-- The help text is the terminated string of the field. -/
theorem help_text_terminated (cfg : FbcpldSysfsAttr) (beyond : List (BitVec 8))
    (terminated : ∃ i, cfg.helpStr i = 0) :
    cfg.helpText beyond = CString.text (List.ofFn cfg.helpStr) := by
  have member : 0 ∈ List.ofFn cfg.helpStr := by
    obtain ⟨i, zero⟩ := terminated
    exact List.mem_ofFn.mpr ⟨i, zero⟩
  unfold FbcpldSysfsAttr.helpText
  split
  · exact CString.text_append member _
  · rename_i empty
    have first : cfg.helpStr ⟨0, by decide⟩ = 0 := not_not.mp empty
    exact (text_ofFn_nil 255 cfg.helpStr first).symm

section Agreement

variable {Entry : Type} {cfg : FbcpldSysfsAttr} {config : RegbitFileConfig Entry}
variable (same : Corresponds cfg config)

include same

/-- Both engines shift in a value with the same mask. -/
theorem Corresponds.value_mask : config.valueMask = cfg.valueMask := by
  simp only [RegbitSysfsConfig.valueMask, FbcpldSysfsAttr.valueMask, same.numBits]

/-- Both engines cover the same bits of the register. -/
theorem Corresponds.range_mask : config.rangeMask = cfg.rangeMask := by
  simp only [RegbitSysfsConfig.rangeMask, FbcpldSysfsAttr.rangeMask, same.numBits, same.bitOffset]

/-- Both engines show the same value of a register. -/
theorem Corresponds.shown_val (regVal : BitVec 32) :
    config.shownVal regVal = cfg.shownVal regVal := by
  simp only [RegbitSysfsConfig.shownVal, FbcpldSysfsAttr.shownVal, same.flags, same.bitOffset,
    same.value_mask]
  rfl

/-- Both engines print the same text for a value. -/
theorem Corresponds.show_text (beyond : List (BitVec 8)) (terminated : ∃ i, cfg.helpStr i = 0)
    (val : BitVec 32) : config.showText val = cfg.showText beyond val := by
  simp only [RegbitFileConfig.showText, FbcpldSysfsAttr.showText, same.flags, same.bitOffset,
    same.numBits, same.regAddr, same.helpStr, help_text_terminated cfg beyond terminated]
  rfl

/-- Both engines leave the same content: the shifted input lies inside the range. -/
theorem Corresponds.stored_val (valid : Valid cfg) (input val : BitVec 32) :
    config.storedVal input val = (val &&& ~~~cfg.rangeMask) |||
      (((input &&& cfg.valueMask) <<< cfg.bitOffset.toNat) &&& cfg.rangeMask) := by
  have wellFormed := valid_well_formed valid
  have inRange : ((input &&& cfg.valueMask) <<< cfg.bitOffset.toNat) &&& cfg.rangeMask =
      (input &&& cfg.valueMask) <<< cfg.bitOffset.toNat :=
    RegbitSysfsConfig.shifted_inside wellFormed (by decide) input
  rw [inRange, RegbitSysfsConfig.storedVal, same.range_mask, same.value_mask, same.bitOffset]

end Agreement

/-- An attribute that `fbcpld` accepts and that can be read is accepted by
`regbit` too, and both engines show the same text, return the same result for
every string that is stored, and leave the same registers. This holds for every
register content and all flags, as long as the transactions succeed. -/
theorem engines_agree {Entry : Type} (cfg : FbcpldSysfsAttr) (config : RegbitFileConfig Entry)
    (same : Corresponds cfg config) (valid : fbcpldValidateAttr cfg = 0)
    (readable : cfg.mode &&& sIrusr ≠ 0) (terminated : ∃ i, cfg.helpStr i = 0)
    (beyond : List (BitVec 8)) (kstrtou32 : String → Option (BitVec 32))
    (regs : BitVec 32 → BitVec 8) :
    regbitConfigCheck config i2cRegmapCfg = 0 ∧ fbcpldI2cRegmapCfg = i2cRegmapCfg ∧
    (fbcpldDynShow cfg beyond).result dynBus ⟨regs, []⟩ =
      (regbitSysfsShow config).result regmapBus ⟨regs, []⟩ ∧
    ∀ (entry : Entry) (buf : String) (count : Nat),
      (fbcpldDynStore cfg kstrtou32 buf count).result dynBus ⟨regs, []⟩ =
        (regbitSysfsStore config.toRegbitSysfsConfig entry count kstrtou32 buf).result regmapBus
          ⟨regs, []⟩ ∧
      ((fbcpldDynStore cfg kstrtou32 buf count).final dynBus ⟨regs, []⟩).regs =
        ((regbitSysfsStore config.toRegbitSysfsConfig entry count kstrtou32 buf).final regmapBus
          ⟨regs, []⟩).regs := by
  have checked := validate_attr_zero valid
  refine ⟨config_check_accepts same checked, rfl, ?_, fun entry buf count => ?_⟩
  · have shown := same.shown_val ((regs cfg.regAddr).setWidth 32)
    have text := same.show_text beyond terminated (cfg.shownVal ((regs cfg.regAddr).setWidth 32))
    change Except.ok _ = Except.ok (config.showText (config.shownVal ((regs config.regAddr).setWidth 32)))
    rw [same.regAddr, shown, text]
  · unfold fbcpldDynStore regbitSysfsStore
    cases kstrtou32 buf with
    | none => exact ⟨rfl, rfl⟩
    | some input =>
      simp only [readable, if_false]
      have stored := same.stored_val checked input ((regs cfg.regAddr).setWidth 32)
      refine ⟨rfl, ?_⟩
      change Function.update regs cfg.regAddr _ = Function.update regs config.regAddr
        ((config.storedVal input ((regs config.regAddr).setWidth 32)).setWidth 8)
      rw [same.regAddr, stored]

/-! ## An attribute with notes -/

/-- The high nibble of register 3, shown negated and in decimal with notes. -/
def nibbleAttr : FbcpldSysfsAttr :=
  ⟨fun _ => 0x61, 0, 0o644, 3, 4, 4, fbcpldFlagShowNotes ||| fbcpldFlagShowDec |||
    fbcpldFlagValNegate, fun i => if i.val < 2 then 0x62 else 0⟩

/-- The same attribute in a table of `regbit`. -/
def nibbleConfig : RegbitFileConfig Unit :=
  ⟨⟨3, 4, 4, 0xE⟩, ascii "nibble", 0o644, none, none, some (ascii "bb")⟩

/-- Registers that read 0x5A. -/
def nibbleBus : RegmapBus 8 := ⟨fun _ => 0x5A, []⟩

/-- The two configurations of the nibble are served alike. -/
theorem nibble_agrees :
    regbitConfigCheck nibbleConfig i2cRegmapCfg = 0 ∧ fbcpldI2cRegmapCfg = i2cRegmapCfg ∧
    (fbcpldDynShow nibbleAttr []).result dynBus nibbleBus =
      (regbitSysfsShow nibbleConfig).result regmapBus nibbleBus ∧
    ∀ (entry : Unit) (buf : String) (count : Nat),
      (fbcpldDynStore nibbleAttr (fun _ => some 0x1F) buf count).result dynBus nibbleBus =
        (regbitSysfsStore nibbleConfig.toRegbitSysfsConfig entry count (fun _ => some 0x1F)
          buf).result regmapBus nibbleBus ∧
      ((fbcpldDynStore nibbleAttr (fun _ => some 0x1F) buf count).final dynBus nibbleBus).regs =
        ((regbitSysfsStore nibbleConfig.toRegbitSysfsConfig entry count (fun _ => some 0x1F)
          buf).final regmapBus nibbleBus).regs :=
  engines_agree nibbleAttr nibbleConfig ⟨rfl, rfl, rfl, rfl, by decide, by decide +kernel⟩
    (by decide +kernel) (by decide) ⟨⟨2, by decide⟩, rfl⟩ [] (fun _ => some 0x1F)
    (fun _ => 0x5A)

end FbossBsp.Fbcpld
