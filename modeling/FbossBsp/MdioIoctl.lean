import FbossBsp.MdioReset

/-!
# MDIO transfers from user space

`fb_mdio_cdev_ioctl` takes a PHY, a device and a register address from user space
and masks them. The bus driver then packs them in the command register, over the
word it has read from there. A transfer is what the ioctl does to the command and
data registers; status polls and the lock are left out of it.
-/

namespace FbossBsp.Mdio

open Interaction

/-! ## The ioctl -/

/-- `struct fb_mdio_xfer`. -/
structure FbMdioXfer where
  phyAddr : BitVec 32
  devAddr : BitVec 32
  regAddr : BitVec 32
  regData : BitVec 32
  deriving DecidableEq

def mdioPhyAddrMask : BitVec 32 := 0x1F
def mdioDevAddrMask : BitVec 32 := 0x1F
def mdioC45RegMask : BitVec 32 := 0xFFFF

/-- `MDIO_PHY_ADDR`. -/
def mdioPhyAddr (a : BitVec 32) : BitVec 32 := a &&& mdioPhyAddrMask

/-- `MDIO_DEV_ADDR`. -/
def mdioDevAddr (a : BitVec 32) : BitVec 32 := a &&& mdioDevAddrMask

/-- `MDIO_C45_REG`. -/
def mdioC45Reg (r : BitVec 32) : BitVec 32 := r &&& mdioC45RegMask

/-- The commands of `fb_mdio_cdev_ioctl`. -/
inductive XferCmd where
  | c45Read
  | c45Write
  | other

/-- `mdiobus_c45_write` holds the lock of the bus. -/
def mdiobusC45Write (wrData addr devad regnum : BitVec 32) (val : BitVec 16) : MdioIo Int :=
  .perform .mutexLock fun _ => do
    let ret ← onBus (fbiobMdioWriteC45 wrData addr devad regnum val)
    .perform .mutexUnlock fun _ => pure ret

/-- `fb_mdio_cdev_ioctl`, given what `copy_from_user` copies, if it succeeds, and
whether `copy_to_user` does; with what it returns goes what is copied to user
space. -/
def fbMdioCdevIoctl (cmd : XferCmd) (user : Option FbMdioXfer) (copyToUser : Bool)
    (wrData : BitVec 32) : MdioIo (Int × Option FbMdioXfer) :=
  match user with
  | none => return (-efault, none)
  | some xfer =>
    match cmd with
    | .c45Read => do
      let val ← mdiobusC45Read (mdioPhyAddr xfer.phyAddr) (mdioDevAddr xfer.devAddr)
        (mdioC45Reg xfer.regAddr)
      if val < 0 then return (val, none)
      else
        let xfer := { xfer with regData := mdioC45Reg (BitVec.ofInt 32 val) }
        if copyToUser then return (0, some xfer) else return (-efault, none)
    | .c45Write => do
      let ret ← mdiobusC45Write wrData (mdioPhyAddr xfer.phyAddr) (mdioDevAddr xfer.devAddr)
        (mdioC45Reg xfer.regAddr) ((mdioC45Reg xfer.regData).setWidth 16)
      return (ret, none)
    | .other => return (-einval, none)

/-! ## Transfers -/

/-- The operation accesses the command register or one of the data registers. -/
def transfers : BusOp → Bool
  | .readl offset | .writel offset _ =>
      offset ∈ [fbiobMdioRegCmd, fbiobMdioRegWrDat, fbiobMdioRegRdDat]
  | _ => false

/-- CMD is read and written. -/
def command (prior word : BitVec 32) : List (Event BusOp BusOp.Reply) :=
  [⟨.readl fbiobMdioRegCmd, prior⟩, ⟨.writel fbiobMdioRegCmd word, ()⟩]

/-- The word encodes the addresses and the direction, and keeps the reserved bits
of the word that was read. -/
structure Encodes (xfer : FbMdioXfer) (read : Bool) (prior word : BitVec 32) : Prop where
  devad : (word.extractLsb' 0 5).toNat = xfer.devAddr.toNat % 32
  direction : word.getLsbD 7 = read
  phyad : (word.extractLsb' 8 5).toNat = xfer.phyAddr.toNat % 32
  reg : (word.extractLsb' 16 16).toNat = xfer.regAddr.toNat % 65536
  reservedLow : word.extractLsb' 5 2 = prior.extractLsb' 5 2
  reservedHigh : word.extractLsb' 13 3 = prior.extractLsb' 13 3

/-- A masked word keeps its low bits. -/
theorem masked_field (word : BitVec 32) (width : Nat) (narrow : width ≤ 32) :
    ((word &&& BitVec.ofNat 32 (2 ^ width - 1)).extractLsb' 0 width).toNat =
      word.toNat % 2 ^ width := by
  have small : 2 ^ width - 1 < 2 ^ 32 := by
    have bounded : 2 ^ width ≤ 2 ^ 32 := Nat.pow_le_pow_right (by decide) narrow
    have positive : 0 < 2 ^ width := Nat.two_pow_pos width
    omega
  rw [BitVec.extractLsb'_toNat, BitVec.toNat_and, BitVec.toNat_ofNat, Nat.mod_eq_of_lt small,
    Nat.and_two_pow_sub_one_eq_mod, Nat.shiftRight_zero, Nat.mod_mod]

/-- The reserved bits are those of the word that was read. -/
theorem command_word_reserved (prior addr devad regnum rw : BitVec 32) {start len : Nat}
    (afterDevad : 5 ≤ start) (aroundRw : start + len ≤ 7 ∨ 8 ≤ start)
    (aroundPhyad : start + len ≤ 8 ∨ 13 ≤ start) (beforeReg : start + len ≤ 16) :
    (commandWord prior addr devad regnum rw).extractLsb' start len =
      prior.extractLsb' start len := by
  rw [commandWord, set_field_outside _ _ (by decide) (by decide) (by omega) (by omega),
    set_field_outside _ _ (by decide) (by decide) (by omega) (by omega),
    set_field_outside _ _ (by decide) (by decide) (by omega) (by omega),
    set_field_outside _ _ (by decide) (by decide) (by omega) (by omega)]

/-- The command word encodes the masked addresses. -/
theorem command_word_encodes (xfer : FbMdioXfer) (prior rw : BitVec 32) :
    Encodes xfer (rw.getLsbD 0) prior (commandWord prior (mdioPhyAddr xfer.phyAddr)
      (mdioDevAddr xfer.devAddr) (mdioC45Reg xfer.regAddr) rw) := by
  constructor
  case devad =>
    rw [commandWord, set_field_outside _ _ (by decide) (by decide) (by decide) (by decide),
      set_field_outside _ _ (by decide) (by decide) (by decide) (by decide),
      set_field_inside _ _ (by decide) (by decide)]
    exact masked_field xfer.devAddr 5 (by decide)
  case direction => exact command_word_rw prior _ _ _ rw
  case phyad =>
    rw [commandWord, set_field_outside _ _ (by decide) (by decide) (by decide) (by decide),
      set_field_outside _ _ (by decide) (by decide) (by decide) (by decide),
      set_field_outside _ _ (by decide) (by decide) (by decide) (by decide),
      set_field_inside _ _ (by decide) (by decide)]
    exact masked_field xfer.phyAddr 5 (by decide)
  case reg =>
    rw [commandWord, set_field_outside _ _ (by decide) (by decide) (by decide) (by decide),
      set_field_inside _ _ (by decide) (by decide)]
    exact masked_field xfer.regAddr 16 (by decide)
  case reservedLow =>
    exact command_word_reserved prior _ _ _ rw (by decide) (by decide) (by decide) (by decide)
  case reservedHigh =>
    exact command_word_reserved prior _ _ _ rw (by decide) (by decide) (by decide) (by decide)

/-- The data word has the masked register value in its low half. -/
theorem data_word_low (wrData regData : BitVec 32) :
    ((setField wrData 0 16 (((mdioC45Reg regData).setWidth 16).setWidth 32)).extractLsb' 0
      16).toNat = regData.toNat % 65536 := by
  have field := masked_field regData 16 (by decide)
  have narrow : (((mdioC45Reg regData).setWidth 16).setWidth 32).extractLsb' 0 16 =
      (mdioC45Reg regData).extractLsb' 0 16 := by
    rw [← BitVec.setWidth_eq_extractLsb' (by decide), ← BitVec.setWidth_eq_extractLsb' (by decide),
      BitVec.setWidth_setWidth_of_le _ (by decide), BitVec.setWidth_eq]
  rw [set_field_inside _ _ (by decide) (by decide), narrow]
  exact field

/-- The `int` that holds what RD_DAT has in its low half, masked. -/
theorem read_value_masked (data : BitVec 32) :
    mdioC45Reg (BitVec.ofInt 32 ((data.setWidth 16).toNat : Int)) =
      (data.extractLsb' 0 16).setWidth 32 := by
  have mask : mdioC45RegMask = (BitVec.allOnes 16).setWidth 32 := by decide
  have low : data.setWidth 16 = data.extractLsb' 0 16 := BitVec.setWidth_eq_extractLsb' (by decide)
  rw [mdioC45Reg, BitVec.ofInt_natCast, BitVec.ofNat_toNat, mask, ← BitVec.setWidth_and,
    BitVec.and_allOnes, low]

/-! ## The accesses of a transfer -/

end FbossBsp.Mdio
