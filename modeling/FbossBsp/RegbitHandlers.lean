import FbossBsp.RegbitSysfs
import FbossBsp.Interaction.Calls

/-!
# The files of register bits

The rest of `regbit-sysfs`: what a file shows, the check of a configuration, and
the attributes that are set up from a list of configurations. A handler is a
function pointer in the source and a function here. The text of a file is a
list of bytes; its length is what the C handler returns.
-/

namespace FbossBsp.Regbit

open Interaction

/-! ## Text -/

abbrev Text := List (BitVec 8)

/-- The bytes of an ASCII string. -/
def ascii (text : String) : Text := text.toList.map fun char => BitVec.ofNat 8 char.toNat

/-- The conversion `%u`. -/
def formatDec (val : BitVec 32) : Text := ascii (toString val.toNat)

/-- The conversion `%x`. -/
def formatHex (val : BitVec 32) : Text := ascii (String.ofList (Nat.toDigits 16 val.toNat))

/-! ## Configurations -/

def sIrusr : BitVec 32 := 0o400
def sIwusr : BitVec 32 := 0o200

def rbsFlagShowNotes : BitVec 32 := bit 1
def rbsFlagShowDec : BitVec 32 := bit 2

/-- A show handler: the text, or a negative error. -/
abbrev ShowFunc (Entry : Type) := Regmap Entry (Except Int Text)

/-- A store handler, from the buffer and its length. -/
abbrev StoreFunc (Entry : Type) := String → Nat → Regmap Entry Int

/-- `struct regbit_sysfs_config`; a pointer is `none` when it is null. -/
structure RegbitFileConfig (Entry : Type) extends RegbitSysfsConfig where
  name : Text
  mode : BitVec 32
  showFunc : Option (ShowFunc Entry)
  storeFunc : Option (StoreFunc Entry)
  helpStr : Option Text

section Show

variable {Entry : Type} (config : RegbitFileConfig Entry)

/-- What `regbit_sysfs_show` prints for a value: the number, and on request the
place of the bits and the help string. -/
def RegbitFileConfig.showText (val : BitVec 32) : Text :=
  let data := if config.flags &&& rbsFlagShowDec ≠ 0 then formatDec val
    else ascii "0x" ++ formatHex val
  if config.flags &&& rbsFlagShowNotes ≠ 0 then
    data ++ ascii "\n\nNote:\nRegister 0x" ++ formatHex config.regAddr ++ ascii ", bit[" ++
      formatDec (config.bitOffset + config.numBits - 1) ++ ascii ":" ++
      formatDec config.bitOffset ++ ascii "]\n" ++ config.helpStr.getD [] ++ ascii "\n"
  else data ++ ascii "\n"

/-- `regbit_sysfs_show`. -/
def regbitSysfsShow : Regmap Entry (Except Int Text) :=
  .perform (.regmapRead config.regAddr) fun
    | .error errno => pure (.error (-errno.code))
    | .ok regVal => pure (.ok (config.showText (config.shownVal regVal)))

end Show

/-! ## Attributes -/

/-- The fields of `struct regmap_config` that the check reads. -/
structure RegmapConfig where
  valBits : BitVec 32
  maxRegister : BitVec 32

def mmioRegmapCfg : RegmapConfig := ⟨32, 0x7FFFF⟩
def i2cRegmapCfg : RegmapConfig := ⟨8, 0xFF⟩

/-- `struct device_attribute`; a handler is `none` when it is null. -/
structure DeviceAttribute (Entry : Type) where
  name : Text
  mode : BitVec 16
  showFunc : Option (ShowFunc Entry)
  storeFunc : Option (StoreFunc Entry)

section Attributes

variable {Entry : Type}

/-- `regbit_config_check`. -/
def regbitConfigCheck (config : RegbitFileConfig Entry) (regmapCfg : RegmapConfig) : Int :=
  let modeMask := sIrusr ||| sIwusr
  if config.mode &&& modeMask = 0 then -einval
  else if config.regAddr > regmapCfg.maxRegister then -einval
  else if config.bitOffset ≥ regmapCfg.valBits ∨
    config.bitOffset + config.numBits > regmapCfg.valBits then -einval
  else 0

variable (kstrtou32 : String → Option (BitVec 32))

/-- What one pass of `regbit_attr_init` sets up for an entry. -/
def regbitAttr (entry : Entry) (config : RegbitFileConfig Entry) : DeviceAttribute Entry where
  name := config.name
  mode := config.mode.setWidth 16
  showFunc := if config.mode &&& sIrusr ≠ 0 then some (config.showFunc.getD (regbitSysfsShow config))
    else none
  storeFunc := if config.mode &&& sIwusr ≠ 0 then
      some (config.storeFunc.getD fun buf count =>
        regbitSysfsStore config.toRegbitSysfsConfig entry count kstrtou32 buf)
    else none

/-- The loop of `regbit_attr_init` over the entries and their configurations. -/
def regbitAttrInit (regmapCfg : RegmapConfig) :
    List (Entry × RegbitFileConfig Entry) → Int × List (DeviceAttribute Entry)
  | [] => (0, [])
  | (entry, config) :: rest =>
    let ret := regbitConfigCheck config regmapCfg
    if ret ≠ 0 then (ret, [])
    else
      let (ret, attrs) := regbitAttrInit regmapCfg rest
      (ret, regbitAttr kstrtou32 entry config :: attrs)

end Attributes

/-! ## Calls through a file -/

/-- What user space gets from a call. -/
inductive FileReply where
  | text (outcome : Except Int Text)
  | status (ret : Int)

/-- Reading or writing the file of an entry. -/
inductive FileCall (Entry : Type) where
  | read (entry : Entry)
  | write (entry : Entry) (buf : String) (count : Nat)

/-- The driver core's `dev_attr_show` calls the handler if there is one. -/
def devAttrShow {Entry : Type} (attr : DeviceAttribute Entry) :
    Regmap Entry (Except Int Text) :=
  attr.showFunc.getD (Program.done (.error (-eio)))

/-- The driver core's `dev_attr_store` calls the handler if there is one. -/
def devAttrStore {Entry : Type} (attr : DeviceAttribute Entry) : StoreFunc Entry :=
  attr.storeFunc.getD fun _ _ => Program.done (-eio)

/-- The driver core serves a call through the attribute of the file. -/
def FileCall.routine {Entry : Type} (attr : Entry → DeviceAttribute Entry) :
    FileCall Entry → Regmap Entry FileReply
  | .read entry => do return .text (← devAttrShow (attr entry))
  | .write entry buf count => do return .status (← devAttrStore (attr entry) buf count)

end FbossBsp.Regbit
