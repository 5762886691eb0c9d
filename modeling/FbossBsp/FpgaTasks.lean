import FbossBsp.AuxProbe
import FbossBsp.Gpio
import FbossBsp.I2cClock
import FbossBsp.MdioIoctl
import FbossBsp.PortLedSharing
import FbossBsp.SpiProtocol
import FbossBsp.SpiTiming

/-!
# What the drivers of an FPGA do to their devices

A driver reaches its device at offsets into the blocks that it has mapped. The
device also stands for what the driver keeps in memory, such as its locks. A
task is one call of a driver, by a kernel subsystem or through a file, or a
setup of registers by a probe: of the I2C, SPI and MDIO controllers and of each
LED of a port. The other probes access no register themselves.

No task leaves the blocks of its controller.
-/

namespace FbossBsp.Auxdev

open Interaction
open Gpio (Line GpioCall fbiobGpioGet fbiobGpioGetDirection)
open I2cMaster (I2cMsg Platform HostPhase hostProtocol fbiobI2cMasterXfer fbiobI2cProbeSetup)
open Mdio (BusOp BusIo MdioOp MdioIo FbiobMdioState FbMdioXfer XferCmd fbMdioCdevIoctl fbiobMdioReset
  resetBusStore)
open PortLeds (LedRequest PledColor PortLedDev brightnessGetLocked brightnessSetLocked portLedDev
  portLedMaskAll)
open Regbit (Text ascii RegmapOp Regmap RegbitFileConfig DeviceAttribute FileCall FileReply)
open Spi (SpiOp SpiIo SpiTransfer SpiCall fbiobSpiSetupXfer)

/-! ## Accesses to a device -/

/-- An access to what a driver keeps of its device. -/
inductive DriverOp where
  | mutexLock (lock : Nat)
  | mutexUnlock (lock : Nat)
  | loadState
  | storeState (state : FbiobMdioState)

/-- An access to a block of the device, at an offset, or to what its driver keeps. -/
inductive DeviceOp where
  | mmio (window : Window) (op : MmioOp)
  | driver (op : DriverOp)

@[reducible] def DriverOp.Reply : DriverOp → Type
  | .loadState => FbiobMdioState
  | _ => Unit

@[reducible] def DeviceOp.Reply : DeviceOp → Type
  | .mmio _ op => op.Reply
  | .driver op => op.Reply

abbrev DeviceIo := Program DeviceOp DeviceOp.Reply

/-- A register routine. -/
def onCsr {α : Type} (program : Mmio α) : DeviceIo α :=
  program.embed (.mmio .csr) fun _ reply => reply

/-- The place of an access of the SPI driver. -/
def spiOp : SpiOp → DeviceOp
  | .csr op => .mmio .csr op
  | .iobuf op => .mmio .iobuf op

def spiReply : (op : SpiOp) → (spiOp op).Reply → op.Reply
  | .csr _, reply => reply
  | .iobuf _, reply => reply

def onSpi {α : Type} (program : SpiIo α) : DeviceIo α := program.embed spiOp spiReply

/-- The place of an access of the MDIO driver. -/
def busOp : BusOp → DeviceOp
  | .readl offset => .mmio .csr (.readl offset)
  | .writel offset val => .mmio .csr (.writel offset val)
  | .loadState => .driver .loadState
  | .storeState state => .driver (.storeState state)

def busReply : (op : BusOp) → (busOp op).Reply → op.Reply
  | .readl _, reply => reply
  | .writel _ _, reply => reply
  | .loadState, reply => reply
  | .storeState _, reply => reply

def mdioOp : MdioOp → DeviceOp
  | .mutexLock => .driver (.mutexLock 0)
  | .mutexUnlock => .driver (.mutexUnlock 0)
  | .bus op => busOp op

def mdioReply : (op : MdioOp) → (mdioOp op).Reply → op.Reply
  | .mutexLock, reply => reply
  | .mutexUnlock, reply => reply
  | .bus op, reply => busReply op reply

def onMdio {α : Type} (program : MdioIo α) : DeviceIo α := program.embed mdioOp mdioReply

/-- The place of an access of the LED driver, whose port has one lock. -/
def ledOp : LockOp MmioOp → DeviceOp
  | .lock => .driver (.mutexLock 0)
  | .unlock => .driver (.mutexUnlock 0)
  | .access op => .mmio .csr op

def ledReply : (op : LockOp MmioOp) → (ledOp op).Reply → LockOp.Reply MmioOp.Reply op
  | .lock, _ => ⟨⟩
  | .unlock, _ => ⟨⟩
  | .access _, reply => reply

def onLed {α : Type} (program : LockProgram MmioOp MmioOp.Reply α) : DeviceIo α :=
  program.embed ledOp ledReply

/-- The place of an access of a file handler; each file has a lock, and a regmap
over registers never fails. -/
def regmapOp : RegmapOp Nat → DeviceOp
  | .mutexLock entry => .driver (.mutexLock entry)
  | .mutexUnlock entry => .driver (.mutexUnlock entry)
  | .regmapRead reg => .mmio .csr (.readl reg.toNat)
  | .regmapWrite reg val => .mmio .csr (.writel reg.toNat val)

def regmapReply : (op : RegmapOp Nat) → (regmapOp op).Reply → op.Reply
  | .mutexLock _, reply => reply
  | .mutexUnlock _, reply => reply
  | .regmapRead _, val => .ok val
  | .regmapWrite _ _, _ => .ok ()

def onRegmap {α : Type} (program : Regmap Nat α) : DeviceIo α := program.embed regmapOp regmapReply

/-! ## Files of one register -/

def regbitFmodeRo : BitVec 32 := 0o444
def regbitFmodeRw : BitVec 32 := 0o644

/-- A bit range of register 0 with the default handlers. -/
def rangeFile (name : Text) (mode bitOffset numBits : BitVec 32) : RegbitFileConfig Nat :=
  ⟨⟨0, bitOffset, numBits, 0⟩, name, mode, none, none, none⟩

/-- A file name with the suffix `"_%u"`. -/
def numbered (name : String) (portNum : BitVec 32) : Text :=
  ascii name ++ ascii "_" ++ Regbit.formatDec portNum

/-- The files of `fbiob_xcvr_sysfs_init`. -/
def fbiobXcvrSysfsFiles (portNum : BitVec 32) : List (RegbitFileConfig Nat) :=
  [rangeFile (numbered "xcvr_reset" portNum) regbitFmodeRw 0 1,
    rangeFile (numbered "xcvr_low_power" portNum) regbitFmodeRw 1 1,
    rangeFile (numbered "xcvr_present" portNum) regbitFmodeRo 4 1]

/-- The file of `fbiob_rtm_sysfs_init`. -/
def fbiobRtmSysfsFiles (portNum : BitVec 32) : List (RegbitFileConfig Nat) :=
  [rangeFile (numbered "rtm_reset" portNum) regbitFmodeRw 0 1]

/-- `fpga_fw_ver_show`. -/
def fpgaFwVerShow : Regmap Nat (Except Int Text) :=
  .perform (.regmapRead 0) fun
    | .error errno => pure (.error (-errno.code))
    | .ok val =>
      let fpgaVer := (val >>> 16) &&& 0xFF
      let fpgaSubVer := (val >>> 8) &&& 0xFF
      pure (.ok (Regbit.formatDec fpgaVer ++ ascii "." ++ Regbit.formatDec fpgaSubVer ++ ascii "\n"))

/-- `sysfs_files` of `fboss_iob_info_aux.c`. -/
def fpgaInfoSysfsFiles : List (RegbitFileConfig Nat) :=
  [rangeFile (ascii "board_rev") regbitFmodeRo 0 4,
    rangeFile (ascii "board_id") regbitFmodeRo 4 4,
    { rangeFile (ascii "fw_ver") regbitFmodeRo 0 0 with showFunc := some fpgaFwVerShow },
    rangeFile (ascii "fpga_sub_ver") regbitFmodeRo 8 8,
    rangeFile (ascii "fpga_ver") regbitFmodeRo 16 8,
    rangeFile (ascii "device_id") regbitFmodeRo 24 8]

/-- The files of a controller that is one register. -/
def Controller.files (portNum : BitVec 32) : Controller → List (RegbitFileConfig Nat)
  | .xcvr => fbiobXcvrSysfsFiles portNum
  | .rtm => fbiobRtmSysfsFiles portNum
  | .info => fpgaInfoSysfsFiles
  | _ => []

/-- The attribute of a file; without a file there is no handler. -/
def fileAttr (kstrtou32 : String → Option (BitVec 32)) (files : List (RegbitFileConfig Nat))
    (entry : Nat) : DeviceAttribute Nat :=
  (files[entry]?.map (Regbit.regbitAttr kstrtou32 entry)).getD ⟨[], 0, none, none⟩

/-! ## Setup of the SPI controller and of the LEDs -/

def fbiobSpiRegFuncCtl : Nat := 0x4
def fbiobSpiCtlRst : BitVec 32 := bit 0
def fbiobSpiManualCsEn : BitVec 32 := bit 1

/-- `fbiob_spi_init_hw`. -/
def fbiobSpiInitHw : SpiIo Int := do
  Spi.spiCsrWrite fbiobSpiRegFuncCtl fbiobSpiCtlRst
  let val ← Spi.spiCsrRead fbiobSpiRegFuncCtl
  Spi.spiCsrWrite fbiobSpiRegFuncCtl (val ||| fbiobSpiManualCsEn)
  return 0

/-- The register setup of `port_led_init`, with what `devm_led_classdev_register`
returns. The LED core asks a device that it registers for its brightness. -/
def portLedInit (ldev : PortLedDev) (ret : Int) : LockProgram MmioOp MmioOp.Reply Int := do
  let val ← (readl ldev.mmioCsr).unlocked
  (writel (val &&& ~~~portLedMaskAll ||| ldev.ledOnMask) ldev.mmioCsr).unlocked
  if ret ≠ 0 then return ret
  let _ ← brightnessGetLocked ldev
  return 0

/-! ## Tasks -/

/-- What a task returns. -/
inductive TaskReply where
  | status (ret : Int)
  | messages (ret : Int × List I2cMsg)
  | clock (ret : Int × BitVec 32)
  | transfer (ret : Option (Int × SpiTransfer))
  | ioctl (ret : Int × Option FbMdioXfer)
  | file (reply : FileReply)

/-- A call of a driver, or a setup by its probe. -/
inductive Task where
  | i2cSetup (busFreqHz : BitVec 32)
  | masterXfer (platform : Platform) (msgs : List I2cMsg)
  | gpioGet (line : Line)
  | gpioGetDirection (line : Line)
  | gpioSet (call : GpioCall)
  | spiInitHw
  | spiSetup (mode : BitVec 32)
  | spi (call : SpiCall)
  | ledInit (color : PledColor) (ret : Int)
  | led (request : LedRequest)
  | mdioReset
  | mdioIoctl (cmd : XferCmd) (user : Option FbMdioXfer) (copyToUser : Bool) (wrData : BitVec 32)
  | resetBus (count : Nat)
  | file (controller : Controller) (call : FileCall Nat)

namespace Task

/-- The controller whose driver a task calls. -/
def controller : Task → Controller
  | .i2cSetup _ | .masterXfer _ _ => .i2c
  | .gpioGet _ | .gpioGetDirection _ | .gpioSet _ => .gpio
  | .spiInitHw | .spiSetup _ | .spi _ => .spi
  | .ledInit _ _ | .led _ => .portLed
  | .mdioReset | .mdioIoctl _ _ _ _ | .resetBus _ => .mdio
  | .file controller _ => controller

/-- The routine of a LED request, at offset 0 of its block. -/
def ledRoutine : LedRequest → LockProgram MmioOp MmioOp.Reply Int
  | .get color => do
    let brightness ← brightnessGetLocked (portLedDev 0 color)
    return brightness
  | .set color value => brightnessSetLocked (portLedDev 0 color) value

section Program

variable (kstrtou32 : String → Option (BitVec 32)) (portNum : BitVec 32)

def program : Task → DeviceIo TaskReply
  | .i2cSetup busFreqHz => do return .clock (← onCsr (fbiobI2cProbeSetup busFreqHz))
  | .masterXfer platform msgs => do return .messages (← onCsr (fbiobI2cMasterXfer platform msgs))
  | .gpioGet line => do return .status (← onCsr (fbiobGpioGet line.offset))
  | .gpioGetDirection line => do return .status (← onCsr (fbiobGpioGetDirection line.offset))
  | .gpioSet call => do return .status (← onCsr call.perform)
  | .spiInitHw => do return .status (← onSpi fbiobSpiInitHw)
  | .spiSetup mode => do return .status (← onSpi (fbiobSpiSetupXfer mode))
  | .spi call => do return .transfer (← onSpi call.routine)
  | .ledInit color ret => do return .status (← onLed (portLedInit (portLedDev 0 color) ret))
  | .led request => do return .status (← onLed (ledRoutine request))
  | .mdioReset => do return .status (← onMdio (Mdio.onBus fbiobMdioReset))
  | .mdioIoctl cmd user copyToUser wrData => do
    return .ioctl (← onMdio (fbMdioCdevIoctl cmd user copyToUser wrData))
  | .resetBus count => do return .status (← onMdio (Mdio.onBus (resetBusStore count)))
  | .file controller call => do
    return .file (← onRegmap (call.routine (fileAttr kstrtou32 (controller.files portNum))))

end Program

end Task

/-! ## Inside the blocks -/

/-- The word at the offset is inside the block. -/
def Controller.Inside (controller : Controller) (window : Window) (offset : Nat) : Prop :=
  offset + 4 ≤ controller.blkSize window

instance (controller : Controller) (window : Window) (offset : Nat) :
    Decidable (controller.Inside window offset) :=
  inferInstanceAs (Decidable (_ ≤ _))

/-- The access is to a word of a block, or to what the driver keeps. -/
def Confined (controller : Controller) : DeviceOp → Prop
  | .mmio window op => controller.Inside window op.offset
  | .driver _ => True

section Confined

variable {α : Type} {R : α → Prop} {controller : Controller}

/-- A register routine inside the first block is confined. -/
theorem on_csr_confined {program : Mmio α}
    (inside : program.Conforms (fun op => controller.Inside .csr op.offset) R) :
    (onCsr program).Conforms (Confined controller) R :=
  inside.embed fun _ within => within

/-- A routine of the SPI driver is confined where its accesses are. -/
theorem on_spi_confined {program : SpiIo α}
    (inside : program.Conforms (fun op => Confined controller (spiOp op)) R) :
    (onSpi program).Conforms (Confined controller) R :=
  inside.embed fun _ within => within

/-- A routine of the MDIO driver is confined where its accesses are. -/
theorem on_mdio_confined {program : MdioIo α}
    (inside : program.Conforms (fun op => Confined controller (mdioOp op)) R) :
    (onMdio program).Conforms (Confined controller) R :=
  inside.embed fun _ within => within

/-- A routine of the LED driver is confined where its accesses are. -/
theorem on_led_confined {program : LockProgram MmioOp MmioOp.Reply α}
    (inside : program.Conforms (fun op => Confined controller (ledOp op)) R) :
    (onLed program).Conforms (Confined controller) R :=
  inside.embed fun _ within => within

/-- A file handler is confined where its accesses are. -/
theorem on_regmap_confined {program : Regmap Nat α}
    (inside : program.Conforms (fun op => Confined controller (regmapOp op)) R) :
    (onRegmap program).Conforms (Confined controller) R :=
  inside.embed fun _ within => within

end Confined

/-! ### I2C -/

/-- Staged words are inside the block. -/
theorem stages_inside {offset : Nat} (staged : I2cMaster.stages offset = true) :
    Controller.i2c.Inside .csr offset := by
  simp only [I2cMaster.stages, Bool.or_eq_true, decide_eq_true_eq, Bool.and_eq_true,
    I2cMaster.inIobuf] at staged
  obtain rfl | ⟨⟨_, upper⟩, aligned⟩ := staged
  · decide
  · have last : offset < 0x100 := upper
    have word : offset % 4 = 0 := aligned
    change offset + 4 ≤ 0x100
    omega

/-- CMD_STS is inside the block. -/
theorem cmd_sts_inside : Controller.i2c.Inside .csr I2cMaster.fbiobI2cRegCmdSts := by decide

/-- INTR_STS is inside the block. -/
theorem intr_sts_inside : Controller.i2c.Inside .csr I2cMaster.fbiobI2cRegIntrSts := by decide

/-- FUNC_CTRL is inside the block. -/
theorem func_ctrl_inside : Controller.i2c.Inside .csr I2cMaster.fbiobI2cRegFuncCtrl := by decide

/-- The protocol permits no access beside the block.

Proof: by the phase, which permits staging or an access to one register. -/
theorem host_protocol_inside : hostProtocol.Within (fun _ => True) fun op =>
    Controller.i2c.Inside .csr op.offset := by
  intro phase event later _ permitted
  refine ⟨?_, trivial⟩
  unfold hostProtocol at permitted
  split at permitted
  · obtain ⟨rfl, _⟩ := permitted_if permitted
    exact cmd_sts_inside
  · split at permitted
    · rename_i here
      subst here
      exact cmd_sts_inside
    · obtain ⟨rfl, _⟩ := permitted_if permitted
      exact func_ctrl_inside
  · obtain ⟨rfl, _⟩ := permitted_if permitted
    exact cmd_sts_inside
  · obtain ⟨rfl, _⟩ := permitted_if permitted
    exact func_ctrl_inside
  · obtain ⟨⟨rfl, _⟩, _⟩ := permitted_if permitted
    exact intr_sts_inside
  · obtain ⟨staged, _⟩ := permitted_if permitted
    exact stages_inside staged
  · split at permitted
    · rename_i access
      obtain staged | ⟨rfl, _⟩ := access
      · exact stages_inside staged
      · exact intr_sts_inside
    · obtain ⟨⟨rfl, _⟩, _⟩ := permitted_if permitted
      exact cmd_sts_inside
  · obtain ⟨rfl, _⟩ := permitted_if permitted
    exact intr_sts_inside
  · obtain ⟨rfl, _⟩ := permitted_if permitted
    exact cmd_sts_inside
  · obtain ⟨⟨rfl, _⟩, _⟩ := permitted_if permitted
    exact cmd_sts_inside
  · exact absurd permitted nofun

/-- A transfer stays inside the block on every platform, since the protocol it
follows does. -/
theorem master_xfer_inside (platform : Platform) (msgs : List I2cMsg) :
    (fbiobI2cMasterXfer platform msgs).Conforms
      (fun op => Controller.i2c.Inside .csr op.offset) fun _ => True :=
  (I2cMaster.master_xfer_follows platform msgs).conforms host_protocol_inside trivial
    fun _ _ _ => trivial

/-- The reset and the setup of the clock stay inside the block. -/
theorem probe_setup_inside (busFreqHz : BitVec 32) :
    (fbiobI2cProbeSetup busFreqHz).Conforms (fun op => Controller.i2c.Inside .csr op.offset)
      fun _ => True := by
  have timing : Controller.i2c.Inside .csr I2cMaster.fbiobI2cRegTimingCfg := by decide
  exact ⟨func_ctrl_inside, fun _ => ⟨func_ctrl_inside, fun _ => ⟨func_ctrl_inside, fun _ =>
    ⟨timing, fun _ => ⟨timing, fun _ => trivial⟩⟩⟩⟩⟩

/-! ### GPIO -/

/-- The register of every line is inside the block. -/
theorem line_inside (line : Line) : Controller.gpio.Inside .csr line.csr := by
  have bound : line.offset < 256 := line.inRange
  have csr : line.csr = 4 * line.offset.toNat := by
    simp only [Line.csr, Gpio.gpioLineCsr, Gpio.fbiobGpioUnitSize]
    bv_omega
  have last : line.offset.toNat < 256 := bound
  change line.csr + 4 ≤ 0x400
  omega

/-- A change of direction accesses the register of its line. -/
theorem gpio_set_inside (call : GpioCall) :
    call.perform.Conforms (fun op => Controller.gpio.Inside .csr op.offset) fun _ => True := by
  cases call with
  | directionInput line =>
    have inside := line_inside line
    exact ⟨inside, fun _ => ⟨inside, fun _ => trivial⟩⟩
  | directionOutput line value =>
    have inside := line_inside line
    exact ⟨inside, fun _ => ⟨inside, fun _ => ⟨inside, fun _ => trivial⟩⟩⟩

/-! ### SPI -/

instance (op : SpiOp) : Nonempty op.Reply := by
  cases op with
  | csr op => exact inferInstanceAs (Nonempty op.Reply)
  | iobuf op => exact inferInstanceAs (Nonempty op.Reply)

/-- A word in a half of the data buffer is inside its block. -/
theorem in_half_inside {half offset : Nat} (upper : half ≤ 0x200)
    (within : Spi.inHalf half offset = true) (aligned : half % 4 = 0) :
    Controller.spi.Inside .iobuf offset := by
  simp only [Spi.inHalf, Bool.and_eq_true, decide_eq_true_eq] at within
  obtain ⟨⟨_, last⟩, word⟩ := within
  have below : offset < half + 512 := last
  have multiple : offset % 4 = 0 := word
  change offset + 4 ≤ 0x400
  omega

/-- DESC_STS is inside the first block. -/
theorem desc_sts_inside : Controller.spi.Inside .csr Spi.fbiobSpiRegDescSts := by decide

/-- DESC_CMD is inside the first block. -/
theorem desc_cmd_inside : Controller.spi.Inside .csr Spi.fbiobSpiRegDescCmd := by decide

/-- The protocol permits no access beside the two blocks. -/
theorem desc_protocol_inside : Spi.descProtocol.Within (fun _ => True) fun op =>
    Confined .spi (spiOp op) := by
  have clears {offset : Nat} {val : BitVec 32} {later : Spi.DescPhase}
      (permitted : Spi.cleared offset val = some later) : Controller.spi.Inside .csr offset := by
    obtain ⟨⟨rfl, _⟩, _⟩ := permitted_if permitted
    exact desc_sts_inside
  intro phase event later _ permitted
  refine ⟨?_, trivial⟩
  unfold Spi.descProtocol at permitted
  split at permitted
  · exact clears permitted
  · exact clears permitted
  · exact clears permitted
  · exact clears permitted
  · obtain ⟨within, _⟩ := permitted_if permitted
    exact in_half_inside (by decide) within (by decide)
  · obtain ⟨rfl, _⟩ := permitted_if permitted
    exact desc_cmd_inside
  · obtain ⟨⟨rfl, _⟩, _⟩ := permitted_if permitted
    exact desc_cmd_inside
  · obtain ⟨rfl, _⟩ := permitted_if permitted
    exact desc_sts_inside
  · obtain ⟨within, _⟩ := permitted_if permitted
    exact in_half_inside (by decide) within (by decide)
  · exact absurd permitted nofun

/-- The chip select is a field of DESC_CMD, and a transfer follows the protocol. -/
theorem spi_call_inside (call : SpiCall) :
    call.routine.Conforms (fun op => Confined .spi (spiOp op)) fun _ => True := by
  cases call with
  | setCs level => exact ⟨desc_cmd_inside, fun _ => ⟨desc_cmd_inside, fun _ => trivial⟩⟩
  | xferOne ret xfer =>
    have transfer : (Spi.fbiobSpiXferOne ret xfer).Conforms
        (fun op => Confined .spi (spiOp op)) fun _ => True :=
      (Spi.xfer_one_follows ret xfer .idle).conforms desc_protocol_inside trivial
        fun _ _ _ => trivial
    exact transfer.bind fun _ _ => trivial

/-! ### MDIO -/

/-- The access is to a word of the block, or to what the driver keeps. -/
def OnBlock (op : BusOp) : Prop := Confined .mdio (busOp op)

/-- STS is inside the block. -/
theorem bus_sts_inside : Controller.mdio.Inside .csr Mdio.fbiobMdioRegSts := by decide

/-- A wait reads STS. -/
theorem wait_inside : Mdio.waitBusReady.Conforms OnBlock fun _ => True :=
  (Mdio.wait_conforms trivial bus_sts_inside _).mono (fun _ inside => inside) fun _ _ => trivial

/-- Clearing the status reads and writes STS. -/
theorem clean_inside : Mdio.fbiobMdioCleanStatus.Conforms OnBlock fun _ => True :=
  Mdio.clean_conforms bus_sts_inside fun _ => bus_sts_inside

/-- Issuing a command reads and writes CMD. -/
theorem issue_inside (addr devad regnum rw : BitVec 32) :
    (Mdio.issueCommand addr devad regnum rw).Conforms OnBlock fun _ => True := by
  have cmd : Controller.mdio.Inside .csr Mdio.fbiobMdioRegCmd := by decide
  exact ⟨cmd, fun _ => ⟨cmd, fun _ => trivial⟩⟩

/-- Collecting a read waits, clears the status and reads RD_DAT. -/
theorem collect_inside : Mdio.collectRead.Conforms OnBlock fun _ => True := by
  have data : Controller.mdio.Inside .csr Mdio.fbiobMdioRegRdDat := by decide
  apply wait_inside.bind
  intro ret _
  apply clean_inside.bind
  intro _ _
  refine ⟨trivial, fun _ => Program.Conforms.ite (fun _ => trivial) fun _ => ?_⟩
  exact ⟨data, fun _ => trivial⟩

/-- A clause 45 read stays inside the block. -/
theorem read_c45_inside (addr devad regnum : BitVec 32) :
    (Mdio.fbiobMdioReadC45 addr devad regnum).Conforms OnBlock fun _ => True := by
  apply wait_inside.bind
  intro ret _
  apply clean_inside.bind
  intro _ _
  apply Program.Conforms.ite
  · exact fun _ => ⟨trivial, fun _ => trivial⟩
  · exact fun _ => ⟨trivial, fun _ => (issue_inside _ _ _ _).bind fun _ _ => collect_inside⟩

/-- A clause 45 write stays inside the block. -/
theorem write_c45_inside (wrData addr devad regnum : BitVec 32) (val : BitVec 16) :
    (Mdio.fbiobMdioWriteC45 wrData addr devad regnum val).Conforms OnBlock fun _ => True := by
  have data : Controller.mdio.Inside .csr Mdio.fbiobMdioRegWrDat := by decide
  apply wait_inside.bind
  intro ret _
  apply clean_inside.bind
  intro _ _
  apply Program.Conforms.ite
  · exact fun _ => ⟨trivial, fun _ => trivial⟩
  · intro _
    exact ⟨trivial, fun _ => ⟨data, fun _ => (issue_inside _ _ _ _).bind fun _ _ => trivial⟩⟩

/-- A reset accesses the reset register and the interrupt mask. -/
theorem reset_inside : fbiobMdioReset.Conforms OnBlock fun _ => True := by
  have rst : Controller.mdio.Inside .csr Mdio.fbiobMdioRegRst := by decide
  have msk : Controller.mdio.Inside .csr Mdio.fbiobMdioRegIntrMsk := by decide
  refine ⟨rst, fun _ => ⟨rst, fun _ => ⟨rst, fun _ => ?_⟩⟩⟩
  apply Program.Conforms.ite
  · exact fun _ => trivial
  · exact fun _ => ⟨msk, fun _ => ⟨msk, fun _ => ⟨trivial, fun _ => trivial⟩⟩⟩

/-- A bus routine, also under the lock. -/
theorem on_bus_inside {α : Type} {program : BusIo α} (inside : program.Conforms OnBlock fun _ => True) :
    (Mdio.onBus program).Conforms (fun op => Confined .mdio (mdioOp op)) fun _ => True :=
  inside.embed fun _ within => within

/-- An ioctl does one transfer under the lock, or none. -/
theorem mdio_ioctl_inside (cmd : XferCmd) (user : Option FbMdioXfer) (copyToUser : Bool)
    (wrData : BitVec 32) : (fbMdioCdevIoctl cmd user copyToUser wrData).Conforms
      (fun op => Confined .mdio (mdioOp op)) fun _ => True := by
  have locked {program : BusIo Int} (inside : program.Conforms OnBlock fun _ => True) :
      (Program.perform .mutexLock fun _ => do
        let ret ← Mdio.onBus program
        .perform .mutexUnlock fun _ => pure ret : MdioIo Int).Conforms
        (fun op => Confined .mdio (mdioOp op)) fun _ => True :=
    ⟨trivial, fun _ => (on_bus_inside inside).bind fun _ _ => ⟨trivial, fun _ => trivial⟩⟩
  cases user with
  | none => trivial
  | some xfer =>
    cases cmd with
    | c45Read =>
      apply (locked (read_c45_inside _ _ _)).bind
      intro val _
      apply Program.Conforms.ite
      · exact fun _ => trivial
      · exact fun _ => Program.Conforms.ite (fun _ => trivial) fun _ => trivial
    | c45Write => exact (locked (write_c45_inside _ _ _ _ _)).bind fun _ _ => trivial
    | other => trivial

/-! ### Port LEDs -/

/-- A call on a LED accesses its one register. -/
theorem led_routine_inside (request : LedRequest) :
    (Task.ledRoutine request).Conforms (fun op => Confined .portLed (ledOp op)) fun _ => True := by
  have register : Controller.portLed.Inside .csr 0 := by decide
  cases request with
  | get color => exact ⟨trivial, fun _ => ⟨register, fun _ => ⟨trivial, fun _ => trivial⟩⟩⟩
  | set color value =>
    exact ⟨trivial, fun _ => ⟨register, fun _ => ⟨register, fun _ => ⟨trivial, fun _ => trivial⟩⟩⟩⟩

/-- The setup of a LED accesses its one register. -/
theorem led_init_inside (color : PledColor) (ret : Int) :
    (portLedInit (portLedDev 0 color) ret).Conforms (fun op => Confined .portLed (ledOp op))
      fun _ => True := by
  have register : Controller.portLed.Inside .csr 0 := by decide
  refine ⟨register, fun _ => ⟨register, fun _ => ?_⟩⟩
  apply Program.Conforms.ite
  · exact fun _ => trivial
  · exact fun _ => ⟨trivial, fun _ => ⟨register, fun _ => ⟨trivial, fun _ => trivial⟩⟩⟩

/-! ### Files -/

/-- A file of register 0, with a default store handler. -/
structure RegisterFile (config : RegbitFileConfig Nat) : Prop where
  regAddr : config.regAddr = 0
  showFunc : config.showFunc = none ∨ config.showFunc = some fpgaFwVerShow
  storeFunc : config.storeFunc = none

/-- The files of a transceiver, a retimer and the info block are about register 0. -/
theorem files_of_register (portNum : BitVec 32) (controller : Controller) :
    ∀ config ∈ controller.files portNum, RegisterFile config := by
  have range (name : Text) (mode bitOffset numBits : BitVec 32) :
      RegisterFile (rangeFile name mode bitOffset numBits) := ⟨rfl, Or.inl rfl, rfl⟩
  intro config member
  cases controller with
  | xcvr | rtm =>
    simp only [Controller.files, fbiobXcvrSysfsFiles, fbiobRtmSysfsFiles, List.mem_cons,
      List.not_mem_nil, or_false] at member
    rcases member with rfl | rfl | rfl <;> exact range _ _ _ _
  | info =>
    simp only [Controller.files, fpgaInfoSysfsFiles, List.mem_cons, List.not_mem_nil,
      or_false] at member
    rcases member with rfl | rfl | rfl | rfl | rfl | rfl
    · exact range _ _ _ _
    · exact range _ _ _ _
    · exact ⟨rfl, Or.inr rfl, rfl⟩
    · exact range _ _ _ _
    · exact range _ _ _ _
    · exact range _ _ _ _
  | i2c | gpio | spi | portLed | mdio => exact absurd member List.not_mem_nil

section Files

variable (controller : Controller) {config : RegbitFileConfig Nat} (file : RegisterFile config)

/-- Register 0 is inside the block of every controller. -/
theorem register_inside : controller.Inside .csr 0 := by
  cases controller <;> decide

include file

/-- A read of a file reads register 0. -/
theorem show_inside : (config.showFunc.getD (Regbit.regbitSysfsShow config)).Conforms
    (fun op => Confined controller (regmapOp op)) fun _ => True := by
  have inside := register_inside controller
  obtain default | version := file.showFunc
  · rw [default]
    have read : Confined controller (regmapOp (.regmapRead config.regAddr)) := by
      rw [file.regAddr]
      exact inside
    refine ⟨read, fun reply => ?_⟩
    cases reply <;> trivial
  · rw [version]
    refine ⟨inside, fun reply => ?_⟩
    cases reply <;> trivial

/-- A write to a file reads and writes register 0, under the lock of the file. -/
theorem store_inside (kstrtou32 : String → Option (BitVec 32)) (entry : Nat) (buf : String)
    (count : Nat) :
    (config.storeFunc.getD (fun buf count =>
      Regbit.regbitSysfsStore config.toRegbitSysfsConfig entry count kstrtou32 buf) buf
        count).Conforms (fun op => Confined controller (regmapOp op)) fun _ => True := by
  have inside := register_inside controller
  have read : Confined controller (regmapOp (.regmapRead config.regAddr)) := by
    rw [file.regAddr]
    exact inside
  have write (val : BitVec 32) :
      Confined controller (regmapOp (.regmapWrite config.regAddr val)) := by
    rw [file.regAddr]
    exact inside
  have leave (ret : Except Errno Unit) : (Regbit.regbitStoreExit entry count ret).Conforms
      (fun op => Confined controller (regmapOp op)) fun _ => True := by
    refine ⟨trivial, fun _ => ?_⟩
    cases ret <;> trivial
  rw [file.storeFunc, Option.getD_none, Regbit.regbitSysfsStore]
  cases kstrtou32 buf with
  | none => trivial
  | some input =>
    refine ⟨trivial, fun _ => ⟨read, fun reply => ?_⟩⟩
    cases reply with
    | error errno => exact leave _
    | ok val => exact ⟨write _, leave⟩

end Files

/-- A call on a file stays inside the block; without a file there is no access.

Proof: a handler of a file is a default one or shows the version, and each accesses
register 0 alone. -/
theorem file_call_inside (kstrtou32 : String → Option (BitVec 32)) (portNum : BitVec 32)
    (controller : Controller) (call : FileCall Nat) :
    (call.routine (fileAttr kstrtou32 (controller.files portNum))).Conforms
      (fun op => Confined controller (regmapOp op)) fun _ => True := by
  have each := files_of_register portNum controller
  have shown (entry : Nat) :
      (Regbit.devAttrShow (fileAttr kstrtou32 (controller.files portNum) entry)).Conforms
        (fun op => Confined controller (regmapOp op)) fun _ => True := by
    unfold fileAttr
    cases present : (controller.files portNum)[entry]? with
    | none => trivial
    | some config =>
      simp only [Option.map_some, Option.getD_some, Regbit.devAttrShow, Regbit.regbitAttr]
      split
      · exact show_inside controller (each config (List.mem_of_getElem? present))
      · trivial
  have stored (entry : Nat) (buf : String) (count : Nat) :
      (Regbit.devAttrStore (fileAttr kstrtou32 (controller.files portNum) entry) buf
        count).Conforms (fun op => Confined controller (regmapOp op)) fun _ => True := by
    unfold fileAttr
    cases present : (controller.files portNum)[entry]? with
    | none => trivial
    | some config =>
      simp only [Option.map_some, Option.getD_some, Regbit.devAttrStore, Regbit.regbitAttr]
      split
      · exact store_inside controller (each config (List.mem_of_getElem? present)) kstrtou32 entry
          buf count
      · trivial
  cases call with
  | read entry => exact (shown entry).bind fun _ _ => trivial
  | write entry buf count => exact (stored entry buf count).bind fun _ _ => trivial

/-! ### Every task -/

/-- No task leaves the blocks of its controller.

Proof: by the task, which is one routine of a driver. -/
theorem Task.confined (kstrtou32 : String → Option (BitVec 32)) (portNum : BitVec 32)
    (task : Task) :
    (task.program kstrtou32 portNum).Conforms (Confined task.controller) fun _ => True := by
  have timing : Controller.spi.Inside .csr Spi.fbiobSpiRegTiming := by decide
  have func : Controller.spi.Inside .csr fbiobSpiRegFuncCtl := by decide
  cases task with
  | i2cSetup busFreqHz => exact (on_csr_confined (probe_setup_inside _)).bind fun _ _ => trivial
  | masterXfer platform msgs =>
    exact (on_csr_confined (master_xfer_inside platform msgs)).bind fun _ _ => trivial
  | gpioGet line => exact ⟨line_inside line, fun _ => trivial⟩
  | gpioGetDirection line => exact ⟨line_inside line, fun _ => trivial⟩
  | gpioSet call => exact (on_csr_confined (gpio_set_inside call)).bind fun _ _ => trivial
  | spiInitHw => exact ⟨func, fun _ => ⟨func, fun _ => ⟨func, fun _ => trivial⟩⟩⟩
  | spiSetup mode => exact ⟨timing, fun _ => ⟨timing, fun _ => trivial⟩⟩
  | spi call => exact (on_spi_confined (spi_call_inside call)).bind fun _ _ => trivial
  | ledInit color ret => exact (on_led_confined (led_init_inside color ret)).bind fun _ _ => trivial
  | led request => exact (on_led_confined (led_routine_inside request)).bind fun _ _ => trivial
  | mdioReset =>
    exact (on_mdio_confined (on_bus_inside reset_inside)).bind fun _ _ => trivial
  | mdioIoctl cmd user copyToUser wrData =>
    exact (on_mdio_confined (mdio_ioctl_inside cmd user copyToUser wrData)).bind fun _ _ => trivial
  | resetBus count =>
    have store : (resetBusStore count).Conforms OnBlock fun _ => True :=
      reset_inside.bind fun _ _ => Program.Conforms.ite (fun _ => trivial) fun _ => trivial
    exact (on_mdio_confined (on_bus_inside store)).bind fun _ _ => trivial
  | file controller call =>
    exact (on_regmap_confined (file_call_inside kstrtou32 portNum controller call)).bind
      fun _ _ => trivial

end FbossBsp.Auxdev
