import FbossBsp.AuxBus
import FbossBsp.RegbitHandlers
import FbossBsp.SpiJournal
import Mathlib.Data.List.Flatten

/-!
# Probing the controllers of an FPGA

The driver core binds an auxiliary device to the driver that its name selects.
Each probe checks the settings of the device, reserves the register block of the
controller and maps it; a SPI controller has a data buffer in a block of its own.
The kernel grants or refuses a block, and a failed probe gives back what it has
reserved.

If the kernel grants no block that overlaps a reserved one, then after any history
of probes and removals the blocks of the bound devices are apart.
-/

namespace FbossBsp.Auxdev

open Interaction
open Regbit (ascii)

/-! ## Controllers -/

/-- The controllers that drivers of this repository serve. -/
inductive Controller where
  | i2c
  | gpio
  | spi
  | portLed
  | xcvr
  | rtm
  | info
  | mdio
  deriving DecidableEq

/-- A mapped block: the registers, or the data buffer. -/
inductive Window where
  | csr
  | iobuf
  deriving DecidableEq

/-- The id tables of the drivers, without the prefix `FBOSS_IOB_PCI_DRIVER`. -/
def idTable : List (List (BitVec 8) × Controller) :=
  [(ascii "i2c_master", .i2c), (ascii "iob_i2c_master", .i2c), (ascii "dom1_i2c_master", .i2c),
    (ascii "dom2_i2c_master", .i2c), (ascii "gpiochip", .gpio), (ascii "spi_master", .spi),
    (ascii "port_led", .portLed), (ascii "xcvr_ctrl", .xcvr), (ascii "rtm_ctrl", .rtm),
    (ascii "fpga_info_iob", .info), (ascii "fpga_info_dom", .info),
    (ascii "mdio_controller", .mdio)]

def fbiobI2cBlkSize : Nat := 0x100
def fbiobGpioBlkSize : Nat := 0x400
def fbiobSpiCsrBlkSize : Nat := 0x80
def fbiobLedBlkSize : Nat := 0x4
def fbiobXcvrBlkSize : Nat := 0x4
def fbiobRtmBlkSize : Nat := 0x4
def fbiobMdioBlkSize : Nat := 0x20
def fpgaInfoMemSize : Nat := 4

/-- The size of a block; no other driver than that of SPI maps a data buffer. -/
def Controller.blkSize : Controller → Window → Nat
  | .i2c, .csr => fbiobI2cBlkSize
  | .gpio, .csr => fbiobGpioBlkSize
  | .spi, .csr => fbiobSpiCsrBlkSize
  | .spi, .iobuf => Spi.fbiobSpiIobufSize
  | .portLed, .csr => fbiobLedBlkSize
  | .xcvr, .csr => fbiobXcvrBlkSize
  | .rtm, .csr => fbiobRtmBlkSize
  | .info, .csr => fpgaInfoMemSize
  | .mdio, .csr => fbiobMdioBlkSize
  | _, .iobuf => 0

/-- The blocks that the probe reserves, in order. -/
def Controller.windows : Controller → List Window
  | .spi => [.csr, .iobuf]
  | _ => [.csr]

/-- A registered device, with the first word of its settings: the port number of
a LED, a transceiver or a retimer, or the number of SPI devices. -/
structure AuxDevice extends FbiobAuxAdapter where
  setting : BitVec 32
  deriving DecidableEq

namespace AuxDevice

variable (device : AuxDevice)

/-- The driver that the name of the device selects. -/
def controller? : Option Controller :=
  (idTable.find? fun entry => entry.1 = device.id.name).map (·.2)

/-- The bus address of a block. -/
def base : Window → Nat
  | .csr => device.data.csrOffset.toNat
  | .iobuf => device.data.iobufOffset.toNat

def windows : List Window := (device.controller?.map Controller.windows).getD []

def size (window : Window) : Nat := (device.controller?.map (·.blkSize window)).getD 0

end AuxDevice

/-! ## Regions -/

/-- Bus addresses in a row. -/
structure Region where
  start : Nat
  size : Nat
  deriving DecidableEq

/-- The address is in the region. -/
def Region.Holds (region : Region) (addr : Nat) : Prop :=
  region.start ≤ addr ∧ addr < region.start + region.size

instance (region : Region) (addr : Nat) : Decidable (region.Holds addr) :=
  inferInstanceAs (Decidable (_ ∧ _))

/-- The regions have an address in common. -/
def Region.Overlaps (first second : Region) : Prop :=
  first.start < second.start + second.size ∧ second.start < first.start + first.size

instance (first second : Region) : Decidable (first.Overlaps second) :=
  inferInstanceAs (Decidable (_ ∧ _))

/-- Two regions overlap in either order. -/
theorem Region.Overlaps.symm {first second : Region} (overlaps : first.Overlaps second) :
    second.Overlaps first := And.symm overlaps

/-- Two regions that hold one address overlap. -/
theorem overlaps_of_holds {first second : Region} {addr : Nat} (here : first.Holds addr)
    (there : second.Holds addr) : first.Overlaps second :=
  ⟨Nat.lt_of_le_of_lt here.1 there.2, Nat.lt_of_le_of_lt there.1 here.2⟩

/-- No two of the regions overlap. -/
def Apart (regions : List Region) : Prop :=
  regions.Pairwise fun first second => ¬first.Overlaps second

/-- The block of a device. -/
def AuxDevice.region (device : AuxDevice) (window : Window) : Region :=
  ⟨device.base window, device.size window⟩

/-- The regions that the bound devices have reserved. -/
def reserved (bound : List AuxDevice) : List Region :=
  bound.flatMap fun device => device.windows.map device.region

/-- Whether `devm_request_mem_region` grants a region, given the reserved ones. -/
abbrev RequestMemRegion := Region → List Region → Bool

/-- No region is granted that overlaps a reserved one. -/
def RequestMemRegion.Exclusive (request : RequestMemRegion) : Prop :=
  ∀ region busy, request region busy = true → ∀ other ∈ busy, ¬region.Overlaps other

/-! ## Probing -/

/-- What else the kernel answers a probe: whether memory is allocated and each
block is mapped, and what the calls after the mapping return. -/
structure ProbeEnv where
  allocated : Bool
  mapped : Window → Bool
  rest : Int

section Probe

variable (request : RequestMemRegion) (device : AuxDevice) (env : ProbeEnv)

/-- `devm_request_mem_region` and `devm_ioremap` for some blocks in turn. -/
def requestWindows : List Window → List Region → Int
  | [], _ => 0
  | window :: later, busy =>
    if request (device.region window) busy = false then -ebusy
    else if env.mapped window = false then -enomem
    else requestWindows later (device.region window :: busy)

/-- A probe, given its check of the settings and whether it allocates memory. -/
def probeWith (check : Int) (allocates : Bool) (windows : List Window) (busy : List Region) : Int :=
  if check ≠ 0 then check
  else if allocates ∧ env.allocated = false then -enomem
  else
    let ret := requestWindows request device env windows busy
    if ret ≠ 0 then ret else env.rest

/-- `fbiob_i2c_probe`. -/
def fbiobI2cProbe : List Region → Int := probeWith request device env 0 true [.csr]

/-- `fbiob_gpio_probe`. -/
def fbiobGpioProbe : List Region → Int := probeWith request device env 0 true [.csr]

/-- `fbiob_spi_probe`. -/
def fbiobSpiProbe : List Region → Int :=
  let check :=
    if device.data.csrOffset = fbiobInvalidOffset ∨
        device.data.iobufOffset = fbiobInvalidOffset then -einval
    else if device.setting = 0 then -einval
    else 0
  probeWith request device env check true [.csr, .iobuf]

/-- `port_led_probe`; the port number is an `int`. -/
def portLedProbe : List Region → Int :=
  probeWith request device env (if device.setting.toInt ≤ 0 then -einval else 0) true [.csr]

/-- `fbiob_xcvr_probe`. -/
def fbiobXcvrProbe : List Region → Int :=
  probeWith request device env (if device.setting = 0 then -einval else 0) false [.csr]

/-- `fbiob_rtm_probe`. -/
def fbiobRtmProbe : List Region → Int :=
  probeWith request device env (if device.setting = 0 then -einval else 0) false [.csr]

/-- `fpga_info_probe`. -/
def fpgaInfoProbe : List Region → Int := probeWith request device env 0 false [.csr]

/-- `fbiob_mdio_probe`. -/
def fbiobMdioProbe : List Region → Int := probeWith request device env 0 true [.csr]

end Probe

def Controller.probe (request : RequestMemRegion) (device : AuxDevice) (env : ProbeEnv) :
    Controller → List Region → Int
  | .i2c => fbiobI2cProbe request device env
  | .gpio => fbiobGpioProbe request device env
  | .spi => fbiobSpiProbe request device env
  | .portLed => portLedProbe request device env
  | .xcvr => fbiobXcvrProbe request device env
  | .rtm => fbiobRtmProbe request device env
  | .info => fpgaInfoProbe request device env
  | .mdio => fbiobMdioProbe request device env

/-- What happens to the devices. -/
inductive BindEvent where
  | probe (device : AuxDevice) (env : ProbeEnv)
  | remove (device : AuxDevice)

/-- The driver core binds a device whose probe succeeds; the blocks of a device
are given back when its probe fails or when it is removed. -/
def bindStep (request : RequestMemRegion) (bound : List AuxDevice) : BindEvent → List AuxDevice
  | .probe device env =>
    match device.controller? with
    | none => bound
    | some controller =>
      if controller.probe request device env (reserved bound) = 0 then device :: bound else bound
  | .remove device => bound.erase device

/-- The devices that are bound after a history. -/
def boundAfter (request : RequestMemRegion) (events : List BindEvent) : List AuxDevice :=
  events.foldl (bindStep request) []

/-! ## The blocks stay apart -/

section Apart

variable {request : RequestMemRegion}

/-- A successful request adds regions that are apart from the others. -/
theorem request_windows_apart (exclusive : request.Exclusive) (device : AuxDevice) (env : ProbeEnv)
    {windows : List Window} {busy : List Region}
    (granted : requestWindows request device env windows busy = 0) (apart : Apart busy) :
    Apart (windows.map device.region ++ busy) := by
  induction windows generalizing busy with
  | nil => exact apart
  | cons window later inductionHypothesis =>
    unfold requestWindows at granted
    split at granted
    · exact absurd granted (by decide)
    · rename_i given
      have free := exclusive _ _ (Bool.eq_true_of_not_eq_false given)
      split at granted
      · exact absurd granted (by decide)
      · have separate : Apart (device.region window :: busy) := List.pairwise_cons.mpr ⟨free, apart⟩
        have all := inductionHypothesis granted separate
        have moved : (later.map device.region ++ device.region window :: busy).Perm
            ((window :: later).map device.region ++ busy) := List.perm_middle
        exact (moved.pairwise_iff fun differ overlaps => differ overlaps.symm).mp all

/-- A successful probe has been granted the blocks of its controller. -/
theorem probe_granted {device : AuxDevice} {env : ProbeEnv} {controller : Controller}
    {busy : List Region} (succeeded : controller.probe request device env busy = 0) :
    requestWindows request device env controller.windows busy = 0 := by
  have granted (check : Int) (allocates : Bool) (windows : List Window)
      (zero : probeWith request device env check allocates windows busy = 0) :
      requestWindows request device env windows busy = 0 := by
    unfold probeWith at zero
    split at zero
    · rename_i refused
      exact absurd zero refused
    · split at zero
      · exact absurd zero (by decide)
      · by_contra failed
        rw [if_pos failed] at zero
        exact failed zero
  cases controller with
  | i2c => exact granted 0 true _ succeeded
  | gpio => exact granted 0 true _ succeeded
  | spi => exact granted _ true _ succeeded
  | portLed => exact granted _ true _ succeeded
  | xcvr => exact granted _ false _ succeeded
  | rtm => exact granted _ false _ succeeded
  | info => exact granted 0 false _ succeeded
  | mdio => exact granted 0 true _ succeeded

/-- A bound device has a driver, and the blocks of all bound devices are apart. -/
structure BoundApart (bound : List AuxDevice) : Prop where
  served : ∀ device ∈ bound, ∃ controller, device.controller? = some controller
  apart : Apart (reserved bound)

/-- One event keeps the devices that are bound apart. -/
theorem bind_step_apart (exclusive : request.Exclusive) {bound : List AuxDevice}
    (before : BoundApart bound) (event : BindEvent) : BoundApart (bindStep request bound event) := by
  cases event with
  | remove device =>
    have fewer : (bound.erase device).Sublist bound := List.erase_sublist
    refine ⟨fun other member => before.served other (fewer.subset member), ?_⟩
    exact before.apart.sublist (fewer.flatMap _)
  | probe device env =>
    cases served : device.controller? with
    | none =>
      have unbound : bindStep request bound (.probe device env) = bound := by
        simp only [bindStep, served]
      rwa [unbound]
    | some controller =>
      have bind : bindStep request bound (.probe device env) =
          if controller.probe request device env (reserved bound) = 0 then device :: bound
          else bound := by
        simp only [bindStep, served]
      rw [bind]
      by_cases succeeded : controller.probe request device env (reserved bound) = 0
      · rw [if_pos succeeded]
        have windows : device.windows = controller.windows := by
          rw [AuxDevice.windows, served]
          rfl
        refine ⟨?_, ?_⟩
        · intro other member
          obtain rfl | earlier := List.mem_cons.mp member
          · exact ⟨controller, served⟩
          · exact before.served other earlier
        · have apart := request_windows_apart exclusive device env (probe_granted succeeded)
            before.apart
          rw [← windows] at apart
          exact apart
      · rw [if_neg succeeded]
        exact before

/-- After every history of probes and removals, if the kernel grants no block that
overlaps a reserved one.

Proof: a removal leaves fewer blocks, and a probe adds those that it was granted. -/
theorem bound_after_apart (exclusive : request.Exclusive) (events : List BindEvent) :
    BoundApart (boundAfter request events) := by
  have start : BoundApart [] := ⟨nofun, List.Pairwise.nil⟩
  have along (bound : List AuxDevice) (before : BoundApart bound) :
      BoundApart (events.foldl (bindStep request) bound) := by
    induction events generalizing bound with
    | nil => exact before
    | cons event rest inductionHypothesis =>
      exact inductionHypothesis _ (bind_step_apart exclusive before event)
  exact along [] start

end Apart

end FbossBsp.Auxdev
