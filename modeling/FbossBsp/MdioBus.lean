import FbossBsp.Interaction.Calls
import FbossBsp.Kernel

/-!
# The FPGA MDIO bus driver

Reads and writes of MDIO registers through one command register. A read waits
for its own command; a write returns as soon as its command is issued and leaves
the bus in the state BUSY, so that the next call waits for it.

The operations are the register accesses and the accesses to `bus->state`, which
every call tests and assigns. Delays are not modeled. The unions with bit-fields
are words whose fields are allocated from the least significant bit, and the
write data word on the stack is uninitialized, so its contents are a parameter.
-/

namespace FbossBsp.Mdio

open Interaction

/-! ## Registers and operations -/

def fbiobMdioRegCmd : Nat := 0x4
def fbiobMdioRegWrDat : Nat := 0x8
def fbiobMdioRegRdDat : Nat := 0xC
def fbiobMdioRegSts : Nat := 0x10
def fbiobMdioRegIntrMsk : Nat := 0x14
def fbiobMdioRegRst : Nat := 0x1C

def fbiobMdioPollTimeUs : Nat := 20
def fbossMdioMaxTimeoutUs : Nat := 1000

inductive FbiobMdioState where
  | init
  | ready
  | busy
  deriving DecidableEq

/-- One register access, or one access to `bus->state`. -/
inductive BusOp where
  | readl (offset : Nat)
  | writel (offset : Nat) (val : BitVec 32)
  | loadState
  | storeState (state : FbiobMdioState)
  deriving DecidableEq

@[reducible] def BusOp.Reply : BusOp → Type
  | .readl _ => BitVec 32
  | .writel _ _ => Unit
  | .loadState => FbiobMdioState
  | .storeState _ => Unit

/-- A routine of the bus driver. -/
abbrev BusIo := Program BusOp BusOp.Reply

def readl (offset : Nat) : BusIo (BitVec 32) := .perform (.readl offset) .done

def writel (val : BitVec 32) (offset : Nat) : BusIo Unit := .perform (.writel offset val) .done

def loadState : BusIo FbiobMdioState := .perform .loadState .done

def storeState (state : FbiobMdioState) : BusIo Unit := .perform (.storeState state) .done

/-- The precondition of a register write. -/
theorem wp_bus_writel {α S : Type} (device : Device BusOp BusOp.Reply S)
    (allowed : BusOp → S → Prop) (val : BitVec 32) (offset : Nat) (continuation : Unit → BusIo α)
    (post : α → S → Prop) (state : S) :
    (writel val offset >>= continuation).Wp device allowed post state ↔
      allowed (.writel offset val) state ∧
        (continuation ()).Wp device allowed post (device (.writel offset val) state).2 :=
  Iff.rfl

/-! ## Bit-fields -/

/-- `sts.s.done_0`. -/
def stsDone (sts : BitVec 32) : Bool := sts.getLsbD 0

/-- `sts.s.err_1`. -/
def stsErr (sts : BitVec 32) : Bool := sts.getLsbD 1

def busWrite : BitVec 32 := 0
def busRead : BitVec 32 := 1

/-- The command word: the fields of `union fbiob_mdio_cmd` over the word read. -/
def commandWord (cmd addr devad regnum rw : BitVec 32) : BitVec 32 :=
  let cmd := setField cmd 8 5 addr
  let cmd := setField cmd 0 5 devad
  let cmd := setField cmd 16 16 regnum
  setField cmd 7 1 rw

/-! ## The driver -/

/-- `fbiob_mdio_clean_status`. -/
def fbiobMdioCleanStatus : BusIo Unit := do
  let sts ← readl fbiobMdioRegSts
  let sts := setField sts 0 1 1
  let sts := setField sts 1 1 1
  writel sts fbiobMdioRegSts

/-- One poll of `wait_bus_ready`, before `later`. -/
def pollBusReady (later : BusIo Int) : BusIo Int := do
  let state ← loadState
  if state = .ready then pure 0
  else do
    let sts ← readl fbiobMdioRegSts
    if stsErr sts then pure (-eio)
    else if stsDone sts then pure 0
    else later

/-- The poll loop of `wait_bus_ready`, with `retry` left. -/
def waitBusReadyLoop : (retry : Nat) → BusIo Int
  | 0 => pollBusReady (pure (-ebusy))
  | retry + 1 => pollBusReady (waitBusReadyLoop retry)

/-- What holds of a time-out, and of one more poll before what it holds of,
holds of the poll loop. -/
theorem wait_loop_rule {P : BusIo Int → Prop} (timedOut : P (pure (-ebusy)))
    (poll : ∀ later, P later → P (pollBusReady later)) (retry : Nat) :
    P (waitBusReadyLoop retry) := by
  induction retry with
  | zero => exact poll _ timedOut
  | succ retry inductionHypothesis => exact poll _ inductionHypothesis

/-- `wait_bus_ready`. -/
def waitBusReady : BusIo Int := waitBusReadyLoop (fbossMdioMaxTimeoutUs / fbiobMdioPollTimeUs)

/-- `fbiob_mdio_reset`. -/
def fbiobMdioReset : BusIo Int := do
  let rst ← readl fbiobMdioRegRst
  writel (setField rst 0 1 1) fbiobMdioRegRst
  let rst ← readl fbiobMdioRegRst
  if rst.getLsbD 0 then pure (-etimedout)
  else do
    let msk ← readl fbiobMdioRegIntrMsk
    writel (setField (setField msk 0 1 0) 1 1 0) fbiobMdioRegIntrMsk
    storeState .ready
    pure 0

/-- Issue a command, over the word that CMD holds. -/
def issueCommand (addr devad regnum rw : BitVec 32) : BusIo Unit := do
  let cmd ← readl fbiobMdioRegCmd
  writel (commandWord cmd addr devad regnum rw) fbiobMdioRegCmd

/-- The end of `fbiob_mdio_read_c45`, once its command is issued. -/
def collectRead : BusIo Int := do
  let ret ← waitBusReady
  fbiobMdioCleanStatus
  storeState .ready
  if ret ≠ 0 then pure ret
  else do
    let rdData ← readl fbiobMdioRegRdDat
    pure (rdData.setWidth 16).toNat

/-- `fbiob_mdio_read_c45`. -/
def fbiobMdioReadC45 (addr devad regnum : BitVec 32) : BusIo Int := do
  let ret ← waitBusReady
  fbiobMdioCleanStatus
  if ret ≠ 0 then do
    storeState .ready
    pure ret
  else do
    storeState .busy
    issueCommand addr devad regnum busRead
    collectRead

/-- `fbiob_mdio_write_c45`; `wrData` is the word on the stack. -/
def fbiobMdioWriteC45 (wrData addr devad regnum : BitVec 32) (val : BitVec 16) : BusIo Int := do
  let ret ← waitBusReady
  fbiobMdioCleanStatus
  if ret ≠ 0 then do
    storeState .ready
    pure ret
  else do
    storeState .busy
    writel (setField wrData 0 16 (val.setWidth 32)) fbiobMdioRegWrDat
    issueCommand addr devad regnum busWrite
    pure 0

/-- One call of the bus operations. -/
inductive BusCall where
  | readC45 (addr devad regnum : BitVec 32)
  | writeC45 (wrData addr devad regnum : BitVec 32) (val : BitVec 16)

/-- The routine that a call runs. -/
def BusCall.perform : BusCall → BusIo Int
  | .readC45 addr devad regnum => fbiobMdioReadC45 addr devad regnum
  | .writeC45 wrData addr devad regnum val => fbiobMdioWriteC45 wrData addr devad regnum val

end FbossBsp.Mdio
