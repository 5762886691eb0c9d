import FbossBsp.BulkMmio

/-!
# The FPGA SPI controller driver

A transfer is sent or received in chunks of at most 512 bytes. Each chunk is one
command: the driver clears the status, fills the MOSI buffer or later empties
the MISO buffer, and triggers the controller through DESC_CMD. The same register
selects the chip by hand, so each of its writers reads the register first and
changes its own bits.

The registers and the data buffers are separate regions of the FPGA. Delays are
not modeled.
-/

namespace FbossBsp.Spi

open Interaction

/-! ## Registers -/

def fbiobSpiRegDescCmd : Nat := 0x8
def fbiobSpiRegDescSts : Nat := 0xC

def fbiobSpiDescBitValid : BitVec 32 := bit 31
def fbiobSpiDescBitCsManAct : BitVec 32 := bit 30
def fbiobSpiDescDataLenMask : BitVec 32 := genmask32 16 8
def fbiobSpiDescBitErrInt : BitVec 32 := bit 1
def fbiobSpiDescBitDoneInt : BitVec 32 := bit 0

def fbiobSpiDescErrIntSts : BitVec 32 := bit 1
def fbiobSpiDescDoneIntSts : BitVec 32 := bit 0

def fbiobSpiMaxXferLen : Nat := 512
def fbiobSpiMosiBufOffset : Nat := 0
def fbiobSpiMisoBufOffset : Nat := 0x200

/-- An access to the control registers or to the data buffers. -/
inductive SpiOp where
  | csr (op : MmioOp)
  | iobuf (op : MmioOp)
  deriving DecidableEq

@[reducible] def SpiOp.Reply : SpiOp → Type
  | .csr op => op.Reply
  | .iobuf op => op.Reply

/-- A routine of the SPI driver. -/
abbrev SpiIo := Program SpiOp SpiOp.Reply

def spiCsrRead (offset : Nat) : SpiIo (BitVec 32) := .perform (.csr (.readl offset)) .done

def spiCsrWrite (offset : Nat) (val : BitVec 32) : SpiIo Unit :=
  .perform (.csr (.writel offset val)) .done

/-- Read the MISO buffer into `data`. -/
def spiIobufRead (data : Memory) (size : Nat) : SpiIo Memory :=
  (fbiobBulkRead fbiobSpiMisoBufOffset data size).embed SpiOp.iobuf fun _ reply => reply

/-- Write `data` to the MOSI buffer. -/
def spiIobufWrite (data : Memory) (size : Nat) : SpiIo Unit :=
  (fbiobBulkWrite fbiobSpiMosiBufOffset data size).embed SpiOp.iobuf fun _ reply => reply

/-! ## Commands -/

/-- `struct spi_transfer`; a buffer is `none` for a null pointer. -/
structure SpiTransfer where
  txBuf : Option Memory
  rxBuf : Option Memory
  len : BitVec 32

/-- The word `fbiob_spi_set_cs` writes back. -/
def setCsVal (val : BitVec 32) (level : Bool) : BitVec 32 :=
  if level then val &&& ~~~fbiobSpiDescBitCsManAct else val ||| fbiobSpiDescBitCsManAct

def fbiobSpiSetCs (level : Bool) : SpiIo Unit := do
  let val ← spiCsrRead fbiobSpiRegDescCmd
  spiCsrWrite fbiobSpiRegDescCmd (setCsVal val level)

/-- The poll loop of `wait_till_xfer_done`, with `retry` left. -/
def waitTillXferDoneLoop (retry : Nat) : SpiIo Int := do
  let val ← spiCsrRead fbiobSpiRegDescSts
  if val &&& fbiobSpiDescErrIntSts ≠ 0 then pure (-eio)
  else if val &&& fbiobSpiDescDoneIntSts ≠ 0 then pure 0
  else match retry with
    | 0 => pure (-etimedout)
    | retry + 1 => waitTillXferDoneLoop retry

def waitTillXferDone : SpiIo Int := waitTillXferDoneLoop 30

/-- The word `fbiob_spi_send_cmd` writes back: trigger, interrupts off, length. A
full chunk has the length code zero. -/
def sendCmdVal (val : BitVec 32) (xferLen : Nat) : BitVec 32 :=
  let val := val ||| fbiobSpiDescBitValid
  let val := val &&& ~~~(fbiobSpiDescBitErrInt ||| fbiobSpiDescBitDoneInt)
  let val := val &&& ~~~fbiobSpiDescDataLenMask
  if xferLen ≠ fbiobSpiMaxXferLen then
    val ||| ((BitVec.ofNat 32 xferLen <<< 8) &&& fbiobSpiDescDataLenMask)
  else val

def fbiobSpiSendCmd (xferLen : Nat) : SpiIo Int := do
  let val ← spiCsrRead fbiobSpiRegDescCmd
  spiCsrWrite fbiobSpiRegDescCmd (sendCmdVal val xferLen)
  pure 0

/-- The status bits cleared before each command. -/
def clearSts : BitVec 32 := fbiobSpiDescErrIntSts ||| fbiobSpiDescDoneIntSts

/-! ## Transfers -/

/-- The memory at a pointer advanced by `offset`. -/
def advance (memory : Memory) (offset : Nat) : Memory := fun i => memory (offset + i)

/-- The memory after the part from `offset` on was replaced. -/
def replaceFrom (memory : Memory) (offset : Nat) (tail : Memory) : Memory := fun i =>
  if i < offset then memory i else tail (i - offset)

/-- One pass of the transmit loop: `nbytes` bytes from `txbuf` on. -/
def fbiobSpiXferTxChunk (txbuf : Memory) (nbytes : Nat) : SpiIo Int := do
  spiCsrWrite fbiobSpiRegDescSts clearSts
  spiIobufWrite txbuf nbytes
  let ret ← fbiobSpiSendCmd nbytes
  if ret < 0 then pure ret else waitTillXferDone

/-- The transmit loop, with `xferLen` bytes left at `txbuf`. -/
def fbiobSpiXferTxLoop (txbuf : Memory) (xferLen : Nat) : SpiIo Int :=
  if xferLen = 0 then pure 0 else do
    let nbytes := min xferLen fbiobSpiMaxXferLen
    let ret ← fbiobSpiXferTxChunk txbuf nbytes
    if ret < 0 then pure ret
    else fbiobSpiXferTxLoop (advance txbuf nbytes) (xferLen - nbytes)
termination_by xferLen
decreasing_by simp only [fbiobSpiMaxXferLen]; omega

/-- `fbiob_spi_xfer_tx`: the length is kept in an `int`, and the loop is left at
once when that is negative. -/
def fbiobSpiXferTx (txbuf : Memory) (len : BitVec 32) : SpiIo Int :=
  fbiobSpiXferTxLoop txbuf len.toInt.toNat

/-- `fbiob_spi_xfer_single_rx`: the received number of bytes, and the buffer. -/
def fbiobSpiXferSingleRx (rxBuf : Memory) (len rxOffset : Nat) : SpiIo (Int × Memory) := do
  let nrequest := min (len - rxOffset) fbiobSpiMaxXferLen
  let ret ← fbiobSpiSendCmd nrequest
  if ret < 0 then pure (ret, rxBuf) else do
    let ret ← waitTillXferDone
    if ret < 0 then pure (ret, rxBuf) else do
      let tail ← spiIobufRead (advance rxBuf rxOffset) nrequest
      pure (nrequest, replaceFrom rxBuf rxOffset tail)

/-- A receive pass fails or returns the number of bytes it requested. -/
theorem xfer_single_rx_result (rxBuf : Memory) (len rxOffset : Nat) :
    (fbiobSpiXferSingleRx rxBuf len rxOffset).Conforms (fun _ => True) fun ret =>
      ret.1 < 0 ∨ ret.1 = ((min (len - rxOffset) fbiobSpiMaxXferLen : Nat) : Int) := by
  refine ⟨trivial, fun val => ⟨trivial, fun _ => ?_⟩⟩
  apply waitTillXferDone.conforms_true.bind
  intro ret _
  apply Program.Conforms.ite
  · exact fun failed => Or.inl failed
  · intro succeeded
    exact (Program.conforms_true _).bind fun tail _ => Or.inr rfl

/-- The receive loop, with `ndata` bytes already received. A pass that does not
fail returns how far `ndata` moves (`xfer_single_rx_result`). -/
def fbiobSpiXferRxLoop (rxBuf : Memory) (len ndata : Nat) : SpiIo (Int × Memory) :=
  if ndata < len then do
    spiCsrWrite fbiobSpiRegDescSts clearSts
    let (ret, rxBuf) ← fbiobSpiXferSingleRx rxBuf len ndata
    if ret < 0 then pure (ret, rxBuf)
    else fbiobSpiXferRxLoop rxBuf len (ndata + min (len - ndata) fbiobSpiMaxXferLen)
  else pure (0, rxBuf)
termination_by len - ndata
decreasing_by simp only [fbiobSpiMaxXferLen]; omega

def fbiobSpiXferRx (rxBuf : Memory) (len : BitVec 32) : SpiIo (Int × Memory) :=
  fbiobSpiXferRxLoop rxBuf len.toNat 0

/-- `fbiob_spi_xfer_one`; `ret` is what the uninitialized result variable holds. -/
def fbiobSpiXferOne (ret : Int) (xfer : SpiTransfer) : SpiIo (Int × SpiTransfer) := do
  let ret ← match xfer.txBuf with
    | none => pure ret
    | some txbuf => fbiobSpiXferTx txbuf xfer.len
  match xfer.rxBuf with
  | none => pure (ret, xfer)
  | some rxBuf => do
    let (ret, rxBuf) ← fbiobSpiXferRx rxBuf xfer.len
    pure (ret, { xfer with rxBuf := some rxBuf })

end FbossBsp.Spi
