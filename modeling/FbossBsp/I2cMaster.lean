import FbossBsp.BulkMmio

/-!
# The FPGA I2C master driver

The transfer path of the controller driver: parameter check, bus acquisition,
and for each message the read or write loop over chunks that fit the two
128-byte data buffers. Register writes, polls and buffer copies are operations
of the program; delays are not modeled, and `bus->state`, which the driver only
ever assigns, is left out.

A message buffer is the memory at `msg->buf`. The two staging buffers on the
stack are uninitialized in the source, so their contents are a parameter.
-/

namespace FbossBsp.I2cMaster

open Interaction

/-! ## Registers -/

def fbiobI2cRegFuncCtrl : Nat := 0
def fbiobI2cRegIntrSts : Nat := 0x10
def fbiobI2cRegCmdSts : Nat := 0x14
def fbiobI2cRegBufCtrl : Nat := 0x1C
def fbiobI2cIobufOffset : Nat := 0x80

def fbiobI2cIobufSize : Nat := 128
def fbiobI2cRxPayloadMax : Nat := 256
def fbiobI2cTxPayloadMax : Nat := 255

def fbiobI2cEnMasterFunc : BitVec 32 := bit 0

def fbiobI2cIntrXferTimeoutSts : BitVec 32 := bit 3
def fbiobI2cIntrRxDoneSts : BitVec 32 := bit 2
def fbiobI2cIntrTxNackSts : BitVec 32 := bit 1
def fbiobI2cIntrTxDoneSts : BitVec 32 := bit 0

def fbiobI2cBusBusySts : BitVec 32 := bit 16
def fbiobI2cBusRcvCmdLast : BitVec 32 := bit 4
def fbiobI2cBusStopCmd : BitVec 32 := bit 3
def fbiobI2cBusRcvCmd : BitVec 32 := bit 2
def fbiobI2cBusTransmitCmd : BitVec 32 := bit 1
def fbiobI2cBusStartCmd : BitVec 32 := bit 0

def fbiobI2cBufMemPageSel : BitVec 32 := bit 6
def fbiobI2cTxBufSizeShift : Nat := 8
def fbiobI2cRxBufSizeShift : Nat := 16
def fbiobI2cActRxBufSizeShift : Nat := 24
def fbiobI2cRxBufSizeMask : BitVec 32 :=
  genmask32 (fbiobI2cActRxBufSizeShift - 1) fbiobI2cRxBufSizeShift
def fbiobI2cTxBufSizeMask : BitVec 32 :=
  genmask32 (fbiobI2cRxBufSizeShift - 1) fbiobI2cTxBufSizeShift

def fbiobI2cXferPollTimeUs : Nat := 100
def fbossI2cSmbusMaxTimeoutUs : Nat := 35000

inductive FbiobI2cOpcode where
  | busRead
  | busWrite
  deriving DecidableEq

/-! ## Messages -/

def i2cMRd : BitVec 16 := 0x0001
def i2cMRecvLen : BitVec 16 := 0x0400
def i2cClientPec : BitVec 16 := 0x04
def i2cSmbusBlockMax : Nat := 32

/-- `struct i2c_msg`; `buf` is `none` for a null pointer. -/
structure I2cMsg where
  addr : BitVec 16
  flags : BitVec 16
  len : BitVec 16
  buf : Option Memory

namespace I2cMsg

/-- `msg->flags & I2C_M_RD`. -/
def isRead (msg : I2cMsg) : Bool := msg.flags &&& i2cMRd != 0

/-- `msg->flags & I2C_M_RECV_LEN`. -/
def recvLen (msg : I2cMsg) : Bool := msg.flags &&& i2cMRecvLen != 0

/-- The length `fbiob_i2c_read` sets out to receive. -/
def rxLen (msg : I2cMsg) : Nat := if msg.recvLen then i2cSmbusBlockMax else msg.len.toNat

end I2cMsg

/-- What the source leaves open: whether plain `char` is signed, and the bytes
that the uninitialized staging buffers hold. -/
structure Platform where
  charSigned : Bool
  recvBuf : Memory
  ioBuf : Memory

/-- The integer value of a plain `char`. -/
def Platform.charValue (platform : Platform) (byte : BitVec 8) : Int :=
  if platform.charSigned then byte.toInt else byte.toNat

/-! ## Register helpers -/

def i2cIobufRead (buf : Memory) (size : Nat) : Mmio Memory :=
  fbiobBulkRead fbiobI2cIobufOffset buf size

def i2cIobufWrite (buf : Memory) (size : Nat) : Mmio Unit :=
  fbiobBulkWrite fbiobI2cIobufOffset buf size

/-- `check_msg_params`: zero, or a negated error number. -/
def checkMsgParams : List I2cMsg → Int
  | [] => -einval
  | first :: rest =>
    if first.addr > 0x7f then -einval
    else if (first :: rest).any fun msg => msg.buf.isNone || first.addr != msg.addr then -einval
    else 0

def fbiobI2cReset : Mmio Int := do
  let val ← readl fbiobI2cRegFuncCtrl
  let val := val &&& ~~~fbiobI2cEnMasterFunc
  writel val fbiobI2cRegFuncCtrl
  let val := val ||| fbiobI2cEnMasterFunc
  writel val fbiobI2cRegFuncCtrl
  pure 0

/-- The word `fbiob_i2c_clean_intr_status` writes back to clear the status. -/
def cleanIntrStatus : BitVec 32 :=
  fbiobI2cIntrTxDoneSts ||| fbiobI2cIntrTxNackSts ||| fbiobI2cIntrRxDoneSts |||
    fbiobI2cIntrXferTimeoutSts

def fbiobI2cCleanIntrStatus : Mmio Unit := writel cleanIntrStatus fbiobI2cRegIntrSts

def fbiobI2cCheckBusy : Mmio Int := do
  let val ← readl fbiobI2cRegCmdSts
  if val &&& fbiobI2cBusBusySts ≠ 0 then pure (-ebusy) else pure 0

/-- The poll loop of `wait_bus_for_free`, with `retry` left. -/
def waitBusForFreeLoop (retry : Nat) : Mmio Int := do
  let busy ← fbiobI2cCheckBusy
  if busy = 0 then pure 0
  else match retry with
    | 0 => pure (-ebusy)
    | retry + 1 => waitBusForFreeLoop retry

def waitBusForFree : Mmio Int :=
  waitBusForFreeLoop (fbossI2cSmbusMaxTimeoutUs / fbiobI2cXferPollTimeUs)

def fbiobI2cStop : Mmio Unit := do
  let val ← readl fbiobI2cRegCmdSts
  writel (val ||| fbiobI2cBusStopCmd) fbiobI2cRegCmdSts

/-- The done bit `wait_till_xfer_done` waits for. -/
def FbiobI2cOpcode.doneSts : FbiobI2cOpcode → BitVec 32
  | .busRead => fbiobI2cIntrRxDoneSts
  | .busWrite => fbiobI2cIntrTxDoneSts

/-- One poll of `wait_till_xfer_done`, before `later`. -/
def pollXferDone (opcode : FbiobI2cOpcode) (later : Mmio Int) : Mmio Int := do
  let val ← readl fbiobI2cRegIntrSts
  if val &&& fbiobI2cIntrTxNackSts ≠ 0 then do
    fbiobI2cStop
    pure (-eio)
  else if val &&& opcode.doneSts ≠ 0 then pure 0
  else later

/-- The poll loop of `wait_till_xfer_done`, with `retry` left. -/
def waitTillXferDoneLoop (opcode : FbiobI2cOpcode) : (retry : Nat) → Mmio Int
  | 0 => pollXferDone opcode (pure (-etimedout))
  | retry + 1 => pollXferDone opcode (waitTillXferDoneLoop opcode retry)

/-- What holds of a time-out, and of one more poll before what it holds of,
holds of the poll loop. -/
theorem wait_loop_rule {P : Mmio Int → Prop} {opcode : FbiobI2cOpcode}
    (timedOut : P (pure (-etimedout))) (poll : ∀ later, P later → P (pollXferDone opcode later))
    (retry : Nat) : P (waitTillXferDoneLoop opcode retry) := by
  induction retry with
  | zero => exact poll _ timedOut
  | succ retry inductionHypothesis => exact poll _ inductionHypothesis

def waitTillXferDone (opcode : FbiobI2cOpcode) : Mmio Int :=
  waitTillXferDoneLoop opcode (fbossI2cSmbusMaxTimeoutUs / fbiobI2cXferPollTimeUs)

/-! ## Reading -/

/-- The local variables of `fbiob_i2c_read` that its loop carries: the message,
the memory at `msg->buf`, and `rx_buf` as an offset into it. -/
structure ReadState where
  msg : I2cMsg
  memory : Memory
  rxBuf : Nat

/-- The word the read loop writes to BUF_CTRL for one chunk. -/
def rxBufCtrl (xferLen : Nat) : BitVec 32 :=
  ((BitVec.ofNat 32 (xferLen - 1) <<< fbiobI2cRxBufSizeShift) &&& fbiobI2cRxBufSizeMask) &&&
    ~~~fbiobI2cBufMemPageSel

/-- The receive command; the last chunk of a message also stops the bus. -/
def rxCmd (last : Bool) : BitVec 32 :=
  let cmdData := fbiobI2cBusStartCmd ||| fbiobI2cBusTransmitCmd ||| fbiobI2cBusRcvCmd
  if last then cmdData ||| (fbiobI2cBusRcvCmdLast ||| fbiobI2cBusStopCmd) else cmdData

/-- Copy a received chunk that needs both pages; `rxLen` is what is left after it. -/
def collectPages (platform : Platform) (xferLen rxLen : Nat) (state : ReadState) :
    Mmio (Int × ReadState) := do
  let recvBuf ← i2cIobufRead platform.recvBuf fbiobI2cIobufSize
  let memory := state.memory.memcpy state.rxBuf recvBuf 0 fbiobI2cIobufSize
  let rxBuf := state.rxBuf + fbiobI2cIobufSize
  let remainingSize := xferLen - fbiobI2cIobufSize
  let regval ← readl fbiobI2cRegBufCtrl
  writel (regval ||| fbiobI2cBufMemPageSel) fbiobI2cRegBufCtrl
  let recvBuf ← i2cIobufRead recvBuf remainingSize
  let memory := memory.memcpy rxBuf recvBuf 0 remainingSize
  pure (0, ⟨state.msg, memory, if rxLen ≠ 0 then rxBuf + remainingSize else rxBuf⟩)

/-- Copy a received chunk that fits the low page; `rxLen` is what is left after
it. An SMBus block read takes the length from the first received byte. -/
def collectPage (platform : Platform) (xferLen rxLen : Nat) (state : ReadState) :
    Mmio (Int × ReadState) := do
  let recvBuf ← i2cIobufRead platform.recvBuf xferLen
  let rxBuf := if rxLen ≠ 0 then state.rxBuf + xferLen else state.rxBuf
  if state.msg.recvLen then
    let count := platform.charValue (recvBuf 0)
    if count > i2cSmbusBlockMax then pure (-einval, state)
    else
      let pec : Int := if state.msg.flags &&& i2cClientPec ≠ 0 then 2 else 1
      let msg := { state.msg with len := BitVec.ofInt 16 (count + pec) }
      pure (0, ⟨msg, state.memory.memcpy state.rxBuf recvBuf 0 msg.len.toNat, rxBuf⟩)
  else
    pure (0, ⟨state.msg, state.memory.memcpy state.rxBuf recvBuf 0 xferLen, rxBuf⟩)

/-- One pass of the receive loop, with `rxLen` bytes still to receive. -/
def fbiobI2cReadChunk (platform : Platform) (rxLen : Nat) (state : ReadState) :
    Mmio (Int × ReadState) := do
  let xferLen := min fbiobI2cRxPayloadMax rxLen
  writel (rxBufCtrl xferLen) fbiobI2cRegBufCtrl
  writel (rxCmd (xferLen = rxLen)) fbiobI2cRegCmdSts
  let ret ← waitTillXferDone .busRead
  if ret ≠ 0 then pure (ret, state)
  else if xferLen > fbiobI2cIobufSize then collectPages platform xferLen (rxLen - xferLen) state
  else collectPage platform xferLen (rxLen - xferLen) state

/-- The receive loop: pass over the chunks until all is received or one fails. -/
def fbiobI2cReadLoop (platform : Platform) (rxLen : Nat) (state : ReadState) :
    Mmio (Int × ReadState) :=
  if rxLen = 0 then pure (0, state) else do
    let (ret, state) ← fbiobI2cReadChunk platform rxLen state
    if ret ≠ 0 then pure (ret, state)
    else fbiobI2cReadLoop platform (rxLen - min fbiobI2cRxPayloadMax rxLen) state
termination_by rxLen
decreasing_by simp only [fbiobI2cRxPayloadMax]; omega

/-- One pass of the receive loop, before `later`. -/
def readPass (platform : Platform) (rxLen : Nat) (state : ReadState)
    (later : ReadState → Mmio (Int × ReadState)) : Mmio (Int × ReadState) := do
  let (ret, state) ← fbiobI2cReadChunk platform rxLen state
  if ret ≠ 0 then pure (ret, state) else later state

/-- What holds of the end, and of one more pass before what it holds of, holds of
the receive loop. -/
theorem read_loop_rule {platform : Platform} {P : Nat → ReadState → Mmio (Int × ReadState) → Prop}
    (finished : ∀ state, P 0 state (pure (0, state)))
    (pass : ∀ rxLen state later, rxLen ≠ 0 →
      (∀ next, P (rxLen - min fbiobI2cRxPayloadMax rxLen) next (later next)) →
      P rxLen state (readPass platform rxLen state later))
    (rxLen : Nat) (state : ReadState) : P rxLen state (fbiobI2cReadLoop platform rxLen state) := by
  induction rxLen using Nat.strongRecOn generalizing state with
  | _ rxLen inductionHypothesis =>
    rw [fbiobI2cReadLoop]
    by_cases done : rxLen = 0
    · rw [if_pos done, done]
      exact finished state
    · rw [if_neg done]
      have shorter : rxLen - min fbiobI2cRxPayloadMax rxLen < rxLen := by
        simp only [fbiobI2cRxPayloadMax]
        omega
      exact pass rxLen state _ done fun next => inductionHypothesis _ shorter next

/-- The address word of a read message. -/
def readAddr (msg : I2cMsg) : BitVec 32 := (msg.addr.setWidth 32 <<< 1) ||| 1

def fbiobI2cRead (platform : Platform) (msg : I2cMsg) : Mmio (Int × I2cMsg) :=
  match msg.buf with
  | none => pure (-einval, msg)
  | some buf => do
    writel (readAddr msg) fbiobI2cIobufOffset
    let (ret, state) ← fbiobI2cReadLoop platform msg.rxLen ⟨msg, buf, 0⟩
    pure (ret, { state.msg with buf := some state.memory })

/-! ## Writing -/

/-- The word `fbiob_i2c_fill_tx_buf` first writes to BUF_CTRL. -/
def txBufCtrl (payloadSize : Nat) : BitVec 32 :=
  ((BitVec.ofNat 32 payloadSize <<< fbiobI2cTxBufSizeShift) &&& fbiobI2cTxBufSizeMask) &&&
    ~~~fbiobI2cBufMemPageSel

/-- `fbiob_i2c_fill_tx_buf`; the payload starts at `txBuf` in the message memory. -/
def fbiobI2cFillTxBuf (platform : Platform) (i2cAddr : BitVec 8) (payload : Memory)
    (txBuf payloadSize : Nat) : Mmio Int :=
  if payloadSize > fbiobI2cTxPayloadMax then pure (-einval) else do
    let regCsr := txBufCtrl payloadSize
    writel regCsr fbiobI2cRegBufCtrl
    let ioBuf := platform.ioBuf.store8 0 i2cAddr
    let processed := min payloadSize (fbiobI2cIobufSize - 1)
    let ioBuf := ioBuf.memcpy 1 payload txBuf processed
    i2cIobufWrite ioBuf (processed + 1)
    let nleft := payloadSize - processed
    if nleft > 0 then do
      writel (regCsr ||| fbiobI2cBufMemPageSel) fbiobI2cRegBufCtrl
      let ioBuf := ioBuf.memcpy 0 payload (txBuf + processed) nleft
      i2cIobufWrite ioBuf nleft
      pure 0
    else pure 0

/-- The transmit command of a chunk. -/
def txCmd (isLastMsg : Bool) : BitVec 32 :=
  let cmdData := fbiobI2cBusStartCmd ||| fbiobI2cBusTransmitCmd
  if isLastMsg then cmdData ||| fbiobI2cBusStopCmd else cmdData

/-- One pass of the transmit loop, with `nleft` bytes still to send. -/
def fbiobI2cWriteChunk (platform : Platform) (isLastMsg : Bool) (i2cAddr : BitVec 8)
    (payload : Memory) (txBuf nleft : Nat) : Mmio Int := do
  let ret ← fbiobI2cFillTxBuf platform i2cAddr payload txBuf (min fbiobI2cTxPayloadMax nleft)
  if ret < 0 then pure ret else do
    writel (txCmd isLastMsg) fbiobI2cRegCmdSts
    waitTillXferDone .busWrite

/-- The transmit loop; its body runs at least once, also for an empty message. -/
def fbiobI2cWriteLoop (platform : Platform) (isLastMsg : Bool) (i2cAddr : BitVec 8)
    (payload : Memory) (txBuf nleft : Nat) : Mmio Int := do
  let payloadLen := min fbiobI2cTxPayloadMax nleft
  let ret ← fbiobI2cWriteChunk platform isLastMsg i2cAddr payload txBuf nleft
  if ret ≠ 0 then pure ret
  else if 0 < nleft - payloadLen then
    fbiobI2cWriteLoop platform isLastMsg i2cAddr payload (txBuf + payloadLen) (nleft - payloadLen)
  else pure 0
termination_by nleft
decreasing_by simp only [fbiobI2cTxPayloadMax] at *; omega

/-- One pass of the transmit loop, before `later`. -/
def writePass (platform : Platform) (isLastMsg : Bool) (i2cAddr : BitVec 8) (payload : Memory)
    (txBuf nleft : Nat) (later : Mmio Int) : Mmio Int := do
  let payloadLen := min fbiobI2cTxPayloadMax nleft
  let ret ← fbiobI2cWriteChunk platform isLastMsg i2cAddr payload txBuf nleft
  if ret ≠ 0 then pure ret
  else if 0 < nleft - payloadLen then later
  else pure 0

/-- What holds of a pass whenever it holds of the passes after it holds of the
transmit loop. -/
theorem write_loop_rule {platform : Platform} {isLastMsg : Bool} {i2cAddr : BitVec 8}
    {payload : Memory} {P : Nat → Nat → Mmio Int → Prop}
    (pass : ∀ txBuf nleft later,
      (0 < nleft - min fbiobI2cTxPayloadMax nleft →
        P (txBuf + min fbiobI2cTxPayloadMax nleft) (nleft - min fbiobI2cTxPayloadMax nleft) later) →
      P txBuf nleft (writePass platform isLastMsg i2cAddr payload txBuf nleft later))
    (txBuf nleft : Nat) :
    P txBuf nleft (fbiobI2cWriteLoop platform isLastMsg i2cAddr payload txBuf nleft) := by
  induction nleft using Nat.strongRecOn generalizing txBuf with
  | _ nleft inductionHypothesis =>
    rw [fbiobI2cWriteLoop]
    refine pass txBuf nleft _ fun more => ?_
    have shorter : nleft - min fbiobI2cTxPayloadMax nleft < nleft := by
      simp only [fbiobI2cTxPayloadMax] at *
      omega
    exact inductionHypothesis _ shorter _

/-- The address byte of a write message. -/
def writeAddr (msg : I2cMsg) : BitVec 8 := (msg.addr <<< 1).setWidth 8

def fbiobI2cWrite (platform : Platform) (msg : I2cMsg) (isLastMsg : Bool) : Mmio Int :=
  match msg.buf with
  | none => pure (-einval)
  | some buf =>
    fbiobI2cWriteLoop platform isLastMsg (writeAddr msg) buf 0 msg.len.toNat

/-! ## Transfers -/

/-- The body of the message loop of `fbiob_i2c_master_xfer`. -/
def xferMsg (platform : Platform) (msg : I2cMsg) (isLast : Bool) : Mmio (Int × I2cMsg) := do
  fbiobI2cCleanIntrStatus
  if msg.isRead then fbiobI2cRead platform msg
  else do
    let ret ← fbiobI2cWrite platform msg isLast
    pure (ret, msg)

/-- The message loop; `ret` is the result of the message before. -/
def xferMsgs (platform : Platform) (ret : Int) : List I2cMsg → Mmio (Int × List I2cMsg)
  | [] => pure (ret, [])
  | msg :: rest => do
    let (ret, msg) ← xferMsg platform msg rest.isEmpty
    if ret < 0 then pure (ret, msg :: rest)
    else do
      let (ret, rest) ← xferMsgs platform ret rest
      pure (ret, msg :: rest)

/-- Get hold of the bus: wait until it is free, else reset the controller. -/
def acquireBus : Mmio Int := do
  let busy ← waitBusForFree
  if busy ≠ 0 then do
    let ret ← fbiobI2cReset
    if ret ≠ 0 then pure ret else fbiobI2cCheckBusy
  else pure 0

def fbiobI2cMasterXfer (platform : Platform) (msgs : List I2cMsg) :
    Mmio (Int × List I2cMsg) :=
  let ret := checkMsgParams msgs
  if ret ≠ 0 then pure (ret, msgs) else do
    let ret ← acquireBus
    if ret ≠ 0 then pure (ret, msgs)
    else do
      let (ret, updated) ← xferMsgs platform ret msgs
      pure (if ret < 0 then ret else msgs.length, updated)

end FbossBsp.I2cMaster
