import FbossBsp.Interaction.Locked
import FbossBsp.MdioIoctl

/-!
# MDIO transfers and the registers of the PHYs

Behind the controller are PHYs whose registers keep what is written to them. A
command takes effect when it completes: a read loads the register into RD_DAT,
and a write stores what WR_DAT holds by then. A command that ends in err loads
anything, and may or may not have stored.

To user space the bus is a memory with posted writes. Any number of threads make
ioctls; each transfer is served as by that memory, in the order in which they
take the lock of the bus. A write that fails is reported by the transfer after
it, which does nothing else.
-/

namespace FbossBsp.Mdio

open Interaction

/-! ## The controller and the PHYs -/

/-- A register of a device of a PHY. -/
structure PhyRegister where
  phy : BitVec 5
  dev : BitVec 5
  reg : BitVec 16
  deriving DecidableEq

/-- How a command ends: whether in err, whether a write that does has been stored,
what a failed read loads and a successful one loads beside the datum, and after how
many further accesses. -/
structure Ending where
  err : Bool
  stored : Bool
  word : BitVec 32
  delay : Nat

/-- What is behind the controller: the word in WR_DAT and the registers of the PHYs. -/
structure Phys where
  wrDat : BitVec 32
  registers : PhyRegister → BitVec 16

/-- The register that a command word addresses. -/
def addressed (word : BitVec 32) : PhyRegister :=
  ⟨word.extractLsb' 8 5, word.extractLsb' 0 5, word.extractLsb' 16 16⟩

/-- The effect of a write on the PHYs. -/
def Ending.store (ending : Ending) (register : PhyRegister) (val : BitVec 16)
    (phys : PhyRegister → BitVec 16) : PhyRegister → BitVec 16 :=
  if ending.err ∧ ¬ending.stored then phys else Function.update phys register val

/-- The PHYs as the controller sees them. The reset bit reads as clear. -/
def phyTarget (plan : Nat → Ending) : Attached Phys where
  delay _ id := (plan id).delay
  err _ id := (plan id).err
  load phys id word :=
    if (plan id).err then (plan id).word
    else (plan id).word.extractLsb' 16 16 ++ phys.registers (addressed word)
  effect phys id word :=
    if isRead word then phys
    else { phys with
      registers := (plan id).store (addressed word) (phys.wrDat.extractLsb' 0 16) phys.registers }
  reply phys _ offset := if offset = fbiobMdioRegWrDat then phys.wrDat else 0
  store phys offset val := if offset = fbiobMdioRegWrDat then { phys with wrDat := val } else phys

abbrev PhyBus := Controller Phys

abbrev phyBus (plan : Nat → Ending) : Device BusOp BusOp.Reply PhyBus := controller (phyTarget plan)

abbrev Controller.phys (s : PhyBus) : PhyRegister → BitVec 16 := s.behind.registers

/-! ## The abstract memory -/

/-- One call of `fb_mdio_cdev_ioctl`, with what `copy_from_user` copies if it
succeeds, whether `copy_to_user` does, and the word on the stack. -/
structure XferCall where
  cmd : XferCmd
  user : Option FbMdioXfer
  copyToUser : Bool
  wrData : BitVec 32

/-- The register of a transfer. -/
def FbMdioXfer.register (xfer : FbMdioXfer) : PhyRegister :=
  ⟨xfer.phyAddr.setWidth 5, xfer.devAddr.setWidth 5, xfer.regAddr.setWidth 16⟩

/-- The registers of the PHYs as the transfers have left them, whether the last one
was a write whose failure is still to be reported, and the number of commands. -/
structure PostedMemory where
  phys : PhyRegister → BitVec 16
  failed : Bool
  issued : Nat

namespace PostedMemory

variable (plan : Nat → Ending) (m : PostedMemory)

/-- The datum of a read, unless the read or a write before it fails. -/
def read (register : PhyRegister) : Option (BitVec 16) × PostedMemory :=
  if m.failed then (none, { m with failed := false })
  else (if (plan m.issued).err then none else some (m.phys register),
    { m with issued := m.issued + 1 })

/-- A write is posted. -/
def write (register : PhyRegister) (val : BitVec 16) : Int × PostedMemory :=
  if m.failed then (-eio, { m with failed := false })
  else (0, {
    phys := (plan m.issued).store register val m.phys
    failed := (plan m.issued).err
    issued := m.issued + 1 })

/-- What user space gets for a read. -/
def copied (xfer : FbMdioXfer) (copyToUser : Bool) : Option (BitVec 16) → Int × Option FbMdioXfer
  | none => (-eio, none)
  | some datum =>
    if copyToUser then (0, some { xfer with regData := datum.setWidth 32 }) else (-efault, none)

/-- What an ioctl returns, and what it copies to user space. -/
def serve (call : XferCall) : (Int × Option FbMdioXfer) × PostedMemory :=
  match call.user with
  | none => ((-efault, none), m)
  | some xfer =>
    match call.cmd with
    | .c45Read =>
      let (datum, after) := m.read plan xfer.register
      (copied xfer call.copyToUser datum, after)
    | .c45Write =>
      let (ret, after) := m.write plan xfer.register (xfer.regData.setWidth 16)
      ((ret, none), after)
    | .other => ((-einval, none), m)

/-- The memory after a sequence of ioctls. -/
def after : List XferCall → PostedMemory → PostedMemory
  | [], m => m
  | call :: rest, m => after rest (m.serve plan call).2

end PostedMemory

/-! ## Calls on the memory -/

/-- The datum is in the low half of what a successful read loads. -/
theorem loaded_datum (word : BitVec 32) (datum : BitVec 16) :
    (word.extractLsb' 16 16 ++ datum : BitVec 32).setWidth 16 = datum := by
  rw [BitVec.setWidth_eq_extractLsb' (by decide)]
  exact BitVec.extractLsb'_append_eq_right

section Calls

variable {plan : Nat → Ending} {m : PostedMemory} {s : PhyBus}

/-- Between two calls the PHYs hold the memory, or a posted write is on its way to
make them hold it. -/
structure Holds (plan : Nat → Ending) (m : PostedMemory) (s : PhyBus) : Prop where
  between : Between (phyTarget plan) s m.failed
  phys : (s.settled (phyTarget plan)).registers = m.phys
  issued : s.issued = m.issued

/-- The PHYs behind a ready bus hold the memory. -/
theorem Holds.of_ready (ready : s.state = .ready) (idle : s.executing = [])
    (reported : m.failed = false) (phys : s.phys = m.phys) (issued : s.issued = m.issued) :
    Holds plan m s := by
  refine ⟨?_, ?_, issued⟩
  · rw [reported]
    exact .settled ready idle
  · rw [settled_idle s idle]
    exact phys

/-- A call that reports a failed write leaves the memory as it is. -/
theorem Holds.reported (holds : Holds plan m s) {after : PhyBus} (ready : after.state = .ready)
    (settled : Settled (phyTarget plan) s after) : Holds plan { m with failed := false } after := by
  refine .of_ready ready settled.idle rfl ?_ (settled.issued.trans holds.issued)
  exact (congrArg Phys.registers settled.behind).trans holds.phys

/-- Every command ends within the poll budget of the wait that follows it. -/
def EndsInTime (plan : Nat → Ending) : Prop := ∀ id, (plan id).delay ≤ 50

/-- The command word of a transfer addresses its register. -/
theorem command_addresses (xfer : FbMdioXfer) (prior rw : BitVec 32) :
    addressed (commandWord prior (mdioPhyAddr xfer.phyAddr) (mdioDevAddr xfer.devAddr)
      (mdioC45Reg xfer.regAddr) rw) = xfer.register := by
  have encodes := command_word_encodes xfer prior rw
  have field {w : Nat} {found : BitVec w} {val : BitVec 32}
      (masked : found.toNat = val.toNat % 2 ^ w) : found = val.setWidth w :=
    BitVec.eq_of_toNat_eq (masked.trans (BitVec.toNat_setWidth w val).symm)
  have phy := field encodes.phyad
  have dev := field encodes.devad
  have reg := field encodes.reg
  simp only [addressed, FbMdioXfer.register, phy, dev, reg]

/-- What the driver returns for a datum. -/
def readRet : Option (BitVec 16) → Int
  | none => -eio
  | some datum => datum.toNat

/-- What a read returns for its completed command. -/
theorem read_ret_datum (behind : Phys) (id : Nat) (word : BitVec 32) :
    (phyTarget plan).readRet behind id word =
      readRet (if (plan id).err then none else some (behind.registers (addressed word))) := by
  cases failing : (plan id).err with
  | true => simp [Attached.readRet, phyTarget, failing, readRet]
  | false => simp [Attached.readRet, phyTarget, failing, readRet, loaded_datum]

/-- A read is served by the memory.

Proof: once a posted write has completed without a failure to report, the PHYs hold the
memory, and the command of the read is the only one until it is collected. -/
theorem read_served (budget : EndsInTime plan) (holds : Holds plan m s) (xfer : FbMdioXfer) :
    (fbiobMdioReadC45 (mdioPhyAddr xfer.phyAddr) (mdioDevAddr xfer.devAddr)
      (mdioC45Reg xfer.regAddr)).Wp (phyBus plan) (fun _ _ => True)
        (fun ret after => ret = readRet (m.read plan xfer.register).1 ∧
          Holds plan (m.read plan xfer.register).2 after) s := by
  apply call_prologue (fun _ _ _ => trivial) _ _ s m.failed holds.between
    (holds.between.in_budget budget)
  · intro failed after ready settled
    simp only [PostedMemory.read, failed, if_true]
    exact ⟨rfl, holds.reported ready settled⟩
  · intro reported started busy clear settled
    have phys : started.behind.registers = m.phys :=
      (congrArg Phys.registers settled.behind).trans holds.phys
    have number : started.issued = m.issued := settled.issued.trans holds.issued
    have register := command_addresses xfer started.cmd busRead
    have reading := command_word_rw started.cmd (mdioPhyAddr xfer.phyAddr)
      (mdioDevAddr xfer.devAddr) (mdioC45Reg xfer.regAddr) busRead
    simp only [PostedMemory.read, reported, Bool.false_eq_true, if_false]
    apply Program.Wp.seq (issue_command_idle (phyTarget plan) _ _ _ busRead started busy
      settled.idle clear)
    intro _ executing command
    apply (collect_read (phyTarget plan) _ reading executing started command).weaken
    rintro ret after (⟨_, slow⟩ | ⟨⟨returned, _⟩, collected⟩)
    · exact absurd slow (Nat.not_lt.mpr (budget started.issued))
    · constructor
      · rw [returned, read_ret_datum, register, number, phys]
      · refine .of_ready collected.ready collected.idle rfl ?_ ?_
        · have kept : after.behind = started.behind := collected.behind.trans (if_pos reading)
          exact (congrArg Phys.registers kept).trans phys
        · rw [collected.issued, number]

/-- The word that a write leaves in WR_DAT holds its datum. -/
theorem data_word (wrData regData : BitVec 32) :
    (setField wrData 0 16 (((mdioC45Reg regData).setWidth 16).setWidth 32)).extractLsb' 0 16 =
      regData.setWidth 16 := by
  apply BitVec.eq_of_toNat_eq
  rw [data_word_low, BitVec.toNat_setWidth]

/-- The write that stores a datum from WR_DAT. -/
theorem write_stored (behind : Phys) (id : Nat) (data word : BitVec 32)
    (writing : isRead word = false) :
    ((phyTarget plan).effect ((phyTarget plan).store behind fbiobMdioRegWrDat data) id
      word).registers =
        (plan id).store (addressed word) (data.extractLsb' 0 16) behind.registers := by
  simp [phyTarget, writing]

/-- A write is served by the memory.

Proof: its command stores what WR_DAT holds, and it is left to the next call. -/
theorem write_served (budget : EndsInTime plan) (holds : Holds plan m s) (wrData : BitVec 32)
    (xfer : FbMdioXfer) :
    (fbiobMdioWriteC45 wrData (mdioPhyAddr xfer.phyAddr) (mdioDevAddr xfer.devAddr)
      (mdioC45Reg xfer.regAddr) ((mdioC45Reg xfer.regData).setWidth 16)).Wp (phyBus plan)
        (fun _ _ => True)
        (fun ret after => ret = (m.write plan xfer.register (xfer.regData.setWidth 16)).1 ∧
          Holds plan (m.write plan xfer.register (xfer.regData.setWidth 16)).2 after) s := by
  apply call_prologue (fun _ _ _ => trivial) _ _ s m.failed holds.between
    (holds.between.in_budget budget)
  · intro failed after ready settled
    simp only [PostedMemory.write, failed, if_true]
    exact ⟨trivial, holds.reported ready settled⟩
  · intro reported started busy clear settled
    have phys : started.behind.registers = m.phys :=
      (congrArg Phys.registers settled.behind).trans holds.phys
    have number : started.issued = m.issued := settled.issued.trans holds.issued
    have register := command_addresses xfer started.cmd busWrite
    have writing := command_word_rw started.cmd (mdioPhyAddr xfer.phyAddr)
      (mdioDevAddr xfer.devAddr) (mdioC45Reg xfer.regAddr) busWrite
    have datum := data_word wrData xfer.regData
    simp only [PostedMemory.write, reported, Bool.false_eq_true, if_false]
    apply (wp_bus_writel _ _ _ _ _ _ _).mpr
    rw [write_data_idle (phyTarget plan) started _ settled.idle]
    refine ⟨trivial, ?_⟩
    apply Program.Wp.seq (issue_command_idle (phyTarget plan) _ _ _ busWrite
      { started with
        clock := started.clock + 1
        behind := (phyTarget plan).store started.behind fbiobMdioRegWrDat _ }
      busy settled.idle clear)
    intro _ after command
    refine ⟨rfl, ?_, ?_, ?_⟩
    · have between := command.between
      rw [number] at between
      exact between
    · rw [Controller.settled, command.executing, command.behind]
      refine (write_stored started.behind _ _ _ writing).trans ?_
      rw [register, datum, number, phys]
    · rw [command.issued, number]

end Calls

/-! ## The ioctl under the lock -/

/-- What `fb_mdio_cdev_ioctl` makes of the result of a read. -/
def readReply (xfer : FbMdioXfer) (copyToUser : Bool) (val : Int) : Int × Option FbMdioXfer :=
  if val < 0 then (val, none)
  else if copyToUser then (0, some { xfer with regData := mdioC45Reg (BitVec.ofInt 32 val) })
  else (-efault, none)

/-- An ioctl as a call that takes the lock of the bus for a transfer. -/
def XferCall.access (call : XferCall) : Access BusOp BusOp.Reply (Int × Option FbMdioXfer) :=
  match call.user with
  | none => ⟨false, pure (-efault, none)⟩
  | some xfer =>
    match call.cmd with
    | .c45Read => ⟨true, do
        let val ← fbiobMdioReadC45 (mdioPhyAddr xfer.phyAddr) (mdioDevAddr xfer.devAddr)
          (mdioC45Reg xfer.regAddr)
        return readReply xfer call.copyToUser val⟩
    | .c45Write => ⟨true, do
        let ret ← fbiobMdioWriteC45 call.wrData (mdioPhyAddr xfer.phyAddr)
          (mdioDevAddr xfer.devAddr) (mdioC45Reg xfer.regAddr)
          ((mdioC45Reg xfer.regData).setWidth 16)
        return (ret, none)⟩
    | .other => ⟨false, pure (-einval, none)⟩

/-- The operations on the lock of the bus. -/
def busLock : LockOp BusOp → MdioOp
  | .lock => .mutexLock
  | .unlock => .mutexUnlock
  | .access op => .bus op

def busLockReply : (op : LockOp BusOp) → (busLock op).Reply → LockOp.Reply BusOp.Reply op
  | .lock, _ => ⟨⟩
  | .unlock, _ => ⟨⟩
  | .access _, reply => reply

/-- A routine under the lock whose result is passed on. -/
theorem release_embed {α β : Type} (program : BusIo α) (f : α → β) :
    (program >>= fun value => pure (f value)).release.embed busLock busLockReply =
      onBus program >>= fun value => .perform .mutexUnlock fun _ => pure (f value) := by
  induction program with
  | done value => rfl
  | perform op next inductionHypothesis =>
    exact congrArg (Program.perform (MdioOp.bus op)) (funext inductionHypothesis)

/-- A routine under the lock, with what a caller makes of its result. -/
theorem locked_embed {α β : Type} (program : BusIo α) {f : α → β} {rest : α → MdioIo β}
    (same : ∀ value, rest value = pure (f value)) :
    (program >>= fun value => pure (f value)).locked.embed busLock busLockReply =
      (Program.perform MdioOp.mutexLock fun _ =>
        onBus program >>= fun value => .perform .mutexUnlock fun _ => pure value) >>= rest := by
  obtain rfl : rest = fun value => pure (f value) := funext same
  refine congrArg (Program.perform MdioOp.mutexLock) (funext fun _ => ?_)
  refine (release_embed program f).trans ?_
  exact (bind_assoc (onBus program) (fun value => .perform .mutexUnlock fun _ => pure value)
    fun value => pure (f value)).symm

/-- The call with the lock is the ioctl. -/
theorem ioctl_access (call : XferCall) :
    call.access.program.embed busLock busLockReply =
      fbMdioCdevIoctl call.cmd call.user call.copyToUser call.wrData := by
  obtain ⟨cmd, user, copyToUser, wrData⟩ := call
  cases user with
  | none => rfl
  | some xfer =>
    cases cmd with
    | c45Read =>
      refine locked_embed _ fun val => ?_
      cases copyToUser <;> exact (apply_ite pure (val < 0) _ _).symm
    | c45Write => exact locked_embed _ fun ret => rfl
    | other => rfl

/-! ## Interleavings -/

section Interleavings

variable {plan : Nat → Ending} {m : PostedMemory} {s : PhyBus}

/-- What the ioctl makes of a datum is what the memory answers. -/
theorem read_reply_copied (xfer : FbMdioXfer) (copyToUser : Bool) (datum : Option (BitVec 16)) :
    readReply xfer copyToUser (readRet datum) = PostedMemory.copied xfer copyToUser datum := by
  cases datum with
  | none => rfl
  | some datum =>
    have positive : ¬((datum.toNat : Int) < 0) := Int.not_lt.mpr (Int.natCast_nonneg _)
    have narrow : (datum.setWidth 32).setWidth 16 = datum := by
      rw [BitVec.setWidth_setWidth_of_le _ (by decide), BitVec.setWidth_eq]
    have masked := read_value_masked (datum.setWidth 32)
    rw [← BitVec.setWidth_eq_extractLsb' (by decide), narrow] at masked
    simp only [readReply, readRet, PostedMemory.copied, if_neg positive, masked]

/-- An ioctl is served by the memory. -/
theorem call_served (budget : EndsInTime plan) (call : XferCall) (holds : Holds plan m s) :
    call.access.body.result (phyBus plan) s = (m.serve plan call).1 ∧
      Holds plan (m.serve plan call).2 (call.access.body.final (phyBus plan) s) := by
  obtain ⟨cmd, user, copyToUser, wrData⟩ := call
  cases user with
  | none => exact ⟨rfl, holds⟩
  | some xfer =>
    cases cmd with
    | c45Read =>
      obtain ⟨ret, after⟩ := (read_served budget holds xfer).outcome
      simp only [XferCall.access, Program.result_bind, Program.final_bind, ret]
      exact ⟨read_reply_copied xfer copyToUser _, after⟩
    | c45Write =>
      obtain ⟨ret, after⟩ := (write_served budget holds wrData xfer).outcome
      simp only [XferCall.access, Program.result_bind, Program.final_bind, ret]
      exact ⟨rfl, after⟩
    | other => exact ⟨rfl, holds⟩

/-- One after the other, the calls leave what they leave in the memory. -/
theorem calls_served {Thread : Type} (budget : EndsInTime plan) (calls : Thread → XferCall)
    (order : List Thread) (holds : Holds plan m s) :
    Holds plan (m.after plan (order.map calls))
      (Calls.final (phyBus plan) (fun thread => (calls thread).access.body) order s) := by
  induction order generalizing m s with
  | nil => exact holds
  | cons thread rest inductionHypothesis =>
    exact inductionHypothesis (call_served budget (calls thread) holds).2

/-- A reset succeeds: the reset bit reads as clear. -/
theorem reset_succeeds (s : PhyBus) : fbiobMdioReset.result (phyBus plan) s = 0 := by
  have clear (now : PhyBus) : (readl fbiobMdioRegRst).result (phyBus plan) now = 0 := rfl
  have notSet : ((0 : BitVec 32).getLsbD 0 = true) = False := by decide
  simp only [fbiobMdioReset, Program.result_bind, clear, notSet, if_false]
  rfl

/-- Every ioctl accesses the bus only under its lock. -/
theorem access_inside (call : XferCall) :
    call.access.Inside (fun _ => True) fun _ => False := by
  obtain ⟨cmd, user, copyToUser, wrData⟩ := call
  cases user with
  | none => trivial
  | some xfer =>
    cases cmd with
    | c45Read => exact Program.conforms_true _
    | c45Write => exact Program.conforms_true _
    | other => trivial

/-- From a reset of the controller on, any number of threads make ioctls, and each
command ends within the poll budget of the wait that follows it. In every
interleaving a transfer that has returned has returned what the memory of posted
writes answers after the transfers before it in the order of the lock; and while
the lock is free, the PHYs hold that memory, or the posted write on its way makes
them hold it. -/
theorem ioctls_posted_memory {Thread : Type} [DecidableEq Thread] (plan : Nat → Ending)
    (budget : EndsInTime plan) (start : PhyBus) (calls : Thread → XferCall) (schedule : List Thread)
    (last : LockPool Thread BusOp BusOp.Reply (Int × Option FbMdioXfer) PhyBus)
    (ran : (lockedCalls (fun thread => (calls thread).access)
      (fbiobMdioReset.final (phyBus plan) start)).run (lockedDevice (phyBus plan) (phyBus plan))
        schedule = some last) :
    let reset := fbiobMdioReset.final (phyBus plan) start
    let memory (order : List Thread) :=
      PostedMemory.after plan (order.map calls) ⟨reset.phys, false, reset.issued⟩
    (∀ thread xfer outcome, (calls thread).user = some xfer → (calls thread).cmd ≠ .other →
      last.program thread = .done outcome → ∃ before after,
        last.shared.taken = before ++ thread :: after ∧
          outcome = ((memory before).serve plan (calls thread)).1) ∧
    (last.shared.holder = none → Holds plan (memory last.shared.taken) last.shared.device) := by
  intro reset memory
  have serial := Serial.run (fun thread => access_inside (calls thread)) (Views.whole (phyBus plan))
    reset ran
  have settled : reset.state = .ready ∧ reset.executing = [] :=
    (reset_settles (phyTarget plan) start).outcome (reset_succeeds start)
  have held (order : List Thread) : Holds plan (memory order)
      (Calls.final (phyBus plan) (fun thread => (calls thread).access.body) order reset) :=
    calls_served budget calls order (.of_ready settled.1 settled.2 rfl rfl rfl)
  constructor
  · intro thread xfer outcome user transfers finished
    have guarded : (calls thread).access.guarded = true := by
      simp only [XferCall.access, user]
      cases cmd : (calls thread).cmd with
      | c45Read => rfl
      | c45Write => rfl
      | other => exact absurd cmd transfers
    obtain ⟨before, after, taken, returned⟩ := serial.returned guarded finished
    refine ⟨before, after, taken, returned.trans ?_⟩
    exact (call_served budget (calls thread) (held before)).1
  · intro free
    have reached := serial.idle free
    exact (congrArg (Holds plan (memory last.shared.taken)) reached).mpr (held _)

end Interleavings

/-- One thread writes 7, and another one reads it. -/
def writerAndReader (reads : Bool) : XferCall :=
  ⟨if reads then .c45Read else .c45Write, some ⟨1, 2, 3, 7⟩, true, 0⟩

/-- A command was still executing, and done and err are set. -/
def interruptedBus : PhyBus := ⟨.init, 3, 0, 0, [⟨0, 0, 0⟩], 1, 0, 0, fun _ => 0⟩

/-- Every command succeeds. -/
def allDone (_ : Nat) : Ending := ⟨false, false, 0, 0⟩

/-- The read finds what the write has posted. -/
theorem posted_write_read :
    ∃ last, (lockedCalls (fun reads => (writerAndReader reads).access)
        (fbiobMdioReset.final (phyBus allDone) interruptedBus)).run
          (lockedDevice (phyBus allDone) (phyBus allDone))
          (List.replicate 9 false ++ List.replicate 15 true) = some last ∧
      last.program true = .done (0, some ⟨1, 2, 3, 7⟩) := by
  refine ⟨_, rfl, ?_⟩
  have served := ioctls_posted_memory allDone (fun _ => Nat.zero_le _) interruptedBus
    writerAndReader (List.replicate 9 false ++ List.replicate 15 true) _ rfl
  have place := served.1 true ⟨1, 2, 3, 7⟩ _ rfl nofun rfl
  refine place.elim fun before rest => rest.elim fun after found => ?_
  have order : [false, true] = before ++ true :: after := found.1
  have first := (last_occurrence (show ([false] ++ [true]).Nodup by decide) order).1
  have returned := found.2
  rw [first] at returned
  exact congrArg Program.done (returned.trans (by decide +kernel))

end FbossBsp.Mdio
