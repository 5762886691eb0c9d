import FbossBsp.SpiMaster

/-!
# What an SPI transfer does to its controller

The controller keeps a journal of the commands it is given: what the driver did
before each of them and after it. What it does on its own comes from a script: the
status words in the order they are read, the word DESC_CMD reads as, and what
each command leaves in the MISO buffer. A law for all scripts is a law for all
controllers.
-/

namespace FbossBsp.Spi

open Interaction

/-! ## Status words -/

/-- The status word ends no command. -/
def Pending (val : BitVec 32) : Prop :=
  val &&& fbiobSpiDescErrIntSts = 0 ∧ val &&& fbiobSpiDescDoneIntSts = 0

/-- The status word ends a command well. -/
def Succeeds (val : BitVec 32) : Prop :=
  val &&& fbiobSpiDescErrIntSts = 0 ∧ val &&& fbiobSpiDescDoneIntSts ≠ 0

/-- The bare done bit is a successful status. -/
theorem done_succeeds : Succeeds fbiobSpiDescDoneIntSts := ⟨by decide, by decide⟩

/-- The number of times `wait_till_xfer_done` reads the status at most. -/
def pollBudget : Nat := 31

section Statuses

variable (statuses : Nat → BitVec 32)

/-- Among the words from `start` up to `stop`, which the poll budget allows to be
read, only the last may end a command. -/
def PolledTo (start stop : Nat) : Prop :=
  start < stop ∧ stop ≤ start + pollBudget ∧ ∀ i, start ≤ i → i + 1 < stop → Pending (statuses i)

/-- A command that is polled for from `start` on completes at `stop`. -/
def CompletedAt (start stop : Nat) : Prop :=
  PolledTo statuses start stop ∧ Succeeds (statuses (stop - 1))

/-- A command that is polled for from `start` on is given up at `stop`: with the
error bit, or because the poll budget is used up. -/
def FailedAt (start stop : Nat) : Prop :=
  PolledTo statuses start stop ∧
    (statuses (stop - 1) &&& fbiobSpiDescErrIntSts ≠ 0 ∨
      stop = start + pollBudget ∧ Pending (statuses (stop - 1)))

/-- The next `count` commands complete on the words from `start` up to `stop`. -/
def Complete (start : Nat) : (count stop : Nat) → Prop
  | 0, stop => stop = start
  | count + 1, stop => ∃ middle, CompletedAt statuses start middle ∧ Complete middle count stop

variable {statuses}

/-- A word ends a command well, badly or not at all. -/
theorem pending_or_ends (val : BitVec 32) :
    Pending val ∨ Succeeds val ∨ val &&& fbiobSpiDescErrIntSts ≠ 0 := by
  unfold Pending Succeeds
  tauto

/-- Polling that used up its budget has failed; until then it goes on. -/
theorem polling_ends (start : Nat) (left : Nat) :
    ∀ stop, stop + left = start + pollBudget → PolledTo statuses start stop →
      ∃ ended, CompletedAt statuses start ended ∨ FailedAt statuses start ended := by
  induction left with
  | zero =>
    intro stop last polled
    obtain pending | succeeds | failed := pending_or_ends (statuses (stop - 1))
    · exact ⟨stop, .inr ⟨polled, .inr ⟨last, pending⟩⟩⟩
    · exact ⟨stop, .inl ⟨polled, succeeds⟩⟩
    · exact ⟨stop, .inr ⟨polled, .inl failed⟩⟩
  | succ left inductionHypothesis =>
    intro stop remaining polled
    obtain pending | succeeds | failed := pending_or_ends (statuses (stop - 1))
    · obtain ⟨started, _, before⟩ := polled
      apply inductionHypothesis (stop + 1) (by omega)
      refine ⟨by omega, by omega, fun i lower upper => ?_⟩
      by_cases last : i = stop - 1
      · exact last ▸ pending
      · exact before i lower (by omega)
    · exact ⟨stop, .inl ⟨polled, succeeds⟩⟩
    · exact ⟨stop, .inr ⟨polled, .inl failed⟩⟩

/-- Every command completes or fails. -/
theorem command_ends (statuses : Nat → BitVec 32) (start : Nat) :
    ∃ stop, CompletedAt statuses start stop ∨ FailedAt statuses start stop :=
  polling_ends start 30 (start + 1) (by simp only [pollBudget]) ⟨by omega,
    by simp only [pollBudget]; omega, fun i lower upper => by omega⟩

/-- Of any number of commands, all complete or one is the first to fail. -/
theorem complete_or_fails (statuses : Nat → BitVec 32) (start count : Nat) :
    (∃ stop, Complete statuses start count stop) ∨
      ∃ before < count, ∃ middle stop,
        Complete statuses start before middle ∧ FailedAt statuses middle stop := by
  induction count generalizing start with
  | zero => exact .inl ⟨start, rfl⟩
  | succ count inductionHypothesis =>
    obtain ⟨next, completed | failed⟩ := command_ends statuses start
    · obtain ⟨stop, complete⟩ | ⟨before, earlier, middle, stop, complete, failed⟩ :=
        inductionHypothesis next
      · exact .inl ⟨stop, next, completed, complete⟩
      · exact .inr ⟨before + 1, by omega, middle, stop, ⟨next, completed, complete⟩, failed⟩
    · exact .inr ⟨0, by omega, start, next, rfl, failed⟩

/-- Where every word ends a command well, every command completes at once. -/
theorem complete_of_succeeds {start : Nat} (prompt : ∀ i, start ≤ i → Succeeds (statuses i))
    (count : Nat) : Complete statuses start count (start + count) := by
  induction count generalizing start with
  | zero => rfl
  | succ count inductionHypothesis =>
    have polled : PolledTo statuses start (start + 1) :=
      ⟨by omega, by simp only [pollBudget]; omega, fun i lower upper => by omega⟩
    have rest : Complete statuses (start + 1) count (start + 1 + count) :=
      inductionHypothesis fun i later => prompt i (Nat.le_of_succ_le later)
    rw [Nat.add_right_comm, Nat.add_assoc] at rest
    exact ⟨start + 1, ⟨polled, prompt start (Nat.le_refl start)⟩, rest⟩

end Statuses

/-! ## The controller -/

/-- A command, what preceded it since the command before, and what followed it. -/
structure SpiCommand where
  cleared : Bool
  len : Nat
  staged : Nat
  mosi : Memory
  miso : Memory
  since : Nat
  polls : Nat
  fetched : Nat

/-- What a controller does on its own: the words read from DESC_STS in their order,
and, by the number of commands before, the word DESC_CMD reads as and what the next
command leaves in the MISO buffer. -/
structure SpiScript where
  statuses : Nat → BitVec 32
  readBack : Nat → BitVec 32
  incoming : Nat → Memory

/-- The data buffers, what happened since the last command, and all commands, the
last of them first. -/
structure SpiJournal where
  mosi : Memory
  miso : Memory
  cleared : Bool
  staged : Nat
  polled : Nat
  log : List SpiCommand

/-- The length that DATA_LEN encodes; zero encodes a full chunk. -/
def dataLen (val : BitVec 32) : Nat :=
  let code := val.extractLsb' 8 9
  if code = 0 then fbiobSpiMaxXferLen else code.toNat

namespace SpiCommand

/-- The bytes that were put in the MOSI buffer for the command. -/
def sent (command : SpiCommand) : List (BitVec 8) :=
  command.mosi.bytes 0 (min command.len (fbiobIoSize * command.staged))

/-- The bytes that were taken from the MISO buffer after the command. -/
def received (command : SpiCommand) : List (BitVec 8) :=
  command.miso.bytes 0 (min command.len (fbiobIoSize * command.fetched))

end SpiCommand

namespace SpiJournal

/-- Nothing has happened yet. -/
def initial (mosi miso : Memory) : SpiJournal := ⟨mosi, miso, false, 0, 0, []⟩

/-- At first nothing is staged. -/
theorem initial_staged (mosi miso : Memory) : (initial mosi miso).staged = 0 := rfl

/-- The commands in their order. -/
def commands (s : SpiJournal) : List SpiCommand := s.log.reverse

def clear (s : SpiJournal) : SpiJournal := { s with cleared := true }

/-- `count` words were written to the MOSI buffer since the last command. -/
def stage (s : SpiJournal) (count : Nat) (page : Memory) : SpiJournal :=
  { s with mosi := page, staged := count }

/-- The status was read `count` times. -/
def poll (s : SpiJournal) (count : Nat) : SpiJournal :=
  { s with
    polled := s.polled + count
    log := s.log.modifyHead fun last => { last with polls := last.polls + count } }

/-- `count` words were read from the MISO buffer since the last command. -/
def fetch (s : SpiJournal) (count : Nat) : SpiJournal :=
  { s with log := s.log.modifyHead fun last => { last with fetched := last.fetched + count } }

/-- A command is triggered. -/
def issue (script : SpiScript) (s : SpiJournal) (len : Nat) : SpiJournal :=
  let miso := script.incoming s.log.length
  { s with
    miso := miso
    cleared := false
    staged := 0
    log := ⟨s.cleared, len, s.staged, s.mosi, miso, s.polled, 0, 0⟩ :: s.log }

/-- Polls add up. -/
@[simp] theorem poll_polled (s : SpiJournal) (count : Nat) :
    (s.poll count).polled = s.polled + count := rfl

/-- No poll changes nothing. -/
theorem poll_zero (s : SpiJournal) : s.poll 0 = s := by
  obtain ⟨mosi, miso, cleared, staged, polled, log⟩ := s
  cases log <;> rfl

/-- Polls in a row add up. -/
theorem poll_poll (s : SpiJournal) (first second : Nat) :
    (s.poll first).poll second = s.poll (first + second) := by
  obtain ⟨mosi, miso, cleared, staged, polled, log⟩ := s
  cases log with
  | nil => simp [poll, Nat.add_assoc]
  | cons last rest => simp [poll, Nat.add_assoc]

/-- No fetched word changes nothing. -/
theorem fetch_zero (s : SpiJournal) : s.fetch 0 = s := by
  obtain ⟨mosi, miso, cleared, staged, polled, log⟩ := s
  cases log <;> rfl

/-- Fetched words in a row add up. -/
theorem fetch_fetch (s : SpiJournal) (first second : Nat) :
    (s.fetch first).fetch second = s.fetch (first + second) := by
  obtain ⟨mosi, miso, cleared, staged, polled, log⟩ := s
  cases log with
  | nil => rfl
  | cons last rest => simp [fetch, Nat.add_assoc]

/-- A command that was polled for `count` times is the last one of the log. -/
theorem issue_poll_log (script : SpiScript) (s : SpiJournal) (len count : Nat) :
    ((s.issue script len).poll count).log = ⟨s.cleared, len, s.staged, s.mosi,
      script.incoming s.log.length, s.polled, count, 0⟩ :: s.log := by
  simp only [poll, issue, List.modifyHead_cons, Nat.zero_add]

/-- What is fetched after the last command is noted with it. -/
theorem fetch_log (s : SpiJournal) (count : Nat) {last : SpiCommand} {rest : List SpiCommand}
    (log : s.log = last :: rest) :
    (s.fetch count).log = { last with fetched := last.fetched + count } :: rest := by
  simp only [fetch, log, List.modifyHead_cons]

end SpiJournal

/-- A write to DESC_CMD triggers a command if it sets VALID; a write to DESC_STS
clears the status if it sets both of its bits. -/
def spiController (script : SpiScript) : Device SpiOp SpiOp.Reply SpiJournal
  | .csr (.readl offset), s =>
      if offset = fbiobSpiRegDescSts then (script.statuses s.polled, s.poll 1)
      else (script.readBack s.log.length, s)
  | .csr (.writel offset val), s =>
      ((), if offset = fbiobSpiRegDescCmd ∧ val &&& fbiobSpiDescBitValid ≠ 0 then
          s.issue script (dataLen val)
        else if offset = fbiobSpiRegDescSts ∧ val &&& clearSts = clearSts then s.clear
        else s)
  | .iobuf (.readl offset), s => (s.miso.load32 (offset - fbiobSpiMisoBufOffset), s.fetch 1)
  | .iobuf (.writel offset val), s => ((), s.stage (s.staged + 1) (s.mosi.store32 offset val))

def fbiobSpiIobufSize : Nat := 0x400

/-- MOSI accesses are below the MISO buffer, and MISO accesses inside it. -/
def InsideBuffers : SpiOp → SpiJournal → Prop
  | .csr _, _ => True
  | .iobuf (.readl offset), _ => fbiobSpiMisoBufOffset ≤ offset ∧ offset + 4 ≤ fbiobSpiIobufSize
  | .iobuf (.writel offset _), _ => offset + 4 ≤ fbiobSpiMisoBufOffset

/-! ## The steps of a command -/

/-- A command sets the length it is given.

Proof: the field of the length holds the number bit for bit, or zero for a full
buffer. -/
theorem send_cmd_val_len (val : BitVec 32) {xferLen : Nat} (some : 0 < xferLen)
    (fits : xferLen ≤ fbiobSpiMaxXferLen) : dataLen (sendCmdVal val xferLen) = xferLen := by
  have code : (sendCmdVal val xferLen).extractLsb' 8 9 =
      if xferLen ≠ fbiobSpiMaxXferLen then BitVec.ofNat 9 xferLen else 0 := by
    apply BitVec.eq_of_getLsbD_eq
    intro i inside
    have masked : fbiobSpiDescDataLenMask.getLsbD (8 + i) = true := by
      rw [fbiobSpiDescDataLenMask, genmask32_bit _ _ _ (by omega)]
      simp only [Bool.and_eq_true, decide_eq_true_eq]
      omega
    rw [BitVec.getLsbD_extractLsb', sendCmdVal]
    split
    · have word : 8 + i < 32 := by omega
      have shifted : ¬8 + i < 8 := by omega
      simp only [BitVec.getLsbD_or, BitVec.getLsbD_and, BitVec.getLsbD_not,
        BitVec.getLsbD_shiftLeft, BitVec.getLsbD_ofNat, masked, inside, word, shifted, decide_true,
        decide_false, Nat.add_sub_cancel_left, Bool.not_true, Bool.not_false, Bool.and_false,
        Bool.and_true, Bool.true_and, Bool.false_or]
      simp only [show i < 32 by omega, decide_true, Bool.true_and]
    · simp only [BitVec.getLsbD_and, BitVec.getLsbD_not, masked, Bool.not_true, Bool.and_false,
        BitVec.ofNat_eq_ofNat, BitVec.getLsbD_zero]
  unfold dataLen
  rw [code]
  by_cases full : xferLen = fbiobSpiMaxXferLen
  · simp [full]
  · have small : xferLen < 2 ^ 9 := by
      simp only [fbiobSpiMaxXferLen] at fits full
      omega
    have nonzero : BitVec.ofNat 9 xferLen ≠ 0 := by
      intro zero
      have value := congrArg BitVec.toNat zero
      simp only [BitVec.toNat_ofNat, Nat.mod_eq_of_lt small, BitVec.ofNat_eq_ofNat,
        Nat.zero_mod] at value
      omega
    simp only [ne_eq, full, not_false_eq_true, if_true, nonzero, if_false, BitVec.toNat_ofNat,
      Nat.mod_eq_of_lt small]

/-- A command sets VALID. -/
theorem send_cmd_val_valid (val : BitVec 32) (xferLen : Nat) :
    sendCmdVal val xferLen &&& fbiobSpiDescBitValid ≠ 0 := by
  intro unset
  have top := congrArg (BitVec.getLsbD · 31) unset
  have others : fbiobSpiDescDataLenMask.getLsbD 31 = false ∧
      fbiobSpiDescBitErrInt.getLsbD 31 = false ∧ fbiobSpiDescBitDoneInt.getLsbD 31 = false ∧
      fbiobSpiDescBitValid.getLsbD 31 = true := by decide
  obtain ⟨length, error, finished, valid⟩ := others
  have inside : 31 < 32 := by decide
  unfold sendCmdVal at top
  split at top
  · simp only [BitVec.getLsbD_or, BitVec.getLsbD_and, BitVec.getLsbD_not, length, error, finished,
      valid, inside, decide_true, Bool.or_true, Bool.or_false, Bool.not_false, Bool.and_true,
      Bool.and_false, BitVec.ofNat_eq_ofNat, BitVec.getLsbD_zero] at top
    exact Bool.noConfusion top
  · simp only [BitVec.getLsbD_or, BitVec.getLsbD_and, BitVec.getLsbD_not, length, error, finished,
      valid, inside, decide_true, Bool.or_true, Bool.or_false, Bool.not_false, Bool.and_true,
      BitVec.ofNat_eq_ofNat, BitVec.getLsbD_zero] at top
    exact Bool.noConfusion top

section Steps

variable (script : SpiScript) (s : SpiJournal)

/-- A read of DESC_STS is one poll, and answers the next status of the script. -/
theorem controller_polled :
    spiController script (.csr (.readl fbiobSpiRegDescSts)) s =
      (script.statuses s.polled, s.poll 1) := by
  simp [spiController]

/-- A read of DESC_CMD answers what the script shows for the number of commands so
far. -/
theorem controller_read_back :
    spiController script (.csr (.readl fbiobSpiRegDescCmd)) s =
      (script.readBack s.log.length, s) := by
  have elsewhere : fbiobSpiRegDescCmd ≠ fbiobSpiRegDescSts := by decide
  simp [spiController, elsewhere]

/-- Writing the status back is noted for the next command. -/
theorem controller_cleared :
    spiController script (.csr (.writel fbiobSpiRegDescSts clearSts)) s = ((), s.clear) := by
  have elsewhere : fbiobSpiRegDescSts ≠ fbiobSpiRegDescCmd := by decide
  simp [spiController, elsewhere]

/-- A write of DESC_CMD with the valid bit issues a command of the length in it. -/
theorem controller_issued {val : BitVec 32} (valid : val &&& fbiobSpiDescBitValid ≠ 0) :
    spiController script (.csr (.writel fbiobSpiRegDescCmd val)) s =
      ((), s.issue script (dataLen val)) := by
  have triggered : ¬val &&& fbiobSpiDescBitValid = 0#32 := valid
  simp [spiController, triggered]

/-- `fbiob_spi_send_cmd` issues one command of its length. -/
theorem send_cmd_issues {xferLen : Nat} (some : 0 < xferLen) (fits : xferLen ≤ fbiobSpiMaxXferLen) :
    (fbiobSpiSendCmd xferLen).Wp (spiController script) InsideBuffers
      (fun ret after => ret = 0 ∧ after = s.issue script xferLen) s := by
  refine ⟨trivial, trivial, rfl, ?_⟩
  rw [controller_read_back, controller_issued script s (send_cmd_val_valid _ _),
    send_cmd_val_len _ some fits]

/-- The driver writes the status back. -/
theorem clear_sts_clears :
    (spiCsrWrite fbiobSpiRegDescSts clearSts).Wp (spiController script) InsideBuffers
      (fun _ after => after = s.clear) s := by
  refine ⟨trivial, ?_⟩
  rw [controller_cleared]
  rfl

/-- Copying to the MOSI buffer stages the words of the copy. -/
theorem iobuf_write_stages (data : Memory) {size : Nat} (fits : size ≤ fbiobSpiMaxXferLen) :
    (spiIobufWrite data size).Wp (spiController script) InsideBuffers
      (fun _ after => after = s.stage (s.staged + wordsOf size) (padded s.mosi data size)) s := by
  apply Program.wp_embed.mpr
  have stored : StoresWords (fun op now => spiController script (.iobuf op) now)
      fbiobSpiMosiBufOffset size fun count page => s.stage count page := by
    intro offset inside count page val
    simp only [spiController, fbiobSpiMosiBufOffset, Nat.zero_add, SpiJournal.stage]
  have countable : size < 2 ^ 34 := Nat.lt_of_le_of_lt fits (by decide)
  apply (bulk_write_aligned _ data size).allows _
    (bulk_write_counted stored s.staged s.mosi data countable)
  rintro op now ⟨word, val, rfl, inside⟩
  simp only [InsideBuffers, fbiobSpiMosiBufOffset, fbiobSpiMisoBufOffset, fbiobSpiMaxXferLen] at *
  omega

/-- Copying from the MISO buffer fetches the words of the copy. -/
theorem iobuf_read_fetches (data : Memory) {size : Nat} (fits : size ≤ fbiobSpiMaxXferLen) :
    (spiIobufRead data size).Wp (spiController script) InsideBuffers
      (fun read after => read = data.memcpy 0 s.miso 0 size ∧ after = s.fetch (wordsOf size)) s := by
  apply Program.wp_embed.mpr
  have shown : ShowsWords (fun op now => spiController script (.iobuf op) now)
      fbiobSpiMisoBufOffset size s.miso fun count => s.fetch count := by
    intro offset inside count
    simp only [spiController, Nat.add_sub_cancel_left, SpiJournal.fetch_fetch]
    rfl
  have countable : size < 2 ^ 34 := Nat.lt_of_le_of_lt fits (by decide)
  have inside : ∀ op now, ReadsWord fbiobSpiMisoBufOffset size op →
      InsideBuffers (.iobuf op) now := by
    rintro op now ⟨word, rfl, small⟩
    simp only [InsideBuffers, fbiobSpiMisoBufOffset, fbiobSpiMaxXferLen, fbiobSpiIobufSize] at *
    omega
  have copied := (bulk_read_aligned fbiobSpiMisoBufOffset data size).allows inside
    (bulk_read_counted shown 0 data countable)
  rwa [Nat.zero_add, s.fetch_zero] at copied

/-! ## The end of a command -/

/-- The precondition of a status read. -/
theorem wp_status {α : Type} (continuation : BitVec 32 → SpiIo α) (post : α → SpiJournal → Prop) :
    (spiCsrRead fbiobSpiRegDescSts >>= continuation).Wp (spiController script) InsideBuffers post s ↔
      (continuation (script.statuses s.polled)).Wp (spiController script) InsideBuffers post
        (s.poll 1) := by
  refine Iff.trans (and_iff_right trivial) ?_
  rw [controller_polled]
  rfl

/-- Polling goes on over the status words that end no command. -/
theorem wait_pending {post : Int → SpiJournal → Prop} {count retry : Nat}
    (enough : count ≤ retry) (pending : ∀ i < count, Pending (script.statuses (s.polled + i)))
    (later : (waitTillXferDoneLoop (retry - count)).Wp (spiController script) InsideBuffers post
      (s.poll count)) :
    (waitTillXferDoneLoop retry).Wp (spiController script) InsideBuffers post s := by
  induction count generalizing retry s with
  | zero => rwa [s.poll_zero] at later
  | succ count inductionHypothesis =>
    obtain ⟨retry, rfl⟩ : ∃ before, retry = before + 1 := ⟨retry - 1, by omega⟩
    obtain ⟨error, finished⟩ := pending 0 (by omega)
    rw [Nat.add_zero] at error finished
    rw [waitTillXferDoneLoop, wp_status, if_neg (not_not.mpr error), if_neg (not_not.mpr finished)]
    apply inductionHypothesis (s.poll 1) (by omega)
    · intro i inside
      rw [SpiJournal.poll_polled, Nat.add_assoc, Nat.add_comm 1 i]
      exact pending (i + 1) (by omega)
    · rwa [SpiJournal.poll_poll, Nat.add_comm 1 count, ← Nat.add_sub_add_right retry 1 count]

/-- Polling reads all status words up to the last, which decides how it ends. -/
theorem wait_last {post : Int → SpiJournal → Prop} {stop : Nat}
    (polled : PolledTo script.statuses s.polled stop)
    (last : (if script.statuses (stop - 1) &&& fbiobSpiDescErrIntSts ≠ 0 then pure (-eio)
      else if script.statuses (stop - 1) &&& fbiobSpiDescDoneIntSts ≠ 0 then pure 0
      else match s.polled + pollBudget - stop with
        | 0 => pure (-etimedout)
        | retry + 1 => waitTillXferDoneLoop retry : SpiIo Int).Wp (spiController script)
      InsideBuffers post (s.poll (stop - s.polled))) :
    waitTillXferDone.Wp (spiController script) InsideBuffers post s := by
  obtain ⟨started, bounded, pending⟩ := polled
  simp only [pollBudget] at bounded last
  have enough : stop - 1 - s.polled ≤ 30 := by omega
  apply wait_pending script s enough (fun i inside => pending _ (by omega) (by omega))
  have left : 30 - (stop - 1 - s.polled) = s.polled + 31 - stop := by omega
  have position : s.polled + (stop - 1 - s.polled) = stop - 1 := by omega
  have count : stop - 1 - s.polled + 1 = stop - s.polled := by omega
  unfold waitTillXferDoneLoop
  rwa [wp_status, SpiJournal.poll_polled, position, SpiJournal.poll_poll, count, left]

/-- The command completes: all status words up to the last are read. -/
theorem wait_completed {stop : Nat} (completed : CompletedAt script.statuses s.polled stop) :
    waitTillXferDone.Wp (spiController script) InsideBuffers
      (fun ret after => ret = 0 ∧ after = s.poll (stop - s.polled)) s := by
  obtain ⟨polled, error, finished⟩ := completed
  apply wait_last script s polled
  rw [if_neg (not_not.mpr error), if_pos finished]
  exact ⟨rfl, rfl⟩

/-- The command fails: all status words up to the last are read. -/
theorem wait_failed {stop : Nat} (failed : FailedAt script.statuses s.polled stop) :
    waitTillXferDone.Wp (spiController script) InsideBuffers
      (fun ret after => ret < 0 ∧ after = s.poll (stop - s.polled)) s := by
  obtain ⟨polled, ends⟩ := failed
  apply wait_last script s polled
  obtain error | ⟨exhausted, error, finished⟩ := ends
  · rw [if_pos error]
    exact ⟨by decide, rfl⟩
  · rw [if_neg (not_not.mpr error), if_neg (not_not.mpr finished), exhausted, Nat.sub_self]
    exact ⟨by decide, rfl⟩

end Steps

end FbossBsp.Spi
