import FbossBsp.SpiChunking

/-!
# Failures of an SPI transfer

A transfer first sends its transmit buffer and then fills its receive buffer. Both
phases leave their verdict in one variable, so with both buffers the transfer returns
the verdict of the second. The transmit phase keeps the length in an `int`, so it does
nothing at all from 2^31 bytes on.
-/

namespace FbossBsp.Spi

open Interaction

/-! ## Failing phases -/

/-- A command that fails does not complete. -/
theorem FailedAt.not_completed {statuses : Nat → BitVec 32} {start stop : Nat}
    (failed : FailedAt statuses start stop) : ¬CompletedAt statuses start stop := by
  rintro ⟨_, error, finished⟩
  obtain ⟨_, faulty | ⟨_, _, unfinished⟩⟩ := failed
  · exact faulty error
  · exact finished unfinished

section Phases

variable {script : SpiScript}

/-- The command of a failed wait did not complete. -/
theorem Issued.failed {s after : SpiJournal} {command : SpiCommand} {stop : Nat}
    (issued : Issued s after command) (polls : command.polls = stop - s.polled)
    (failed : FailedAt script.statuses s.polled stop) :
    ¬command.Completed script ∧ after.polled = stop := by
  have started := failed.1.1
  have whole : s.polled + command.polls = stop := by omega
  rw [SpiCommand.Completed, issued.since, issued.polled, whole]
  exact ⟨failed.not_completed, rfl⟩

/-- Where a chunk fails, the transmit loop ends with an error, and the command of the
chunk is in the journal. -/
theorem tx_loop_fails {s : SpiJournal} (txbuf : Memory) {xferLen before middle stop : Nat}
    (staged : s.staged = 0) (inside : before < chunkCount xferLen)
    (complete : Complete script.statuses s.polled before middle)
    (failed : FailedAt script.statuses middle stop) :
    (fbiobSpiXferTxLoop txbuf xferLen).Wp (spiController script) InsideBuffers
      (fun ret after => ret < 0 ∧ after.polled = stop ∧ after.staged = 0 ∧
        ∃ command ∈ after.commands, ¬command.Completed script) s := by
  apply tx_loop_runs staged (Nat.le_of_lt inside) complete
  intro now added ran _ polled
  have left : xferLen - chunked before xferLen ≠ 0 := Nat.sub_ne_zero_of_lt (chunked_before inside)
  have some : 0 < min (xferLen - chunked before xferLen) fbiobSpiMaxXferLen := by
    simp only [fbiobSpiMaxXferLen]
    omega
  rw [← polled] at failed
  rw [fbiobSpiXferTxLoop, if_neg left]
  apply Program.Wp.seq (tx_chunk_failed script now some (Nat.min_le_right _ _) ran.staged failed)
  rintro ret after ⟨negative, issued⟩
  rw [if_pos negative]
  obtain ⟨unfinished, position⟩ := issued.failed rfl failed
  refine ⟨negative, position, issued.staged, _, ?_, unfinished⟩
  rw [SpiJournal.commands, issued.log]
  exact List.mem_reverse.mpr List.mem_cons_self

/-- Where a chunk fails, so does the transmit phase of a buffer below 2^31 bytes. -/
theorem xfer_tx_fails {s : SpiJournal} (txbuf : Memory) {len : BitVec 32}
    {before middle stop : Nat} (bounded : len.toNat < 2 ^ 31) (staged : s.staged = 0)
    (inside : before < chunkCount len.toNat)
    (complete : Complete script.statuses s.polled before middle)
    (failed : FailedAt script.statuses middle stop) :
    (fbiobSpiXferTx txbuf len).Wp (spiController script) InsideBuffers
      (fun ret after => ret < 0 ∧ after.polled = stop ∧ after.staged = 0 ∧
        ∃ command ∈ after.commands, ¬command.Completed script) s := by
  rw [xfer_tx_eq txbuf bounded]
  exact tx_loop_fails txbuf staged inside complete failed

/-- Where a chunk fails, the receive loop ends with an error. -/
theorem rx_loop_fails {s : SpiJournal} (rxBuf : Memory) {len before middle stop : Nat}
    (staged : s.staged = 0) (inside : before < chunkCount len)
    (complete : Complete script.statuses s.polled before middle)
    (failed : FailedAt script.statuses middle stop) :
    (fbiobSpiXferRxLoop rxBuf len 0).Wp (spiController script) InsideBuffers
      (fun outcome _ => outcome.1 < 0) s := by
  apply rx_loop_runs staged (Nat.le_of_lt inside) complete
  intro now added filled ran _ _ polled
  rw [Nat.sub_zero, Nat.zero_add] at *
  rw [← polled] at failed
  rw [fbiobSpiXferRxLoop, if_pos (chunked_before inside)]
  apply Program.Wp.seq (clear_sts_clears script now)
  rintro _ _ rfl
  apply Program.Wp.seq (single_rx_failed script now (chunked_before inside) ran.staged failed)
  rintro ⟨ret, received⟩ after ⟨negative, _⟩
  have refused : ret < 0 := negative
  dsimp only
  rw [if_pos refused]
  exact refused

/-- From 2^31 bytes on the length is negative in an `int`, and nothing is done. -/
theorem xfer_tx_skips (txbuf : Memory) {len : BitVec 32} (large : 2 ^ 31 ≤ len.toNat)
    (s : SpiJournal) : (fbiobSpiXferTx txbuf len).Wp (spiController script) InsideBuffers
      (fun ret after => ret = 0 ∧ after = s) s := by
  have negative : len.toInt.toNat = 0 := by
    rw [BitVec.toInt_eq_toNat_cond, if_neg (by omega), Int.toNat_eq_zero]
    have word := len.isLt
    omega
  rw [fbiobSpiXferTx, negative, fbiobSpiXferTxLoop, if_pos rfl]
  exact ⟨rfl, rfl⟩

end Phases

/-! ## What success promises -/

/-- Every command completed, and all bytes of each buffer were processed: those of
the transmit buffer were sent, and the receive buffer has those received. -/
structure AllProcessed (script : SpiScript) (xfer result : SpiTransfer)
    (commands : List SpiCommand) : Prop where
  completed : ∀ command ∈ commands, command.Completed script
  transmitted : ∀ txbuf, xfer.txBuf = some txbuf →
    commands.flatMap SpiCommand.sent = txbuf.bytes 0 xfer.len.toNat
  received : ∀ rxBuf, xfer.rxBuf = some rxBuf → ∃ filled, result.rxBuf = some filled ∧
    filled.bytes 0 xfer.len.toNat = commands.flatMap SpiCommand.received

/-- A transfer returns zero only if no command failed and no byte was left out. -/
def ReportsFailures (script : SpiScript) (mosi miso : Memory) (ret : Int) (xfer : SpiTransfer) :
    Prop :=
  let device := spiController script
  let start := SpiJournal.initial mosi miso
  ((fbiobSpiXferOne ret xfer).result device start).1 = 0 →
    AllProcessed script xfer ((fbiobSpiXferOne ret xfer).result device start).2
      ((fbiobSpiXferOne ret xfer).final device start).commands

/-- On these status words a transmit command fails, and after it as many commands
complete as there are chunks to receive. -/
def Overwritten (statuses : Nat → BitVec 32) (chunks : Nat) : Prop :=
  ∃ before < chunks, ∃ middle failed stop, Complete statuses 0 before middle ∧
    FailedAt statuses middle failed ∧ Complete statuses failed chunks stop

/-- The failure or the omission of the transmit phase does not show: the receive
phase, if there is one, succeeds. -/
def TransmitLost (statuses : Nat → BitVec 32) (xfer : SpiTransfer) : Prop :=
  let chunks := chunkCount xfer.len.toNat
  xfer.txBuf.isSome ∧
    if xfer.len.toNat < 2 ^ 31 then xfer.rxBuf.isSome ∧ Overwritten statuses chunks
    else xfer.rxBuf.isSome → ∃ stop, Complete statuses 0 chunks stop

section Transfers

variable {script : SpiScript} {mosi miso : Memory} {ret : Int} {len : BitVec 32}

/-- What every run ends with decides what it reports. -/
theorem reports_of_wp {xfer : SpiTransfer}
    (run : (fbiobSpiXferOne ret xfer).Wp (spiController script) InsideBuffers
      (fun outcome after => outcome.1 = 0 → AllProcessed script xfer outcome.2 after.commands)
      (SpiJournal.initial mosi miso)) : ReportsFailures script mosi miso ret xfer :=
  run.outcome

/-- A run that returns 0 without having processed everything hides a failure. -/
theorem hides_of_wp {xfer : SpiTransfer}
    (run : (fbiobSpiXferOne ret xfer).Wp (spiController script) InsideBuffers
      (fun outcome after => outcome.1 = 0 ∧ ¬AllProcessed script xfer outcome.2 after.commands)
      (SpiJournal.initial mosi miso)) : ¬ReportsFailures script mosi miso ret xfer := by
  obtain ⟨succeeds, missing⟩ := run.outcome
  exact fun reports => missing (reports succeeds)

/-- The receive phase of a transfer. -/
def receivePhase (xfer : SpiTransfer) (rxBuf : Memory) : SpiIo (Int × SpiTransfer) := do
  let outcome ← fbiobSpiXferRx rxBuf xfer.len
  pure (outcome.1, { xfer with rxBuf := some outcome.2 })

/-- The receive phase succeeds where its commands complete, and fills the buffer. -/
theorem receive_completes {s : SpiJournal} (xfer : SpiTransfer) (rxBuf : Memory) {stop : Nat}
    (staged : s.staged = 0)
    (complete : Complete script.statuses s.polled (chunkCount xfer.len.toNat) stop) :
    (receivePhase xfer rxBuf).Wp (spiController script) InsideBuffers
      (fun outcome after => outcome.1 = 0 ∧ ∃ added filled,
        outcome.2.rxBuf = some filled ∧ after.commands = s.commands ++ added ∧
        (∀ command ∈ added, command.Completed script) ∧
        Receives added (Memory.bytes filled 0 xfer.len.toNat)) s := by
  apply Program.Wp.seq (rx_loop_completes rxBuf staged complete)
  rintro ⟨_, filled⟩ after ⟨rfl, _, added, ran, receives, _⟩
  exact ⟨rfl, added, filled, rfl, ran.commands, ran.completed, receives⟩

/-- The receive phase fails where one of its commands does. -/
theorem receive_fails {s : SpiJournal} (xfer : SpiTransfer) (rxBuf : Memory)
    (staged : s.staged = 0)
    (fails : ¬∃ stop, Complete script.statuses s.polled (chunkCount xfer.len.toNat) stop) :
    (receivePhase xfer rxBuf).Wp (spiController script) InsideBuffers
      (fun outcome _ => outcome.1 < 0) s := by
  obtain complete | ⟨before, inside, middle, stop, complete, failed⟩ :=
    complete_or_fails script.statuses s.polled (chunkCount xfer.len.toNat)
  · exact absurd complete fails
  · apply Program.Wp.seq (rx_loop_fails rxBuf staged inside complete failed)
    exact fun outcome after negative => negative

/-- A receive phase reports its own failures, after commands that completed. -/
theorem receive_reports {s : SpiJournal} (xfer : SpiTransfer) (rxBuf : Memory)
    (staged : s.staged = 0)
    (completed : ∀ command ∈ s.commands, command.Completed script)
    (transmitted : ∀ txbuf, xfer.txBuf = some txbuf →
      s.commands.flatMap SpiCommand.sent = txbuf.bytes 0 xfer.len.toNat)
    (unread : s.commands.flatMap SpiCommand.received = []) :
    (receivePhase xfer rxBuf).Wp (spiController script) InsideBuffers
      (fun outcome after => outcome.1 = 0 → AllProcessed script xfer outcome.2 after.commands)
      s := by
  by_cases complete : ∃ stop, Complete script.statuses s.polled (chunkCount xfer.len.toNat) stop
  · obtain ⟨stop, complete⟩ := complete
    apply (receive_completes xfer rxBuf staged complete).weaken
    rintro outcome after ⟨_, added, filled, kept, commands, done, receives⟩ _
    rw [commands]
    constructor
    · exact fun command member => (List.mem_append.mp member).elim (completed command) (done command)
    · intro txbuf present
      rw [List.flatMap_append, receives.sent, List.append_nil, transmitted txbuf present]
    · intro _ _
      rw [List.flatMap_append, unread, List.nil_append, receives.received]
      exact ⟨filled, kept, rfl⟩
  · apply (receive_fails xfer rxBuf staged complete).weaken
    exact fun outcome after negative zero => absurd zero (Int.ne_of_lt negative)

/-- Without a transmit buffer, every failure is reported. -/
theorem receive_only_reports (rxBuf : Option Memory) :
    ReportsFailures script mosi miso ret ⟨none, rxBuf, len⟩ := by
  apply reports_of_wp
  cases rxBuf with
  | none =>
    intro _
    constructor
    · exact fun _ absent => nomatch absent
    · exact fun _ absent => nomatch absent
    · exact fun _ absent => nomatch absent
  | some rxBuf =>
    have started := SpiJournal.initial_staged mosi miso
    exact receive_reports ⟨none, some rxBuf, len⟩ rxBuf started
      (fun _ absent => nomatch absent) (fun _ absent => nomatch absent) rfl

/-- A transmit phase of less than 2^31 bytes reports its failures unless the receive
phase overwrites them. -/
theorem transmit_reports {txbuf : Memory} {rxBuf : Option Memory} (bounded : len.toNat < 2 ^ 31)
    (kept : ¬(rxBuf.isSome ∧ Overwritten script.statuses (chunkCount len.toNat))) :
    ReportsFailures script mosi miso ret ⟨some txbuf, rxBuf, len⟩ := by
  have started := SpiJournal.initial_staged mosi miso
  apply reports_of_wp
  obtain ⟨stop, complete⟩ | ⟨before, inside, middle, stop, complete, failed⟩ :=
    complete_or_fails script.statuses 0 (chunkCount len.toNat)
  · apply Program.Wp.seq (xfer_tx_completes txbuf bounded started complete)
    rintro _ after ⟨rfl, _, added, ran, sends⟩
    have all : after.commands = added := ran.commands
    have completed := ran.completed
    rw [← all] at completed sends
    have transmitted (buf : Memory) (same : some txbuf = some buf) :
        after.commands.flatMap SpiCommand.sent = buf.bytes 0 len.toNat := by
      rw [← Option.some.inj same]
      exact sends.sent
    cases rxBuf with
    | none =>
      intro _
      exact ⟨completed, transmitted, fun _ absent => nomatch absent⟩
    | some rxBuf =>
      exact receive_reports ⟨some txbuf, some rxBuf, len⟩ rxBuf ran.staged completed
        transmitted sends.received
  · apply Program.Wp.seq (xfer_tx_fails txbuf bounded started inside complete failed)
    rintro ret after ⟨negative, position, unstaged, _⟩
    cases rxBuf with
    | none => exact fun zero => absurd zero (Int.ne_of_lt negative)
    | some rxBuf =>
      have fails : ¬∃ last, Complete script.statuses after.polled (chunkCount len.toNat) last := by
        rw [position]
        rintro ⟨last, rest⟩
        exact kept ⟨rfl, before, inside, middle, stop, last, complete, failed, rest⟩
      apply (receive_fails ⟨some txbuf, some rxBuf, len⟩ rxBuf unstaged fails).weaken
      exact fun outcome _ refused zero => absurd zero (Int.ne_of_lt refused)

/-- A receive phase that completes overwrites the failure of the transmit phase. -/
theorem overwritten_hides {txbuf rxBuf : Memory} (bounded : len.toNat < 2 ^ 31)
    (overwritten : Overwritten script.statuses (chunkCount len.toNat)) :
    ¬ReportsFailures script mosi miso ret ⟨some txbuf, some rxBuf, len⟩ := by
  have started := SpiJournal.initial_staged mosi miso
  obtain ⟨before, inside, middle, failed, stop, complete, fails, rest⟩ := overwritten
  apply hides_of_wp
  apply Program.Wp.seq (xfer_tx_fails txbuf bounded started inside complete fails)
  rintro _ after ⟨_, position, unstaged, command, member, unfinished⟩
  rw [← position] at rest
  apply (receive_completes ⟨some txbuf, some rxBuf, len⟩ rxBuf unstaged rest).weaken
  rintro outcome last ⟨zero, added, _, _, commands, _⟩
  refine ⟨zero, fun processed => unfinished (processed.completed command ?_)⟩
  rw [commands]
  exact List.mem_append_left added member

/-- From 2^31 bytes on, nothing is sent; only a failing receive phase shows it. -/
theorem large_reports {txbuf rxBuf : Memory} (large : 2 ^ 31 ≤ len.toNat)
    (fails : ¬∃ stop, Complete script.statuses 0 (chunkCount len.toNat) stop) :
    ReportsFailures script mosi miso ret ⟨some txbuf, some rxBuf, len⟩ := by
  have started := SpiJournal.initial_staged mosi miso
  apply reports_of_wp
  apply Program.Wp.seq (xfer_tx_skips txbuf large (SpiJournal.initial mosi miso))
  rintro _ _ ⟨rfl, rfl⟩
  apply (receive_fails ⟨some txbuf, some rxBuf, len⟩ rxBuf started fails).weaken
  exact fun outcome _ refused zero => absurd zero (Int.ne_of_lt refused)

/-- From 2^31 bytes on, a transfer that succeeds has not sent its buffer. -/
theorem large_hides {txbuf : Memory} {rxBuf : Option Memory} (large : 2 ^ 31 ≤ len.toNat)
    (completes : rxBuf.isSome → ∃ stop, Complete script.statuses 0 (chunkCount len.toNat) stop) :
    ¬ReportsFailures script mosi miso ret ⟨some txbuf, rxBuf, len⟩ := by
  have started := SpiJournal.initial_staged mosi miso
  have unsent (bytes : List (BitVec 8)) (none : bytes = []) :
      bytes ≠ txbuf.bytes 0 len.toNat := by
    rintro rfl
    have length := congrArg List.length none
    simp only [Memory.bytes, List.length_map, List.length_range, List.length_nil] at length
    omega
  apply hides_of_wp
  apply Program.Wp.seq (xfer_tx_skips txbuf large (SpiJournal.initial mosi miso))
  rintro _ _ ⟨rfl, rfl⟩
  cases rxBuf with
  | none => exact ⟨rfl, fun processed => unsent [] rfl (processed.transmitted txbuf rfl)⟩
  | some rxBuf =>
    obtain ⟨stop, complete⟩ := completes rfl
    apply (receive_completes ⟨some txbuf, some rxBuf, len⟩ rxBuf started complete).weaken
    rintro outcome last ⟨zero, added, _, _, commands, _, receives⟩
    refine ⟨zero, fun processed => unsent _ ?_ (processed.transmitted txbuf rfl)⟩
    rw [commands, List.flatMap_append, receives.sent]
    rfl

end Transfers

/-- A transfer returns zero only if every command completed and all bytes of its
buffers were processed, exactly when its transmit phase is not lost: no failure of it
is overwritten, and it is not skipped before a receive phase that succeeds or is not
there. This holds for every length and every sequence of status words. -/
theorem failures_reported_iff (script : SpiScript) (mosi miso : Memory) (ret : Int)
    (xfer : SpiTransfer) :
    ReportsFailures script mosi miso ret xfer ↔ ¬TransmitLost script.statuses xfer := by
  obtain ⟨txBuf, rxBuf, len⟩ := xfer
  cases txBuf with
  | none => exact iff_of_true (receive_only_reports rxBuf) fun lost => nomatch lost.1
  | some txbuf =>
    by_cases bounded : len.toNat < 2 ^ 31
    · have lost : TransmitLost script.statuses ⟨some txbuf, rxBuf, len⟩ ↔
          rxBuf.isSome ∧ Overwritten script.statuses (chunkCount len.toNat) := by
        simp only [TransmitLost, Option.isSome_some, true_and, if_pos bounded]
      rw [lost]
      refine ⟨fun reports overwritten => ?_, transmit_reports bounded⟩
      obtain ⟨supplied, overwritten⟩ := overwritten
      obtain ⟨received, rfl⟩ := Option.isSome_iff_exists.mp supplied
      exact overwritten_hides bounded overwritten reports
    · have lost : TransmitLost script.statuses ⟨some txbuf, rxBuf, len⟩ ↔
          (rxBuf.isSome → ∃ stop, Complete script.statuses 0 (chunkCount len.toNat) stop) := by
        simp only [TransmitLost, Option.isSome_some, true_and, if_neg bounded]
      rw [lost]
      have large : 2 ^ 31 ≤ len.toNat := Nat.le_of_not_lt bounded
      refine ⟨fun reports completes => large_hides large completes reports, fun kept => ?_⟩
      obtain ⟨supplied, fails⟩ := Classical.not_imp.mp kept
      obtain ⟨received, rfl⟩ := Option.isSome_iff_exists.mp supplied
      exact large_reports large fails

/-- The first status word has the error bit, all others are done. -/
def failsFirst : SpiScript where
  statuses i := if i = 0 then fbiobSpiDescErrIntSts else fbiobSpiDescDoneIntSts
  readBack _ := 0
  incoming _ _ := 0

/-- A transfer of one byte each way returns zero although its transmit command failed. -/
theorem failed_transmit_overwritten :
    ¬ReportsFailures failsFirst (fun _ => 0) (fun _ => 0) 0
      ⟨some fun _ => 0x9F, some fun _ => 0, 1⟩ := by
  have failed : FailedAt failsFirst.statuses 0 1 :=
    ⟨⟨by decide, by decide, fun i _ upper => by omega⟩, .inl (by decide)⟩
  have prompt (i : Nat) (later : 1 ≤ i) : Succeeds (failsFirst.statuses i) := by
    have positive : i ≠ 0 := by omega
    simp only [failsFirst, positive, if_false]
    exact done_succeeds
  exact overwritten_hides (by decide)
    ⟨0, by decide, 0, 1, _, rfl, failed, complete_of_succeeds prompt _⟩

end FbossBsp.Spi
