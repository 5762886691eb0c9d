import FbossBsp.SpiJournal

/-!
# The chunks of an SPI transfer

Both loops of a transfer run commands while the status words complete them. A
transmit pass moves the buffer pointer and counts down what is left; a receive pass
counts up what it has. Each command of a run is one chunk, and the chunks put
together are the buffer.
-/

namespace FbossBsp.Spi

open Interaction

/-! ## Chunks -/

/-- The number of chunks of `len` bytes. -/
def chunkCount (len : Nat) : Nat := (len + fbiobSpiMaxXferLen - 1) / fbiobSpiMaxXferLen

/-- The lengths of the first `count` chunks of `len` bytes. -/
def chunkLens (count len : Nat) : List Nat :=
  (List.range count).map fun i => min (len - fbiobSpiMaxXferLen * i) fbiobSpiMaxXferLen

/-- What the first `count` chunks of `len` bytes have together. -/
def chunked (count len : Nat) : Nat := min (fbiobSpiMaxXferLen * count) len

/-- The lengths of the chunks, the first one apart. -/
theorem chunk_lens_succ (count len : Nat) :
    chunkLens (count + 1) len =
      min len fbiobSpiMaxXferLen :: chunkLens count (len - min len fbiobSpiMaxXferLen) := by
  simp only [chunkLens, List.range_succ_eq_map, List.map_cons, List.map_map, Nat.mul_zero,
    Nat.sub_zero, Function.comp_def]
  refine congrArg (List.cons _) (List.map_congr_left fun i _ => ?_)
  simp only [fbiobSpiMaxXferLen]
  omega

/-- The length of the chunks together, the first one apart. -/
theorem chunked_succ (count len : Nat) :
    chunked (count + 1) len =
      min len fbiobSpiMaxXferLen + chunked count (len - min len fbiobSpiMaxXferLen) := by
  simp only [chunked, fbiobSpiMaxXferLen]
  omega

/-- All chunks together are the whole. -/
theorem chunked_all (len : Nat) : chunked (chunkCount len) len = len := by
  simp only [chunked, chunkCount, fbiobSpiMaxXferLen]
  omega

/-- Before the last chunk, there is something left. -/
theorem chunked_before {count len : Nat} (before : count < chunkCount len) :
    chunked count len < len := by
  simp only [chunked, chunkCount, fbiobSpiMaxXferLen] at *
  omega

/-! ## Pieces of a buffer -/

/-- A buffer advanced by nothing. -/
theorem advance_zero (memory : Memory) : advance memory 0 = memory := by
  funext i
  simp only [advance, Nat.zero_add]

/-- A buffer advanced twice. -/
theorem advance_advance (memory : Memory) (first second : Nat) :
    advance (advance memory first) second = advance memory (first + second) := by
  funext i
  simp only [advance, Nat.add_assoc]

/-- The bytes of an advanced buffer. -/
theorem advance_bytes (memory : Memory) (offset start size : Nat) :
    (advance memory offset).bytes start size = memory.bytes (offset + start) size := by
  simp only [Memory.bytes, advance, Nat.add_assoc]

/-- Two memories that agree on a range have the same bytes there. -/
theorem bytes_congr {first second : Memory} {start other size : Nat}
    (agree : ∀ i < size, first (start + i) = second (other + i)) :
    first.bytes start size = second.bytes other size := by
  apply List.map_congr_left
  intro i inside
  exact agree i (List.mem_range.mp inside)

/-- Receiving into the buffer from an offset on is a copy to that offset. -/
theorem replaceFrom_copied (memory page : Memory) (offset size : Nat) :
    replaceFrom memory offset ((advance memory offset).memcpy 0 page 0 size) =
      memory.memcpy offset page 0 size := by
  funext i
  simp only [replaceFrom, Memory.memcpy, advance, Nat.zero_add, Nat.zero_le, true_and,
    Nat.sub_zero]
  by_cases before : i < offset
  · rw [if_pos before, if_neg (by omega)]
  · have position : offset + (i - offset) = i := by omega
    rw [if_neg before, position]
    by_cases inside : i - offset < size
    · rw [if_pos inside, if_pos (by omega)]
    · rw [if_neg inside, if_neg (by omega)]

/-! ## Runs of commands -/

namespace SpiCommand

/-- The bytes in the MOSI buffer at the command. -/
def shiftedOut (command : SpiCommand) : List (BitVec 8) := command.mosi.bytes 0 command.len

/-- The bytes in the MISO buffer after the command. -/
def shiftedIn (command : SpiCommand) : List (BitVec 8) := command.miso.bytes 0 command.len

/-- The status words read after the command end with its completion. -/
def Completed (script : SpiScript) (command : SpiCommand) : Prop :=
  CompletedAt script.statuses command.since (command.since + command.polls)

end SpiCommand

/-- The commands send `data`: each had its chunk staged, and nothing was fetched. -/
structure Sends (commands : List SpiCommand) (data : List (BitVec 8)) : Prop where
  shiftedOut : commands.flatMap SpiCommand.shiftedOut = data
  sent : commands.flatMap SpiCommand.sent = data
  received : commands.flatMap SpiCommand.received = []

/-- The commands receive `data`: of each the chunk was fetched, and nothing was staged. -/
structure Receives (commands : List SpiCommand) (data : List (BitVec 8)) : Prop where
  shiftedIn : commands.flatMap SpiCommand.shiftedIn = data
  sent : commands.flatMap SpiCommand.sent = []
  received : commands.flatMap SpiCommand.received = data

/-- No command sends no bytes. -/
theorem Sends.nil : Sends [] [] := ⟨rfl, rfl, rfl⟩

/-- No command receives no bytes. -/
theorem Receives.nil : Receives [] [] := ⟨rfl, rfl, rfl⟩

/-- The bytes of one command, and then those of the others. -/
theorem flat_map_cons {bytesOf : SpiCommand → List (BitVec 8)} {command : SpiCommand}
    {commands : List SpiCommand} {first rest : List (BitVec 8)}
    (chunk : [command].flatMap bytesOf = first) (others : commands.flatMap bytesOf = rest) :
    (command :: commands).flatMap bytesOf = first ++ rest := by
  rw [← List.singleton_append, List.flatMap_append, chunk, others]

/-- The bytes that one command sends, and then those of the others. -/
theorem Sends.cons {command : SpiCommand} {commands : List SpiCommand}
    {first rest : List (BitVec 8)} (chunk : Sends [command] first) (sends : Sends commands rest) :
    Sends (command :: commands) (first ++ rest) where
  shiftedOut := flat_map_cons chunk.shiftedOut sends.shiftedOut
  sent := flat_map_cons chunk.sent sends.sent
  received := flat_map_cons chunk.received sends.received

/-- The bytes that one command receives, and then those of the others. -/
theorem Receives.cons {command : SpiCommand} {commands : List SpiCommand}
    {first rest : List (BitVec 8)} (chunk : Receives [command] first)
    (receives : Receives commands rest) : Receives (command :: commands) (first ++ rest) where
  shiftedIn := flat_map_cons chunk.shiftedIn receives.shiftedIn
  sent := flat_map_cons chunk.sent receives.sent
  received := flat_map_cons chunk.received receives.received

/-- From `s` to `after` the commands `added` were run to completion. Each was given
a cleared status, and they had the lengths `lens`. -/
structure Ran (script : SpiScript) (s after : SpiJournal) (lens : List Nat)
    (added : List SpiCommand) : Prop where
  log : after.log = added.reverse ++ s.log
  staged : after.staged = 0
  lens : added.map SpiCommand.len = lens
  cleared : ∀ command ∈ added, command.cleared = true
  completed : ∀ command ∈ added, command.Completed script

/-- From `s` to `after` one command was issued and polled for. -/
structure Issued (s after : SpiJournal) (command : SpiCommand) : Prop where
  log : after.log = command :: s.log
  staged : after.staged = 0
  since : command.since = s.polled
  polled : after.polled = s.polled + command.polls

/-- No command is run between a state and itself. -/
theorem Ran.nil (script : SpiScript) {s : SpiJournal} (staged : s.staged = 0) :
    Ran script s s [] [] :=
  ⟨rfl, staged, rfl, by simp, by simp⟩

/-- One command, and then others. -/
theorem Ran.cons {script : SpiScript} {s middle after : SpiJournal} {lens : List Nat}
    {command : SpiCommand} {added : List SpiCommand} (issued : Issued s middle command)
    (cleared : command.cleared = true) (completed : command.Completed script)
    (rest : Ran script middle after lens added) :
    Ran script s after (command.len :: lens) (command :: added) where
  log := by simp [rest.log, issued.log]
  staged := rest.staged
  lens := by rw [List.map_cons, rest.lens]
  cleared := List.forall_mem_cons.mpr ⟨cleared, rest.cleared⟩
  completed := List.forall_mem_cons.mpr ⟨completed, rest.completed⟩

/-! ## A transmit pass -/

section Passes

variable (script : SpiScript) (s : SpiJournal)

/-- The command of a transmit pass. -/
def txCommand (txbuf : Memory) (nbytes polls : Nat) : SpiCommand :=
  ⟨true, nbytes, wordsOf nbytes, padded s.mosi txbuf nbytes, script.incoming s.log.length,
    s.polled, polls, 0⟩

/-- The MOSI buffer holds the chunk, and all of it was staged. -/
theorem tx_command_sends (txbuf : Memory) (nbytes polls : Nat) :
    Sends [txCommand script s txbuf nbytes polls] (txbuf.bytes 0 nbytes) := by
  have page : (padded s.mosi txbuf nbytes).bytes 0 nbytes = txbuf.bytes 0 nbytes := by
    apply bytes_congr
    intro i inside
    rw [Nat.zero_add]
    exact padded_copied s.mosi txbuf inside
  constructor
  · simp only [List.flatMap_singleton, SpiCommand.shiftedOut, txCommand, page]
  · simp only [List.flatMap_singleton, SpiCommand.sent, txCommand, words_cover, page]
  · simp [SpiCommand.received, txCommand, Memory.bytes]

/-- A transmit pass issues its command and ends as the wait for it does. -/
theorem tx_chunk_ends {txbuf : Memory} {nbytes count : Nat} {R : Int → Prop} (some : 0 < nbytes)
    (fits : nbytes ≤ fbiobSpiMaxXferLen) (staged : s.staged = 0)
    (ends : ∀ now : SpiJournal, now.polled = s.polled →
      waitTillXferDone.Wp (spiController script) InsideBuffers
        (fun ret after => R ret ∧ after = now.poll count) now) :
    (fbiobSpiXferTxChunk txbuf nbytes).Wp (spiController script) InsideBuffers
      (fun ret after => R ret ∧ Issued s after (txCommand script s txbuf nbytes count)) s := by
  apply Program.Wp.seq (clear_sts_clears script s)
  rintro _ _ rfl
  apply Program.Wp.seq (iobuf_write_stages script s.clear txbuf fits)
  rintro _ _ rfl
  apply Program.Wp.seq (send_cmd_issues script _ some fits)
  rintro _ _ ⟨rfl, rfl⟩
  rw [if_neg (Int.lt_irrefl 0)]
  refine Program.Wp.weaken (ends _ ?_) ?_
  · rfl
  · rintro ret after ⟨verdict, rfl⟩
    refine ⟨verdict, ?_, rfl, rfl, rfl⟩
    have unstaged : s.clear.staged = 0 := staged
    rw [SpiJournal.issue_poll_log, unstaged, Nat.zero_add]
    rfl

/-- The transmit pass of a command that completes. -/
theorem tx_chunk_completed {txbuf : Memory} {nbytes stop : Nat} (some : 0 < nbytes)
    (fits : nbytes ≤ fbiobSpiMaxXferLen) (staged : s.staged = 0)
    (completed : CompletedAt script.statuses s.polled stop) :
    (fbiobSpiXferTxChunk txbuf nbytes).Wp (spiController script) InsideBuffers
      (fun ret after => ret = 0 ∧
        Issued s after (txCommand script s txbuf nbytes (stop - s.polled))) s := by
  apply tx_chunk_ends script s some fits staged
  intro now same
  rw [← same] at completed ⊢
  exact wait_completed script now completed

/-- The transmit pass of a command that fails. -/
theorem tx_chunk_failed {txbuf : Memory} {nbytes stop : Nat} (some : 0 < nbytes)
    (fits : nbytes ≤ fbiobSpiMaxXferLen) (staged : s.staged = 0)
    (failed : FailedAt script.statuses s.polled stop) :
    (fbiobSpiXferTxChunk txbuf nbytes).Wp (spiController script) InsideBuffers
      (fun ret after => ret < 0 ∧
        Issued s after (txCommand script s txbuf nbytes (stop - s.polled))) s := by
  apply tx_chunk_ends script s some fits staged
  intro now same
  rw [← same] at failed ⊢
  exact wait_failed script now failed

/-! ## A receive pass -/

/-- The command of a receive pass. -/
def rxCommand (nrequest polls fetched : Nat) : SpiCommand :=
  ⟨true, nrequest, 0, s.mosi, script.incoming s.log.length, s.polled, polls, fetched⟩

/-- All of the chunk was fetched. -/
theorem rx_command_receives (nrequest polls : Nat) :
    Receives [rxCommand script s nrequest polls (wordsOf nrequest)]
      ((script.incoming s.log.length).bytes 0 nrequest) := by
  constructor
  · simp only [List.flatMap_singleton, SpiCommand.shiftedIn, rxCommand]
  · simp [SpiCommand.sent, rxCommand, Memory.bytes]
  · simp only [List.flatMap_singleton, SpiCommand.received, rxCommand, words_cover]

/-- The receive pass of a command that completes: the chunk is copied to its place. -/
theorem single_rx_completed {rxBuf : Memory} {len rxOffset stop : Nat} (more : rxOffset < len)
    (staged : s.staged = 0) (completed : CompletedAt script.statuses s.polled stop) :
    let nrequest := min (len - rxOffset) fbiobSpiMaxXferLen
    (fbiobSpiXferSingleRx rxBuf len rxOffset).Wp (spiController script) InsideBuffers
      (fun outcome after => outcome =
          ((nrequest : Int), rxBuf.memcpy rxOffset (script.incoming s.log.length) 0 nrequest) ∧
        Issued s after (rxCommand script s nrequest (stop - s.polled) (wordsOf nrequest)))
      s.clear := by
  intro nrequest
  have some : 0 < nrequest := by
    simp only [nrequest, fbiobSpiMaxXferLen]
    omega
  have fits : nrequest ≤ fbiobSpiMaxXferLen := Nat.min_le_right _ _
  apply Program.Wp.seq (send_cmd_issues script s.clear some fits)
  rintro _ _ ⟨rfl, rfl⟩
  rw [if_neg (Int.lt_irrefl 0)]
  apply Program.Wp.seq (wait_completed script (s.clear.issue script nrequest) completed)
  rintro _ _ ⟨rfl, rfl⟩
  rw [if_neg (Int.lt_irrefl 0)]
  apply Program.Wp.seq (iobuf_read_fetches script _ _ fits)
  rintro _ _ ⟨rfl, rfl⟩
  refine ⟨?_, ?_, rfl, rfl, rfl⟩
  · rw [replaceFrom_copied]
    rfl
  · have unstaged : s.clear.staged = 0 := staged
    rw [SpiJournal.fetch_log _ _ (SpiJournal.issue_poll_log _ _ _ _), unstaged, Nat.zero_add]
    rfl

/-- The receive pass of a command that fails. -/
theorem single_rx_failed {rxBuf : Memory} {len rxOffset stop : Nat} (more : rxOffset < len)
    (staged : s.staged = 0) (failed : FailedAt script.statuses s.polled stop) :
    (fbiobSpiXferSingleRx rxBuf len rxOffset).Wp (spiController script) InsideBuffers
      (fun outcome after => outcome.1 < 0 ∧ Issued s after (rxCommand script s
        (min (len - rxOffset) fbiobSpiMaxXferLen) (stop - s.polled) 0)) s.clear := by
  have some : 0 < min (len - rxOffset) fbiobSpiMaxXferLen := by
    simp only [fbiobSpiMaxXferLen]
    omega
  have fits : min (len - rxOffset) fbiobSpiMaxXferLen ≤ fbiobSpiMaxXferLen := Nat.min_le_right _ _
  apply Program.Wp.seq (send_cmd_issues script s.clear some fits)
  rintro _ _ ⟨rfl, rfl⟩
  rw [if_neg (Int.lt_irrefl 0)]
  apply Program.Wp.seq (wait_failed script (s.clear.issue script _) failed)
  rintro ret _ ⟨negative, rfl⟩
  rw [if_pos negative]
  refine ⟨negative, ?_, rfl, rfl, rfl⟩
  have unstaged : s.clear.staged = 0 := staged
  rw [SpiJournal.issue_poll_log, unstaged]
  rfl

end Passes

/-! ## The loops -/

section Loops

variable {script : SpiScript}

/-- The polls of a completed command are those that lead to its end. -/
theorem Issued.completed {s after : SpiJournal} {command : SpiCommand} {stop : Nat}
    (issued : Issued s after command) (polls : command.polls = stop - s.polled)
    (completed : CompletedAt script.statuses s.polled stop) :
    command.Completed script ∧ after.polled = stop := by
  have started := completed.1.1
  have whole : s.polled + command.polls = stop := by omega
  rw [SpiCommand.Completed, issued.since, issued.polled, whole]
  exact ⟨completed, rfl⟩

/-- The transmit loop runs a command for each chunk while the status words complete
them. The induction is on the number of commands, and each pass moves the buffer. -/
theorem tx_loop_runs {s : SpiJournal} {txbuf : Memory} {xferLen count stop : Nat}
    {post : Int → SpiJournal → Prop} (staged : s.staged = 0) (fits : count ≤ chunkCount xferLen)
    (complete : Complete script.statuses s.polled count stop)
    (later : ∀ after added, Ran script s after (chunkLens count xferLen) added →
      Sends added (txbuf.bytes 0 (chunked count xferLen)) → after.polled = stop →
      (fbiobSpiXferTxLoop (advance txbuf (chunked count xferLen))
        (xferLen - chunked count xferLen)).Wp (spiController script) InsideBuffers post after) :
    (fbiobSpiXferTxLoop txbuf xferLen).Wp (spiController script) InsideBuffers post s := by
  induction count generalizing s txbuf xferLen with
  | zero =>
    have start := later s [] (Ran.nil script staged) Sends.nil complete.symm
    simpa only [chunked, Nat.mul_zero, Nat.zero_min, advance_zero, Nat.sub_zero] using start
  | succ count inductionHypothesis =>
    obtain ⟨middle, completed, rest⟩ := complete
    simp only [chunkCount, fbiobSpiMaxXferLen] at fits
    have left : xferLen ≠ 0 := by omega
    have some : 0 < min xferLen fbiobSpiMaxXferLen := by
      simp only [fbiobSpiMaxXferLen]
      omega
    rw [fbiobSpiXferTxLoop, if_neg left]
    apply Program.Wp.seq (tx_chunk_completed script s some (Nat.min_le_right _ _) staged completed)
    rintro _ next ⟨rfl, issued⟩
    rw [if_neg (Int.lt_irrefl 0)]
    obtain ⟨done, position⟩ := issued.completed rfl completed
    rw [← position] at rest
    rw [chunk_lens_succ, chunked_succ, ← advance_advance, Nat.sub_add_eq] at later
    apply inductionHypothesis issued.staged _ rest
    · intro after added ran sends polled
      have chunk := tx_command_sends script s txbuf (min xferLen fbiobSpiMaxXferLen)
        (middle - s.polled)
      have joined := txbuf.bytes_append 0 (min xferLen fbiobSpiMaxXferLen)
        (chunked count (xferLen - min xferLen fbiobSpiMaxXferLen))
      rw [Nat.zero_add] at joined
      rw [advance_bytes, Nat.add_zero] at sends
      exact later after _ (Ran.cons issued rfl done ran) (joined ▸ chunk.cons sends) polled
    · simp only [chunkCount, fbiobSpiMaxXferLen]
      omega

/-- The receive loop runs a command for each chunk while the status words complete
them. The induction is on the number of commands, and each pass moves the offset. -/
theorem rx_loop_runs {s : SpiJournal} {rxBuf : Memory} {len ndata count stop : Nat}
    {post : Int × Memory → SpiJournal → Prop} (staged : s.staged = 0)
    (fits : count ≤ chunkCount (len - ndata))
    (complete : Complete script.statuses s.polled count stop)
    (later : ∀ after added filled, Ran script s after (chunkLens count (len - ndata)) added →
      Receives added (Memory.bytes filled ndata (chunked count (len - ndata))) →
      (∀ i, i < ndata ∨ ndata + chunked count (len - ndata) ≤ i → filled i = rxBuf i) →
      after.polled = stop →
      (fbiobSpiXferRxLoop filled len (ndata + chunked count (len - ndata))).Wp
        (spiController script) InsideBuffers post after) :
    (fbiobSpiXferRxLoop rxBuf len ndata).Wp (spiController script) InsideBuffers post s := by
  induction count generalizing s rxBuf ndata with
  | zero =>
    have none : chunked 0 (len - ndata) = 0 := by simp only [chunked, Nat.mul_zero, Nat.zero_min]
    rw [none, Nat.add_zero] at later
    exact later s [] rxBuf (Ran.nil script staged) Receives.nil (fun _ _ => rfl) complete.symm
  | succ count inductionHypothesis =>
    obtain ⟨middle, completed, rest⟩ := complete
    have more : ndata < len := by
      simp only [chunkCount, fbiobSpiMaxXferLen] at fits
      omega
    have some : 0 < min (len - ndata) fbiobSpiMaxXferLen := by
      simp only [fbiobSpiMaxXferLen]
      omega
    rw [fbiobSpiXferRxLoop, if_pos more]
    apply Program.Wp.seq (clear_sts_clears script s)
    rintro _ _ rfl
    apply Program.Wp.seq (single_rx_completed script s more staged completed)
    rintro _ next ⟨rfl, issued⟩
    dsimp only
    rw [if_neg (Int.not_lt.mpr (Int.natCast_nonneg _))]
    obtain ⟨done, position⟩ := issued.completed rfl completed
    rw [← position] at rest
    have remaining : len - (ndata + min (len - ndata) fbiobSpiMaxXferLen) =
        len - ndata - min (len - ndata) fbiobSpiMaxXferLen := Nat.sub_add_eq _ _ _
    rw [chunk_lens_succ, chunked_succ, ← remaining, ← Nat.add_assoc] at later
    apply inductionHypothesis issued.staged _ rest
    · intro after added filled ran receives outside polled
      have chunk := rx_command_receives script s (min (len - ndata) fbiobSpiMaxXferLen)
        (middle - s.polled)
      have kept : (script.incoming s.log.length).bytes 0 (min (len - ndata) fbiobSpiMaxXferLen) =
          filled.bytes ndata (min (len - ndata) fbiobSpiMaxXferLen) := by
        apply bytes_congr
        intro i inside
        rw [outside _ (.inl (by omega)), Memory.memcpy_copied _ _ _ _ inside]
      have joined := filled.bytes_append ndata (min (len - ndata) fbiobSpiMaxXferLen)
        (chunked count (len - (ndata + min (len - ndata) fbiobSpiMaxXferLen)))
      rw [kept] at chunk
      refine later after _ filled (Ran.cons issued rfl done ran) (joined ▸ chunk.cons receives) ?_
        polled
      intro i apart
      rw [outside i (by omega), Memory.memcpy, if_neg (by omega)]
    · simp only [chunkCount, fbiobSpiMaxXferLen] at *
      omega

/-- Where every chunk completes, the transmit loop sends the buffer. -/
theorem tx_loop_completes {s : SpiJournal} (txbuf : Memory) {xferLen stop : Nat}
    (staged : s.staged = 0)
    (complete : Complete script.statuses s.polled (chunkCount xferLen) stop) :
    (fbiobSpiXferTxLoop txbuf xferLen).Wp (spiController script) InsideBuffers
      (fun ret after => ret = 0 ∧ after.polled = stop ∧
        ∃ added, Ran script s after (chunkLens (chunkCount xferLen) xferLen) added ∧
          Sends added (txbuf.bytes 0 xferLen)) s := by
  apply tx_loop_runs staged (Nat.le_refl _) complete
  intro after added ran sends polled
  rw [chunked_all] at sends ⊢
  rw [fbiobSpiXferTxLoop, if_pos (Nat.sub_self xferLen)]
  exact ⟨rfl, polled, added, ran, sends⟩

/-- Below 2^31 the length is the same in an `int`. -/
theorem xfer_tx_eq (txbuf : Memory) {len : BitVec 32} (bounded : len.toNat < 2 ^ 31) :
    fbiobSpiXferTx txbuf len = fbiobSpiXferTxLoop txbuf len.toNat := by
  rw [fbiobSpiXferTx, BitVec.toInt_eq_toNat_of_lt (by omega), Int.toNat_natCast]

/-- Where every chunk completes, the transmit phase sends a buffer below 2^31 bytes. -/
theorem xfer_tx_completes {s : SpiJournal} (txbuf : Memory) {len : BitVec 32} {stop : Nat}
    (bounded : len.toNat < 2 ^ 31) (staged : s.staged = 0)
    (complete : Complete script.statuses s.polled (chunkCount len.toNat) stop) :
    (fbiobSpiXferTx txbuf len).Wp (spiController script) InsideBuffers
      (fun ret after => ret = 0 ∧ after.polled = stop ∧
        ∃ added, Ran script s after (chunkLens (chunkCount len.toNat) len.toNat) added ∧
          Sends added (txbuf.bytes 0 len.toNat)) s := by
  rw [xfer_tx_eq txbuf bounded]
  exact tx_loop_completes txbuf staged complete

/-- Where every chunk completes, the receive loop fills the buffer and nothing else. -/
theorem rx_loop_completes {s : SpiJournal} (rxBuf : Memory) {len stop : Nat}
    (staged : s.staged = 0) (complete : Complete script.statuses s.polled (chunkCount len) stop) :
    (fbiobSpiXferRxLoop rxBuf len 0).Wp (spiController script) InsideBuffers
      (fun outcome after => outcome.1 = 0 ∧ after.polled = stop ∧
        ∃ added, Ran script s after (chunkLens (chunkCount len) len) added ∧
          Receives added (outcome.2.bytes 0 len) ∧ ∀ i, len ≤ i → outcome.2 i = rxBuf i) s := by
  apply rx_loop_runs staged (Nat.le_refl _) complete
  intro after added filled ran receives outside polled
  rw [Nat.sub_zero] at ran receives outside ⊢
  rw [chunked_all] at receives outside ⊢
  rw [Nat.zero_add] at outside ⊢
  rw [fbiobSpiXferRxLoop, if_neg (Nat.lt_irrefl len)]
  exact ⟨rfl, polled, added, ran, receives, fun i beyond => outside i (.inr beyond)⟩

end Loops

/-! ## Lossless chunking -/

/-- The transfer succeeded with one command for each chunk, each given a cleared
status and the length of its chunk. Together the chunks are the transmit buffer, or
fill the receive buffer up to its length. -/
structure Lossless (xfer : SpiTransfer) (outcome : Int × SpiTransfer)
    (commands : List SpiCommand) : Prop where
  returns : outcome.1 = 0
  count : commands.length = chunkCount xfer.len.toNat
  cleared : ∀ command ∈ commands, command.cleared = true
  lens : commands.map SpiCommand.len = chunkLens (chunkCount xfer.len.toNat) xfer.len.toNat
  transmitted : ∀ txbuf, xfer.txBuf = some txbuf →
    commands.flatMap SpiCommand.shiftedOut = txbuf.bytes 0 xfer.len.toNat
  received : ∀ rxBuf, xfer.rxBuf = some rxBuf → ∃ filled, outcome.2.rxBuf = some filled ∧
    filled.bytes 0 xfer.len.toNat = commands.flatMap SpiCommand.shiftedIn ∧
    ∀ i, xfer.len.toNat ≤ i → filled i = rxBuf i

/-- The commands of a run come after those before it. -/
theorem Ran.commands {script : SpiScript} {s after : SpiJournal} {lens : List Nat}
    {added : List SpiCommand} (ran : Ran script s after lens added) :
    after.commands = s.commands ++ added := by
  rw [SpiJournal.commands, ran.log, List.reverse_append, List.reverse_reverse]
  rfl

/-- A run of all chunks has a command for each. -/
theorem Ran.length {script : SpiScript} {s after : SpiJournal} {count len : Nat}
    {added : List SpiCommand} (ran : Ran script s after (chunkLens count len) added) :
    added.length = count := by
  have lengths := congrArg List.length ran.lens
  rwa [List.length_map, chunkLens, List.length_map, List.length_range] at lengths

/-- A transfer that only transmits. -/
theorem transmit_lossless {script : SpiScript} {mosi miso txbuf : Memory} {ret : Int}
    {len : BitVec 32} {stop : Nat} (bounded : len.toNat < 2 ^ 31)
    (complete : Complete script.statuses 0 (chunkCount len.toNat) stop) :
    (fbiobSpiXferOne ret ⟨some txbuf, none, len⟩).Wp (spiController script) InsideBuffers
      (fun outcome after => Lossless ⟨some txbuf, none, len⟩ outcome after.commands)
      (SpiJournal.initial mosi miso) := by
  have started := SpiJournal.initial_staged mosi miso
  apply Program.Wp.seq (xfer_tx_completes txbuf bounded started complete)
  rintro _ after ⟨rfl, _, added, ran, sends⟩
  have all : after.commands = added := ran.commands
  show Lossless _ _ after.commands
  rw [all]
  exact {
    returns := rfl
    count := ran.length
    cleared := ran.cleared
    lens := ran.lens
    transmitted := by
      rintro _ ⟨rfl⟩
      exact sends.shiftedOut
    received := fun _ absent => nomatch absent }

/-- A transfer that only receives. -/
theorem receive_lossless {script : SpiScript} {mosi miso rxBuf : Memory} {ret : Int}
    {len : BitVec 32} {stop : Nat}
    (complete : Complete script.statuses 0 (chunkCount len.toNat) stop) :
    (fbiobSpiXferOne ret ⟨none, some rxBuf, len⟩).Wp (spiController script) InsideBuffers
      (fun outcome after => Lossless ⟨none, some rxBuf, len⟩ outcome after.commands)
      (SpiJournal.initial mosi miso) := by
  have started := SpiJournal.initial_staged mosi miso
  apply Program.Wp.seq (rx_loop_completes rxBuf started complete)
  rintro ⟨_, filled⟩ after ⟨rfl, _, added, ran, receives, outside⟩
  have all : after.commands = added := ran.commands
  show Lossless _ _ after.commands
  rw [all]
  exact {
    returns := rfl
    count := ran.length
    cleared := ran.cleared
    lens := ran.lens
    transmitted := fun _ absent => nomatch absent
    received := by
      rintro _ ⟨rfl⟩
      exact ⟨filled, rfl, receives.shiftedIn.symm, outside⟩ }

/-- With one buffer of less than 2^31 bytes, a transfer whose commands complete is
lossless, and stays inside the data buffers. -/
theorem chunking_lossless (script : SpiScript) (mosi miso : Memory) (ret : Int)
    (xfer : SpiTransfer) (bounded : xfer.len.toNat < 2 ^ 31)
    (single : xfer.txBuf.isSome ≠ xfer.rxBuf.isSome)
    (completes : ∃ stop, Complete script.statuses 0 (chunkCount xfer.len.toNat) stop) :
    (fbiobSpiXferOne ret xfer).Along (spiController script) InsideBuffers
        (SpiJournal.initial mosi miso) ∧
      Lossless xfer
        ((fbiobSpiXferOne ret xfer).result (spiController script) (SpiJournal.initial mosi miso))
        ((fbiobSpiXferOne ret xfer).final (spiController script)
          (SpiJournal.initial mosi miso)).commands := by
  obtain ⟨txBuf, rxBuf, len⟩ := xfer
  obtain ⟨stop, complete⟩ := completes
  cases txBuf with
  | none =>
    cases rxBuf with
    | none => exact absurd rfl single
    | some rxBuf => exact (Program.wp_iff _ _ _ _ _).mp (receive_lossless complete)
  | some txbuf =>
    cases rxBuf with
    | some rxBuf => exact absurd rfl single
    | none => exact (Program.wp_iff _ _ _ _ _).mp (transmit_lossless bounded complete)

/-- 513 bytes are sent with two commands to a controller that is done at once. -/
theorem two_chunks_lossless :
    let script : SpiScript := ⟨fun _ => fbiobSpiDescDoneIntSts, fun _ => 0, fun _ _ => 0⟩
    let xfer : SpiTransfer := ⟨some fun i => BitVec.ofNat 8 i, none, 513⟩
    let start := SpiJournal.initial (fun _ => 0) fun _ => 0
    (fbiobSpiXferOne 0 xfer).Along (spiController script) InsideBuffers start ∧
      Lossless xfer ((fbiobSpiXferOne 0 xfer).result (spiController script) start)
        ((fbiobSpiXferOne 0 xfer).final (spiController script) start).commands :=
  chunking_lossless _ _ _ _ _ (by decide) (by decide)
    ⟨_, complete_of_succeeds (fun _ _ => done_succeeds) _⟩

end FbossBsp.Spi
