import FbossBsp.Interaction.Interleaving
import FbossBsp.RegbitSysfs
import Mathlib.Data.Fintype.Basic

/-!
# Concurrent stores to attributes of one register

Every attribute has a mutex of its own, so stores to one attribute follow each
other, but stores to two attributes of one register may both read it before
either writes it back. The second write then restores the first one's old bits.

Runs without such an overlap lose no store: what a call has read stays the
content of the register until the call writes it back, so each write changes
the bits of its own attribute and no others.
-/

namespace FbossBsp.Regbit

open Interaction

/-! ## The device -/

/-- The registers, the attribute mutexes, and the order in which the calls have
taken the mutex of each attribute. -/
structure RegmapState (w : Nat) (Thread Entry : Type) where
  regs : BitVec 32 → BitVec w
  held : Entry → Bool
  order : Entry → List Thread

section Device

variable {w : Nat} {Thread Entry : Type} [DecidableEq Entry]

/-- Each operation is one atomic step and each transaction succeeds. A held
mutex makes the caller wait. -/
def regmapDevice : Shared Thread (RegmapOp Entry) RegmapOp.Reply (RegmapState w Thread Entry)
  | thread, .mutexLock entry, s =>
      if s.held entry then none
      else some ((), { s with
        held := Function.update s.held entry true
        order := Function.update s.order entry (s.order entry ++ [thread]) })
  | _, .mutexUnlock entry, s =>
      some ((), { s with held := Function.update s.held entry false })
  | _, .regmapRead reg, s => some (.ok ((s.regs reg).setWidth 32), s)
  | _, .regmapWrite reg val, s =>
      some (.ok (), { s with regs := Function.update s.regs reg (val.setWidth w) })

end Device

/-- The attributes of a device with registers of `w` bits: well-formed ranges,
pairwise disjoint inside each register. -/
structure BitFields (w : Nat) (Entry : Type) where
  small : w ≤ 32
  config : Entry → RegbitSysfsConfig
  wellFormed : ∀ entry, (config entry).WellFormed w
  disjoint : ∀ first second, first ≠ second → (config first).regAddr = (config second).regAddr →
    ∀ i, ¬((config first).Covers i ∧ (config second).Covers i)

/-- One call of `regbit_sysfs_store`. -/
structure StoreCall (Entry : Type) where
  entry : Entry
  buf : String
  count : Nat

section Stores

variable {w : Nat} {Thread Entry : Type} [DecidableEq Thread] [DecidableEq Entry]
variable (fields : BitFields w Entry) (kstrtou32 : String → Option (BitVec 32))
variable (calls : Thread → StoreCall Entry)

/-- All calls are about to start on the given registers. -/
def startStores (regs : BitVec 32 → BitVec w) :
    Pool Thread (RegmapOp Entry) RegmapOp.Reply Int (RegmapState w Thread Entry) where
  shared := ⟨regs, fun _ => false, fun _ => []⟩
  program := fun thread =>
    regbitSysfsStore (fields.config (calls thread).entry) (calls thread).entry
      (calls thread).count kstrtou32 (calls thread).buf

/-- Every call with a valid number has stored, each stored attribute shows the
last store in its lock order, and the bits of no stored attribute are as they
were. -/
structure StoresKept (regs : BitVec 32 → BitVec w) (s : RegmapState w Thread Entry) : Prop where
  stored : ∀ thread input, kstrtou32 (calls thread).buf = some input →
    thread ∈ s.order (calls thread).entry
  latest : ∀ entry thread input, (s.order entry).getLast? = some thread →
    kstrtou32 (calls thread).buf = some input →
    (fields.config entry).shownVal ((s.regs (fields.config entry).regAddr).setWidth 32) =
      input &&& (fields.config entry).valueMask
  untouched : ∀ reg i,
    (∀ entry, s.order entry ≠ [] → (fields.config entry).regAddr = reg →
      ¬(fields.config entry).Covers i) →
    (s.regs reg).getLsbD i = (regs reg).getLsbD i

/-- The register a call is about to write; it has read that register before. -/
def pendingWrite (program : Regmap Entry Int) : Option (BitVec 32) :=
  match program.pending with
  | some (.regmapWrite reg _) => some reg
  | _ => none

/-- A call that writes a register is the only one that has read it and is still
to write it. -/
def Exclusive (thread : Thread)
    (pool : Pool Thread (RegmapOp Entry) RegmapOp.Reply Int (RegmapState w Thread Entry)) : Prop :=
  ∀ reg ∈ pendingWrite (pool.program thread), ∀ other, other ≠ thread →
    pendingWrite (pool.program other) ≠ some reg

instance [Fintype Thread] (thread : Thread)
    (pool : Pool Thread (RegmapOp Entry) RegmapOp.Reply Int (RegmapState w Thread Entry)) :
    Decidable (Exclusive thread pool) :=
  Option.decidableForallMem (pendingWrite (pool.program thread))

/-! ## Where a call stands -/

/-- The steps of a call that has parsed its input. -/
inductive Stage where
  | fresh
  | locked
  | loaded (val : BitVec 32)
  | written
  | returned
  deriving DecidableEq

/-- The call is inside its critical section. -/
def Stage.Holding (stage : Stage) : Prop := stage ≠ .fresh ∧ stage ≠ .returned

/-- The call has written its register. -/
def Stage.Stored (stage : Stage) : Prop := stage = .written ∨ stage = .returned

/-- The number that a call stores. -/
def StoreCall.input (call : StoreCall Entry) : BitVec 32 := (kstrtou32 call.buf).getD 0

/-- What a call has left to do. -/
def remaining (call : StoreCall Entry) : Stage → Regmap Entry Int
  | .fresh =>
      regbitSysfsStore (fields.config call.entry) call.entry call.count kstrtou32 call.buf
  | .locked =>
      regbitStoreLocked (fields.config call.entry) call.entry call.count (call.input kstrtou32)
  | .loaded val =>
      .perform (.regmapWrite (fields.config call.entry).regAddr
        ((fields.config call.entry).storedVal (call.input kstrtou32) val))
        (regbitStoreExit call.entry call.count)
  | .written => regbitStoreExit call.entry call.count (.ok ())
  | .returned => pure call.count

/-- The invariant of all runs: where every call stands, and what the shared
state owes to that. -/
structure Consistent (regs : BitVec 32 → BitVec w)
    (pool : Pool Thread (RegmapOp Entry) RegmapOp.Reply Int (RegmapState w Thread Entry))
    (stage : Thread → Stage) : Prop where
  program : ∀ thread, pool.program thread = remaining fields kstrtou32 (calls thread) (stage thread)
  held : ∀ thread, (stage thread).Holding → pool.shared.held (calls thread).entry = true
  holder : ∀ thread, (stage thread).Holding →
    (pool.shared.order (calls thread).entry).getLast? = some thread
  ordered : ∀ entry thread, thread ∈ pool.shared.order entry →
    (calls thread).entry = entry ∧ stage thread ≠ .fresh
  recorded : ∀ thread, stage thread ≠ .fresh →
    thread ∈ pool.shared.order (calls thread).entry
  current : ∀ thread val, stage thread = .loaded val →
    val = (pool.shared.regs (fields.config (calls thread).entry).regAddr).setWidth 32
  latest : ∀ entry thread, (pool.shared.order entry).getLast? = some thread →
    (stage thread).Stored → ∀ i, (fields.config entry).Covers i →
    (pool.shared.regs (fields.config entry).regAddr).getLsbD i =
      ((calls thread).input kstrtou32).getLsbD (i - (fields.config entry).bitOffset.toNat)
  untouched : ∀ reg i,
    (∀ entry, pool.shared.order entry ≠ [] → (fields.config entry).regAddr = reg →
      ¬(fields.config entry).Covers i) →
    (pool.shared.regs reg).getLsbD i = (regs reg).getLsbD i

variable {fields kstrtou32 calls}

omit [DecidableEq Thread] [DecidableEq Entry] in
/-- Before the first step no call has done anything. -/
theorem start_consistent (regs : BitVec 32 → BitVec w) :
    Consistent fields kstrtou32 calls regs (startStores fields kstrtou32 calls regs)
      (fun _ => .fresh) where
  program := fun _ => rfl
  held := fun _ holding => absurd rfl holding.1
  holder := fun _ holding => absurd rfl holding.1
  ordered := fun _ _ member => absurd member List.not_mem_nil
  recorded := fun _ started => absurd rfl started
  current := fun _ _ loaded => nomatch loaded
  latest := fun _ _ last => nomatch last
  untouched := fun _ _ _ => rfl

omit [DecidableEq Entry] in
/-- Writing back what was read changes the bits of the own range only. -/
theorem written_bit (fields : BitFields w Entry) (entry : Entry) (input : BitVec 32)
    (val : BitVec w) (i : Nat) :
    (((fields.config entry).storedVal input (val.setWidth 32)).setWidth w).getLsbD i =
      if (fields.config entry).Covers i then
        input.getLsbD (i - (fields.config entry).bitOffset.toNat)
      else val.getLsbD i :=
  RegbitSysfsConfig.written_back_bit (fields.wellFormed entry) fields.small input val i

omit [DecidableEq Entry] in
/-- A register that is written back changes the registers in the own range only. -/
theorem update_bit (fields : BitFields w Entry) (entry : Entry) (input : BitVec 32)
    (regs : BitVec 32 → BitVec w) (reg : BitVec 32) (i : Nat) :
    (Function.update regs (fields.config entry).regAddr
      (((fields.config entry).storedVal input
        ((regs (fields.config entry).regAddr).setWidth 32)).setWidth w) reg).getLsbD i =
      if (fields.config entry).regAddr = reg ∧ (fields.config entry).Covers i then
        input.getLsbD (i - (fields.config entry).bitOffset.toNat)
      else (regs reg).getLsbD i := by
  by_cases own : reg = (fields.config entry).regAddr
  · subst own
    rw [Function.update_self, written_bit]
    simp
  · rw [Function.update_of_ne own]
    simp [Ne.symm own]

section Steps

variable {regs : BitVec 32 → BitVec w} {stage : Thread → Stage} {thread : Thread}
variable {pool next : Pool Thread (RegmapOp Entry) RegmapOp.Reply Int (RegmapState w Thread Entry)}

omit [DecidableEq Entry] in
/-- One call moves on, and the others stay where they are. -/
theorem Consistent.program_update
    (consistent : Consistent fields kstrtou32 calls regs pool stage) (moved : Stage)
    (t : Thread) :
    Function.update pool.program thread (remaining fields kstrtou32 (calls thread) moved) t =
      remaining fields kstrtou32 (calls t) (Function.update stage thread moved t) := by
  by_cases same : t = thread
  · subst same
    simp only [Function.update_self]
  · simp only [Function.update_of_ne same]
    exact consistent.program t

omit [DecidableEq Entry] in
/-- A call that has started before is recorded as before. -/
theorem Consistent.order_update
    (consistent : Consistent fields kstrtou32 calls regs pool stage) {moved : Stage}
    (started : stage thread ≠ .fresh) (later : moved ≠ .fresh) :
    (∀ entry t, t ∈ pool.shared.order entry →
      (calls t).entry = entry ∧ Function.update stage thread moved t ≠ .fresh) ∧
    ∀ t, Function.update stage thread moved t ≠ .fresh →
      t ∈ pool.shared.order (calls t).entry := by
  constructor
  · intro entry t member
    obtain ⟨own, running⟩ := consistent.ordered entry t member
    refine ⟨own, ?_⟩
    by_cases same : t = thread
    · simpa [same] using later
    · rwa [Function.update_of_ne same]
  · intro t running
    apply consistent.recorded t
    by_cases same : t = thread
    · exact same ▸ started
    · rwa [Function.update_of_ne same] at running

/-- A fresh call takes the mutex of its attribute, which nobody holds.

Proof: part by part. The call has neither read nor written, so it holds the mutex of
its attribute and changes nothing else. -/
theorem lock_step (consistent : Consistent fields kstrtou32 calls regs pool stage)
    (fresh : stage thread = .fresh) (advanced : pool.advance regmapDevice thread = some next) :
    Consistent fields kstrtou32 calls regs next (Function.update stage thread .locked) := by
  have standing := consistent.program thread
  rw [fresh] at standing
  cases parsed : kstrtou32 (calls thread).buf with
  | none =>
    have finished : pool.program thread = .done (-einval) := by
      rw [standing, remaining, regbitSysfsStore, parsed]
      rfl
    simp [Pool.advance, finished] at advanced
  | some input =>
    have starting : pool.program thread = .perform (.mutexLock (calls thread).entry) fun _ =>
        remaining fields kstrtou32 (calls thread) .locked := by
      rw [standing, remaining, regbitSysfsStore, parsed]
      simp only [remaining, StoreCall.input, parsed, Option.getD_some]
    cases taken : pool.shared.held (calls thread).entry with
    | true => simp [Pool.advance, starting, regmapDevice, taken] at advanced
    | false =>
      simp only [Pool.advance, starting, regmapDevice, taken, Bool.false_eq_true, if_false,
        Option.map_some, Option.some.injEq] at advanced
      subst advanced
      have elsewhere (t : Thread) (other : t ≠ thread) (holding : (stage t).Holding) :
          (calls t).entry ≠ (calls thread).entry := by
        intro same
        have held := consistent.held t holding
        rw [same, taken] at held
        exact absurd held (by decide)
      constructor
      case program => exact consistent.program_update .locked
      case held =>
        intro t holding
        by_cases same : (calls t).entry = (calls thread).entry
        · simp [same]
        · have other : t ≠ thread := fun equal => same (congrArg _ (congrArg calls equal))
          rw [Function.update_of_ne other] at holding
          simpa [same] using consistent.held t holding
      case holder =>
        intro t holding
        by_cases same : t = thread
        · simp [same]
        · rw [Function.update_of_ne same] at holding
          simpa [elsewhere t same holding] using consistent.holder t holding
      case ordered =>
        intro entry t member
        by_cases same : t = thread
        · subst same
          refine ⟨?_, by simp⟩
          by_cases own : entry = (calls t).entry
          · exact own.symm
          · simp only [Function.update_of_ne own] at member
            exact (consistent.ordered entry t member).1
        · rw [Function.update_of_ne same]
          apply consistent.ordered entry t
          by_cases own : entry = (calls thread).entry
          · simpa [own, same] using member
          · simpa [own] using member
      case recorded =>
        intro t started
        by_cases same : t = thread
        · simp [same]
        · rw [Function.update_of_ne same] at started
          have member := consistent.recorded t started
          by_cases own : (calls t).entry = (calls thread).entry
          · rw [own] at member ⊢
            simp [member]
          · simpa [own] using member
      case current =>
        intro t val loaded
        by_cases same : t = thread
        · simp [same] at loaded
        · rw [Function.update_of_ne same] at loaded
          exact consistent.current t val loaded
      case latest =>
        intro entry t last stored
        have other : t ≠ thread := by
          rintro rfl
          simp [Stage.Stored] at stored
        rw [Function.update_of_ne other] at stored
        have own : entry ≠ (calls thread).entry := by
          rintro rfl
          simp [Ne.symm other] at last
        exact consistent.latest entry t (by simpa [own] using last) stored
      case untouched =>
        intro reg i uncovered
        apply consistent.untouched reg i
        intro entry stored
        apply uncovered entry
        by_cases own : entry = (calls thread).entry
        · simp [own]
        · simpa [own] using stored

/-- A call that holds the mutex reads the content of its register. -/
theorem read_step (consistent : Consistent fields kstrtou32 calls regs pool stage)
    (locked : stage thread = .locked) (advanced : pool.advance regmapDevice thread = some next) :
    Consistent fields kstrtou32 calls regs next (Function.update stage thread (.loaded
      ((pool.shared.regs (fields.config (calls thread).entry).regAddr).setWidth 32))) := by
  have standing := consistent.program thread
  rw [locked] at standing
  simp only [Pool.advance, standing, remaining, regbitStoreLocked, regmapDevice, Option.map_some,
    Option.some.injEq] at advanced
  subst advanced
  have before (t : Thread) {val : BitVec 32}
      (holding : (Function.update stage thread (.loaded val) t).Holding) : (stage t).Holding := by
    by_cases same : t = thread
    · rw [same, locked]
      exact ⟨by simp, by simp⟩
    · rwa [Function.update_of_ne same] at holding
  constructor
  case program => exact consistent.program_update (.loaded
      ((pool.shared.regs (fields.config (calls thread).entry).regAddr).setWidth 32))
  case held => exact fun t holding => consistent.held t (before t holding)
  case holder => exact fun t holding => consistent.holder t (before t holding)
  case ordered => exact (consistent.order_update (by simp [locked]) (by simp)).1
  case recorded => exact (consistent.order_update (by simp [locked]) (by simp)).2
  case current =>
    intro t val loaded
    by_cases same : t = thread
    · subst same
      simpa using loaded.symm
    · rw [Function.update_of_ne same] at loaded
      exact consistent.current t val loaded
  case latest =>
    intro entry t last stored
    have other : t ≠ thread := by
      rintro rfl
      simp [Stage.Stored] at stored
    rw [Function.update_of_ne other] at stored
    exact consistent.latest entry t last stored
  case untouched => exact consistent.untouched

/-- A call that is the only one to have read its register writes it back.

Proof: part by part. What the call has read is still in its register, and no other
call is between its read and its write there, so that no value becomes stale. -/
theorem write_step (consistent : Consistent fields kstrtou32 calls regs pool stage)
    {val : BitVec 32} (loaded : stage thread = .loaded val) (exclusive : Exclusive thread pool)
    (advanced : pool.advance regmapDevice thread = some next) :
    Consistent fields kstrtou32 calls regs next (Function.update stage thread .written) := by
  have standing := consistent.program thread
  rw [loaded] at standing
  have content := consistent.current thread val loaded
  subst content
  simp only [Pool.advance, standing, remaining, regmapDevice, Option.map_some,
    Option.some.injEq] at advanced
  subst advanced
  have before (t : Thread) (holding : (Function.update stage thread .written t).Holding) :
      (stage t).Holding := by
    by_cases same : t = thread
    · rw [same, loaded]
      exact ⟨by simp, by simp⟩
    · rwa [Function.update_of_ne same] at holding
  have last := consistent.holder thread (before thread (by simp [Stage.Holding]))
  have bits := update_bit fields (calls thread).entry ((calls thread).input kstrtou32)
    pool.shared.regs
  constructor
  case program => exact consistent.program_update .written
  case held => exact fun t holding => consistent.held t (before t holding)
  case holder => exact fun t holding => consistent.holder t (before t holding)
  case ordered => exact (consistent.order_update (by simp [loaded]) (by simp)).1
  case recorded => exact (consistent.order_update (by simp [loaded]) (by simp)).2
  case current =>
    intro t other waiting
    by_cases same : t = thread
    · simp [same] at waiting
    · rw [Function.update_of_ne same] at waiting
      have apart : (fields.config (calls t).entry).regAddr ≠
          (fields.config (calls thread).entry).regAddr := by
        intro shared
        apply exclusive (fields.config (calls thread).entry).regAddr (by rw [standing]; rfl) t same
        rw [consistent.program t, waiting, ← shared]
        rfl
      dsimp only
      rw [Function.update_of_ne apart]
      exact consistent.current t other waiting
  case latest =>
    intro entry t latest stored i covered
    rw [bits]
    by_cases own : entry = (calls thread).entry
    · subst own
      have same : t = thread := Option.some.inj (latest.symm.trans last)
      subst same
      simp [covered]
    · have other : t ≠ thread := by
        rintro rfl
        exact own (consistent.ordered entry t (List.mem_of_getLast? latest)).1.symm
      rw [Function.update_of_ne other] at stored
      rw [if_neg]
      · exact consistent.latest entry t latest stored i covered
      · rintro ⟨shared, overlapping⟩
        exact fields.disjoint _ _ (Ne.symm own) shared i ⟨overlapping, covered⟩
  case untouched =>
    intro reg i uncovered
    rw [bits, if_neg]
    · exact consistent.untouched reg i uncovered
    · rintro ⟨own, covered⟩
      apply uncovered (calls thread).entry _ own covered
      intro empty
      rw [empty] at last
      exact nomatch last

/-- A call that has written its register releases the mutex. -/
theorem unlock_step (consistent : Consistent fields kstrtou32 calls regs pool stage)
    (written : stage thread = .written) (advanced : pool.advance regmapDevice thread = some next) :
    Consistent fields kstrtou32 calls regs next (Function.update stage thread .returned) := by
  have standing := consistent.program thread
  rw [written] at standing
  simp only [Pool.advance, standing, remaining, regbitStoreExit, regmapDevice, Option.map_some,
    Option.some.injEq] at advanced
  subst advanced
  have other (t : Thread) (holding : (Function.update stage thread .returned t).Holding) :
      t ≠ thread ∧ (stage t).Holding := by
    by_cases same : t = thread
    · rw [same, Function.update_self] at holding
      exact absurd rfl holding.2
    · rw [Function.update_of_ne same] at holding
      exact ⟨same, holding⟩
  constructor
  case program => exact consistent.program_update .returned
  case held =>
    intro t holding
    obtain ⟨different, holding⟩ := other t holding
    have apart : (calls t).entry ≠ (calls thread).entry := by
      intro same
      have last := consistent.holder t holding
      rw [same, consistent.holder thread (by simp [written, Stage.Holding])] at last
      exact different (Option.some.inj last).symm
    dsimp only
    rw [Function.update_of_ne apart]
    exact consistent.held t holding
  case holder => exact fun t holding => consistent.holder t (other t holding).2
  case ordered => exact (consistent.order_update (by simp [written]) (by simp)).1
  case recorded => exact (consistent.order_update (by simp [written]) (by simp)).2
  case current =>
    intro t val waiting
    by_cases same : t = thread
    · simp [same] at waiting
    · rw [Function.update_of_ne same] at waiting
      exact consistent.current t val waiting
  case latest =>
    intro entry t last stored
    apply consistent.latest entry t last
    by_cases same : t = thread
    · exact Or.inl (same ▸ written)
    · rwa [Function.update_of_ne same] at stored
  case untouched => exact consistent.untouched

/-- Every step of a call that is alone with what it has read keeps the invariant. -/
theorem store_step (consistent : ∃ stage, Consistent fields kstrtou32 calls regs pool stage)
    (exclusive : Exclusive thread pool)
    (advanced : pool.advance regmapDevice thread = some next) :
    ∃ stage, Consistent fields kstrtou32 calls regs next stage := by
  obtain ⟨stage, consistent⟩ := consistent
  cases standing : stage thread with
  | fresh => exact ⟨_, lock_step consistent standing advanced⟩
  | locked => exact ⟨_, read_step consistent standing advanced⟩
  | loaded val => exact ⟨_, write_step consistent standing exclusive advanced⟩
  | written => exact ⟨_, unlock_step consistent standing advanced⟩
  | returned =>
    have finished := consistent.program thread
    rw [standing] at finished
    simp [Pool.advance, finished, remaining] at advanced

end Steps

omit [DecidableEq Thread] [DecidableEq Entry] in
/-- Once all calls have returned, nothing is lost. -/
theorem returned_kept {regs : BitVec 32 → BitVec w} {stage : Thread → Stage}
    {pool : Pool Thread (RegmapOp Entry) RegmapOp.Reply Int (RegmapState w Thread Entry)}
    (consistent : Consistent fields kstrtou32 calls regs pool stage)
    (returned : ∀ thread, (pool.program thread).Finished) :
    StoresKept fields kstrtou32 calls regs pool.shared := by
  constructor
  case untouched => exact consistent.untouched
  case stored =>
    intro thread input parsed
    apply consistent.recorded thread
    intro fresh
    obtain ⟨value, finished⟩ := returned thread
    rw [consistent.program thread, fresh, remaining, regbitSysfsStore, parsed] at finished
    exact nomatch finished
  case latest =>
    intro entry thread input last parsed
    have stored : (stage thread).Stored := by
      obtain ⟨value, finished⟩ := returned thread
      have started := (consistent.ordered entry thread (List.mem_of_getLast? last)).2
      rw [consistent.program thread] at finished
      cases standing : stage thread with
      | fresh => exact absurd standing started
      | locked => simp [standing, remaining, regbitStoreLocked] at finished
      | loaded val => simp [standing, remaining] at finished
      | written => simp [standing, remaining, regbitStoreExit] at finished
      | returned => exact Or.inr rfl
    have number : (calls thread).input kstrtou32 = input := by
      simp [StoreCall.input, parsed]
    apply RegbitSysfsConfig.shown_val_eq (fields.wellFormed entry) fields.small
    intro i covered
    have word : i < 32 := Nat.lt_of_lt_of_le covered.2
      (Nat.le_trans (fields.wellFormed entry).inside fields.small)
    rw [BitVec.getLsbD_setWidth, consistent.latest entry thread last stored i covered, number]
    simp [word]

/-- In every interleaving in which each register write finds no other call
between its read and its write of that register, no store is lost: once all
calls have returned, each stored attribute shows the last store in its lock
order, and the bits of no stored attribute are as they were. Calls and
attributes are any in number.

Proof: up to its write, what a call has read is the content of the register. So
the write changes the bits of the call's own attribute and no others. -/
theorem stores_kept (fields : BitFields w Entry) (kstrtou32 : String → Option (BitVec 32))
    (calls : Thread → StoreCall Entry) (regs : BitVec 32 → BitVec w) (schedule : List Thread)
    (last : Pool Thread (RegmapOp Entry) RegmapOp.Reply Int (RegmapState w Thread Entry))
    (alone : (startStores fields kstrtou32 calls regs).Meets regmapDevice Exclusive schedule)
    (ran : (startStores fields kstrtou32 calls regs).run regmapDevice schedule = some last)
    (returned : ∀ thread, (last.program thread).Finished) :
    StoresKept fields kstrtou32 calls regs last.shared := by
  have kept : ∃ stage, Consistent fields kstrtou32 calls regs last stage := by
    apply Pool.run_invariant _ schedule ⟨_, start_consistent regs⟩ alone ran
    intro thread pool next consistent exclusive advanced
    exact store_step consistent exclusive advanced
  obtain ⟨stage, consistent⟩ := kept
  exact returned_kept consistent returned

end Stores

/-! ## Two attributes of a transceiver -/

/-- `xcvr_reset` and `xcvr_low_power`: bits 0 and 1 of register 0. -/
def xcvrConfig (lowPower : Bool) : RegbitSysfsConfig := ⟨0, if lowPower then 1 else 0, 1, 0⟩

/-- Both files of a transceiver are well formed. -/
theorem xcvr_well_formed (lowPower : Bool) : (xcvrConfig lowPower).WellFormed 32 := by
  cases lowPower <;> exact ⟨by decide, by decide, by decide⟩

/-- The two files of a transceiver cover different bits. -/
theorem xcvr_disjoint {first second : Bool} (different : first ≠ second) (i : Nat) :
    ¬((xcvrConfig first).Covers i ∧ (xcvrConfig second).Covers i) := by
  cases first <;> cases second <;> simp_all [xcvrConfig, RegbitSysfsConfig.Covers]
  omega

def xcvrFields : BitFields 32 Bool where
  small := Nat.le_refl 32
  config := xcvrConfig
  wellFormed := xcvr_well_formed
  disjoint := fun _ _ different _ => xcvr_disjoint different

/-- Each of two calls stores "1" to its attribute. -/
def xcvrCalls (lowPower : Bool) : StoreCall Bool := ⟨lowPower, "1", 1⟩

def parseOne (buf : String) : Option (BitVec 32) := if buf = "1" then some 1 else none

/-- One after the other, both stores are kept. -/
theorem serial_stores_kept :
    ∃ last, (startStores xcvrFields parseOne xcvrCalls fun _ => 0).run regmapDevice
        [false, false, false, false, true, true, true, true] = some last ∧
      StoresKept xcvrFields parseOne xcvrCalls (fun _ => 0) last.shared := by
  have alone : (startStores xcvrFields parseOne xcvrCalls fun _ => 0).Meets regmapDevice
      Exclusive [false, false, false, false, true, true, true, true] := by decide +kernel
  refine ⟨_, rfl, stores_kept xcvrFields parseOne xcvrCalls _ _ _ alone rfl ?_⟩
  intro thread
  cases thread <;> exact ⟨1, rfl⟩

/-- When both calls read the register before either writes it, the store to
`xcvr_reset` is lost. -/
theorem overlapping_store_lost :
    ∃ last, (startStores xcvrFields parseOne xcvrCalls fun _ => 0).run regmapDevice
        [false, true, false, true, false, true, false, true] = some last ∧
      (∀ thread, (last.program thread).Finished) ∧
      ¬StoresKept xcvrFields parseOne xcvrCalls (fun _ => 0) last.shared := by
  refine ⟨_, rfl, ?_, ?_⟩
  · intro thread
    cases thread <;> exact ⟨1, rfl⟩
  · intro kept
    have reset := kept.latest false false 1 rfl rfl
    revert reset
    decide +kernel

end FbossBsp.Regbit
