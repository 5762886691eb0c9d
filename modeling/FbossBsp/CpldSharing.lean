import FbossBsp.CpldHistory
import FbossBsp.Interaction.Atomic
import FbossBsp.RegbitNegate

/-!
# Concurrent use of run-time attributes

The handlers of `fbcpld` take no mutex: each of them makes a single call of the
regmap, and `regmap_update_bits` is atomic. Any number of threads use the files
of one device. In every interleaving a file shows the last number stored through
it, in the order of the regmap calls, as long as no later store has hit its bits;
and no store is undone by one to other bits. A file that cannot be read clears
the rest of its register when it is stored.

The table stays as it is while the files are used, and log messages are not
modeled.
-/

namespace FbossBsp.Fbcpld

open Interaction
open Regbit (Text RegbitSysfsConfig RegmapBus FileCall FileReply ascii)

/-! ## Files -/

/-- The bits of an attribute and its flags. -/
def FbcpldSysfsAttr.range (cfg : FbcpldSysfsAttr) : RegbitSysfsConfig :=
  ⟨cfg.regAddr, cfg.bitOffset, cfg.numBits, cfg.flags⟩

/-- A store through the first attribute can change bits of the second one. -/
def Hits (first second : FbcpldSysfsAttr) : Prop :=
  first.regAddr = second.regAddr ∧
    (first.mode &&& sIrusr = 0 ∨ first.range.Overlaps second.range)

instance (first second : FbcpldSysfsAttr) : Decidable (Hits first second) :=
  inferInstanceAs (Decidable (_ ∧ _))

section Table

variable (table : FbcpldCdevDesc) (kstrtou32 : String → Option (BitVec 32))
variable (beyond : Nat → List (BitVec 8))

/-- The attribute in a slot. -/
def attrAt (slot : Nat) : FbcpldSysfsAttr := (table.entries slot).attrCfg

/-- The driver core serves a call through the handlers of the slot. -/
def fileRoutine : FileCall Nat → DynIo FileReply
  | .read slot =>
    if (table.entries slot).dynShow then do
      return .text (← fbcpldDynShow (attrAt table slot) (beyond slot))
    else return .text (.error (-eio))
  | .write slot buf count =>
    if (table.entries slot).dynStore then do
      return .status (← fbcpldDynStore (attrAt table slot) kstrtou32 buf count)
    else return .status (-eio)

/-- The slot whose file a call uses. -/
def slotOf : FileCall Nat → Nat
  | .read slot => slot
  | .write slot _ _ => slot

/-- Reading a file is at most one operation on the registers. -/
theorem show_atomic (cfg : FbcpldSysfsAttr) (beyond : List (BitVec 8)) :
    (fbcpldDynShow cfg beyond).Atomic := by
  intro reply
  cases reply with
  | error errno => exact ⟨_, rfl⟩
  | ok regVal => exact ⟨_, rfl⟩

/-- Storing to a file is at most one operation on the registers. -/
theorem store_atomic (cfg : FbcpldSysfsAttr) (buf : String) (count : Nat) :
    (fbcpldDynStore cfg kstrtou32 buf count).Atomic := by
  have ends (reply : Except Errno Unit) : (dynStoreExit count reply).Finished := by
    cases reply <;> exact ⟨_, rfl⟩
  unfold fbcpldDynStore
  cases kstrtou32 buf with
  | none => trivial
  | some input => exact Program.Atomic.ite ends ends

/-- Every call makes one call of the regmap at most. -/
theorem file_routine_atomic (call : FileCall Nat) :
    (fileRoutine table kstrtou32 beyond call).Atomic := by
  cases call with
  | read slot => exact Program.Atomic.ite ((show_atomic _ _).map _) trivial
  | write slot buf count => exact Program.Atomic.ite ((store_atomic _ _ _ _).map _) trivial

/-! ## One store -/

/-- The content that a store of an input leaves in its register. -/
def storedContent (cfg : FbcpldSysfsAttr) (input : BitVec 32) (val : BitVec 8) : BitVec 8 :=
  let shifted := (input &&& cfg.valueMask) <<< cfg.bitOffset.toNat
  if cfg.mode &&& sIrusr = 0 then shifted.setWidth 8
  else ((val.setWidth 32 &&& ~~~cfg.rangeMask) ||| (shifted &&& cfg.rangeMask)).setWidth 8

/-- The bits of a valid attribute lie inside its register. -/
theorem valid_range {cfg : FbcpldSysfsAttr} (valid : Valid cfg) : cfg.range.InsideWord 8 := by
  have wellFormed := valid_well_formed valid
  exact ⟨wellFormed.nonempty, wellFormed.inside⟩

/-- The bits of the attribute are those of the input; of the other bits a store
keeps those of an attribute that can be read, and else clears them. -/
theorem stored_content_bit {cfg : FbcpldSysfsAttr} (valid : Valid cfg) (input : BitVec 32)
    (val : BitVec 8) (i : Nat) : (storedContent cfg input val).getLsbD i =
      if cfg.range.Covers i then input.getLsbD (i - cfg.bitOffset.toNat)
      else decide (cfg.mode &&& sIrusr ≠ 0) && val.getLsbD i := by
  have wellFormed := (valid_range valid).wellFormed
  have inside : ((input &&& cfg.valueMask) <<< cfg.bitOffset.toNat) &&& cfg.rangeMask =
      (input &&& cfg.valueMask) <<< cfg.bitOffset.toNat :=
    RegbitSysfsConfig.shifted_inside wellFormed (by decide) input
  have written (before : BitVec 8) :=
    RegbitSysfsConfig.written_back_bit wellFormed (by decide) input before i
  unfold storedContent
  dsimp only
  rw [inside]
  by_cases unreadable : cfg.mode &&& sIrusr = 0
  · have cleared := written 0#8
    rw [BitVec.getLsbD_zero] at cleared
    rw [if_pos unreadable, decide_eq_false (not_not.mpr unreadable), Bool.false_and]
    refine Eq.trans (congrArg (fun word => BitVec.getLsbD word i) ?_) cleared
    refine congrArg (BitVec.setWidth 8) ?_
    change _ = (0#32 &&& _) ||| _
    rw [BitVec.zero_and, BitVec.zero_or]
    rfl
  · rw [if_neg unreadable, decide_eq_true unreadable, Bool.true_and]
    exact written val

/-- All that reading can do: fail with the error of the transaction, or show the
register. -/
theorem show_outcome (cfg : FbcpldSysfsAttr) (beyond : List (BitVec 8)) (s : RegmapBus 8) :
    let routine := fbcpldDynShow cfg beyond
    (routine.final dynBus s).regs = s.regs ∧ routine.result dynBus s =
      match s.outcome with
      | some errno => .error (-errno.code)
      | none => .ok (cfg.showText beyond (cfg.shownVal ((s.regs cfg.regAddr).setWidth 32))) := by
  simp only [fbcpldDynShow, Program.result, Program.final, dynBus]
  cases s.outcome with
  | none => exact ⟨rfl, rfl⟩
  | some errno => exact ⟨rfl, rfl⟩

/-- All that a store can do: fail and leave the registers alone, or leave its
content in its register. -/
theorem store_outcome (cfg : FbcpldSysfsAttr) (buf : String) (count : Nat) (s : RegmapBus 8) :
    let store := fbcpldDynStore cfg kstrtou32 buf count
    (store.result dynBus s < 0 ∧ (store.final dynBus s).regs = s.regs) ∨
    ∃ input, kstrtou32 buf = some input ∧ store.result dynBus s = count ∧
      (store.final dynBus s).regs = Function.update s.regs cfg.regAddr
        (storedContent cfg input (s.regs cfg.regAddr)) := by
  intro store
  have failed (errno : Errno) : (-errno.code : Int) < 0 := by
    have positive := errno.positive
    omega
  have rejected : (-einval : Int) < 0 := by decide
  simp only [store, fbcpldDynStore, storedContent]
  cases kstrtou32 buf with
  | none => exact Or.inl ⟨rejected, rfl⟩
  | some input =>
    dsimp only
    split
    · cases outcome : s.outcome with
      | some errno =>
        left
        simp only [Program.result, Program.final, dynBus, outcome]
        exact ⟨failed errno, rfl⟩
      | none =>
        right
        refine ⟨input, rfl, ?_⟩
        simp only [Program.result, Program.final, dynBus, outcome]
        exact ⟨rfl, rfl⟩
    · cases outcome : s.outcome with
      | some errno =>
        left
        simp only [Program.result, Program.final, dynBus, outcome]
        exact ⟨failed errno, rfl⟩
      | none =>
        right
        refine ⟨input, rfl, ?_⟩
        simp only [Program.result, Program.final, dynBus, outcome]
        exact ⟨rfl, rfl⟩

/-! ## Calls -/

/-- What is known of the last stored inputs after one more call: a successful
store is known, and what it may have hit is not known any more. -/
def remember (call : FileCall Nat) (reply : FileReply) (known : Nat → Option (BitVec 32)) :
    Nat → Option (BitVec 32) :=
  match call, reply with
  | .write slot buf _, .status ret =>
    if ret < 0 then known
    else fun other =>
      if other = slot then kstrtou32 buf
      else if Hits (attrAt table slot) (attrAt table other) then none
      else known other
  | _, _ => known

/-- The last input stored through each file, where no later store has hit it. -/
def lastStored (known : Nat → Option (BitVec 32)) :
    List (FileCall Nat) → RegmapBus 8 → Nat → Option (BitVec 32)
  | [], _ => known
  | call :: rest, s =>
      let routine := fileRoutine table kstrtou32 beyond call
      lastStored (remember table kstrtou32 call (routine.result dynBus s) known) rest
        (routine.final dynBus s)

/-- Each file whose last input is known holds it. -/
def HoldsKnown (known : Nat → Option (BitVec 32)) (regs : BitVec 32 → BitVec 8) : Prop :=
  ∀ slot input, known slot = some input → ∀ i, (attrAt table slot).range.Covers i →
    (regs (attrAt table slot).regAddr).getLsbD i =
      input.getLsbD (i - (attrAt table slot).bitOffset.toNat)

/-- What a call of a file does, where `known` are the inputs that are known. A read
that the transaction allows shows the known input of its file, or its negation;
a failed call changes nothing; and no call changes a bit of an attribute that it
does not hit. -/
structure Served (call : FileCall Nat) (known : Nat → Option (BitVec 32))
    (start after : RegmapBus 8) (reply : FileReply) : Prop where
  shown : ∀ slot input, call = .read slot → (table.entries slot).dynShow = true →
    known slot = some input → reply = .text (match start.outcome with
      | some errno => .error (-errno.code)
      | none => .ok ((attrAt table slot).showText (beyond slot)
          ((attrAt table slot).range.shownInput input)))
  read : ∀ slot, call = .read slot → after.regs = start.regs
  failed : ∀ ret, reply = .status ret → ret < 0 → after.regs = start.regs
  spared : ∀ other, ¬Hits (attrAt table (slotOf call)) (attrAt table other) →
    ∀ i, (attrAt table other).range.Covers i →
      (after.regs (attrAt table other).regAddr).getLsbD i =
        (start.regs (attrAt table other).regAddr).getLsbD i

variable {table}

/-- A store keeps the bits of the attributes that it does not hit. -/
theorem stored_spares {cfg other : FbcpldSysfsAttr} (valid : Valid cfg) (apart : ¬Hits cfg other)
    (regs : BitVec 32 → BitVec 8) (input : BitVec 32) {i : Nat} (covered : other.range.Covers i) :
    (Function.update regs cfg.regAddr (storedContent cfg input (regs cfg.regAddr))
      other.regAddr).getLsbD i = (regs other.regAddr).getLsbD i := by
  by_cases register : cfg.regAddr = other.regAddr
  · have readable : cfg.mode &&& sIrusr ≠ 0 := fun unreadable =>
      apart ⟨register, Or.inl unreadable⟩
    have separate : ¬cfg.range.Overlaps other.range := fun overlaps =>
      apart ⟨register, Or.inr overlaps⟩
    have uncovered := RegbitSysfsConfig.uncovered_of_apart separate register i covered
    rw [← register, Function.update_self, stored_content_bit valid, if_neg uncovered,
      decide_eq_true readable, Bool.true_and]
  · rw [Function.update_of_ne (Ne.symm register)]

/-- What a call of a live slot can do. -/
theorem routine_outcome (wellFormed : table.WellFormed) {call : FileCall Nat}
    (live : slotOf call < table.numEntries) (s : RegmapBus 8) :
    let routine := fileRoutine table kstrtou32 beyond call
    ((routine.final dynBus s).regs = s.regs ∧
      ∀ slot buf count, call = .write slot buf count →
        ∃ ret, routine.result dynBus s = .status ret ∧ ret < 0) ∨
    ∃ slot buf count input, call = .write slot buf count ∧ Valid (attrAt table slot) ∧
      kstrtou32 buf = some input ∧ routine.result dynBus s = .status count ∧
      (routine.final dynBus s).regs = Function.update s.regs (attrAt table slot).regAddr
        (storedContent (attrAt table slot) input (s.regs (attrAt table slot).regAddr)) := by
  intro routine
  cases call with
  | read slot =>
    refine Or.inl ⟨?_, nofun⟩
    simp only [routine, fileRoutine]
    split
    · rw [Program.final_bind, Program.final_pure]
      exact (show_outcome (attrAt table slot) (beyond slot) s).1
    · rfl
  | write slot buf count =>
    simp only [routine, fileRoutine]
    split
    · obtain ⟨negative, same⟩ | ⟨input, parsed, stored, written⟩ :=
        store_outcome kstrtou32 (attrAt table slot) buf count s
      · left
        simp only [Program.final_bind, Program.result_bind, Program.final_pure,
          Program.result_pure]
        refine ⟨same, ?_⟩
        rintro _ _ _ ⟨⟩
        exact ⟨_, rfl, negative⟩
      · right
        simp only [Program.final_bind, Program.result_bind, Program.final_pure,
          Program.result_pure]
        exact ⟨slot, buf, count, input, rfl, wellFormed.valid slot live, parsed,
          congrArg FileReply.status stored, written⟩
    · refine Or.inl ⟨rfl, ?_⟩
      rintro _ _ _ ⟨⟩
      exact ⟨_, rfl, by decide⟩

/-- After a call, each file whose last input is known holds it again. -/
theorem holds_known_kept (wellFormed : table.WellFormed) {call : FileCall Nat}
    (live : slotOf call < table.numEntries) {known : Nat → Option (BitVec 32)} {s : RegmapBus 8}
    (held : HoldsKnown table known s.regs) :
    let routine := fileRoutine table kstrtou32 beyond call
    HoldsKnown table (remember table kstrtou32 call (routine.result dynBus s) known)
      (routine.final dynBus s).regs := by
  intro routine
  obtain ⟨same, refused⟩ | ⟨slot, buf, count, input, rfl, valid, parsed, stored, written⟩ :=
    routine_outcome kstrtou32 beyond wellFormed live s
  · rw [same]
    cases call with
    | read slot => exact held
    | write slot buf count =>
      obtain ⟨ret, returned, negative⟩ := refused slot buf count rfl
      simpa only [routine, returned, remember, if_pos negative] using held
  · have success : ¬(count : Int) < 0 := Int.not_lt.mpr (Int.natCast_nonneg count)
    intro other last remembered i covered
    simp only [routine, stored, remember, if_neg success] at remembered
    simp only [routine, written]
    split at remembered
    · rename_i own
      subst own
      obtain rfl := Option.some.inj (parsed.symm.trans remembered)
      rw [Function.update_self, stored_content_bit valid]
      exact if_pos covered
    · split at remembered
      · cases remembered
      · rename_i apart
        rw [stored_spares valid apart s.regs input covered]
        exact held other last remembered i covered

/-- What a call does where the files hold the known inputs. -/
theorem call_served (wellFormed : table.WellFormed) {call : FileCall Nat}
    (live : slotOf call < table.numEntries) {known : Nat → Option (BitVec 32)} {s : RegmapBus 8}
    (held : HoldsKnown table known s.regs) :
    let routine := fileRoutine table kstrtou32 beyond call
    Served table beyond call known s (routine.final dynBus s) (routine.result dynBus s) := by
  intro routine
  constructor
  case shown =>
    rintro slot input rfl readable last
    have range := valid_range (wellFormed.valid slot live)
    have shown : (attrAt table slot).shownVal ((s.regs (attrAt table slot).regAddr).setWidth 32) =
        (attrAt table slot).range.shownInput input := by
      refine RegbitSysfsConfig.shown_val_held range (by decide) input _ fun i covered => ?_
      have word : i < 32 := Nat.lt_of_lt_of_le covered.2 (Nat.le_trans range.inside (by decide))
      rw [BitVec.getLsbD_setWidth, decide_eq_true word, Bool.true_and]
      exact held slot input last i covered
    have outcome := (show_outcome (attrAt table slot) (beyond slot) s).2
    rw [shown] at outcome
    simp only [routine, fileRoutine]
    rw [if_pos readable, Program.result_bind, Program.result_pure, outcome]
  all_goals
    obtain ⟨same, refused⟩ | ⟨slot, buf, count, input, rfl, valid, parsed, stored, written⟩ :=
      routine_outcome kstrtou32 beyond wellFormed live s
  case read.inl => exact fun _ _ => same
  case read.inr => exact nofun
  case failed.inl => exact fun _ _ _ => same
  case failed.inr =>
    intro ret returned negative
    have counted : (count : Int) = ret := FileReply.status.inj (stored.symm.trans returned)
    omega
  case spared.inl =>
    intro other _ i _
    rw [same]
  case spared.inr =>
    intro other apart i covered
    rw [written]
    exact stored_spares valid apart s.regs input covered

/-- In a sequence of calls each file keeps holding what is known of it. -/
theorem holds_known_run (wellFormed : table.WellFormed) {calls : List (FileCall Nat)}
    (live : ∀ call ∈ calls, slotOf call < table.numEntries) {known : Nat → Option (BitVec 32)}
    {s : RegmapBus 8} (held : HoldsKnown table known s.regs) :
    HoldsKnown table (lastStored table kstrtou32 beyond known calls s)
      (Calls.final dynBus (fileRoutine table kstrtou32 beyond) calls s).regs := by
  induction calls generalizing known s with
  | nil => exact held
  | cons call rest inductionHypothesis =>
    obtain ⟨first, later⟩ := List.forall_mem_cons.mp live
    exact inductionHypothesis later (holds_known_kept kstrtou32 beyond wellFormed first held)

end Table

/-! ## Interleavings -/

/-- A history of ioctls keeps the table well-formed. -/
theorem ioctls_well_formed {Dir : Type} (sysfs : Sysfs Dir) (ioctls : List IoctlCall)
    {s : Cpld Dir} (wellFormed : s.cdesc.WellFormed) :
    (Calls.final (cdevOn sysfs) fbcpldCdevIoctl ioctls s).cdesc.WellFormed := by
  induction ioctls generalizing s with
  | nil => exact wellFormed
  | cons call rest inductionHypothesis =>
    exact inductionHypothesis (ioctl_well_formed sysfs call wellFormed)

/-- On the table that any history of ioctls has left, any number of threads each
use a live file. In every interleaving each call is served as if it were alone,
after the calls before it in the schedule: a read shows the last input stored
through its file unless a later store has hit it. In the end each file holds the
last input stored through it that no later store has hit. -/
theorem files_lose_no_store {Dir : Type} (sysfs : Sysfs Dir) (dir : Dir) (ioctls : List IoctlCall)
    (table : FbcpldCdevDesc)
    (reached : (Calls.final (cdevOn sysfs) fbcpldCdevIoctl ioctls (registered dir)).cdesc = table)
    (kstrtou32 : String → Option (BitVec 32)) (beyond : Nat → List (BitVec 8)) {Thread : Type}
    [DecidableEq Thread] (calls : Thread → FileCall Nat)
    (live : ∀ thread, slotOf (calls thread) < table.numEntries) (start : RegmapBus 8)
    (schedule : List Thread) (last : Pool Thread DynOp DynOp.Reply FileReply (RegmapBus 8))
    (ran : Pool.run dynBus.shared schedule
      ⟨start, fun thread => fileRoutine table kstrtou32 beyond (calls thread)⟩ = some last) :
    (∀ before thread after, schedule = before ++ thread :: after →
      let earlier := before.map calls
      let routine := fileRoutine table kstrtou32 beyond
      let met := Calls.final dynBus routine earlier start
      ∃ reply, last.program thread = .done reply ∧
        Served table beyond (calls thread)
          (lastStored table kstrtou32 beyond (fun _ => none) earlier start) met
          ((routine (calls thread)).final dynBus met) reply) ∧
    HoldsKnown table (lastStored table kstrtou32 beyond (fun _ => none) (schedule.map calls) start)
      last.shared.regs := by
  have wellFormed : table.WellFormed := reached ▸
    ioctls_well_formed sysfs ioctls
      (well_formed_empty (show (registered dir).cdesc.numEntries = 0 from rfl))
  have inOrder := atomic_run
    (fun thread => file_routine_atomic table kstrtou32 beyond (calls thread)) ran
  have held (order : List Thread) :
      HoldsKnown table (lastStored table kstrtou32 beyond (fun _ => none) (order.map calls) start)
        (Calls.final dynBus (fileRoutine table kstrtou32 beyond) (order.map calls) start).regs := by
    refine holds_known_run kstrtou32 beyond wellFormed ?_ (fun slot input known => nomatch known)
    intro call member
    obtain ⟨thread, _, rfl⟩ := List.mem_map.mp member
    exact live thread
  constructor
  · intro before thread after split earlier routine met
    have returned := inOrder.returned before thread after split
    rw [← Calls.final_map] at returned
    exact ⟨_, returned, call_served kstrtou32 beyond wellFormed (live thread) (held before)⟩
  · rw [inOrder.shared, ← Calls.final_map]
    exact held schedule

/-! ## Two halves of a register -/

/-- CREATE of the low half `a` and the high half `b` of register 0. -/
def halvesCreate : IoctlCall :=
  .sysfsCreate true (some ⟨2, fun i =>
    if i.val = 0 then { attrNamed 0x61 with mode := 0o644, numBits := 4 }
    else { attrNamed 0x62 with mode := 0o644, bitOffset := 4, numBits := 4 }⟩)

/-- The table with both halves. -/
def halvesTable : FbcpldCdevDesc :=
  (Calls.final (cdevOn namedFiles) fbcpldCdevIoctl [halvesCreate] (registered ⟨[], []⟩)).cdesc

/-- A store to each half, and a read of the low one. -/
def halvesCalls : Fin 3 → FileCall Nat
  | 0 => .write 0 "3" 1
  | 1 => .write 1 "5" 1
  | 2 => .read 0

/-- The threads before their calls, with all bits set. -/
def halvesPool : Pool (Fin 3) DynOp DynOp.Reply FileReply (RegmapBus 8) where
  shared := ⟨fun _ => 0xFF, []⟩
  program := fun thread =>
    fileRoutine halvesTable (fun buf => if buf = "3" then some 3 else some 5) (fun _ => [])
      (halvesCalls thread)

/-- The store to the high half comes between the store to the low half and its
read, which shows what was stored. -/
theorem halves_apart :
    ∃ last, halvesPool.run dynBus.shared [0, 1, 2] = some last ∧
      last.program 2 = .done (.text (.ok (ascii "0x3\n"))) := by
  refine ⟨_, rfl, ?_⟩
  have served := files_lose_no_store namedFiles ⟨[], []⟩ [halvesCreate] halvesTable rfl
    (fun buf => if buf = "3" then some 3 else some 5) (fun _ => []) halvesCalls
    (by decide +kernel) ⟨fun _ => 0xFF, []⟩ [0, 1, 2] _ rfl
  obtain ⟨reply, returned, call⟩ := served.1 [0, 1] 2 [] rfl
  have shown := call.shown 0 3 rfl (by decide +kernel) (by decide +kernel)
  have printed : (attrAt halvesTable 0).showText [] ((attrAt halvesTable 0).range.shownInput 3) =
      ascii "0x3\n" := by decide +kernel
  refine returned.trans (congrArg Program.done (shown.trans ?_))
  exact congrArg (fun text => FileReply.text (.ok text)) printed

end FbossBsp.Fbcpld
