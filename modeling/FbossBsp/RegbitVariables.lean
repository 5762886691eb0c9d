import FbossBsp.RegbitHandlers

/-!
# Register bits as variables

Calls that follow each other treat the files of a device as variables: a file
shows the last number stored through it, cut to its bits, as long as no other
store has hit one of them. Any transaction with the device may fail; a failed
write leaves the register as it was.
-/

namespace FbossBsp.Regbit

open Interaction

/-! ## The device -/

/-- The registers, and whether the next transactions fail and how. -/
structure RegmapBus (w : Nat) where
  regs : BitVec 32 → BitVec w
  outcomes : List (Option Errno)

namespace RegmapBus

variable {w : Nat} (s : RegmapBus w)

/-- The error of the next transaction, if it fails. -/
def outcome : Option Errno := s.outcomes.headD none

/-- One transaction later. -/
def next : RegmapBus w := { s with outcomes := s.outcomes.tail }

/-- The next call finds the registers as they are. -/
@[simp] theorem next_regs : s.next.regs = s.regs := rfl

end RegmapBus

/-- A mutex is free whenever a call takes it, since the call before has returned. -/
def regmapBus {w : Nat} {Entry : Type} : Device (RegmapOp Entry) RegmapOp.Reply (RegmapBus w)
  | .mutexLock _, s => ((), s)
  | .mutexUnlock _, s => ((), s)
  | .regmapRead reg, s =>
    match s.outcome with
    | some errno => (.error errno, s.next)
    | none => (.ok ((s.regs reg).setWidth 32), s.next)
  | .regmapWrite reg val, s =>
    match s.outcome with
    | some errno => (.error errno, s.next)
    | none => (.ok (), { s.next with regs := Function.update s.regs reg (val.setWidth w) })

/-- The error with which a transaction failed. -/
def failure? {Entry : Type} : Event (RegmapOp Entry) RegmapOp.Reply → Option Errno
  | ⟨.mutexLock _, _⟩ | ⟨.mutexUnlock _, _⟩ => none
  | ⟨.regmapRead _, reply⟩ =>
    match reply with
    | .error errno => some errno
    | .ok _ => none
  | ⟨.regmapWrite _ _, reply⟩ =>
    match reply with
    | .error errno => some errno
    | .ok _ => none

/-! ## The files -/

/-- Readable and writable files with the default handlers, over nonempty bit
ranges inside registers of `w` bits; the ranges may overlap. -/
structure FieldFiles (w : Nat) (Entry : Type) where
  small : w ≤ 32
  config : Entry → RegbitFileConfig Entry
  wellFormed : ∀ entry, (config entry).toRegbitSysfsConfig.WellFormed w
  readable : ∀ entry, (config entry).mode &&& sIrusr ≠ 0
  writable : ∀ entry, (config entry).mode &&& sIwusr ≠ 0
  defaultShow : ∀ entry, (config entry).showFunc = none
  defaultStore : ∀ entry, (config entry).storeFunc = none

namespace RegbitSysfsConfig

/-- Two attributes share a bit of a register. -/
def Overlaps (first second : RegbitSysfsConfig) : Prop :=
  first.regAddr = second.regAddr ∧
    first.bitOffset.toNat < second.bitOffset.toNat + second.numBits.toNat ∧
    second.bitOffset.toNat < first.bitOffset.toNat + first.numBits.toNat

instance (first second : RegbitSysfsConfig) : Decidable (first.Overlaps second) :=
  inferInstanceAs (Decidable (_ ∧ _ ∧ _))

/-- Attributes of one register that share no bit cover different bits. -/
theorem uncovered_of_apart {first second : RegbitSysfsConfig} (apart : ¬first.Overlaps second)
    (register : first.regAddr = second.regAddr) (i : Nat) (covered : second.Covers i) :
    ¬first.Covers i := by
  intro both
  obtain ⟨lower, upper⟩ := covered
  obtain ⟨start, stop⟩ := both
  exact apart ⟨register, by omega, by omega⟩

end RegbitSysfsConfig

section Files

variable {w : Nat} {Entry : Type} [DecidableEq Entry]
variable (fields : FieldFiles w Entry) (kstrtou32 : String → Option (BitVec 32))

/-- A call on the attribute that `regbit_attr_init` has set up for the entry. -/
def fieldRoutine (call : FileCall Entry) : Regmap Entry FileReply :=
  call.routine fun entry => regbitAttr kstrtou32 entry (fields.config entry)

omit [DecidableEq Entry] in
/-- A read of an entry shows its field. -/
theorem field_routine_read (entry : Entry) :
    fieldRoutine fields kstrtou32 (.read entry) =
      (do return .text (← regbitSysfsShow (fields.config entry))) := by
  simp only [fieldRoutine, FileCall.routine, devAttrShow, regbitAttr,
    if_pos (fields.readable entry), fields.defaultShow, Option.getD_none, Option.getD_some]

omit [DecidableEq Entry] in
/-- A write of an entry stores its field. -/
theorem field_routine_write (entry : Entry) (buf : String) (count : Nat) :
    fieldRoutine fields kstrtou32 (.write entry buf count) =
      (do return .status (← regbitSysfsStore (fields.config entry).toRegbitSysfsConfig entry count
        kstrtou32 buf)) := by
  simp only [fieldRoutine, FileCall.routine, devAttrStore, regbitAttr,
    if_pos (fields.writable entry), fields.defaultStore, Option.getD_none, Option.getD_some]

/-- What is known of the last stored inputs after one more call: a successful
store is known, and what it may have hit is not known any more. -/
def remember (call : FileCall Entry) (reply : FileReply) (known : Entry → Option (BitVec 32)) :
    Entry → Option (BitVec 32) :=
  match call, reply with
  | .write entry buf _, .status ret =>
    if ret < 0 then known
    else fun other =>
      if other = entry then kstrtou32 buf
      else if (fields.config entry).Overlaps (fields.config other).toRegbitSysfsConfig then none
      else known other
  | _, _ => known

/-- The last input stored through each file, where no later store has hit it. -/
def lastStored (known : Entry → Option (BitVec 32)) :
    List (FileCall Entry) → RegmapBus w → Entry → Option (BitVec 32)
  | [], _ => known
  | call :: rest, s =>
      lastStored (remember fields kstrtou32 call
        ((fieldRoutine fields kstrtou32 call).result regmapBus s) known) rest
        ((fieldRoutine fields kstrtou32 call).final regmapBus s)

/-- What a store does beyond its own bits: nothing, and nothing at all when a
transaction fails. -/
structure StoreLaw (entry : Entry) (start : RegmapBus w) (reply : FileReply)
    (events : List (Event (RegmapOp Entry) RegmapOp.Reply)) (after : RegmapBus w) : Prop where
  frame : ∀ reg i, ¬(reg = (fields.config entry).regAddr ∧ (fields.config entry).Covers i) →
    (after.regs reg).getLsbD i = (start.regs reg).getLsbD i
  failed : ∀ event ∈ events, ∀ errno, failure? event = some errno →
    reply = .status (-errno.code) ∧ after.regs = start.regs

/-- Every store obeys its law. -/
def WriteObeys (call : FileCall Entry) (start : RegmapBus w) : Prop :=
  ∀ entry buf count, call = .write entry buf count →
    StoreLaw fields entry start ((fieldRoutine fields kstrtou32 call).result regmapBus start)
      ((fieldRoutine fields kstrtou32 call).events regmapBus start)
      ((fieldRoutine fields kstrtou32 call).final regmapBus start)

omit [DecidableEq Entry] in
/-- All that a store can do: reject its input, fail with the error of its failed
transaction and leave the registers alone, or write back what it has read with
the bits of the input. -/
theorem store_cases (config : RegbitSysfsConfig) (entry : Entry) (buf : String) (count : Nat)
    (s : RegmapBus w) :
    let store := regbitSysfsStore config entry count kstrtou32 buf
    (kstrtou32 buf = none ∧ store.result regmapBus s = -einval ∧
      store.events regmapBus s = [] ∧ store.final regmapBus s = s) ∨
    (∃ errno : Errno, store.result regmapBus s = -errno.code ∧
      (store.final regmapBus s).regs = s.regs ∧
      ∀ event ∈ store.events regmapBus s, ∀ other, failure? event = some other →
        other = errno) ∨
    (∃ input, kstrtou32 buf = some input ∧ store.result regmapBus s = count ∧
      (store.final regmapBus s).regs = Function.update s.regs config.regAddr
        ((config.storedVal input ((s.regs config.regAddr).setWidth 32)).setWidth w) ∧
      ∀ event ∈ store.events regmapBus s, failure? event = none) := by
  intro store
  simp only [store, regbitSysfsStore]
  cases parsed : kstrtou32 buf with
  | none => exact Or.inl ⟨rfl, rfl, rfl, rfl⟩
  | some input =>
    right
    cases reading : s.outcome with
    | some errno =>
      left
      refine ⟨errno, ?_⟩
      simp [regbitStoreLocked, regbitStoreExit, regmapBus, reading, failure?, Program.result,
        Program.final, Program.events]
    | none =>
      cases writing : s.next.outcome with
      | some errno =>
        left
        refine ⟨errno, ?_⟩
        simp [regbitStoreLocked, regbitStoreExit, regmapBus, reading, writing, failure?,
          Program.result, Program.final, Program.events]
      | none =>
        right
        refine ⟨input, rfl, ?_⟩
        simp [regbitStoreLocked, regbitStoreExit, regmapBus, reading, writing, failure?,
          Program.result, Program.final, Program.events]

omit [DecidableEq Entry] in
/-- Reading a file shows the bits of the register, or fails as the transaction does. -/
theorem field_read_run (entry : Entry) (s : RegmapBus w) :
    let config := fields.config entry
    let routine := fieldRoutine fields kstrtou32 (.read entry)
    routine.result regmapBus s = .text (match s.outcome with
      | some errno => .error (-errno.code)
      | none => .ok (config.showText (config.shownVal ((s.regs config.regAddr).setWidth 32)))) ∧
      (routine.final regmapBus s).regs = s.regs := by
  intro config routine
  have same : routine = regbitSysfsShow config >>= fun outcome => pure (.text outcome) :=
    field_routine_read fields _ _
  rw [same]
  simp only [Program.result_bind, Program.final_bind, Program.result_pure, Program.final_pure]
  cases reading : s.outcome <;>
    simp [regbitSysfsShow, regmapBus, reading, Program.result, Program.final]

omit [DecidableEq Entry] in
/-- Serving a write only passes the result of the store on. -/
theorem field_write_run (entry : Entry) (buf : String) (count : Nat) (s : RegmapBus w) :
    let store := regbitSysfsStore (fields.config entry).toRegbitSysfsConfig entry count kstrtou32 buf
    let routine := fieldRoutine fields kstrtou32 (.write entry buf count)
    routine.result regmapBus s = .status (store.result regmapBus s) ∧
      routine.events regmapBus s = store.events regmapBus s ∧
      routine.final regmapBus s = store.final regmapBus s := by
  intro store routine
  have same : routine = store >>= fun ret => pure (.status ret) := field_routine_write fields _ _ _ _
  rw [same]
  simp only [Program.result_bind, Program.events_bind, Program.final_bind, Program.result_pure,
    Program.events_pure, Program.final_pure, List.append_nil, and_self]

omit [DecidableEq Entry] in
/-- Every store obeys its law, whatever fails. -/
theorem write_obeys (call : FileCall Entry) (s : RegmapBus w) :
    WriteObeys fields kstrtou32 call s := by
  rintro entry buf count rfl
  obtain ⟨result, events, final⟩ := field_write_run fields kstrtou32 entry buf count s
  rw [result, events, final]
  have unchanged {after : RegmapBus w} (same : after.regs = s.regs) (reg : BitVec 32) (i : Nat) :
      (after.regs reg).getLsbD i = (s.regs reg).getLsbD i := by
    rw [same]
  obtain ⟨_, _, noEvents, same⟩ | ⟨errno, returned, same, errors⟩ |
    ⟨input, _, _, written, clean⟩ := store_cases kstrtou32
      (fields.config entry).toRegbitSysfsConfig entry buf count s
  · rw [noEvents, same]
    exact ⟨fun _ _ _ => rfl, fun event member => absurd member List.not_mem_nil⟩
  · refine ⟨fun reg i _ => unchanged same reg i, fun event member other failed => ?_⟩
    rw [errors event member other failed]
    exact ⟨congrArg FileReply.status returned, same⟩
  · constructor
    · intro reg i outside
      rw [written]
      by_cases own : reg = (fields.config entry).regAddr
      · subst own
        have uncovered : ¬(fields.config entry).Covers i := fun covered => outside ⟨rfl, covered⟩
        rw [Function.update_self, RegbitSysfsConfig.written_back_bit (fields.wellFormed entry)
          fields.small, if_neg uncovered]
      · rw [Function.update_of_ne own]
    · intro event member errno failed
      rw [clean event member] at failed
      exact absurd failed.symm (by simp)

/-! ## The variables -/

/-- Each file whose last input is known holds it. -/
def HoldsKnown (known : Entry → Option (BitVec 32)) (regs : BitVec 32 → BitVec w) : Prop :=
  ∀ entry input, known entry = some input → ∀ i, (fields.config entry).Covers i →
    (regs (fields.config entry).regAddr).getLsbD i =
      input.getLsbD (i - (fields.config entry).bitOffset.toNat)

/-- A call keeps what is known after it.

Proof: by the call. A failed one changes nothing, and a store sets its own field and
keeps those apart from it. -/
theorem holds_remember (call : FileCall Entry) (s : RegmapBus w)
    (known : Entry → Option (BitVec 32)) (holds : HoldsKnown fields known s.regs) :
    HoldsKnown fields
      (remember fields kstrtou32 call ((fieldRoutine fields kstrtou32 call).result regmapBus s) known)
      ((fieldRoutine fields kstrtou32 call).final regmapBus s).regs := by
  cases call with
  | read entry =>
    rw [(field_read_run fields kstrtou32 entry s).2]
    exact holds
  | write entry buf count =>
    obtain ⟨result, _, final⟩ := field_write_run fields kstrtou32 entry buf count s
    rw [result, final]
    obtain ⟨_, rejected, _, same⟩ | ⟨errno, failed, same, _⟩ |
      ⟨input, parsed, stored, written, _⟩ := store_cases kstrtou32
        (fields.config entry).toRegbitSysfsConfig entry buf count s
    · have negative : -einval < 0 := by decide
      rw [rejected, same]
      simpa only [remember, negative, if_true] using holds
    · have negative : (-errno.code : Int) < 0 := by
        have positive := errno.positive
        omega
      rw [failed, same]
      simpa only [remember, negative, if_true] using holds
    · have nonnegative : ¬(count : Int) < 0 := by omega
      rw [stored, written]
      simp only [remember, nonnegative, if_false]
      intro other value knows i covered
      dsimp only at knows
      split at knows
      · rename_i own
        subst own
        rw [parsed] at knows
        cases knows
        rw [Function.update_self, RegbitSysfsConfig.written_back_bit (fields.wellFormed _)
          fields.small, if_pos covered]
      · split at knows
        · exact absurd knows.symm (by simp)
        · rename_i apart
          by_cases register : (fields.config entry).regAddr = (fields.config other).regAddr
          · have uncovered := RegbitSysfsConfig.uncovered_of_apart apart register i covered
            rw [← register, Function.update_self, RegbitSysfsConfig.written_back_bit
              (fields.wellFormed _) fields.small, if_neg uncovered, register]
            exact holds other value knows i covered
          · rw [Function.update_of_ne (Ne.symm register)]
            exact holds other value knows i covered

/-- A sequence of calls keeps what is known. -/
theorem holds_last_stored (calls : List (FileCall Entry)) (s : RegmapBus w)
    (known : Entry → Option (BitVec 32)) (holds : HoldsKnown fields known s.regs) :
    HoldsKnown fields (lastStored fields kstrtou32 known calls s)
      (Calls.final regmapBus (fieldRoutine fields kstrtou32) calls s).regs := by
  induction calls generalizing s known with
  | nil => exact holds
  | cons call rest inductionHypothesis =>
    exact inductionHypothesis _ _ (holds_remember fields kstrtou32 call s known holds)

/-- After every sequence of calls that follow each other, a file shows the last
input stored through it, cut to its bits, provided no later store has hit one
of them; and every store of the sequence leaves all bits outside its range and
all other registers alone, and when a transaction of it fails, returns that
error and leaves everything alone. This holds for every register content, every
input and every pattern of failures.

Proof: what is known of the inputs is an invariant, kept by the one way in which
a store can succeed. -/
theorem files_are_variables (calls : List (FileCall Entry)) (s : RegmapBus w) :
    (∀ entry input, lastStored fields kstrtou32 (fun _ => none) calls s entry = some input →
      let config := fields.config entry
      let reached := Calls.final regmapBus (fieldRoutine fields kstrtou32) calls s
      (fieldRoutine fields kstrtou32 (.read entry)).result regmapBus reached =
        .text (match reached.outcome with
          | some errno => .error (-errno.code)
          | none => .ok (config.showText (input &&& config.valueMask)))) ∧
      Calls.Each regmapBus (fieldRoutine fields kstrtou32) (WriteObeys fields kstrtou32) calls s := by
  constructor
  · intro entry input stored config reached
    have nothing : HoldsKnown fields (fun _ => none) s.regs := fun _ _ known =>
      absurd known.symm (by simp)
    have held := holds_last_stored fields kstrtou32 calls s _ nothing entry input stored
    have wellFormed := fields.wellFormed entry
    have shown : config.shownVal ((reached.regs config.regAddr).setWidth 32) =
        input &&& config.valueMask := by
      apply RegbitSysfsConfig.shown_val_eq wellFormed fields.small
      intro i covered
      have word : i < 32 :=
        Nat.lt_of_lt_of_le covered.2 (Nat.le_trans wellFormed.inside fields.small)
      rw [BitVec.getLsbD_setWidth]
      simpa [word] using held i covered
    rw [(field_read_run fields kstrtou32 entry reached).1, shown]
  · exact Calls.each_of_forall (write_obeys fields kstrtou32) calls s

end Files

/-- One file over three bits of an 8-bit register. -/
def threeBits : FieldFiles 8 Unit where
  small := by decide
  config := fun _ => ⟨⟨0x10, 2, 3, 0⟩, ascii "mux_sel", 0o644, none, none, none⟩
  wellFormed := fun _ => ⟨by decide, by decide, by decide⟩
  readable := fun _ => by decide
  writable := fun _ => by decide
  defaultShow := fun _ => rfl
  defaultStore := fun _ => rfl

example : (fieldRoutine threeBits (fun _ => some 13) (.read ())).result regmapBus
    (Calls.final regmapBus (fieldRoutine threeBits fun _ => some 13) [.write () "13" 2]
      (⟨fun _ => 0, []⟩ : RegmapBus 8)) = .text (.ok (ascii "0x5\n")) := rfl

end FbossBsp.Regbit
