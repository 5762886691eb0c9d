import FbossBsp.CpldDirectory
import FbossBsp.Interaction.Calls

/-!
# The table after a history of calls

CREATE and DESTROY_ALL run one at a time here, in any number. The directory is
of any kind: creating a file may fail at any point, for any reason. What the
table contains does not depend on it, but which handlers a slot has depends on
everything that was ever stored in the slot.
-/

namespace FbossBsp.Fbcpld

open Interaction

/-! ## What a pass does to the table -/

/-- The table goes from `before` to `after` by new entries behind the old ones. -/
structure FbcpldCdevDesc.Extends (before after : FbcpldCdevDesc) : Prop where
  numEntries : before.numEntries ≤ after.numEntries
  entries : ∀ slot < before.numEntries, after.entries slot = before.entries slot

/-- A table extends itself. -/
theorem FbcpldCdevDesc.Extends.refl (cdesc : FbcpldCdevDesc) : cdesc.Extends cdesc :=
  ⟨Nat.le_refl _, fun _ _ => rfl⟩

/-- A table that extends an extension extends the first table. -/
theorem FbcpldCdevDesc.Extends.trans {first second third : FbcpldCdevDesc}
    (early : first.Extends second) (late : second.Extends third) : first.Extends third where
  numEntries := Nat.le_trans early.numEntries late.numEntries
  entries := fun slot live =>
    (late.entries slot (Nat.lt_of_lt_of_le live early.numEntries)).trans (early.entries slot live)

/-- Only the slot behind the entries is initialized. -/
theorem init_next_entries (cdesc : FbcpldCdevDesc) (cfg : FbcpldSysfsAttr) {slot : Nat}
    (live : slot < cdesc.numEntries) : (cdesc.initNext cfg).entries slot = cdesc.entries slot :=
  Function.update_of_ne (Nat.ne_of_lt live) _ _

/-- The slot behind the entries is initialized from the request. -/
theorem init_next_last (cdesc : FbcpldCdevDesc) (cfg : FbcpldSysfsAttr) :
    (cdesc.initNext cfg).entries cdesc.numEntries =
      fbcpldInitEntry (cdesc.entries cdesc.numEntries) cfg :=
  Function.update_self _ _ _

section Passes

variable {Dir : Type} (sysfs : Sysfs Dir)

/-- All that one pass can do to the table: nothing, initialize the next slot, or
add the next entry. -/
theorem create_attr_table (cfg : FbcpldSysfsAttr) (s : Cpld Dir) :
    (¬Adds sysfs cfg s ∧ (createAttr sysfs cfg s).2.2.cdesc = s.cdesc) ∨
    (¬Adds sysfs cfg s ∧ (createAttr sysfs cfg s).2.2.cdesc = s.cdesc.initNext cfg) ∨
    (Adds sysfs cfg s ∧ ∃ bounded, (createAttr sysfs cfg s).2.2.cdesc =
      ⟨(s.cdesc.initNext cfg).entries, s.cdesc.numEntries + 1, bounded⟩) := by
  obtain ⟨idle, same⟩ | ⟨idle, _, _, initialized⟩ | ⟨adds, bounded, added⟩ :=
    create_attr_cases sysfs cfg s
  · exact Or.inl ⟨idle, congrArg Cpld.cdesc same⟩
  · exact Or.inr (Or.inl ⟨idle, congrArg Cpld.cdesc initialized⟩)
  · exact Or.inr (Or.inr ⟨adds, bounded, congrArg Cpld.cdesc added⟩)

/-- A pass leaves the entries before it alone. -/
theorem create_attr_extends (cfg : FbcpldSysfsAttr) (s : Cpld Dir) :
    s.cdesc.Extends (createAttr sysfs cfg s).2.2.cdesc := by
  have kept (slot : Nat) (live : slot < s.cdesc.numEntries) :
      (s.cdesc.initNext cfg).entries slot = s.cdesc.entries slot :=
    init_next_entries s.cdesc cfg live
  obtain ⟨_, same⟩ | ⟨_, initialized⟩ | ⟨_, bounded, added⟩ := create_attr_table sysfs cfg s
  · rw [same]
    exact .refl _
  · rw [initialized]
    exact ⟨Nat.le_refl _, kept⟩
  · rw [added]
    exact ⟨Nat.le_succ _, kept⟩

/-- What every pass keeps is kept by the loop. -/
theorem create_loop_invariant {P : Cpld Dir → Prop}
    (pass : ∀ cfg s, P s → P (createAttr sysfs cfg s).2.2) (attrs : List FbcpldSysfsAttr)
    (ret : Int) {s : Cpld Dir} (initially : P s) : P (createLoop sysfs attrs ret s).2 := by
  induction attrs generalizing ret s with
  | nil => exact initially
  | cons cfg rest inductionHypothesis =>
    have kept := pass cfg s initially
    unfold createLoop
    by_cases goesOn : (createAttr sysfs cfg s).2.1 = true
    · rw [if_pos goesOn]
      exact inductionHypothesis _ kept
    · rw [if_neg goesOn]
      exact kept

/-- A CREATE keeps the live entries. -/
theorem create_loop_extends (attrs : List FbcpldSysfsAttr) (ret : Int) (s : Cpld Dir) :
    s.cdesc.Extends (createLoop sysfs attrs ret s).2.cdesc :=
  create_loop_invariant (P := fun after => s.cdesc.Extends after.cdesc) sysfs
    (fun cfg after earlier => earlier.trans (create_attr_extends sysfs cfg after)) attrs ret
    (.refl _)

end Passes

/-! ## The table invariant -/

/-- Every entry is valid, and no two entries have the same name. -/
structure FbcpldCdevDesc.WellFormed (cdesc : FbcpldCdevDesc) : Prop where
  bounded : cdesc.numEntries ≤ fbcpldMaxAttrs
  named : ∀ slot < cdesc.numEntries, CString.text (List.ofFn (cdesc.entries slot).attrCfg.name) ≠ []
  different : ∀ first < cdesc.numEntries, ∀ second < cdesc.numEntries, first ≠ second →
    sameName (cdesc.entries first).attrCfg.name (cdesc.entries second).attrCfg.name = false
  valid : ∀ slot < cdesc.numEntries, Valid (cdesc.entries slot).attrCfg

/-- A name whose first byte is not the terminator is not empty. -/
theorem text_nonempty (n : ℕ) (bytes : Fin (n + 1) → BitVec 8) (named : bytes 0 ≠ 0) :
    CString.text (List.ofFn bytes) ≠ [] := by
  rw [List.ofFn_succ, CString.text_cons named]
  exact List.cons_ne_nil _ _

/-- The comparison of two names does not depend on their order. -/
theorem same_name_comm (first second : Fin nameMax → BitVec 8) :
    sameName first second = sameName second first := by
  simp only [sameName, eq_comm]

/-- A table without live entries is well-formed. -/
theorem well_formed_empty {cdesc : FbcpldCdevDesc} (empty : cdesc.numEntries = 0) :
    cdesc.WellFormed := by
  have none (slot : Nat) : ¬slot < cdesc.numEntries := by
    rw [empty]
    exact Nat.not_lt_zero slot
  exact ⟨cdesc.bounded, fun slot live => absurd live (none slot),
    fun first live => absurd live (none first), fun slot live => absurd live (none slot)⟩

/-- The live entries decide whether a table is well-formed. -/
theorem FbcpldCdevDesc.WellFormed.congr {before after : FbcpldCdevDesc}
    (wellFormed : before.WellFormed) (count : after.numEntries = before.numEntries)
    (same : ∀ slot < before.numEntries, after.entries slot = before.entries slot) :
    after.WellFormed where
  bounded := after.bounded
  named := by
    intro slot live
    rw [count] at live
    rw [same slot live]
    exact wellFormed.named slot live
  different := by
    intro first live second liveToo apart
    rw [count] at live liveToo
    rw [same first live, same second liveToo]
    exact wellFormed.different first live second liveToo apart
  valid := by
    intro slot live
    rw [count] at live
    rw [same slot live]
    exact wellFormed.valid slot live

/-- Behind the entries of the table, the new entry has the attribute. -/
theorem init_next_live (cdesc : FbcpldCdevDesc) (cfg : FbcpldSysfsAttr) {slot : Nat}
    (live : slot < cdesc.numEntries + 1) :
    (slot < cdesc.numEntries ∧ (cdesc.initNext cfg).entries slot = cdesc.entries slot) ∨
      (slot = cdesc.numEntries ∧ ((cdesc.initNext cfg).entries slot).attrCfg = cfg) := by
  obtain earlier | rfl := Nat.lt_succ_iff_lt_or_eq.mp live
  · exact Or.inl ⟨earlier, init_next_entries cdesc cfg earlier⟩
  · right
    rw [init_next_last]
    exact ⟨rfl, rfl⟩

/-- A valid attribute with a new name is added.

Proof: a live slot is an earlier one or the new one. Two earlier ones differ in
their names already, and the new name is in no earlier slot. -/
theorem add_next_well_formed {cdesc : FbcpldCdevDesc} (wellFormed : cdesc.WellFormed)
    {cfg : FbcpldSysfsAttr} (valid : Valid cfg)
    (fresh : fbcpldEntryExists cdesc cfg.name = false)
    (bounded : cdesc.numEntries + 1 ≤ fbcpldMaxAttrs) :
    FbcpldCdevDesc.WellFormed ⟨(cdesc.initNext cfg).entries, cdesc.numEntries + 1, bounded⟩ := by
  have unlike (slot : Nat) (live : slot < cdesc.numEntries) :
      sameName (cdesc.entries slot).attrCfg.name cfg.name = false := by
    have absent := List.any_eq_false.mp fresh slot (List.mem_range.mpr live)
    exact Bool.eq_false_iff.mpr absent
  constructor
  · exact bounded
  · intro slot live
    obtain ⟨earlier, same⟩ | ⟨_, new⟩ := init_next_live cdesc cfg live
    · simp only [same]
      exact wellFormed.named slot earlier
    · simp only [new]
      exact text_nonempty 254 cfg.name valid.named
  · intro first live second liveToo apart
    obtain ⟨earlier, same⟩ | ⟨last, new⟩ := init_next_live cdesc cfg live
    · obtain ⟨earlierToo, sameToo⟩ | ⟨_, newToo⟩ := init_next_live cdesc cfg liveToo
      · simp only [same, sameToo]
        exact wellFormed.different first earlier second earlierToo apart
      · simp only [same, newToo]
        exact unlike first earlier
    · obtain ⟨earlierToo, sameToo⟩ | ⟨lastToo, _⟩ := init_next_live cdesc cfg liveToo
      · simp only [new, sameToo]
        rw [same_name_comm]
        exact unlike second earlierToo
      · exact absurd (last.trans lastToo.symm) apart
  · intro slot live
    obtain ⟨earlier, same⟩ | ⟨_, new⟩ := init_next_live cdesc cfg live
    · simp only [same]
      exact wellFormed.valid slot earlier
    · simp only [new]
      exact valid

section Runs

variable {Dir : Type} (sysfs : Sysfs Dir)

/-- One attribute of a request keeps the table well-formed: it is added with a name
of its own, or no entry becomes live. -/
theorem create_attr_well_formed (cfg : FbcpldSysfsAttr) (s : Cpld Dir)
    (wellFormed : s.cdesc.WellFormed) : (createAttr sysfs cfg s).2.2.cdesc.WellFormed := by
  obtain ⟨_, same⟩ | ⟨_, initialized⟩ | ⟨adds, bounded, added⟩ := create_attr_table sysfs cfg s
  · rw [same]
    exact wellFormed
  · rw [initialized]
    exact wellFormed.congr rfl fun slot live => init_next_entries s.cdesc cfg live
  · rw [added]
    exact add_next_well_formed wellFormed (validate_attr_zero adds.1) adds.2.1 bounded

/-- Removing files does not change the table. -/
theorem remove_loop_final (remaining slot : Nat) (s : Cpld Dir) :
    ((removeLoop remaining slot).final (cdevOn sysfs) s).cdesc = s.cdesc := by
  induction remaining generalizing slot s with
  | zero => rfl
  | succ remaining inductionHypothesis => exact inductionHypothesis (slot + 1) _

/-- DESTROY_ALL leaves no entry. -/
theorem destroy_all_final (s : Cpld Dir) :
    ((fbcpldCdevIoctl .sysfsDestroyAll).final (cdevOn sysfs) s).cdesc.numEntries = 0 := by
  simp only [fbcpldCdevIoctl, fbcpldSysfsDestroyAll, Program.final_bind, Program.final_pure,
    remove_loop_final]
  rfl

/-- A CREATE request either runs the loop or leaves the table alone. -/
theorem create_final (allocated : Bool) (user : Option CreateRequest) (s : Cpld Dir) :
    (fbcpldCdevIoctl (.sysfsCreate allocated user)).final (cdevOn sysfs) s = s ∨
      ∃ req : CreateRequest, (fbcpldCdevIoctl (.sysfsCreate allocated user)).final (cdevOn sysfs) s =
        (createLoop sysfs req.requested 0 s).2 := by
  simp only [fbcpldCdevIoctl, fbcpldSysfsCreate]
  split
  · exact Or.inl rfl
  · cases user with
    | none => exact Or.inl rfl
    | some req =>
      simp only
      split
      · exact Or.inl rfl
      · exact Or.inr ⟨req, rfl⟩

/-- Each pass of the loop satisfies `P` in the state that it meets. -/
def EachPass (P : FbcpldSysfsAttr → Cpld Dir → Prop) :
    List FbcpldSysfsAttr → Cpld Dir → Prop
  | [], _ => True
  | cfg :: rest, s =>
      P cfg s ∧
        ((createAttr sysfs cfg s).2.1 = true → EachPass P rest (createAttr sysfs cfg s).2.2)

/-- What always holds holds at every pass of the loop. -/
theorem each_pass_of_forall {P : FbcpldSysfsAttr → Cpld Dir → Prop} (always : ∀ cfg s, P cfg s)
    (attrs : List FbcpldSysfsAttr) (s : Cpld Dir) : EachPass sysfs P attrs s := by
  induction attrs generalizing s with
  | nil => trivial
  | cons cfg rest inductionHypothesis => exact ⟨always cfg s, fun _ => inductionHypothesis _⟩

/-- The create section of a call satisfies `P`. -/
def SectionOp (P : List FbcpldSysfsAttr → Cpld Dir → Prop) : CdevOp → Cpld Dir → Prop
  | .createLocked req, s => P req.requested s
  | _, _ => True

variable {I : FbcpldCdevDesc → Prop}

/-- Where a pass keeps `I` and has the property `Q` exactly when it meets the
condition `C`, so does the loop; `I` must hold of all earlier entries.

Proof: by induction on the attributes. Later passes only extend the table, so what a
pass breaks stays broken. -/
theorem create_loop_iff {Q C : FbcpldSysfsAttr → Cpld Dir → Prop}
    (earlier : ∀ {before after : FbcpldCdevDesc}, before.Extends after → I after → I before)
    (pass : ∀ cfg (s : Cpld Dir), I s.cdesc →
      (I (createAttr sysfs cfg s).2.2.cdesc ∧ Q cfg s ↔ C cfg s))
    (attrs : List FbcpldSysfsAttr) (ret : Int) {s : Cpld Dir} (initially : I s.cdesc) :
    I (createLoop sysfs attrs ret s).2.cdesc ∧ EachPass sysfs Q attrs s ↔
      EachPass sysfs C attrs s := by
  induction attrs generalizing ret s with
  | nil => exact iff_of_true ⟨initially, trivial⟩ trivial
  | cons cfg rest inductionHypothesis =>
    have first := pass cfg s initially
    unfold createLoop EachPass
    by_cases goesOn : (createAttr sysfs cfg s).2.1 = true
    · rw [if_pos goesOn]
      have growth := create_loop_extends sysfs rest (createAttr sysfs cfg s).1
        (createAttr sysfs cfg s).2.2
      constructor
      · rintro ⟨holds, has, each⟩
        have kept := earlier growth holds
        exact ⟨first.mp ⟨kept, has⟩, fun _ =>
          (inductionHypothesis _ kept).mp ⟨holds, each goesOn⟩⟩
      · rintro ⟨meets, each⟩
        obtain ⟨kept, has⟩ := first.mpr meets
        obtain ⟨holds, remaining⟩ := (inductionHypothesis _ kept).mpr (each goesOn)
        exact ⟨holds, has, fun _ => remaining⟩
    · rw [if_neg goesOn]
      constructor
      · rintro ⟨holds, has, _⟩
        exact ⟨first.mp ⟨holds, has⟩, fun continues => absurd continues goesOn⟩
      · rintro ⟨meets, _⟩
        obtain ⟨holds, has⟩ := first.mpr meets
        exact ⟨holds, has, fun continues => absurd continues goesOn⟩

/-- The removals contain no section that creates entries. -/
theorem remove_loop_section (P : List FbcpldSysfsAttr → Cpld Dir → Prop) (remaining slot : Nat)
    (s : Cpld Dir) : (removeLoop remaining slot).Along (cdevOn sysfs) (SectionOp P) s := by
  induction remaining generalizing slot s with
  | zero => trivial
  | succ remaining inductionHypothesis => exact ⟨trivial, inductionHypothesis (slot + 1) _⟩

/-- What holds of the loop holds of a call, if `I` holds of a table without
entries.

Proof: by the call. A CREATE that copies its request runs the loop in its section,
and the other calls leave the table as it is or without entries. -/
theorem ioctl_iff {Q C : List FbcpldSysfsAttr → Cpld Dir → Prop}
    (empty : ∀ {cdesc : FbcpldCdevDesc}, cdesc.numEntries = 0 → I cdesc)
    (loop : ∀ attrs (s : Cpld Dir), I s.cdesc →
      (I (createLoop sysfs attrs 0 s).2.cdesc ∧ Q attrs s ↔ C attrs s))
    (call : IoctlCall) {s : Cpld Dir} (initially : I s.cdesc) :
    I ((fbcpldCdevIoctl call).final (cdevOn sysfs) s).cdesc ∧
        (fbcpldCdevIoctl call).Along (cdevOn sysfs) (SectionOp Q) s ↔
      (fbcpldCdevIoctl call).Along (cdevOn sysfs) (SectionOp C) s := by
  have idle : I s.cdesc ∧ True ↔ True := iff_of_true ⟨initially, trivial⟩ trivial
  cases call with
  | sysfsCreate allocated user =>
    simp only [fbcpldCdevIoctl, fbcpldSysfsCreate]
    split
    · exact idle
    · cases user with
      | none => exact idle
      | some req =>
        simp only
        split
        · exact idle
        · have created := loop req.requested s initially
          constructor
          · rintro ⟨holds, has, _⟩
            exact ⟨created.mp ⟨holds, has⟩, trivial⟩
          · rintro ⟨meets, _⟩
            obtain ⟨holds, has⟩ := created.mpr meets
            exact ⟨holds, has, trivial⟩
  | sysfsDestroyAll =>
    have removes (P : List FbcpldSysfsAttr → Cpld Dir → Prop) :
        (fbcpldCdevIoctl .sysfsDestroyAll).Along (cdevOn sysfs) (SectionOp P) s := by
      simp only [fbcpldCdevIoctl, fbcpldSysfsDestroyAll, Program.along_bind]
      exact ⟨⟨trivial, trivial⟩, remove_loop_section sysfs P _ _ _, trivial⟩
    exact iff_of_true ⟨empty (destroy_all_final sysfs s), removes Q⟩ (removes C)
  | other => exact idle

end Runs

section Invariant

variable {Dir : Type} (sysfs : Sysfs Dir)

/-- A registered device without entries. -/
def registered (dir : Dir) : Cpld Dir := ⟨⟨fun _ => zeroEntry, 0, Nat.zero_le _⟩, dir⟩

/-- A CREATE keeps the entries that it finds. -/
def KeepsEntries : IoctlCall → Cpld Dir → Prop
  | .sysfsCreate allocated user, s => s.cdesc.Extends
      ((fbcpldCdevIoctl (.sysfsCreate allocated user)).final (cdevOn sysfs) s).cdesc
  | _, _ => True

/-- No CREATE touches an entry that is live before it. -/
theorem create_keeps_entries (call : IoctlCall) (s : Cpld Dir) : KeepsEntries sysfs call s := by
  cases call with
  | sysfsCreate allocated user =>
    change s.cdesc.Extends _
    obtain same | ⟨req, created⟩ := create_final sysfs allocated user s
    · rw [same]
      exact .refl _
    · rw [created]
      exact create_loop_extends sysfs req.requested 0 s
  | sysfsDestroyAll => trivial
  | other => trivial

/-- Every ioctl keeps the table well-formed. -/
theorem ioctl_well_formed (call : IoctlCall) {s : Cpld Dir} (wellFormed : s.cdesc.WellFormed) :
    ((fbcpldCdevIoctl call).final (cdevOn sysfs) s).cdesc.WellFormed := by
  cases call with
  | sysfsCreate allocated user =>
    obtain same | ⟨req, created⟩ := create_final sysfs allocated user s
    · rwa [same]
    · rw [created]
      exact create_loop_invariant (P := fun after => after.cdesc.WellFormed) sysfs
        (create_attr_well_formed sysfs) req.requested 0 wellFormed
  | sysfsDestroyAll => exact well_formed_empty (destroy_all_final sysfs s)
  | other => exact wellFormed

/-- After every sequence of calls, whatever the creation of files returns, the
table holds at most 64 entries, all valid and with different names; and every
CREATE in it keeps the entries that it finds. -/
theorem table_well_formed (dir : Dir) (calls : List IoctlCall) :
    Calls.Throughout (cdevOn sysfs) fbcpldCdevIoctl (fun s => s.cdesc.WellFormed) calls
        (registered dir) ∧
      Calls.Each (cdevOn sysfs) fbcpldCdevIoctl (KeepsEntries sysfs) calls (registered dir) := by
  have initially : (registered dir).cdesc.WellFormed := well_formed_empty rfl
  have step (call : IoctlCall) (start : Cpld Dir) (wellFormed : start.cdesc.WellFormed) :=
    iff_of_true (And.intro (ioctl_well_formed sysfs call wellFormed)
      (create_keeps_entries sysfs call start)) trivial
  apply (Calls.throughout_iff (P := fun s : Cpld Dir => s.cdesc.WellFormed) (fun call _ => step call)
    initially).mpr
  exact Calls.each_of_forall (fun _ _ => trivial) calls _

end Invariant

/-! ## Handlers and permissions -/

/-- The handlers of the entry are those that its mode permits. -/
def FbcpldDynEntry.HandlersMatch (entry : FbcpldDynEntry) : Prop :=
  (entry.dynShow = true ↔ entry.mode &&& sIrusr.setWidth 16 ≠ 0) ∧
    (entry.dynStore = true ↔ entry.mode &&& sIwusr.setWidth 16 ≠ 0)

/-- The handlers of all live entries match. -/
def FbcpldCdevDesc.HandlersMatch (cdesc : FbcpldCdevDesc) : Prop :=
  ∀ slot < cdesc.numEntries, (cdesc.entries slot).HandlersMatch

/-- The handlers that a slot holds from an earlier entry are permitted by the
attribute. -/
def SlotFits (entry : FbcpldDynEntry) (cfg : FbcpldSysfsAttr) : Prop :=
  (entry.dynShow = true → cfg.mode &&& sIrusr ≠ 0) ∧
    (entry.dynStore = true → cfg.mode &&& sIwusr ≠ 0)

/-- A bit that fits in `umode_t` survives the conversion. -/
theorem mode_bit_kept (mode : BitVec 32) {i : Nat}
    (fits : (BitVec.twoPow 32 i).setWidth 16 ≠ 0) :
    mode.setWidth 16 &&& (BitVec.twoPow 32 i).setWidth 16 ≠ 0 ↔ mode &&& BitVec.twoPow 32 i ≠ 0 := by
  rw [← BitVec.setWidth_and, BitVec.and_twoPow]
  split
  · apply iff_of_true fits
    intro zero
    rw [zero] at fits
    exact fits (BitVec.setWidth_zero 16 32)
  · simp

/-- A handler that is set when permitted, and else as before. -/
theorem kept_handler (permitted : Prop) [Decidable permitted] (before : Bool) :
    ((if permitted then true else before) = true ↔ permitted) ↔ (before = true → permitted) := by
  by_cases permits : permitted
  · simp [permits]
  · simp [permits]

/-- Initializing a slot matches its handlers with the mode exactly when the slot
fits. -/
theorem init_entry_matches (entry : FbcpldDynEntry) (cfg : FbcpldSysfsAttr) :
    (fbcpldInitEntry entry cfg).HandlersMatch ↔ SlotFits entry cfg := by
  have readable := mode_bit_kept cfg.mode (show (BitVec.twoPow 32 8).setWidth 16 ≠ 0 by decide)
  have writable := mode_bit_kept cfg.mode (show (BitVec.twoPow 32 7).setWidth 16 ≠ 0 by decide)
  change (cfg.mode.setWidth 16 &&& sIrusr.setWidth 16 ≠ 0 ↔ cfg.mode &&& sIrusr ≠ 0) at readable
  change (cfg.mode.setWidth 16 &&& sIwusr.setWidth 16 ≠ 0 ↔ cfg.mode &&& sIwusr ≠ 0) at writable
  unfold FbcpldDynEntry.HandlersMatch SlotFits fbcpldInitEntry
  simp only [readable, writable, kept_handler]

/-- Earlier entries of a table that matches match. -/
theorem FbcpldCdevDesc.HandlersMatch.earlier {before after : FbcpldCdevDesc}
    (handlers : after.HandlersMatch) (growth : before.Extends after) : before.HandlersMatch := by
  intro slot live
  rw [← growth.entries slot live]
  exact handlers slot (Nat.lt_of_lt_of_le live growth.numEntries)

section Handlers

variable {Dir : Type} (sysfs : Sysfs Dir)

/-- The attribute fits the slot that it gets, if it is added. -/
def FitsSlot (cfg : FbcpldSysfsAttr) (s : Cpld Dir) : Prop :=
  Adds sysfs cfg s → SlotFits (s.cdesc.entries s.cdesc.numEntries) cfg

/-- A pass keeps the handlers matched exactly when what it adds fits its slot. -/
theorem create_attr_matches (cfg : FbcpldSysfsAttr) (s : Cpld Dir)
    (handlers : s.cdesc.HandlersMatch) :
    (createAttr sysfs cfg s).2.2.cdesc.HandlersMatch ↔ FitsSlot sysfs cfg s := by
  obtain ⟨idle, same⟩ | ⟨idle, initialized⟩ | ⟨adds, bounded, added⟩ :=
    create_attr_table sysfs cfg s
  · rw [same]
    exact iff_of_true handlers fun adds => absurd adds idle
  · rw [initialized]
    refine iff_of_true ?_ fun adds => absurd adds idle
    intro slot live
    rw [init_next_entries s.cdesc cfg live]
    exact handlers slot live
  · rw [added, FitsSlot, ← init_entry_matches, ← init_next_last]
    constructor
    · intro matched _
      exact matched s.cdesc.numEntries (Nat.lt_succ_self _)
    · intro fits slot live
      obtain earlier | rfl := Nat.lt_succ_iff_lt_or_eq.mp live
      · simp only [init_next_entries s.cdesc cfg earlier]
        exact handlers slot earlier
      · exact fits adds

/-- The loop keeps the handlers matched exactly when all that it adds fits. -/
theorem create_loop_matches (attrs : List FbcpldSysfsAttr) (ret : Int) (s : Cpld Dir)
    (handlers : s.cdesc.HandlersMatch) :
    (createLoop sysfs attrs ret s).2.cdesc.HandlersMatch ↔
      EachPass sysfs (FitsSlot sysfs) attrs s := by
  have loop := create_loop_iff (Q := fun _ _ => True) sysfs
    (fun growth matched => matched.earlier growth)
    (fun cfg s handlers => (and_iff_left trivial).trans (create_attr_matches sysfs cfg s handlers))
    attrs ret handlers
  rw [← loop]
  exact (and_iff_left (each_pass_of_forall sysfs (fun _ _ => trivial) attrs s)).symm

/-- A call keeps the handlers matched exactly when its section fits. -/
theorem ioctl_matches (call : IoctlCall) (s : Cpld Dir) (handlers : s.cdesc.HandlersMatch) :
    ((fbcpldCdevIoctl call).final (cdevOn sysfs) s).cdesc.HandlersMatch ↔
      (fbcpldCdevIoctl call).Along (cdevOn sysfs)
        (SectionOp (EachPass sysfs (FitsSlot sysfs))) s := by
  have loop (attrs : List FbcpldSysfsAttr) (s : Cpld Dir) (handlers : s.cdesc.HandlersMatch) :
      (createLoop sysfs attrs 0 s).2.cdesc.HandlersMatch ∧ True ↔
        EachPass sysfs (FitsSlot sysfs) attrs s :=
    (and_iff_left trivial).trans (create_loop_matches sysfs attrs 0 s handlers)
  have none {cdesc : FbcpldCdevDesc} (empty : cdesc.numEntries = 0) : cdesc.HandlersMatch := by
    intro slot live
    rw [empty] at live
    exact absurd live (Nat.not_lt_zero slot)
  have always : (fbcpldCdevIoctl call).Along (cdevOn sysfs) (SectionOp fun _ _ => True) s := by
    apply Program.along_of_forall
    intro op state
    cases op <;> trivial
  rw [← ioctl_iff sysfs none loop call handlers]
  exact (and_iff_left always).symm

/-- In a sequence of calls the handlers of all live entries match their modes
throughout, exactly when no CREATE adds an attribute in a slot that holds a
handler from an earlier entry which the attribute does not permit. -/
theorem handlers_match_iff (dir : Dir) (calls : List IoctlCall) :
    Calls.Throughout (cdevOn sysfs) fbcpldCdevIoctl (fun s => s.cdesc.HandlersMatch) calls
        (registered dir) ↔
      Calls.Each (cdevOn sysfs) fbcpldCdevIoctl
        (fun call s => (fbcpldCdevIoctl call).Along (cdevOn sysfs)
          (SectionOp (EachPass sysfs (FitsSlot sysfs))) s) calls (registered dir) := by
  have initially : (registered dir).cdesc.HandlersMatch :=
    fun slot live => absurd live (Nat.not_lt_zero slot)
  exact Calls.throughout_iff_each (P := fun s : Cpld Dir => s.cdesc.HandlersMatch)
    (fun call _ start handlers => ioctl_matches sysfs call start handlers) initially

end Handlers

/-! ## A slot that is used twice -/

/-- The attribute `a` for reading and writing. -/
def writableAttr : FbcpldSysfsAttr := { attrNamed 0x61 with mode := 0o644 }

/-- CREATE of the writable `a`, DESTROY_ALL, and CREATE of the readable `a`. -/
def reusingCalls : List IoctlCall :=
  [.sysfsCreate true (some ⟨1, fun _ => writableAttr⟩), .sysfsDestroyAll,
    .sysfsCreate true (some (requestNamed 0x61))]

/-- The second `a` is read-only and has the store handler of the first. -/
theorem reused_slot_writable :
    ¬Calls.Throughout (cdevOn namedFiles) fbcpldCdevIoctl (fun s => s.cdesc.HandlersMatch)
      reusingCalls (registered ⟨[], []⟩) := by
  intro claim
  have store := (claim reusingCalls List.prefix_rfl 0 (by decide +kernel)).2.mp (by decide +kernel)
  exact store (by decide +kernel)

end FbossBsp.Fbcpld
