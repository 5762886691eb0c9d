import FbossBsp.CpldHistory
import FbossBsp.CpldHandlers
import FbossBsp.Interaction.CString

/-!
# The strings of run-time attributes

A request to create attributes carries a name and a help text in fields of fixed
size. The validation looks at the first byte of the name only. The kernel names
the file by the string that starts at the name, and the show handler formats the
one that starts at the help text; either goes on into what follows a field that
has no terminator.
-/

namespace FbossBsp.Fbcpld

open Interaction

/-- The help text has room for its end. -/
theorem help_str_nonempty : 0 < fbcpldHelpStrMax := by decide

namespace FbcpldSysfsAttr

variable (cfg : FbcpldSysfsAttr)

/-- The bytes of the structure behind the name. -/
def behindName : List (BitVec 8) :=
  cfg.padding :: (littleEndian cfg.mode ++ littleEndian cfg.regAddr ++
    littleEndian cfg.bitOffset ++ littleEndian cfg.numBits ++ littleEndian cfg.flags ++
    List.ofFn cfg.helpStr)

/-- The bytes that naming the file reads, with what lies `beyond` the structure. -/
def nameReads (beyond : List (BitVec 8)) : Nat :=
  CString.scanned (List.ofFn cfg.name ++ (cfg.behindName ++ beyond))

/-- The bytes of the help text that `fbcpld_dyn_show` reads. -/
def helpReads (beyond : List (BitVec 8)) : Nat :=
  if cfg.flags &&& fbcpldFlagShowNotes ≠ 0 then
    if cfg.helpStr ⟨0, help_str_nonempty⟩ ≠ 0 then CString.scanned (List.ofFn cfg.helpStr ++ beyond)
    else 1
  else 0

/-- Both strings end in their fields, and are read inside them. -/
structure StringsEnd : Prop where
  name : ∃ i, cfg.name i = 0#8
  helpStr : ∃ i, cfg.helpStr i = 0#8
  naming : ∀ beyond, cfg.nameReads beyond ≤ nameMax
  formatting : ∀ beyond, cfg.helpReads beyond ≤ fbcpldHelpStrMax

end FbcpldSysfsAttr

/-- A scan stays inside an array exactly when one of its bytes is a terminator. -/
theorem scanned_array_iff {n : Nat} (field : Fin n → BitVec 8) (beyond : List (BitVec 8)) :
    CString.scanned (List.ofFn field ++ beyond) ≤ n ↔ ∃ i, field i = 0#8 := by
  have inside := CString.scanned_inside_iff (List.ofFn field) beyond
  rwa [List.length_ofFn, List.mem_ofFn] at inside

/-- A name is read inside its field exactly when it ends there. -/
theorem name_reads_iff (cfg : FbcpldSysfsAttr) (beyond : List (BitVec 8)) :
    cfg.nameReads beyond ≤ nameMax ↔ ∃ i, cfg.name i = 0#8 :=
  scanned_array_iff cfg.name _

/-- Two terminators are enough to read both strings inside their fields. -/
theorem strings_end_iff (cfg : FbcpldSysfsAttr) :
    cfg.StringsEnd ↔ (∃ i, cfg.name i = 0#8) ∧ ∃ i, cfg.helpStr i = 0#8 := by
  constructor
  · intro ends
    exact ⟨ends.name, ends.helpStr⟩
  · rintro ⟨name, helpStr⟩
    refine ⟨name, helpStr, fun beyond => (name_reads_iff cfg beyond).mpr name, fun beyond => ?_⟩
    have scan := (scanned_array_iff cfg.helpStr beyond).mpr helpStr
    unfold FbcpldSysfsAttr.helpReads
    split
    · split
      · exact scan
      · decide
    · exact Nat.zero_le _

/-! ## What a pass adds -/

/-- The strings of all live entries end in their fields. -/
def FbcpldCdevDesc.StringsEnd (cdesc : FbcpldCdevDesc) : Prop :=
  ∀ slot < cdesc.numEntries, (cdesc.entries slot).attrCfg.StringsEnd

/-- Without entries no string is read. -/
theorem strings_end_empty {cdesc : FbcpldCdevDesc} (empty : cdesc.numEntries = 0) :
    cdesc.StringsEnd := by
  intro slot live
  rw [empty] at live
  exact absurd live (Nat.not_lt_zero slot)

/-- Earlier entries of a table whose strings end have strings that end. -/
theorem FbcpldCdevDesc.StringsEnd.earlier {before after : FbcpldCdevDesc}
    (growth : before.Extends after) (ends : after.StringsEnd) : before.StringsEnd := by
  intro slot live
  rw [← growth.entries slot live]
  exact ends slot (Nat.lt_of_lt_of_le live growth.numEntries)

section Passes

variable {Dir : Type} (sysfs : Sysfs Dir)

/-- The attribute passes the checks, so a file of its name is created or refused. -/
def NamesFile (cfg : FbcpldSysfsAttr) (s : Cpld Dir) : Prop :=
  fbcpldValidateAttr cfg = 0 ∧ fbcpldEntryExists s.cdesc cfg.name = false ∧
    s.cdesc.numEntries < fbcpldMaxAttrs

/-- Naming a file reads inside the name. -/
def NamesInside (cfg : FbcpldSysfsAttr) (s : Cpld Dir) : Prop :=
  NamesFile cfg s → ∀ beyond, cfg.nameReads beyond ≤ nameMax

/-- An attribute that names a file has a terminator in its name, and one that is
added has another in its help text. -/
def Terminated (cfg : FbcpldSysfsAttr) (s : Cpld Dir) : Prop :=
  (NamesFile cfg s → ∃ i, cfg.name i = 0#8) ∧ (Adds sysfs cfg s → ∃ i, cfg.helpStr i = 0#8)

/-- A pass reads inside the name and keeps the strings ended exactly when the
attribute is terminated. -/
theorem create_attr_strings (cfg : FbcpldSysfsAttr) (s : Cpld Dir)
    (ends : s.cdesc.StringsEnd) :
    (createAttr sysfs cfg s).2.2.cdesc.StringsEnd ∧ NamesInside cfg s ↔
      Terminated sysfs cfg s := by
  have naming : NamesInside cfg s ↔ (NamesFile cfg s → ∃ i, cfg.name i = 0#8) :=
    imp_congr_right fun _ =>
      ⟨fun inside => (name_reads_iff cfg []).mp (inside []),
        fun name beyond => (name_reads_iff cfg beyond).mpr name⟩
  rw [naming, Terminated, and_comm]
  refine and_congr_right fun named => ?_
  obtain ⟨idle, same⟩ | ⟨idle, initialized⟩ | ⟨adds, bounded, added⟩ :=
    create_attr_table sysfs cfg s
  · rw [same]
    exact iff_of_true ends fun adds => absurd adds idle
  · rw [initialized]
    refine iff_of_true ?_ fun adds => absurd adds idle
    intro slot live
    rw [init_next_entries s.cdesc cfg live]
    exact ends slot live
  · have name := named ⟨adds.1, adds.2.1, adds.2.2.1⟩
    rw [added]
    constructor
    · intro after _
      have last := after s.cdesc.numEntries (Nat.lt_succ_self _)
      simp only [init_next_last] at last
      exact last.helpStr
    · intro help slot live
      obtain ⟨earlier, kept⟩ | ⟨_, new⟩ := init_next_live s.cdesc cfg live
      · simp only [kept]
        exact ends slot earlier
      · simp only [new]
        exact (strings_end_iff cfg).mpr ⟨name, help adds⟩

/-- In a sequence of calls the strings of all live entries end in their fields,
and files are named and help texts formatted from inside them, exactly when every
attribute that names a file has a terminator in its name, and every one that is
added has another in its help text. -/
theorem strings_end_throughout_iff (dir : Dir) (calls : List IoctlCall) :
    Calls.Throughout (cdevOn sysfs) fbcpldCdevIoctl (fun s => s.cdesc.StringsEnd) calls
        (registered dir) ∧
      Calls.Each (cdevOn sysfs) fbcpldCdevIoctl
        (fun call s => (fbcpldCdevIoctl call).Along (cdevOn sysfs)
          (SectionOp (EachPass sysfs NamesInside)) s) calls (registered dir) ↔
      Calls.Each (cdevOn sysfs) fbcpldCdevIoctl
        (fun call s => (fbcpldCdevIoctl call).Along (cdevOn sysfs)
          (SectionOp (EachPass sysfs (Terminated sysfs))) s) calls (registered dir) := by
  have initially : (registered dir).cdesc.StringsEnd := strings_end_empty rfl
  have loop (attrs : List FbcpldSysfsAttr) (s : Cpld Dir) (ends : s.cdesc.StringsEnd) :=
    create_loop_iff sysfs FbcpldCdevDesc.StringsEnd.earlier (create_attr_strings sysfs) attrs 0 ends
  have step (call : IoctlCall) (s : Cpld Dir) (ends : s.cdesc.StringsEnd) :=
    ioctl_iff sysfs strings_end_empty loop call ends
  exact Calls.throughout_iff (P := fun s : Cpld Dir => s.cdesc.StringsEnd)
    (fun call _ => step call) initially

end Passes

/-! ## Strings without an end -/

/-- A valid attribute whose strings fill their fields. -/
def unendingAttr : FbcpldSysfsAttr :=
  { attrNamed 0x61 with name := fun _ => 0x61, helpStr := fun _ => 0x62 }

/-- The attribute becomes an entry, whose name goes on into its mode. -/
theorem unending_strings_live :
    ¬(Calls.Throughout (cdevOn namedFiles) fbcpldCdevIoctl (fun s => s.cdesc.StringsEnd)
        [.sysfsCreate true (some ⟨1, fun _ => unendingAttr⟩)] (registered ⟨[], []⟩) ∧
      Calls.Each (cdevOn namedFiles) fbcpldCdevIoctl
        (fun call s => (fbcpldCdevIoctl call).Along (cdevOn namedFiles)
          (SectionOp (EachPass namedFiles NamesInside)) s)
        [.sysfsCreate true (some ⟨1, fun _ => unendingAttr⟩)] (registered ⟨[], []⟩)) := by
  rintro ⟨claim, _⟩
  obtain ⟨i, zero⟩ := (claim _ List.prefix_rfl 0 (by decide +kernel)).name
  revert i
  decide +kernel

end FbossBsp.Fbcpld
