import FbossBsp.Interaction.CString
import FbossBsp.Interaction.NamedSlots
import FbossBsp.Kernel

/-!
# Attributes created at run time

`fbcpld` creates sysfs files from requests of user space. Each file has a slot
in a table of 64 entries, and the name of the file is the string stored in its
slot. This module is the table, the directory of the device, and the sections
that the ioctl handlers execute under `entries_lock`.

The sections work with directories of any kind. In the one of the device, files are
known by their names, and creating a file fails exactly when its name exists; with
this directory the table invariant of concurrent calls is stated.

Log messages are not modeled.
-/

namespace FbossBsp.Fbcpld

open Interaction

def nameMax : Nat := 255
def fbcpldMaxAttrs : Nat := 64
def fbcpldMaxAttrsPerIoctl : Nat := fbcpldMaxAttrs
def fbcpldHelpStrMax : Nat := 256

def sIrusr : BitVec 32 := 0o400
def sIwusr : BitVec 32 := 0o200

/-! ## Names -/

/-- A C string without its terminator. -/
abbrev FileName := List (BitVec 8)

/-- The bytes of a `u32` in memory. -/
def littleEndian (word : BitVec 32) : List (BitVec 8) :=
  [word.extractLsb' 0 8, word.extractLsb' 8 8, word.extractLsb' 16 8, word.extractLsb' 24 8]

/-- `struct fbcpld_sysfs_attr`. One byte of padding follows the name. -/
structure FbcpldSysfsAttr where
  name : Fin nameMax → BitVec 8
  padding : BitVec 8
  mode : BitVec 32
  regAddr : BitVec 32
  bitOffset : BitVec 32
  numBits : BitVec 32
  flags : BitVec 32
  helpStr : Fin fbcpldHelpStrMax → BitVec 8

/-- The string that starts at the name. Without a NUL in its field it runs into
the following fields; a validated attribute ends it in `reg_addr` at the latest. -/
def FbcpldSysfsAttr.sysfsName (cfg : FbcpldSysfsAttr) : FileName :=
  CString.text
    (List.ofFn cfg.name ++ cfg.padding :: (littleEndian cfg.mode ++ littleEndian cfg.regAddr))

/-- `strncmp(first, second, NAME_MAX) == 0`. -/
def sameName (first second : Fin nameMax → BitVec 8) : Bool :=
  CString.text (List.ofFn first) = CString.text (List.ofFn second)

/-! ## The table and the directory -/

/-- `struct fbcpld_dyn_entry`: whether the handlers are set, and the
configuration that holds the name. -/
structure FbcpldDynEntry where
  mode : BitVec 16
  dynShow : Bool
  dynStore : Bool
  attrCfg : FbcpldSysfsAttr

/-- The fields of `struct fbcpld_cdev_desc` under `entries_lock`. -/
structure FbcpldCdevDesc where
  entries : Nat → FbcpldDynEntry
  numEntries : Nat
  bounded : numEntries ≤ fbcpldMaxAttrs

/-- What creating and removing a file do to a directory. -/
structure Sysfs (Dir : Type) where
  createFile : FileName → Dir → Int × Dir
  removeFile : FileName → Dir → Dir

/-- The directory of the device: the files of dynamic entries and all others,
such as `fw_ver`. -/
structure SysfsDir where
  fixed : List FileName
  dynamic : List FileName

/-- `sysfs_create_file`: fails exactly when the name exists. -/
def SysfsDir.createFile (dir : SysfsDir) (name : FileName) : Int × SysfsDir :=
  if name ∈ dir.fixed ∨ name ∈ dir.dynamic then (-eexist, dir)
  else (0, { dir with dynamic := name :: dir.dynamic })

/-- `sysfs_remove_file`: removes what has the name. -/
def SysfsDir.removeFile (dir : SysfsDir) (name : FileName) : SysfsDir :=
  ⟨dir.fixed.filter (· ≠ name), dir.dynamic.filter (· ≠ name)⟩

/-- The directory that refuses names which exist. -/
def namedFiles : Sysfs SysfsDir :=
  ⟨fun name dir => dir.createFile name, fun name dir => dir.removeFile name⟩

/-- The name stored in a slot. -/
def FbcpldCdevDesc.nameAt (cdesc : FbcpldCdevDesc) (slot : Nat) : FileName :=
  (cdesc.entries slot).attrCfg.sysfsName

/-- The table and a directory. -/
structure Cpld (Dir : Type) where
  cdesc : FbcpldCdevDesc
  dir : Dir

/-- The slots of `entries[0 .. num_entries)`. -/
def FbcpldCdevDesc.live (cdesc : FbcpldCdevDesc) : Set Nat := {slot | slot < cdesc.numEntries}

/-- The dynamic files are those named by the entries of the table. -/
def Cpld.InSync (s : Cpld SysfsDir) : Prop :=
  {name | name ∈ s.dir.dynamic} = s.cdesc.nameAt '' s.cdesc.live

/-! ## The create section -/

/-- `fbcpld_validate_attr`. -/
def fbcpldValidateAttr (cfg : FbcpldSysfsAttr) : Int :=
  let modeMask := sIrusr ||| sIwusr
  if cfg.name ⟨0, by decide⟩ = 0 then -einval
  else if cfg.mode &&& modeMask = 0 then -einval
  else if cfg.regAddr > 0xFF then -einval
  else if cfg.bitOffset ≥ 8 then -einval
  else if cfg.numBits = 0 ∨ cfg.numBits > 8 then -einval
  else if cfg.bitOffset + cfg.numBits > 8 then -einval
  else 0

/-- An attribute that passes the validation. -/
structure Valid (cfg : FbcpldSysfsAttr) : Prop where
  named : cfg.name ⟨0, by decide⟩ ≠ 0
  mode : cfg.mode &&& (sIrusr ||| sIwusr) ≠ 0
  regAddr : cfg.regAddr ≤ 0xFF
  bitOffset : cfg.bitOffset < 8
  numBits : cfg.numBits ≠ 0 ∧ cfg.numBits ≤ 8
  inside : cfg.bitOffset.toNat + cfg.numBits.toNat ≤ 8

/-- An attribute that passes the check is valid. -/
theorem validate_attr_zero {cfg : FbcpldSysfsAttr} (valid : fbcpldValidateAttr cfg = 0) :
    Valid cfg := by
  simp only [fbcpldValidateAttr, passes_iff, not_or, and_true] at valid
  obtain ⟨named, mode, address, offset, ⟨some, few⟩, range⟩ := valid
  have bits : cfg.numBits ≤ 8 := BitVec.not_lt.mp few
  have start : cfg.bitOffset < 8 := BitVec.not_le.mp offset
  refine ⟨named, mode, BitVec.not_lt.mp address, start, ⟨some, bits⟩, ?_⟩
  bv_omega

/-- `fbcpld_entry_exists`. -/
def fbcpldEntryExists (cdesc : FbcpldCdevDesc) (name : Fin nameMax → BitVec 8) : Bool :=
  (List.range cdesc.numEntries).any fun i => sameName (cdesc.entries i).attrCfg.name name

/-- `fbcpld_init_entry`; a handler that is set stays set. -/
def fbcpldInitEntry (entry : FbcpldDynEntry) (cfg : FbcpldSysfsAttr) : FbcpldDynEntry where
  attrCfg := cfg
  mode := cfg.mode.setWidth 16
  dynShow := if cfg.mode &&& sIrusr ≠ 0 then true else entry.dynShow
  dynStore := if cfg.mode &&& sIwusr ≠ 0 then true else entry.dynStore

/-- The entry at `num_entries` is initialized. -/
def FbcpldCdevDesc.initNext (cdesc : FbcpldCdevDesc) (cfg : FbcpldSysfsAttr) : FbcpldCdevDesc :=
  { cdesc with
    entries := Function.update cdesc.entries cdesc.numEntries
      (fbcpldInitEntry (cdesc.entries cdesc.numEntries) cfg) }

section Sections

variable {Dir : Type} (sysfs : Sysfs Dir)

/-- One pass of the loop of `fbcpld_sysfs_create`: `ret`, whether the loop goes
on, and the table. -/
def createAttr (cfg : FbcpldSysfsAttr) (s : Cpld Dir) : Int × Bool × Cpld Dir :=
  let ret := fbcpldValidateAttr cfg
  if ret ≠ 0 then (ret, true, s)
  else if fbcpldEntryExists s.cdesc cfg.name then (ret, true, s)
  else if full : s.cdesc.numEntries ≥ fbcpldMaxAttrs then (-enospc, false, s)
  else
    let cdesc := s.cdesc.initNext cfg
    let created := sysfs.createFile (cdesc.nameAt s.cdesc.numEntries) s.dir
    if created.1 ≠ 0 then (created.1, false, ⟨cdesc, created.2⟩)
    else (0, true, {
      cdesc := { cdesc with
        numEntries := s.cdesc.numEntries + 1
        bounded := Nat.lt_of_not_ge full }
      dir := created.2 })

/-- The loop of `fbcpld_sysfs_create`. -/
def createLoop : List FbcpldSysfsAttr → Int → Cpld Dir → Int × Cpld Dir
  | [], ret, s => (ret, s)
  | cfg :: rest, _, s =>
      let pass := createAttr sysfs cfg s
      if pass.2.1 then createLoop rest pass.1 pass.2.2 else (pass.1, pass.2.2)

/-! ## The destroy section -/

/-- The locked section of `fbcpld_sysfs_destroy_all`: the count, and the table
without entries. -/
def takeEntries (s : Cpld Dir) : Nat × Cpld Dir :=
  (s.cdesc.numEntries, { s with cdesc := { s.cdesc with
    numEntries := 0
    bounded := Nat.zero_le fbcpldMaxAttrs } })

/-- `sysfs_remove_file` for the entry at a slot. -/
def removeEntryFile (slot : Nat) (s : Cpld Dir) : Cpld Dir :=
  { s with dir := sysfs.removeFile (s.cdesc.nameAt slot) s.dir }

end Sections

/-! ## Passes of the create loop -/

/-- The attribute passes the checks, so the next slot is initialized with it. -/
def Initializes (cfg : FbcpldSysfsAttr) (cdesc : FbcpldCdevDesc) : Prop :=
  fbcpldValidateAttr cfg = 0 ∧ fbcpldEntryExists cdesc cfg.name = false ∧
    cdesc.numEntries < fbcpldMaxAttrs

instance (cfg : FbcpldSysfsAttr) (cdesc : FbcpldCdevDesc) : Decidable (Initializes cfg cdesc) :=
  inferInstanceAs (Decidable (_ ∧ _))

/-- Initializing the next slot changes its name. -/
theorem name_at_init_next (cdesc : FbcpldCdevDesc) (cfg : FbcpldSysfsAttr) :
    (cdesc.initNext cfg).nameAt = Function.update cdesc.nameAt cdesc.numEntries cfg.sysfsName := by
  funext slot
  by_cases next : slot = cdesc.numEntries
  · subst next
    simp [FbcpldCdevDesc.nameAt, FbcpldCdevDesc.initNext, fbcpldInitEntry]
  · simp [FbcpldCdevDesc.nameAt, FbcpldCdevDesc.initNext, next]

/-- The next slot gets the name of the attribute. -/
theorem name_stored (cdesc : FbcpldCdevDesc) (cfg : FbcpldSysfsAttr) :
    (cdesc.initNext cfg).nameAt cdesc.numEntries = cfg.sysfsName := by
  rw [name_at_init_next, Function.update_self]

section Passes

variable {Dir : Type} (sysfs : Sysfs Dir)

/-- The attribute becomes an entry: it passes the checks, and its file can be
created. -/
def Adds (cfg : FbcpldSysfsAttr) (s : Cpld Dir) : Prop :=
  fbcpldValidateAttr cfg = 0 ∧ fbcpldEntryExists s.cdesc cfg.name = false ∧
    s.cdesc.numEntries < fbcpldMaxAttrs ∧ (sysfs.createFile cfg.sysfsName s.dir).1 = 0

instance (cfg : FbcpldSysfsAttr) (s : Cpld Dir) : Decidable (Adds sysfs cfg s) :=
  inferInstanceAs (Decidable (_ ∧ _ ∧ _ ∧ _))

/-- All that one pass can do: nothing, initialize the next slot although its file is
refused, or add the next entry and its file. -/
theorem create_attr_cases (cfg : FbcpldSysfsAttr) (s : Cpld Dir) :
    (¬Adds sysfs cfg s ∧ (createAttr sysfs cfg s).2.2 = s) ∨
    (¬Adds sysfs cfg s ∧ Initializes cfg s.cdesc ∧
      (sysfs.createFile cfg.sysfsName s.dir).1 ≠ 0 ∧ (createAttr sysfs cfg s).2.2 =
        ⟨s.cdesc.initNext cfg, (sysfs.createFile cfg.sysfsName s.dir).2⟩) ∨
    (Adds sysfs cfg s ∧ ∃ bounded, (createAttr sysfs cfg s).2.2 =
      ⟨⟨(s.cdesc.initNext cfg).entries, s.cdesc.numEntries + 1, bounded⟩,
        (sysfs.createFile cfg.sysfsName s.dir).2⟩) := by
  unfold createAttr
  simp only [name_stored]
  split
  · rename_i invalid
    exact Or.inl ⟨fun adds => invalid adds.1, rfl⟩
  · rename_i valid
    split
    · rename_i duplicate
      exact Or.inl ⟨fun adds => absurd duplicate (Bool.eq_false_iff.mp adds.2.1), rfl⟩
    · rename_i fresh
      split
      · rename_i full
        exact Or.inl ⟨fun adds => absurd adds.2.2.1 (Nat.not_lt.mpr full), rfl⟩
      · rename_i space
        have initializes : Initializes cfg s.cdesc :=
          ⟨not_not.mp valid, Bool.eq_false_iff.mpr fresh, Nat.lt_of_not_ge space⟩
        split
        · rename_i refused
          exact Or.inr (Or.inl ⟨fun adds => refused adds.2.2.2, initializes, refused, rfl⟩)
        · rename_i created
          obtain ⟨accepted, absent, inside⟩ := initializes
          exact Or.inr (Or.inr
            ⟨⟨accepted, absent, inside, not_not.mp created⟩, Nat.lt_of_not_ge space, rfl⟩)

end Passes

/-- The named files refuse a name exactly when it exists, and are then left alone. -/
theorem file_refused {dir : SysfsDir} {name : FileName}
    (refused : (namedFiles.createFile name dir).1 ≠ 0) :
    (namedFiles.createFile name dir).2 = dir := by
  unfold namedFiles SysfsDir.createFile at refused ⊢
  dsimp only at refused ⊢
  split
  · rfl
  · rename_i free
    rw [if_neg free] at refused
    exact absurd rfl refused

/-- A name that does not exist is added to the dynamic files. -/
theorem file_created {dir : SysfsDir} {name : FileName}
    (created : (namedFiles.createFile name dir).1 = 0) :
    (name ∉ dir.fixed ∧ name ∉ dir.dynamic) ∧
      (namedFiles.createFile name dir).2 = { dir with dynamic := name :: dir.dynamic } := by
  unfold namedFiles SysfsDir.createFile at created ⊢
  dsimp only at created ⊢
  split
  · rename_i taken
    rw [if_pos taken] at created
    exact absurd created (show -eexist ≠ 0 by decide)
  · rename_i free
    exact ⟨not_or.mp free, rfl⟩

/-! ## Table and directory -/

/-- What the sections keep, while the files of the pending slots are still to be
removed: the live and the pending slots back the dynamic files. -/
structure TableInvariant (pending : Set Nat) (s : Cpld SysfsDir) : Prop where
  separate : ∀ slot ∈ pending, s.cdesc.numEntries ≤ slot
  backs : Backs s.cdesc.nameAt (s.cdesc.live ∪ pending) {name | name ∈ s.dir.dynamic}
  others : ∀ name ∈ s.dir.dynamic, name ∉ s.dir.fixed

/-- With nothing pending, table and directory agree. -/
theorem TableInvariant.in_sync {s : Cpld SysfsDir} (invariant : TableInvariant ∅ s) :
    s.InSync := by
  have files := invariant.backs.files_eq
  rwa [Set.union_empty] at files

/-- The next slot is spared: it is not pending, or it gets the name it has. -/
def SparesNext (pending : Set Nat) (cfg : FbcpldSysfsAttr) (cdesc : FbcpldCdevDesc) : Prop :=
  Initializes cfg cdesc → cdesc.numEntries ∈ pending →
    cfg.sysfsName = cdesc.nameAt cdesc.numEntries

/-- Every slot that the loop initializes is spared in the state it meets. -/
def Spares (pending : Set Nat) : List FbcpldSysfsAttr → Cpld SysfsDir → Prop
  | [], _ => True
  | cfg :: rest, s =>
      let pass := createAttr namedFiles cfg s
      SparesNext pending cfg s.cdesc ∧ (pass.2.1 = true → Spares pending rest pass.2.2)

instance Spares.decidable (pending : Set Nat) [DecidablePred (· ∈ pending)] :
    (attrs : List FbcpldSysfsAttr) → (s : Cpld SysfsDir) → Decidable (Spares pending attrs s)
  | [], _ => .isTrue trivial
  | cfg :: rest, s =>
      have := Spares.decidable pending rest (createAttr namedFiles cfg s).2.2
      inferInstanceAs (Decidable ((_ → _ → _) ∧ (_ → _)))

section Sections

variable {pending : Set Nat} {s : Cpld SysfsDir} (invariant : TableInvariant pending s)

include invariant

/-- A slot that is neither live nor pending, or keeps its name, may be
initialized. -/
theorem init_next_keeps {cfg : FbcpldSysfsAttr}
    (spares : s.cdesc.numEntries ∈ pending → cfg.sysfsName = s.cdesc.nameAt s.cdesc.numEntries) :
    Backs (s.cdesc.initNext cfg).nameAt (s.cdesc.live ∪ pending)
      {name | name ∈ s.dir.dynamic} := by
  rw [name_at_init_next]
  by_cases waiting : s.cdesc.numEntries ∈ pending
  · exact invariant.backs.rename_same (spares waiting)
  · have free : s.cdesc.numEntries ∉ s.cdesc.live ∪ pending := by
      rintro (live | waits)
      · exact Nat.lt_irrefl s.cdesc.numEntries live
      · exact waiting waits
    exact invariant.backs.rename_free free _

/-- A pass keeps the invariant if it spares the pending slots. -/
theorem create_attr_keeps {cfg : FbcpldSysfsAttr} (spares : SparesNext pending cfg s.cdesc) :
    TableInvariant pending (createAttr namedFiles cfg s).2.2 := by
  obtain ⟨_, unchanged⟩ | ⟨_, initializes, refused, same⟩ | ⟨adds, bounded, added⟩ :=
    create_attr_cases namedFiles cfg s
  · rw [unchanged]
    exact invariant
  · rw [same, file_refused refused]
    exact ⟨invariant.separate, init_next_keeps invariant (spares initializes), invariant.others⟩
  · obtain ⟨valid, absent, space, created⟩ := adds
    obtain ⟨⟨unfixed, unbacked⟩, files⟩ := file_created created
    -- A pending slot of this name would back a file, which then exists.
    have idle : s.cdesc.numEntries ∉ pending := by
      intro waits
      apply unbacked
      rw [spares ⟨valid, absent, space⟩ waits]
      exact invariant.backs.file (Or.inr waits)
    have free : s.cdesc.numEntries ∉ s.cdesc.live ∪ pending := by
      rintro (live | waits)
      · exact Nat.lt_irrefl s.cdesc.numEntries live
      · exact idle waits
    have grown : FbcpldCdevDesc.live
        ⟨(s.cdesc.initNext cfg).entries, s.cdesc.numEntries + 1, bounded⟩ =
          insert s.cdesc.numEntries s.cdesc.live := by
      ext slot
      simp only [FbcpldCdevDesc.live, Set.mem_ofPred_eq, Set.mem_insert_iff]
      omega
    have dynamic : {name | name ∈ cfg.sysfsName :: s.dir.dynamic} =
        insert cfg.sysfsName {name | name ∈ s.dir.dynamic} := by
      ext name
      simp
    rw [added, files]
    constructor
    · intro slot waits
      have above := invariant.separate slot waits
      have different : slot ≠ s.cdesc.numEntries := fun same => idle (same ▸ waits)
      dsimp only
      omega
    · change Backs (s.cdesc.initNext cfg).nameAt _ _
      rw [name_at_init_next, grown, dynamic, Set.insert_union]
      exact invariant.backs.add free unbacked
    · intro name member
      cases member with
      | head => exact unfixed
      | tail _ earlier => exact invariant.others name earlier

/-- The destroy section makes every live slot pending. -/
theorem take_entries_keeps : TableInvariant (s.cdesc.live ∪ pending) (takeEntries s).2 := by
  have empty : (takeEntries s).2.cdesc.live = ∅ := by
    ext slot
    simp [FbcpldCdevDesc.live, takeEntries]
  constructor
  · intro slot _
    exact Nat.zero_le slot
  · rw [empty, Set.empty_union]
    exact invariant.backs
  · exact invariant.others

/-- Removing the file of a pending slot settles the slot. -/
theorem remove_entry_keeps {slot : Nat} (waits : slot ∈ pending) :
    TableInvariant (pending \ {slot}) (removeEntryFile namedFiles slot s) := by
  have dead : slot ∉ s.cdesc.live := Nat.not_lt.mpr (invariant.separate slot waits)
  have held : (s.cdesc.live ∪ pending) \ {slot} = s.cdesc.live ∪ pending \ {slot} := by
    rw [Set.union_sdiff_distrib, Set.sdiff_singleton_eq_self dead]
  have removed : {name | name ∈ (removeEntryFile namedFiles slot s).dir.dynamic} =
      {name | name ∈ s.dir.dynamic} \ {s.cdesc.nameAt slot} := by
    ext name
    simp [removeEntryFile, namedFiles, SysfsDir.removeFile]
  constructor
  · exact fun other member => invariant.separate other member.1
  · change Backs s.cdesc.nameAt (s.cdesc.live ∪ pending \ {slot}) _
    rw [removed, ← held]
    exact invariant.backs.remove (Or.inr waits)
  · intro name member fixed
    exact invariant.others name (List.mem_of_mem_filter member) (List.mem_of_mem_filter fixed)

end Sections

/-- The create loop keeps the invariant if it spares the pending slots. -/
theorem create_loop_keeps {pending : Set Nat} (attrs : List FbcpldSysfsAttr) (ret : Int)
    {s : Cpld SysfsDir} (invariant : TableInvariant pending s) (spares : Spares pending attrs s) :
    TableInvariant pending (createLoop namedFiles attrs ret s).2 := by
  induction attrs generalizing ret s with
  | nil => exact invariant
  | cons cfg rest inductionHypothesis =>
    have kept := create_attr_keeps invariant spares.1
    unfold createLoop
    by_cases goesOn : (createAttr namedFiles cfg s).2.1 = true
    · rw [if_pos goesOn]
      exact inductionHypothesis _ kept (spares.2 goesOn)
    · rw [if_neg goesOn]
      exact kept

end FbossBsp.Fbcpld
