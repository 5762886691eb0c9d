import FbossBsp.RegbitHandlers

/-!
# Setting attributes up and taking them down

An initialisation allocates three blocks, initialises a mutex for each entry,
creates a sysfs group and leaves its teardown to the device. Any of these steps
may fail, and what was done before it is undone. The ledger counts what the
kernel has handed out and what it has got back.

No allocation succeeds for more entries than an `int` can count.
-/

namespace FbossBsp.Regbit

open Interaction

/-! ## Operations -/

/-- The blocks of an initialisation. -/
inductive Block where
  | handle
  | attrs
  | entries
  deriving DecidableEq

/-- One call into the kernel. The mutex of an entry goes by its index. -/
inductive InitOp where
  | kzalloc (block : Block)
  | kfree (block : Block)
  | mutexInit (entry : Nat)
  | mutexDestroy (entry : Nat)
  | sysfsCreateGroup
  | sysfsRemoveGroup
  | devmAddAction
  deriving DecidableEq

/-- An allocation replies whether there is memory. -/
@[reducible] def InitOp.Reply : InitOp → Type
  | .kzalloc _ => Bool
  | .sysfsCreateGroup | .devmAddAction => Int
  | .kfree _ | .mutexInit _ | .mutexDestroy _ | .sysfsRemoveGroup => Unit

abbrev InitIo := Program InitOp InitOp.Reply

def kzalloc (block : Block) : InitIo Bool := .perform (.kzalloc block) .done
def kfree (block : Block) : InitIo Unit := .perform (.kfree block) .done
def mutexInit (entry : Nat) : InitIo Unit := .perform (.mutexInit entry) .done
def mutexDestroy (entry : Nat) : InitIo Unit := .perform (.mutexDestroy entry) .done
def sysfsCreateGroup : InitIo Int := .perform .sysfsCreateGroup .done
def sysfsRemoveGroup : InitIo Unit := .perform .sysfsRemoveGroup .done
def devmAddAction : InitIo Int := .perform .devmAddAction .done

/-! ## Routines -/

/-- `struct regbit_sysfs_handle` with its entries; the attribute of a zeroed entry
has no name. The attribute array lists the named entries in their order. -/
structure RegbitSysfsHandle where
  regmapCfg : RegmapConfig
  entries : List (Option (DeviceAttribute Nat))

/-- `regbit_handle_free`. -/
def regbitHandleFree : InitIo Unit := do
  kfree .entries
  kfree .attrs
  kfree .handle

/-- `regbit_handle_alloc`; the caller sets the regmap configuration. -/
def regbitHandleAlloc (numEntries : Nat) : InitIo (Option RegbitSysfsHandle) := do
  if !(← kzalloc .handle) then return none
  if !(← kzalloc .attrs) then
    kfree .handle
    return none
  if !(← kzalloc .entries) then
    kfree .attrs
    kfree .handle
    return none
  return some ⟨⟨0, 0⟩, List.replicate numEntries none⟩

/-- The loop of `regbit_attr_uninit` from entry `i` on. -/
def regbitAttrUninit (i : Nat) : List (Option (DeviceAttribute Nat)) → InitIo Unit
  | [] => return
  | none :: rest => regbitAttrUninit (i + 1) rest
  | some _ :: rest => do
    mutexDestroy i
    regbitAttrUninit (i + 1) rest

section Init

variable (kstrtou32 : String → Option (BitVec 32))

/-- The loop of `regbit_attr_init` from entry `i` on, with its mutexes. -/
def regbitAttrInitIo (handle : RegbitSysfsHandle) (i : Nat) :
    List (RegbitFileConfig Nat) → InitIo (Int × RegbitSysfsHandle)
  | [] => return (0, handle)
  | config :: rest => do
    let ret := regbitConfigCheck config handle.regmapCfg
    if ret ≠ 0 then
      regbitAttrUninit 0 handle.entries
      return (ret, handle)
    mutexInit i
    let entry := regbitAttr kstrtou32 i config
    regbitAttrInitIo { handle with entries := handle.entries.set i (some entry) } (i + 1) rest

/-- `regbit_sysfs_uninit`. -/
def regbitSysfsUninit (handle : RegbitSysfsHandle) : InitIo Unit := do
  sysfsRemoveGroup
  regbitAttrUninit 0 handle.entries
  regbitHandleFree

/-- The kernel's `devm_add_action_or_reset` for `regbit_sysfs_uninit`: an action that
is not registered runs at once. The device keeps a registered one with its handle. -/
def devmAddActionOrReset (handle : RegbitSysfsHandle) : InitIo (Int × Option RegbitSysfsHandle) := do
  let ret ← devmAddAction
  if ret ≠ 0 then
    regbitSysfsUninit handle
    return (ret, none)
  return (0, some handle)

/-- `regbit_sysfs_init_common`, with the handle that the device keeps. -/
def regbitSysfsInitCommon (configs : List (RegbitFileConfig Nat)) (regmapCfg : RegmapConfig) :
    InitIo (Int × Option RegbitSysfsHandle) := do
  match ← regbitHandleAlloc configs.length with
  | none => return (-enomem, none)
  | some handle =>
    let (ret, handle) ← regbitAttrInitIo kstrtou32 { handle with regmapCfg } 0 configs
    if ret ≠ 0 then
      regbitHandleFree
      return (ret, none)
    let ret ← sysfsCreateGroup
    if ret ≠ 0 then
      regbitAttrUninit 0 handle.entries
      regbitHandleFree
      return (ret, none)
    devmAddActionOrReset handle

end Init

/-- The mutexes and the undoing aside, the loop is `regbitAttrInit`. -/
theorem attr_init_io_result (kstrtou32 : String → Option (BitVec 32)) (handle : RegbitSysfsHandle)
    (i : Nat) (configs : List (RegbitFileConfig Nat)) :
    (regbitAttrInitIo kstrtou32 handle i configs).Conforms (fun _ => True) fun outcome =>
      outcome.1 =
        (regbitAttrInit kstrtou32 handle.regmapCfg ((configs.zipIdx i).map Prod.swap)).1 := by
  induction configs generalizing handle i with
  | nil => rfl
  | cons config rest inductionHypothesis =>
    rw [List.zipIdx_cons, List.map_cons]
    refine Program.Conforms.ite (fun rejected => ?_) fun accepted => ?_
    · refine (Program.conforms_true _).bind fun _ _ => ?_
      simp only [Program.conforms_pure, regbitAttrInit, Prod.swap_prod_mk, if_pos rejected]
    · refine ⟨trivial, fun _ => ?_⟩
      simp only [regbitAttrInit, Prod.swap_prod_mk, if_neg accepted]
      exact inductionHypothesis
        ⟨handle.regmapCfg, handle.entries.set i (some (regbitAttr kstrtou32 i config))⟩ (i + 1)

/-! ## The ledger -/

/-- How often each resource was handed out and given back, and whether the group is
present. -/
structure Ledger where
  allocs : Block → Nat
  frees : Block → Nat
  inits : Nat → Nat
  destroys : Nat → Nat
  group : Bool

/-- Nothing was handed out yet. -/
def Ledger.empty : Ledger := ⟨fun _ => 0, fun _ => 0, fun _ => 0, fun _ => 0, false⟩

/-- What the kernel answers: which blocks it has memory for, and the results of the
two registrations. -/
structure Kernel where
  memory : Block → Bool
  createGroup : Int
  addAction : Int

/-- The kernel keeps the ledger. -/
def ledgerKernel (kernel : Kernel) : Device InitOp InitOp.Reply Ledger
  | .kzalloc block, s => (kernel.memory block,
      if kernel.memory block then
        { s with allocs := Function.update s.allocs block (s.allocs block + 1) } else s)
  | .kfree block, s => ((), { s with frees := Function.update s.frees block (s.frees block + 1) })
  | .mutexInit entry, s =>
      ((), { s with inits := Function.update s.inits entry (s.inits entry + 1) })
  | .mutexDestroy entry, s =>
      ((), { s with destroys := Function.update s.destroys entry (s.destroys entry + 1) })
  | .sysfsCreateGroup, s =>
      (kernel.createGroup, if kernel.createGroup = 0 then { s with group := true } else s)
  | .sysfsRemoveGroup, s => ((), { s with group := false })
  | .devmAddAction, s => (kernel.addAction, s)

namespace Ledger

variable (s : Ledger)

/-- A block that is allocated and not freed. -/
def Live (block : Block) : Prop := s.frees block < s.allocs block

/-- A call that the ledger allows: no block is allocated twice or freed twice, none
inside a freed handle is touched, the entries are freed after their mutexes are
destroyed, and a mutex is destroyed once, after it was initialised once. -/
def Lawful : InitOp → Ledger → Prop
  | .kzalloc block, s => s.allocs block = 0
  | .kfree block, s => s.Live .handle ∧ s.Live block ∧
      (block = .entries → ∀ i, s.destroys i = s.inits i)
  | .mutexInit entry, s => s.Live .handle ∧ s.Live .entries ∧ s.inits entry = 0
  | .mutexDestroy entry, s =>
      s.Live .handle ∧ s.Live .entries ∧ s.destroys entry < s.inits entry
  | .sysfsCreateGroup, s => (∀ block, s.Live block) ∧ s.group = false
  | .sysfsRemoveGroup, s => (∀ block, s.Live block) ∧ s.group = true
  | .devmAddAction, s => ∀ block, s.Live block

/-- Everything that was handed out was given back once. -/
structure CleanedUp : Prop where
  blocks : ∀ block, s.frees block = s.allocs block ∧ s.allocs block ≤ 1
  mutexes : ∀ entry, s.destroys entry = s.inits entry ∧ s.inits entry ≤ 1
  group : s.group = false

/-- The attributes of `count` entries are in place, and nothing was given back. -/
structure InPlace (count : Nat) : Prop where
  blocks : ∀ block, s.allocs block = 1 ∧ s.frees block = 0
  mutexes : ∀ entry, s.inits entry = (if entry < count then 1 else 0) ∧ s.destroys entry = 0
  group : s.group = true

/-- All blocks are freed. -/
def freed : Ledger := { s with frees := fun block => s.frees block + 1 }

/-- The mutexes of `count` entries from entry `i` on are destroyed. -/
def destroyed (i count : Nat) : Ledger :=
  { s with destroys := fun entry => s.destroys entry + if i ≤ entry ∧ entry < i + count then 1 else 0 }

/-- All blocks are allocated, and the first `count` entries have a mutex. -/
def holding (count : Nat) (group : Bool) : Ledger where
  allocs := fun _ => 1
  frees := fun _ => 0
  inits := fun entry => if entry < count then 1 else 0
  destroys := fun _ => 0
  group := group

/-- After the first mutexes are destroyed, all of them are. -/
theorem holding_destroyed (count : Nat) (group : Bool) (entry : Nat) :
    ((holding count group).destroyed 0 count).destroys entry =
      ((holding count group).destroyed 0 count).inits entry := by
  simp [holding, destroyed]

/-- What is held is cleaned up by destroying the mutexes and freeing the blocks. -/
theorem holding_cleaned_up (count : Nat) : ((holding count false).destroyed 0 count).freed.CleanedUp where
  blocks := fun _ => ⟨rfl, Nat.le_refl 1⟩
  mutexes := fun entry => by
    refine ⟨holding_destroyed count false entry, ?_⟩
    change (if entry < count then 1 else 0) ≤ 1
    split <;> omega
  group := rfl

end Ledger

/-! ## What the routines do to the ledger -/

section Runs

variable (kernel : Kernel) (s : Ledger)

/-- The rule of one call. -/
theorem wp_call {α : Type} (op : InitOp) (continuation : op.Reply → InitIo α)
    (post : α → Ledger → Prop) :
    ((.perform op .done : InitIo op.Reply) >>= continuation).Wp (ledgerKernel kernel) Ledger.Lawful
        post s ↔
      Ledger.Lawful op s ∧
        (continuation (ledgerKernel kernel op s).1).Wp (ledgerKernel kernel) Ledger.Lawful post
          (ledgerKernel kernel op s).2 :=
  Iff.rfl

/-- Three blocks are freed once their mutexes are destroyed. -/
theorem handle_free_run (live : ∀ block, s.Live block)
    (settled : ∀ entry, s.destroys entry = s.inits entry) :
    regbitHandleFree.Wp (ledgerKernel kernel) Ledger.Lawful (fun _ after => after = s.freed) s := by
  refine (wp_call _ _ _ _ _).mpr ⟨⟨live _, live _, fun _ => settled⟩, ?_⟩
  refine (wp_call _ _ _ _ _).mpr ⟨⟨live _, live _, nofun⟩, ?_⟩
  refine ⟨⟨live _, live _, nofun⟩, ?_⟩
  refine Ledger.mk.injEq .. |>.mpr ⟨rfl, ?_, rfl, rfl, rfl⟩
  funext block
  cases block <;> rfl

/-- Zeroed entries have no mutex to destroy. -/
theorem uninit_zeroed (i count : Nat) (post : Unit → Ledger → Prop) (done : post () s) :
    (regbitAttrUninit i (List.replicate count none)).Wp (ledgerKernel kernel) Ledger.Lawful post
      s := by
  induction count generalizing i with
  | zero => exact done
  | succ count inductionHypothesis => exact inductionHypothesis (i + 1)

/-- The mutexes of the named entries are destroyed one by one.

Proof: induction on the named entries; the first mutex is destroyed, and those of
the rest are still initialised. -/
theorem uninit_run (named : List (DeviceAttribute Nat)) (i zeroed : Nat)
    (live : s.Live .handle ∧ s.Live .entries)
    (initialised : ∀ entry, i ≤ entry → entry < i + named.length → s.destroys entry < s.inits entry) :
    (regbitAttrUninit i (named.map some ++ List.replicate zeroed none)).Wp (ledgerKernel kernel)
      Ledger.Lawful (fun _ after => after = s.destroyed i named.length) s := by
  induction named generalizing i s with
  | nil =>
    refine uninit_zeroed kernel s i zeroed _ ?_
    refine Ledger.mk.injEq .. |>.mpr ⟨rfl, rfl, rfl, ?_, rfl⟩
    funext entry
    have outside : ¬(i ≤ entry ∧ entry < i + 0) := by omega
    rw [List.length_nil, if_neg outside, Nat.add_zero]
  | cons attr rest inductionHypothesis =>
    rw [List.length_cons] at initialised ⊢
    refine (wp_call kernel s (.mutexDestroy i) _ _).mpr
      ⟨⟨live.1, live.2, initialised i (Nat.le_refl i) (by omega)⟩, ?_⟩
    refine (inductionHypothesis (ledgerKernel kernel (.mutexDestroy i) s).2 (i + 1) live
      fun entry after before => ?_).weaken ?_
    · change Function.update s.destroys i (s.destroys i + 1) entry < s.inits entry
      rw [Function.update_of_ne (by omega)]
      exact initialised entry (by omega) (by omega)
    · rintro _ after rfl
      refine Ledger.mk.injEq .. |>.mpr ⟨rfl, rfl, rfl, ?_, rfl⟩
      funext entry
      by_cases own : entry = i
      · subst own
        have first : ¬(entry + 1 ≤ entry ∧ entry < entry + 1 + rest.length) := by omega
        have inside : entry ≤ entry ∧ entry < entry + (rest.length + 1) := by omega
        simp only [ledgerKernel, Function.update_self, if_neg first, if_pos inside, Nat.add_zero]
      · have same : (i + 1 ≤ entry ∧ entry < i + 1 + rest.length) ↔
            (i ≤ entry ∧ entry < i + (rest.length + 1)) := by omega
        simp only [ledgerKernel, Function.update_of_ne own, same]

/-- Entries that hold their mutexes are torn down to the last block. -/
theorem teardown_run (named : List (DeviceAttribute Nat)) (zeroed : Nat) :
    (regbitAttrUninit 0 (named.map some ++ List.replicate zeroed none)).Wp (ledgerKernel kernel)
      Ledger.Lawful (fun _ after => after = (Ledger.holding named.length false).destroyed 0 named.length)
      (Ledger.holding named.length false) := by
  refine uninit_run kernel _ named 0 zeroed ⟨Nat.zero_lt_one, Nat.zero_lt_one⟩ fun entry _ before => ?_
  rw [Nat.zero_add] at before
  change 0 < if entry < named.length then 1 else 0
  rw [if_pos before]
  exact Nat.zero_lt_one

/-- Freeing the blocks after the mutexes cleans up. -/
theorem free_after_teardown (count : Nat) :
    regbitHandleFree.Wp (ledgerKernel kernel) Ledger.Lawful (fun _ after => after.CleanedUp)
      ((Ledger.holding count false).destroyed 0 count) := by
  have live (block : Block) : ((Ledger.holding count false).destroyed 0 count).Live block :=
    Nat.zero_lt_one
  refine (handle_free_run kernel _ live (Ledger.holding_destroyed count false)).weaken ?_
  rintro _ after rfl
  exact Ledger.holding_cleaned_up count

/-- The rule of an allocation: there is memory for the block, or there is none. -/
theorem wp_kzalloc {α : Type} (block : Block) (continuation : Bool → InitIo α)
    (post : α → Ledger → Prop) (fresh : s.allocs block = 0)
    (fails : kernel.memory block = false →
      (continuation false).Wp (ledgerKernel kernel) Ledger.Lawful post s)
    (succeeds : kernel.memory block = true →
      (continuation true).Wp (ledgerKernel kernel) Ledger.Lawful post
        { s with allocs := Function.update s.allocs block (s.allocs block + 1) }) :
    (kzalloc block >>= continuation).Wp (ledgerKernel kernel) Ledger.Lawful post s := by
  refine (wp_call kernel s (.kzalloc block) _ _).mpr ⟨fresh, ?_⟩
  cases memory : kernel.memory block with
  | false => simpa only [ledgerKernel, memory, Bool.false_eq_true, if_false] using fails memory
  | true => simpa only [ledgerKernel, memory, if_true] using succeeds memory

/-- An allocation that fails has freed what it had allocated. -/
theorem handle_alloc_run (numEntries : Nat) :
    (regbitHandleAlloc numEntries).Wp (ledgerKernel kernel) Ledger.Lawful
      (fun handle after => match handle with
        | none => after.CleanedUp
        | some handle => handle.entries = List.replicate numEntries none ∧
            after = Ledger.holding 0 false) Ledger.empty := by
  refine wp_kzalloc kernel _ .handle _ _ rfl (fun _ => ?_) fun _ => ?_
  · exact ⟨fun _ => ⟨rfl, Nat.zero_le 1⟩, fun _ => ⟨rfl, Nat.zero_le 1⟩, rfl⟩
  refine wp_kzalloc kernel _ .attrs _ _ rfl (fun _ => ?_) fun _ => ?_
  · refine ⟨⟨Nat.zero_lt_one, Nat.zero_lt_one, nofun⟩, fun block => ?_,
      fun _ => ⟨rfl, Nat.zero_le 1⟩, rfl⟩
    cases block with
    | handle => exact ⟨rfl, Nat.le_refl 1⟩
    | attrs => exact ⟨rfl, Nat.zero_le 1⟩
    | entries => exact ⟨rfl, Nat.zero_le 1⟩
  refine wp_kzalloc kernel _ .entries _ _ rfl (fun _ => ?_) fun _ => ?_
  · refine ⟨⟨Nat.zero_lt_one, Nat.zero_lt_one, nofun⟩, ⟨Nat.zero_lt_one, Nat.zero_lt_one, nofun⟩,
      fun block => ?_, fun _ => ⟨rfl, Nat.zero_le 1⟩, rfl⟩
    cases block with
    | handle => exact ⟨rfl, Nat.le_refl 1⟩
    | attrs => exact ⟨rfl, Nat.le_refl 1⟩
    | entries => exact ⟨rfl, Nat.zero_le 1⟩
  refine ⟨rfl, Ledger.mk.injEq .. |>.mpr ⟨?_, rfl, ?_, rfl, rfl⟩⟩
  · funext block
    cases block <;> rfl
  · funext entry
    exact (if_neg (Nat.not_lt_zero entry)).symm

/-- One more mutex is initialised. -/
theorem holding_init (count : Nat) :
    (ledgerKernel kernel (.mutexInit count) (Ledger.holding count false)).2 =
      Ledger.holding (count + 1) false := by
  refine Ledger.mk.injEq .. |>.mpr ⟨rfl, rfl, ?_, rfl, rfl⟩
  funext entry
  change Function.update (fun entry => if entry < count then 1 else 0) count
    ((if count < count then 1 else 0) + 1) entry = if entry < count + 1 then 1 else 0
  by_cases own : entry = count
  · subst own
    rw [Function.update_self, if_neg (Nat.lt_irrefl entry), if_pos (Nat.lt_succ_self entry)]
  · have same : entry < count ↔ entry < count + 1 := by omega
    simp only [Function.update_of_ne own, same]

/-- Naming the first of the zeroed entries. -/
theorem set_first_zeroed {α : Type} (named : List α) (entry : α) (zeroed : Nat) :
    (named.map some ++ List.replicate (zeroed + 1) none).set named.length (some entry) =
      (named ++ [entry]).map some ++ List.replicate zeroed none := by
  rw [List.set_append_right _ _ (by rw [List.length_map]), List.length_map, Nat.sub_self,
    List.replicate_succ, List.set_cons_zero, List.map_append, List.append_assoc]
  rfl

/-- How `regbit_attr_init` ends: its mutexes are destroyed again, or all entries are
named and have one. -/
def Initialised (count : Nat) (outcome : Int × RegbitSysfsHandle) (after : Ledger) : Prop :=
  (outcome.1 ≠ 0 ∧ ∃ done, after = (Ledger.holding done false).destroyed 0 done) ∨
    (outcome.1 = 0 ∧ after = Ledger.holding count false ∧
      ∃ named : List (DeviceAttribute Nat), named.length = count ∧
        outcome.2.entries = named.map some)

/-- The loop of `regbit_attr_init` from the first zeroed entry on.

Proof: induction on the configurations that are left. A rejected one tears down the
entries named so far; an accepted one adds an entry with its mutex. -/
theorem attr_init_run (kstrtou32 : String → Option (BitVec 32)) (handle : RegbitSysfsHandle)
    (named : List (DeviceAttribute Nat)) (configs : List (RegbitFileConfig Nat))
    (entries : handle.entries = named.map some ++ List.replicate configs.length none) :
    (regbitAttrInitIo kstrtou32 handle named.length configs).Wp (ledgerKernel kernel) Ledger.Lawful
      (Initialised (named.length + configs.length)) (Ledger.holding named.length false) := by
  induction configs generalizing handle named with
  | nil =>
    rw [List.length_nil, List.replicate_zero, List.append_nil] at entries
    exact Or.inr ⟨rfl, rfl, named, rfl, entries⟩
  | cons config rest inductionHypothesis =>
    rw [List.length_cons] at entries
    refine Program.Wp.ite (fun rejected => ?_) fun _ => ?_
    · rw [entries]
      refine Program.Wp.bind ((teardown_run kernel named _).weaken ?_)
      rintro _ after rfl
      exact Or.inl ⟨rejected, named.length, rfl⟩
    · refine (wp_call kernel _ (.mutexInit named.length) _ _).mpr ⟨⟨Nat.zero_lt_one, Nat.zero_lt_one,
        if_neg (Nat.lt_irrefl _)⟩, ?_⟩
      have next := inductionHypothesis
        ⟨handle.regmapCfg, handle.entries.set named.length
          (some (regbitAttr kstrtou32 named.length config))⟩
        (named ++ [regbitAttr kstrtou32 named.length config])
        (by rw [entries, set_first_zeroed])
      rw [List.length_append, List.length_singleton, Nat.add_right_comm, Nat.add_assoc] at next
      rw [holding_init]
      exact next

/-- `regbit_sysfs_uninit` gives back what the attributes hold. -/
theorem uninit_cleans_up (handle : RegbitSysfsHandle) (named : List (DeviceAttribute Nat))
    (entries : handle.entries = named.map some) :
    (regbitSysfsUninit handle).Wp (ledgerKernel kernel) Ledger.Lawful
      (fun _ after => after.CleanedUp) (Ledger.holding named.length true) := by
  refine (wp_call kernel _ .sysfsRemoveGroup _ _).mpr ⟨⟨fun _ => Nat.zero_lt_one, rfl⟩, ?_⟩
  have teardown := teardown_run kernel named 0
  rw [List.replicate_zero, List.append_nil, ← entries] at teardown
  refine Program.Wp.bind (teardown.weaken ?_)
  rintro _ after rfl
  exact free_after_teardown kernel named.length

end Runs

/-! ## Initialisations -/

/-- An initialisation that fails has given everything back once. After one that
succeeds everything is in place, and the teardown that the device keeps gives it
back once. -/
def SettledOnce (kernel : Kernel) (count : Nat) (outcome : Int × Option RegbitSysfsHandle)
    (after : Ledger) : Prop :=
  (outcome.1 ≠ 0 → after.CleanedUp ∧ outcome.2 = none) ∧
    (outcome.1 = 0 → after.InPlace count ∧ ∃ handle, outcome.2 = some handle ∧
      (regbitSysfsUninit handle).Wp (ledgerKernel kernel) Ledger.Lawful
        (fun _ last => last.CleanedUp) after)

/-- The registration of the teardown, with the group in place. -/
theorem add_action_run (kernel : Kernel) (handle : RegbitSysfsHandle)
    (named : List (DeviceAttribute Nat)) (entries : handle.entries = named.map some) :
    (devmAddActionOrReset handle).Wp (ledgerKernel kernel) Ledger.Lawful
      (SettledOnce kernel named.length) (Ledger.holding named.length true) := by
  refine (wp_call kernel _ .devmAddAction _ _).mpr ⟨fun _ => Nat.zero_lt_one, ?_⟩
  refine Program.Wp.ite (fun failed => ?_) fun _ => ?_
  · refine Program.Wp.bind ((uninit_cleans_up kernel handle named entries).weaken ?_)
    exact fun _ after cleaned => ⟨fun _ => ⟨cleaned, rfl⟩, fun succeeded => absurd succeeded failed⟩
  · exact ⟨fun failed => absurd rfl failed, fun _ => ⟨⟨fun _ => ⟨rfl, rfl⟩, fun _ => ⟨rfl, rfl⟩, rfl⟩,
      handle, rfl, uninit_cleans_up kernel handle named entries⟩⟩

/-- For every list of configurations and whatever the kernel answers: each call into
the kernel is lawful, a failed initialisation has given everything back once, and
after a successful one everything is in place until it is torn down once. -/
theorem init_common_settled_once (kstrtou32 : String → Option (BitVec 32))
    (configs : List (RegbitFileConfig Nat)) (regmapCfg : RegmapConfig) (kernel : Kernel) :
    (regbitSysfsInitCommon kstrtou32 configs regmapCfg).Wp (ledgerKernel kernel) Ledger.Lawful
      (SettledOnce kernel configs.length) Ledger.empty := by
  have failed {ret : Int} {after : Ledger} (nonzero : ret ≠ 0) (cleaned : after.CleanedUp) :
      SettledOnce kernel configs.length (ret, none) after :=
    ⟨fun _ => ⟨cleaned, rfl⟩, fun succeeded => absurd succeeded nonzero⟩
  refine Program.Wp.seq (handle_alloc_run kernel configs.length) fun allocated after outcome => ?_
  match allocated, outcome with
  | none, cleaned => exact failed (by decide) cleaned
  | some handle, ⟨zeroed, held⟩ =>
    subst held
    refine Program.Wp.seq (attr_init_run kernel kstrtou32 ⟨regmapCfg, handle.entries⟩ [] configs
      zeroed) ?_
    rintro ⟨ret, handle⟩ after (⟨rejected, done, rfl⟩ | ⟨succeeded, rfl, named, length, entries⟩)
    · refine Program.Wp.ite (fun _ => ?_) fun accepted => absurd rejected accepted
      refine Program.Wp.bind ((free_after_teardown kernel done).weaken ?_)
      exact fun _ after cleaned => failed rejected cleaned
    · refine Program.Wp.ite (fun nonzero => absurd succeeded nonzero) fun _ => ?_
      rw [List.length_nil, Nat.zero_add] at length ⊢
      refine (wp_call kernel _ .sysfsCreateGroup _ _).mpr ⟨⟨fun _ => Nat.zero_lt_one, rfl⟩, ?_⟩
      by_cases created : kernel.createGroup = 0
      · simp only [ledgerKernel, created, if_true]
        have registered := add_action_run kernel handle named entries
        rw [length] at registered
        exact registered
      · simp only [ledgerKernel, created, if_false]
        refine Program.Wp.ite (fun _ => ?_) fun zero => absurd created zero
        have teardown := teardown_run kernel named 0
        rw [List.replicate_zero, List.append_nil, ← entries, length] at teardown
        refine Program.Wp.bind (teardown.weaken ?_)
        rintro _ after rfl
        refine Program.Wp.bind ((free_after_teardown kernel configs.length).weaken ?_)
        exact fun _ after cleaned => failed created cleaned

end FbossBsp.Regbit
