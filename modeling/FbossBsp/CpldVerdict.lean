import FbossBsp.CpldHistory

/-!
# What a CREATE reports

One request names up to 64 attributes. The loop passes over those that are not
valid and goes on, and over those that exist; it stops where the table is full or
a file is refused. A single `ret` is set by every pass, so what a request returns
is up to the last one.
-/

namespace FbossBsp.Fbcpld

open Interaction

/-- The attribute passes `fbcpld_validate_attr`. -/
def accepted (cfg : FbcpldSysfsAttr) : Bool := fbcpldValidateAttr cfg = 0

/-- An attribute is accepted exactly when its check returns 0. -/
theorem accepted_iff (cfg : FbcpldSysfsAttr) : accepted cfg = true ↔ fbcpldValidateAttr cfg = 0 :=
  decide_eq_true_iff

/-- Entries stay present in a table that grows. -/
theorem FbcpldCdevDesc.Extends.present {before after : FbcpldCdevDesc}
    (growth : before.Extends after) {name : Fin nameMax → BitVec 8}
    (present : fbcpldEntryExists before name = true) : fbcpldEntryExists after name = true := by
  obtain ⟨slot, member, same⟩ := List.any_eq_true.mp present
  have live := List.mem_range.mp member
  apply List.any_eq_true.mpr
  refine ⟨slot, List.mem_range.mpr (Nat.lt_of_lt_of_le live growth.numEntries), ?_⟩
  rwa [growth.entries slot live]

section Passes

variable {Dir : Type} (sysfs : Sysfs Dir)

/-- If the attribute is valid and new, it finds space in the table, and its file
is created. -/
def Creatable (cfg : FbcpldSysfsAttr) (s : Cpld Dir) : Prop :=
  fbcpldValidateAttr cfg = 0 → fbcpldEntryExists s.cdesc cfg.name = false →
    s.cdesc.numEntries < fbcpldMaxAttrs ∧ (sysfs.createFile cfg.sysfsName s.dir).1 = 0

/-- What a pass that goes on returns and leaves. -/
structure PassesOn (cfg : FbcpldSysfsAttr) (pass : Int × Bool × Cpld Dir) : Prop where
  ret : pass.1 = fbcpldValidateAttr cfg
  goesOn : pass.2.1 = true
  present : accepted cfg = true → fbcpldEntryExists pass.2.2.cdesc cfg.name = true

/-- An invalid attribute and a duplicate are skipped. -/
theorem create_attr_skips (cfg : FbcpldSysfsAttr) (s : Cpld Dir)
    (skipped : fbcpldValidateAttr cfg ≠ 0 ∨ fbcpldEntryExists s.cdesc cfg.name = true) :
    createAttr sysfs cfg s = (fbcpldValidateAttr cfg, true, s) := by
  unfold createAttr
  by_cases invalid : fbcpldValidateAttr cfg ≠ 0
  · exact if_pos invalid
  · exact (if_neg invalid).trans (if_pos (skipped.resolve_left invalid))

/-- A pass that skips the attribute or adds it goes on, and returns what the
validation does. -/
theorem create_attr_passes {cfg : FbcpldSysfsAttr} {s : Cpld Dir}
    (creatable : Creatable sysfs cfg s) : PassesOn cfg (createAttr sysfs cfg s) := by
  by_cases skipped : fbcpldValidateAttr cfg ≠ 0 ∨ fbcpldEntryExists s.cdesc cfg.name = true
  · rw [create_attr_skips sysfs cfg s skipped]
    refine ⟨rfl, rfl, fun valid => ?_⟩
    exact skipped.resolve_left (not_not.mpr ((accepted_iff cfg).mp valid))
  · obtain ⟨invalid, duplicate⟩ := not_or.mp skipped
    have valid : fbcpldValidateAttr cfg = 0 := not_not.mp invalid
    have fresh : fbcpldEntryExists s.cdesc cfg.name = false := Bool.eq_false_iff.mpr duplicate
    obtain ⟨space, created⟩ := creatable valid fresh
    obtain ⟨idle, _⟩ | ⟨idle, _⟩ | ⟨_, bounded, added⟩ := create_attr_table sysfs cfg s
    · exact absurd ⟨valid, fresh, space, created⟩ idle
    · exact absurd ⟨valid, fresh, space, created⟩ idle
    · have pass : (createAttr sysfs cfg s).1 = 0 ∧ (createAttr sysfs cfg s).2.1 = true := by
        have stored : (s.cdesc.initNext cfg).nameAt s.cdesc.numEntries = cfg.sysfsName := by
          rw [FbcpldCdevDesc.nameAt, init_next_last]
          rfl
        simp [createAttr, valid, fresh, Nat.not_le.mpr space, stored, created]
      refine ⟨pass.1.trans valid.symm, pass.2, fun _ => ?_⟩
      rw [added]
      apply List.any_eq_true.mpr
      refine ⟨s.cdesc.numEntries, List.mem_range.mpr (Nat.lt_succ_self _), ?_⟩
      simp only [init_next_last]
      exact decide_eq_true rfl

/-- An attribute that cannot be created ends the loop with an error. -/
theorem create_attr_fails {cfg : FbcpldSysfsAttr} {s : Cpld Dir}
    (fails : ¬Creatable sysfs cfg s) :
    (createAttr sysfs cfg s).1 ≠ 0 ∧ (createAttr sysfs cfg s).2.1 = false := by
  have stored : (s.cdesc.initNext cfg).nameAt s.cdesc.numEntries = cfg.sysfsName := by
    rw [FbcpldCdevDesc.nameAt, init_next_last]
    rfl
  simp only [Creatable, Classical.not_imp] at fails
  obtain ⟨valid, fresh, fails⟩ := fails
  by_cases space : s.cdesc.numEntries < fbcpldMaxAttrs
  · have refused : (sysfs.createFile cfg.sysfsName s.dir).1 ≠ 0 := fun created =>
      fails ⟨space, created⟩
    simp [createAttr, valid, fresh, Nat.not_le.mpr space, stored, refused]
  · simp [createAttr, valid, fresh, Nat.not_lt.mp space, enospc]

/-! ## The loop -/

/-- Where some attribute cannot be created, the loop returns an error. -/
theorem create_loop_fails (attrs : List FbcpldSysfsAttr) (ret : Int) {s : Cpld Dir}
    (fails : ¬EachPass sysfs (Creatable sysfs) attrs s) : (createLoop sysfs attrs ret s).1 ≠ 0 := by
  induction attrs generalizing ret s with
  | nil => exact absurd trivial fails
  | cons cfg rest inductionHypothesis =>
    unfold createLoop
    by_cases creatable : Creatable sysfs cfg s
    · have goesOn := (create_attr_passes sysfs creatable).goesOn
      rw [if_pos goesOn]
      exact inductionHypothesis _ fun later => fails ⟨creatable, fun _ => later⟩
    · obtain ⟨error, stops⟩ := create_attr_fails sysfs creatable
      rw [if_neg (Bool.eq_false_iff.mp stops)]
      exact error

/-- Where every attribute can be created, the loop returns what the validation of
the last one does, and all valid ones are present. -/
theorem create_loop_passes (attrs : List FbcpldSysfsAttr) (ret : Int) {s : Cpld Dir}
    (each : EachPass sysfs (Creatable sysfs) attrs s) :
    (createLoop sysfs attrs ret s).1 = (attrs.map fbcpldValidateAttr).getLastD ret ∧
      ∀ cfg ∈ attrs, accepted cfg = true →
        fbcpldEntryExists (createLoop sysfs attrs ret s).2.cdesc cfg.name = true := by
  induction attrs generalizing ret s with
  | nil => exact ⟨rfl, fun _ member => absurd member List.not_mem_nil⟩
  | cons cfg rest inductionHypothesis =>
    obtain ⟨creatable, later⟩ := each
    have pass := create_attr_passes sysfs creatable
    obtain ⟨last, present⟩ := inductionHypothesis (createAttr sysfs cfg s).1 (later pass.goesOn)
    unfold createLoop
    rw [if_pos pass.goesOn, List.map_cons, List.getLastD_cons, ← pass.ret]
    refine ⟨last, fun other member valid => ?_⟩
    cases member with
    | head => exact (create_loop_extends sysfs rest _ _).present (pass.present valid)
    | tail _ earlier => exact present other earlier valid

/-- Skipped attributes do not matter to the others. -/
theorem each_pass_accepted (attrs : List FbcpldSysfsAttr) (s : Cpld Dir) :
    EachPass sysfs (Creatable sysfs) (attrs.filter accepted) s ↔
      EachPass sysfs (Creatable sysfs) attrs s := by
  induction attrs generalizing s with
  | nil => exact Iff.rfl
  | cons cfg rest inductionHypothesis =>
    by_cases valid : accepted cfg = true
    · rw [List.filter_cons_of_pos valid]
      exact and_congr_right fun _ => imp_congr_right fun _ => inductionHypothesis _
    · have invalid : fbcpldValidateAttr cfg ≠ 0 := fun zero => valid ((accepted_iff cfg).mpr zero)
      have skips := create_attr_skips sysfs cfg s (Or.inl invalid)
      have creatable : Creatable sysfs cfg s := fun zero => absurd zero invalid
      rw [List.filter_cons_of_neg valid, inductionHypothesis]
      simp only [EachPass, skips, forall_const, creatable, true_and]

end Passes

/-! ## Requests -/

/-- The count of a request is one that `fbcpld_sysfs_create` accepts. -/
structure CreateRequest.Counted (req : CreateRequest) : Prop where
  some : req.numAttrs ≠ 0
  few : req.numAttrs ≤ BitVec.ofNat 32 fbcpldMaxAttrsPerIoctl

/-- The request with other attributes at the front. -/
def CreateRequest.withAttrs (req : CreateRequest) (attrs : List FbcpldSysfsAttr) : CreateRequest :=
  { req with attrs := fun i => attrs.getD i (req.attrs i) }

/-- A counted request has as many attributes as it says. -/
theorem CreateRequest.Counted.length {req : CreateRequest} (counted : req.Counted) :
    req.requested.length = req.numAttrs.toNat := by
  have few : req.numAttrs.toNat ≤ fbcpldMaxAttrsPerIoctl := counted.few
  rw [CreateRequest.requested, List.length_take, List.length_ofFn]
  exact Nat.min_eq_left few

/-- A request visits the attributes that it is given. -/
theorem requested_with_attrs {req : CreateRequest} (counted : req.Counted)
    {attrs : List FbcpldSysfsAttr} (length : attrs.length = req.numAttrs.toNat) :
    (req.withAttrs attrs).requested = attrs := by
  have counted' : (req.withAttrs attrs).Counted := ⟨counted.some, counted.few⟩
  apply List.ext_getElem
  · rw [counted'.length, length]
    rfl
  · intro i inside given
    simp [CreateRequest.requested, CreateRequest.withAttrs, given]

/-- The same attributes with the valid ones in the same order: only the positions
of invalid ones differ. -/
structure Repositions (req other : CreateRequest) : Prop where
  numAttrs : other.numAttrs = req.numAttrs
  attrs : other.requested.Perm req.requested
  valid : other.requested.filter accepted = req.requested.filter accepted

section Verdict

variable {Dir : Type} (sysfs : Sysfs Dir)

/-- What `fbcpld_sysfs_create` returns for a request. -/
def verdict (req : CreateRequest) (s : Cpld Dir) : Int :=
  (fbcpldSysfsCreate true (some req)).result (cdevOn sysfs) s

/-- The table that `fbcpld_sysfs_create` leaves. -/
def tableAfter (req : CreateRequest) (s : Cpld Dir) : FbcpldCdevDesc :=
  ((fbcpldSysfsCreate true (some req)).final (cdevOn sysfs) s).cdesc

/-- A success means that all names of the request are present, and whether the
request succeeds does not depend on the positions of invalid attributes. -/
structure VerdictSound (req : CreateRequest) (s : Cpld Dir) : Prop where
  present : verdict sysfs req s = 0 →
    ∀ cfg ∈ req.requested, fbcpldEntryExists (tableAfter sysfs req s) cfg.name = true
  position : ∀ other, Repositions req other → (verdict sysfs other s = 0 ↔ verdict sysfs req s = 0)

/-- A request that differs in its positions only is counted as well. -/
theorem Repositions.counted {req other : CreateRequest} (repositions : Repositions req other)
    (counted : req.Counted) : other.Counted :=
  ⟨repositions.numAttrs ▸ counted.some, repositions.numAttrs ▸ counted.few⟩

/-- Moving invalid attributes does not change which attributes can be created. -/
theorem Repositions.each_pass {req other : CreateRequest} (repositions : Repositions req other)
    (s : Cpld Dir) :
    EachPass sysfs (Creatable sysfs) other.requested s ↔
      EachPass sysfs (Creatable sysfs) req.requested s := by
  rw [← each_pass_accepted, ← each_pass_accepted sysfs req.requested, repositions.valid]

variable {req : CreateRequest} (counted : req.Counted) (s : Cpld Dir)

include counted

/-- A request with an accepted count runs the loop. -/
theorem create_runs_loop : verdict sysfs req s = (createLoop sysfs req.requested 0 s).1 ∧
    tableAfter sysfs req s = (createLoop sysfs req.requested 0 s).2.cdesc := by
  have accepts : ¬(req.numAttrs = 0 ∨ req.numAttrs > BitVec.ofNat 32 fbcpldMaxAttrsPerIoctl) :=
    not_or.mpr ⟨counted.some, BitVec.not_lt.mpr counted.few⟩
  have program : fbcpldSysfsCreate true (some req) = .perform (.createLocked req) .done :=
    (if_neg (by decide)).trans (if_neg accepts)
  rw [verdict, tableAfter, program]
  exact ⟨rfl, rfl⟩

/-- If all valid attributes can be created, what a request returns is up to the
last one. -/
theorem verdict_last (each : EachPass sysfs (Creatable sysfs) req.requested s)
    {attrs : List FbcpldSysfsAttr} {last : FbcpldSysfsAttr} (ends : req.requested = attrs ++ [last]) :
    verdict sysfs req s = fbcpldValidateAttr last := by
  obtain ⟨ret, _⟩ := create_loop_passes sysfs req.requested 0 each
  rw [(create_runs_loop sysfs counted s).1, ret, ends, List.map_append, List.map_singleton,
    List.getLastD_concat]

/-- If all valid attributes can be created, a request returns what the validation
of one of its attributes does. -/
theorem verdict_of_some (each : EachPass sysfs (Creatable sysfs) req.requested s) :
    ∃ cfg ∈ req.requested, verdict sysfs req s = fbcpldValidateAttr cfg := by
  obtain none | ⟨attrs, last, ends⟩ := List.eq_nil_or_concat req.requested
  · have length := counted.length
    rw [none] at length
    exact absurd (BitVec.eq_of_toNat_eq length.symm) counted.some
  · rw [List.concat_eq_append] at ends
    refine ⟨last, ?_, verdict_last sysfs counted s each ends⟩
    rw [ends]
    exact List.mem_append_right attrs List.mem_cons_self

/-- Where a valid attribute cannot be created, no order of the request succeeds. -/
theorem verdict_fails (fails : ¬EachPass sysfs (Creatable sysfs) req.requested s) :
    verdict sysfs req s ≠ 0 := by
  rw [(create_runs_loop sysfs counted s).1]
  exact create_loop_fails sysfs req.requested 0 fails

/-- If the verdict is sound, it is that of the validation of any attribute that an
order of the request has last. -/
theorem VerdictSound.last (sound : VerdictSound sysfs req s)
    (each : EachPass sysfs (Creatable sysfs) req.requested s) (attrs : List FbcpldSysfsAttr)
    {last : FbcpldSysfsAttr} (order : (attrs ++ [last]).Perm req.requested)
    (valid : (attrs ++ [last]).filter accepted = req.requested.filter accepted) :
    verdict sysfs req s = 0 ↔ fbcpldValidateAttr last = 0 := by
  have length : (attrs ++ [last]).length = req.numAttrs.toNat := by
    rw [order.length_eq, counted.length]
  have visits := requested_with_attrs counted length
  have repositions : Repositions req (req.withAttrs (attrs ++ [last])) :=
    ⟨rfl, visits.symm ▸ order, visits.symm ▸ valid⟩
  have other := verdict_last sysfs (repositions.counted counted) s
    ((repositions.each_pass sysfs s).mpr each) visits
  rw [← sound.position _ repositions, other]

omit counted in
/-- A filtered list with a member ends with an attribute of the kind. -/
theorem filter_ends (kind : FbcpldSysfsAttr → Bool) {cfg : FbcpldSysfsAttr}
    (member : cfg ∈ req.requested) (fits : kind cfg = true) :
    ∃ attrs last, req.requested.filter kind = attrs ++ [last] ∧ kind last = true := by
  have inside : cfg ∈ req.requested.filter kind := List.mem_filter.mpr ⟨member, fits⟩
  obtain none | ⟨attrs, last, ends⟩ := List.eq_nil_or_concat (req.requested.filter kind)
  · rw [none] at inside
    cases inside
  · rw [List.concat_eq_append] at ends
    have lastInside : last ∈ req.requested.filter kind := by
      rw [ends]
      exact List.mem_append_right attrs List.mem_cons_self
    exact ⟨attrs, last, ends, (List.mem_filter.mp lastInside).2⟩

/-- With valid and invalid attributes, the valid ones all creatable, one order
succeeds and another one fails. -/
theorem mixed_unsound (each : EachPass sysfs (Creatable sysfs) req.requested s)
    {good bad : FbcpldSysfsAttr} (goodMember : good ∈ req.requested)
    (badMember : bad ∈ req.requested) (valid : accepted good = true)
    (invalid : accepted bad = false) : ¬VerdictSound sysfs req s := by
  intro sound
  have split := List.filter_append_perm accepted req.requested
  obtain ⟨goods, lastGood, goodsEnd, lastValid⟩ := filter_ends accepted goodMember valid
  obtain ⟨bads, lastBad, badsEnd, lastInvalid⟩ :=
    filter_ends (fun cfg => !accepted cfg) badMember (by rw [invalid, Bool.not_false])
  have noneGood : (req.requested.filter fun cfg => !accepted cfg).filter accepted = [] := by
    simp [List.filter_filter]
  have allGood : (req.requested.filter accepted).filter accepted = req.requested.filter accepted := by
    simp [List.filter_filter]
  have succeeds : verdict sysfs req s = 0 ↔ fbcpldValidateAttr lastGood = 0 := by
    refine sound.last sysfs counted s each
      ((req.requested.filter fun cfg => !accepted cfg) ++ goods) ?_ ?_
    · rw [List.append_assoc, ← goodsEnd]
      exact List.perm_append_comm.trans split
    · rw [List.append_assoc, ← goodsEnd, List.filter_append, noneGood, allGood, List.nil_append]
  have fails : verdict sysfs req s = 0 ↔ fbcpldValidateAttr lastBad = 0 := by
    refine sound.last sysfs counted s each (req.requested.filter accepted ++ bads) ?_ ?_
    · rw [List.append_assoc, ← badsEnd]
      exact split
    · rw [List.append_assoc, ← badsEnd, List.filter_append, noneGood, allGood, List.append_nil]
  have zero := fails.mp (succeeds.mpr ((accepted_iff lastGood).mp lastValid))
  rw [(accepted_iff lastBad).mpr zero] at lastInvalid
  cases lastInvalid

/-- The verdict of a CREATE is sound exactly when its attributes are all valid, or
all invalid, or one of the valid ones cannot be created.

Proof: where an attribute cannot be created, every order of the request fails. Where
all can, an order returns what the validation of its last attribute does, so that
two orders of a mixed request differ. -/
theorem verdict_sound_iff : VerdictSound sysfs req s ↔
    (∀ cfg ∈ req.requested, fbcpldValidateAttr cfg = 0) ∨
    (∀ cfg ∈ req.requested, fbcpldValidateAttr cfg ≠ 0) ∨
    ¬EachPass sysfs (Creatable sysfs) (req.requested.filter accepted) s := by
  rw [each_pass_accepted]
  constructor
  · intro sound
    by_contra mixed
    obtain ⟨someInvalid, someValid, each⟩ : _ ∧ _ ∧ _ := by simpa only [not_or, not_not] using mixed
    simp only [not_forall] at someInvalid someValid
    obtain ⟨bad, badMember, invalid⟩ := someInvalid
    obtain ⟨good, goodMember, valid⟩ := someValid
    exact mixed_unsound sysfs counted s each goodMember badMember
      ((accepted_iff good).mpr (not_not.mp valid)) (decide_eq_false invalid) sound
  · intro condition
    by_cases each : EachPass sysfs (Creatable sysfs) req.requested s
    · -- All orders return what the validation of some attribute does.
      have returns {other : CreateRequest} (repositions : Repositions req other) :
          ∃ cfg ∈ req.requested, verdict sysfs other s = fbcpldValidateAttr cfg := by
        obtain ⟨cfg, member, ret⟩ := verdict_of_some sysfs (repositions.counted counted) s
          ((repositions.each_pass sysfs s).mpr each)
        exact ⟨cfg, repositions.attrs.mem_iff.mp member, ret⟩
      have same : Repositions req req := ⟨rfl, .refl _, rfl⟩
      obtain valid | invalid | fails := condition
      · have succeeds {other : CreateRequest} (repositions : Repositions req other) :
            verdict sysfs other s = 0 := by
          obtain ⟨cfg, member, ret⟩ := returns repositions
          rw [ret, valid cfg member]
        refine ⟨fun _ cfg member => ?_, fun other repositions => ?_⟩
        · obtain ⟨_, present⟩ := create_loop_passes sysfs req.requested 0 each
          rw [(create_runs_loop sysfs counted s).2]
          exact present cfg member ((accepted_iff cfg).mpr (valid cfg member))
        · exact iff_of_true (succeeds repositions) (succeeds same)
      · have fails {other : CreateRequest} (repositions : Repositions req other) :
            verdict sysfs other s ≠ 0 := by
          obtain ⟨cfg, member, ret⟩ := returns repositions
          rw [ret]
          exact invalid cfg member
        exact ⟨fun zero => absurd zero (fails same),
          fun other repositions => iff_of_false (fails repositions) (fails same)⟩
      · exact absurd each fails
    · refine ⟨fun zero => absurd zero (verdict_fails sysfs counted s each),
        fun other repositions => ?_⟩
      have otherFails := mt (repositions.each_pass sysfs s).mp each
      exact iff_of_false (verdict_fails sysfs (repositions.counted counted) s otherFails)
        (verdict_fails sysfs counted s each)

end Verdict

/-! ## An invalid attribute before a valid one -/

/-- An attribute without a name, and the attribute `a`. -/
def mixedRequest : CreateRequest :=
  ⟨2, fun i => if i.val = 0 then { attrNamed 0x61 with name := fun _ => 0 } else attrNamed 0x61⟩

/-- The request succeeds, and its first attribute is not in the table. -/
theorem invalid_attr_hidden : verdict namedFiles mixedRequest (registered ⟨[], []⟩) = 0 ∧
    ¬VerdictSound namedFiles mixedRequest (registered ⟨[], []⟩) := by
  have succeeds : verdict namedFiles mixedRequest (registered ⟨[], []⟩) = 0 := by decide +kernel
  refine ⟨succeeds, fun sound => ?_⟩
  have present := sound.present succeeds (mixedRequest.attrs ⟨0, by decide⟩) List.mem_cons_self
  exact absurd present (by decide +kernel)

/-- A request for `a` alone returns success with `a` in the table. -/
theorem single_request_sound : VerdictSound namedFiles (requestNamed 0x61) (registered ⟨[], []⟩) :=
  (verdict_sound_iff namedFiles ⟨by decide, by decide⟩ (registered ⟨[], []⟩)).mpr
    (Or.inl (by decide +kernel))

end FbossBsp.Fbcpld
