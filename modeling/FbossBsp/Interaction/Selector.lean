import Mathlib.Data.BitVec

/-!
# Fields that select one alternative

Several devices may share one field of a word: the field holds the code of the
device that is on, or no such code. Turning one on inserts its code. Turning one
off inserts the code `off` where the device is the one that is on, and changes
nothing otherwise. What the field shows then evolves as a machine whose state is
at most one alternative, and the word keeps its other bits.

Nothing here names a particular device or register.
-/

namespace Interaction

universe u

/-- The codes of the alternatives, inside a field given by its mask. -/
structure Selector (w : Nat) (C : Type u) where
  all : List C
  mask : BitVec w
  code : C → BitVec w
  off : BitVec w
  complete : ∀ c, c ∈ all
  inside : ∀ c, code c &&& mask = code c
  offInside : off &&& mask = off
  distinct : ∀ c d, code c = code d → c = d
  offUnused : ∀ c, code c ≠ off

namespace Selector

variable {w : Nat} {C : Type u}

/-- Replace the bits of the field. -/
def insert (s : Selector w C) (word val : BitVec w) : BitVec w := word &&& ~~~s.mask ||| val

/-- The alternative that the word shows. -/
def shown (s : Selector w C) (word : BitVec w) : Option C :=
  s.all.find? fun c => word &&& s.mask = s.code c

/-- Turn an alternative on. -/
def select (s : Selector w C) (word : BitVec w) (c : C) : BitVec w := s.insert word (s.code c)

/-- Turn an alternative off, where it is on. -/
def deselect (s : Selector w C) (word : BitVec w) (c : C) : BitVec w :=
  if word &&& s.mask = s.code c then s.insert word s.off else word

variable (s : Selector w C) (word : BitVec w)

/-! ## Inserted fields -/

/-- Outside the field, an insertion changes nothing. -/
theorem insert_outside {val : BitVec w} (within : val &&& s.mask = val) :
    s.insert word val &&& ~~~s.mask = word &&& ~~~s.mask := by
  apply BitVec.eq_of_getLsbD_eq
  intro i small
  have bit := congrArg (·.getLsbD i) within
  simp only [BitVec.getLsbD_and] at bit
  simp only [insert, BitVec.getLsbD_and, BitVec.getLsbD_or, BitVec.getLsbD_not]
  grind

/-- Inside the field, an insertion leaves what was inserted. -/
theorem insert_inside {val : BitVec w} (within : val &&& s.mask = val) :
    s.insert word val &&& s.mask = val := by
  apply BitVec.eq_of_getLsbD_eq
  intro i small
  have bit := congrArg (·.getLsbD i) within
  simp only [BitVec.getLsbD_and] at bit
  simp only [insert, BitVec.getLsbD_and, BitVec.getLsbD_or, BitVec.getLsbD_not]
  grind

/-- A word is the code in its field, with nothing outside, or it is not the code. -/
theorem eq_iff {val : BitVec w} (within : val &&& s.mask = val) :
    word = val ↔ word &&& s.mask = val ∧ word &&& ~~~s.mask = 0 := by
  constructor
  · intro same
    have apart : val &&& s.mask &&& ~~~s.mask = 0 := by
      rw [BitVec.and_assoc, BitVec.and_not_self]
      exact BitVec.and_zero
    rw [within] at apart
    subst same
    exact ⟨within, apart⟩
  · rintro ⟨inside, outside⟩
    have split : word = word &&& ~~~s.mask ||| word &&& s.mask := by
      apply BitVec.eq_of_getLsbD_eq
      intro i small
      simp only [BitVec.getLsbD_and, BitVec.getLsbD_or, BitVec.getLsbD_not]
      grind
    rw [inside, outside] at split
    exact split.trans BitVec.zero_or

/-! ## The shown alternative -/

/-- A word shows the choice whose code its field holds. -/
theorem shown_iff (c : C) : s.shown word = some c ↔ word &&& s.mask = s.code c := by
  constructor
  · intro shown
    exact of_decide_eq_true (List.find?_some (p := fun c => word &&& s.mask = s.code c) shown)
  · intro coded
    cases found : s.shown word with
    | none =>
      have none := List.find?_eq_none.mp found c (s.complete c)
      simp [coded] at none
    | some other =>
      have holds := List.find?_some (p := fun c => word &&& s.mask = s.code c) found
      exact congrArg some (s.distinct other c ((of_decide_eq_true holds).symm.trans coded))

/-- A word shows nothing when its field holds no code. -/
theorem shown_none_iff : s.shown word = none ↔ ∀ c, word &&& s.mask ≠ s.code c := by
  constructor
  · intro none c coded
    rw [(s.shown_iff word c).mpr coded] at none
    cases none
  · intro uncoded
    cases found : s.shown word with
    | none => rfl
    | some c => exact absurd ((s.shown_iff word c).mp found) (uncoded c)

/-! ## The machine -/

/-- A selected alternative is shown. -/
theorem shown_select (c : C) : s.shown (s.select word c) = some c :=
  (s.shown_iff _ c).mpr (s.insert_inside word (s.inside c))

/-- The code for off shows nothing. -/
theorem shown_off : s.shown (s.insert word s.off) = none := by
  rw [shown_none_iff, insert_inside _ _ s.offInside]
  exact fun c coded => s.offUnused c coded.symm

/-- A deselected alternative is not shown, and any other stays shown. -/
theorem shown_deselect [DecidableEq C] (c : C) :
    s.shown (s.deselect word c) = if s.shown word = some c then none else s.shown word := by
  by_cases on : s.shown word = some c
  · rw [deselect, if_pos ((s.shown_iff word c).mp on), if_pos on, shown_off]
  · rw [deselect, if_neg fun coded => on ((s.shown_iff word c).mpr coded), if_neg on]

/-- Selecting keeps the bits outside the field. -/
theorem select_outside (c : C) : s.select word c &&& ~~~s.mask = word &&& ~~~s.mask :=
  s.insert_outside word (s.inside c)

/-- A selection leaves exactly its code where the rest of the word is zero. -/
theorem select_eq_iff (c d : C) :
    s.select word c = s.code d ↔ d = c ∧ word &&& ~~~s.mask = 0 := by
  rw [s.eq_iff _ (s.inside d), select_outside, select, insert_inside _ _ (s.inside c)]
  exact and_congr_left fun _ => ⟨fun coded => (s.distinct c d coded).symm, fun same => same ▸ rfl⟩

/-- Deselecting keeps the bits outside the field. -/
theorem deselect_outside (c : C) : s.deselect word c &&& ~~~s.mask = word &&& ~~~s.mask := by
  unfold deselect
  split
  · exact s.insert_outside word s.offInside
  · rfl

end Selector

end Interaction
