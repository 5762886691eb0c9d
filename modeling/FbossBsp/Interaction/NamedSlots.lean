import Mathlib.Data.Set.Function

/-!
# Slots that name files

A table stores a name in each slot. The held slots back the files of a
directory: every held slot names one file, different held slots name different
files, and there are no other files. The laws say which changes of the slots and
of the directory keep this.

Nothing here names a particular table or directory.
-/

namespace Interaction

universe u v

variable {Slot : Type u} {Name : Type v}

/-- The held slots and the files correspond one to one. -/
def Backs (nameAt : Slot → Name) (held : Set Slot) (files : Set Name) : Prop :=
  Set.BijOn nameAt held files

namespace Backs

variable {nameAt : Slot → Name} {held : Set Slot} {files : Set Name}

/-- The files are the names of the held slots. -/
theorem files_eq (backs : Backs nameAt held files) : files = nameAt '' held :=
  backs.image_eq.symm

/-- A held slot names a file. -/
theorem file (backs : Backs nameAt held files) {slot : Slot} (member : slot ∈ held) :
    nameAt slot ∈ files :=
  backs.mapsTo member

/-- The file of a held slot is removed, and the slot given up. -/
theorem remove (backs : Backs nameAt held files) {slot : Slot} (member : slot ∈ held) :
    Backs nameAt (held \ {slot}) (files \ {nameAt slot}) :=
  backs.sdiff_singleton member

section Rename

variable [DecidableEq Slot]

/-- A slot that is not held may be renamed. -/
theorem rename_free (backs : Backs nameAt held files) {slot : Slot} (free : slot ∉ held)
    (name : Name) : Backs (Function.update nameAt slot name) held files := by
  apply Set.BijOn.congr backs
  intro other member
  have different : other ≠ slot := fun same => free (same ▸ member)
  exact (Function.update_of_ne different name nameAt).symm

/-- Any slot may be given the name it has. -/
theorem rename_same (backs : Backs nameAt held files) {slot : Slot} {name : Name}
    (same : name = nameAt slot) : Backs (Function.update nameAt slot name) held files := by
  rw [same, Function.update_eq_self]
  exact backs

/-- A free slot and a new file under its new name are added together. -/
theorem add (backs : Backs nameAt held files) {slot : Slot} {name : Name}
    (free : slot ∉ held) (fresh : name ∉ files) :
    Backs (Function.update nameAt slot name) (insert slot held) (insert name files) := by
  have renamed := backs.rename_free free name
  have absent : Function.update nameAt slot name slot ∉ files := by
    rwa [Function.update_self]
  have added := Set.BijOn.insert renamed absent
  rwa [Function.update_self] at added

end Rename

end Backs

end Interaction
