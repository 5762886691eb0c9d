import FbossBsp.AuxBus
import FbossBsp.CpldTable
import FbossBsp.Interaction.CString

/-!
# The names of auxiliary devices

A request names a device by 255 bytes of user space, and nothing checks that one
of them ends the string. The devices on the list keep the bytes of the request
that created them; a request to delete a device is compared with them by
`strcmp`, which goes on into the following fields where the names do not differ.
-/

namespace FbossBsp.Auxdev

open Interaction

open Fbcpld (nameMax littleEndian sameName)

/-- The union of `struct fbiob_aux_data`. -/
def settingsSize : Nat := 268

/-- `struct fbiob_aux_data` in memory. One byte of padding follows the name. -/
structure FbiobAuxRecord where
  name : Fin nameMax → BitVec 8
  padding : BitVec 8
  id : BitVec 32
  data : FbiobAuxData
  settings : Fin settingsSize → BitVec 8

namespace FbiobAuxRecord

variable (user : FbiobAuxRecord)

/-- The bytes of the structure behind the name. -/
def behindName : List (BitVec 8) :=
  user.padding :: (littleEndian user.id ++ littleEndian user.data.csrOffset ++
    littleEndian user.data.iobufOffset ++ List.ofFn user.settings)

/-- Memory from the name on; `beyond` is what follows the structure. -/
def memory (beyond : List (BitVec 8)) : List (BitVec 8) :=
  List.ofFn user.name ++ (user.behindName ++ beyond)

/-- What the list keeps of a request: `aux_data_validate` translates the offsets. -/
def validated (cdesc : FbiobCdevDesc) : FbiobAuxRecord :=
  { user with data := (auxDataValidate cdesc user.data).2 }

end FbiobAuxRecord

/-- `fbiob_auxdev_match` on memory: what it returns, unless it runs out of
memory, and how many bytes from the start of the names it reads. -/
def auxdevMatchMemory (id1 id2 : FbiobAuxRecord) (beyond1 beyond2 : List (BitVec 8)) :
    Option Bool × Nat :=
  if id1.id = id2.id then
    ((CString.strcmp (id1.memory beyond1) (id2.memory beyond2)).map fun ret => decide (ret = 0),
      CString.compared (id1.memory beyond1) (id2.memory beyond2))
  else (some false, 0)

/-- The comparison stays inside the two name fields, and decides whether the ids
and the names, bounded by their fields, are equal. -/
structure ComparedInside (id1 id2 : FbiobAuxRecord) (beyond1 beyond2 : List (BitVec 8)) :
    Prop where
  reads : (auxdevMatchMemory id1 id2 beyond1 beyond2).2 ≤ nameMax
  result : (auxdevMatchMemory id1 id2 beyond1 beyond2).1 =
    some (decide (id1.id = id2.id) && sameName id1.name id2.name)

/-- The fields are the same throughout, and none of their bytes ends the name. -/
structure Unending (id1 id2 : FbiobAuxRecord) : Prop where
  id : id1.id = id2.id
  name : id1.name = id2.name
  unterminated : ∀ i, id1.name i ≠ 0#8

/-- Some byte of the structure follows the name. -/
theorem behind_name_nonempty (user : FbiobAuxRecord) (beyond : List (BitVec 8)) :
    user.behindName ++ beyond ≠ [] := List.cons_ne_nil _ _

/-- The names differ or end inside their fields, said of the lists of their bytes. -/
theorem unending_names_iff (id1 id2 : FbiobAuxRecord) (same : id1.id = id2.id) :
    (List.ofFn id1.name = List.ofFn id2.name ∧ 0#8 ∉ List.ofFn id1.name) ↔ Unending id1 id2 := by
  have unterminated : 0#8 ∉ List.ofFn id1.name ↔ ∀ i, id1.name i ≠ 0#8 := by
    rw [List.mem_ofFn, not_exists]
  rw [unterminated]
  constructor
  · rintro ⟨names, bytes⟩
    exact ⟨same, List.ofFn_injective names, bytes⟩
  · intro unending
    exact ⟨congrArg _ unending.name, unending.unterminated⟩

/-- A comparison stays inside the fields, and is one of the bounded names, unless
the names are unending. -/
theorem compared_inside_unless (id1 id2 : FbiobAuxRecord) (beyond1 beyond2 : List (BitVec 8)) :
    ComparedInside id1 id2 beyond1 beyond2 ↔ ¬Unending id1 id2 := by
  by_cases same : id1.id = id2.id
  · have size : (List.ofFn id1.name).length = (List.ofFn id2.name).length := by
      rw [List.length_ofFn, List.length_ofFn]
    have inside : CString.compared (id1.memory beyond1) (id2.memory beyond2) ≤
        (List.ofFn id1.name).length ↔ _ :=
      CString.compared_inside_iff size (behind_name_nonempty id1 beyond1)
        (behind_name_nonempty id2 beyond2)
    rw [List.length_ofFn, unending_names_iff id1 id2 same] at inside
    have compares : auxdevMatchMemory id1 id2 beyond1 beyond2 =
        ((CString.strcmp (id1.memory beyond1) (id2.memory beyond2)).map fun ret => decide (ret = 0),
        CString.compared (id1.memory beyond1) (id2.memory beyond2)) := if_pos same
    constructor
    · rintro ⟨reads, _⟩
      rw [compares] at reads
      exact inside.mp reads
    · intro ends
      have names := mt (unending_names_iff id1 id2 same).mp ends
      have result : (CString.strcmp (id1.memory beyond1) (id2.memory beyond2)).map
          (fun ret => decide (ret = 0)) = some (sameName id1.name id2.name) :=
        CString.strcmp_inside size (id1.behindName ++ beyond1) (id2.behindName ++ beyond2) names
      constructor
      · rw [compares]
        exact inside.mpr ends
      · rw [compares, decide_eq_true same, Bool.true_and]
        exact result
  · have stops : auxdevMatchMemory id1 id2 beyond1 beyond2 = (some false, 0) := if_neg same
    refine iff_of_true ⟨?_, ?_⟩ fun unending => same unending.id
    · rw [stops]
      exact Nat.zero_le _
    · rw [stops, decide_eq_false same, Bool.false_and]

/-- The device of an accepted request is compared with a request to delete inside
the name fields exactly when the two do not have the same id and the same 255
bytes without a NUL among them. -/
theorem compared_inside_fields_iff (cdesc : FbiobCdevDesc) (created deleted : FbiobAuxRecord)
    (beyond1 beyond2 : List (BitVec 8)) :
    ComparedInside (created.validated cdesc) deleted beyond1 beyond2 ↔
      ¬(created.id = deleted.id ∧ created.name = deleted.name ∧ ∀ i, created.name i ≠ 0#8) := by
  rw [compared_inside_unless, not_iff_not]
  constructor
  · intro unending
    exact ⟨unending.id, unending.name, unending.unterminated⟩
  · rintro ⟨id, name, unterminated⟩
    exact ⟨id, name, unterminated⟩

/-! ## A name without an end -/

/-- A request whose name is 255 times `a`. -/
def unendingRequest (padding : BitVec 8) : FbiobAuxRecord :=
  ⟨fun _ => 0x61, padding, 1, ⟨0x100, fbiobInvalidOffset⟩, fun _ => 0⟩

/-- The padding decides about two equal names, and the device is not found. -/
theorem unending_names_differ :
    (auxDataValidate ⟨0, 0x1000⟩ (unendingRequest 0).data).1 = 0 ∧
      auxdevMatchMemory ((unendingRequest 0).validated ⟨0, 0x1000⟩) (unendingRequest 1) [] [] =
        (some false, 256) ∧
      ¬ComparedInside ((unendingRequest 0).validated ⟨0, 0x1000⟩) (unendingRequest 1) [] [] := by
  have reads : auxdevMatchMemory ((unendingRequest 0).validated ⟨0, 0x1000⟩) (unendingRequest 1)
      [] [] = (some false, 256) := by decide +kernel
  refine ⟨by decide, reads, ?_⟩
  rintro ⟨inside, _⟩
  rw [reads] at inside
  exact absurd inside (by decide)

end FbossBsp.Auxdev
