import Mathlib.Data.BitVec
import Mathlib.Data.List.TakeWhile

/-!
# Strings that end with a NUL

A string starts somewhere in memory and ends before the first zero byte. A
routine that scans strings reads up to and including that byte, wherever it is;
whether it stays inside a field of fixed size depends on the bytes of the field.

Memory is the list of the bytes from a pointer on: those of the field, and those
beyond it.
-/

namespace Interaction.CString

/-- The string at the start of a block of bytes. -/
def text (bytes : List (BitVec 8)) : List (BitVec 8) := bytes.takeWhile (· ≠ 0#8)

/-- How many bytes a scan for the end of the string reads. -/
def scanned (bytes : List (BitVec 8)) : Nat := (text bytes).length + 1

/-- `strcmp`; `none` where it runs out of memory. -/
def strcmp : List (BitVec 8) → List (BitVec 8) → Option Int
  | a :: first, b :: second =>
    if a ≠ b then some (if a < b then -1 else 1)
    else if a = 0#8 then some 0
    else strcmp first second
  | _, _ => none

/-- How many bytes of each string `strcmp` reads. -/
def compared : List (BitVec 8) → List (BitVec 8) → Nat
  | a :: first, b :: second => if a ≠ b ∨ a = 0#8 then 1 else compared first second + 1
  | _, _ => 0

/-- The text ends before a zero byte. -/
@[simp] theorem text_zero (rest : List (BitVec 8)) : text (0#8 :: rest) = [] :=
  List.takeWhile_cons_of_neg (by simp)

/-- A byte other than zero belongs to the text. -/
theorem text_cons {byte : BitVec 8} (nonzero : byte ≠ 0#8) (rest : List (BitVec 8)) :
    text (byte :: rest) = byte :: text rest :=
  List.takeWhile_cons_of_pos (by simpa using nonzero)

/-- A terminator below a nonzero byte lies in the rest. -/
theorem mem_tail_iff {byte : BitVec 8} (nonzero : byte ≠ 0#8) (rest : List (BitVec 8)) :
    0#8 ∈ byte :: rest ↔ 0#8 ∈ rest := by
  rw [List.mem_cons]
  exact or_iff_right (Ne.symm nonzero)

/-- A scan stays inside the field exactly when the field has a terminator. -/
theorem scanned_inside_iff (field beyond : List (BitVec 8)) :
    scanned (field ++ beyond) ≤ field.length ↔ 0#8 ∈ field := by
  induction field with
  | nil => simp [scanned]
  | cons byte rest inductionHypothesis =>
    by_cases zero : byte = 0#8
    · subst zero
      simp [scanned]
    · have counted : scanned (byte :: rest ++ beyond) = scanned (rest ++ beyond) + 1 := by
        rw [scanned, scanned, List.cons_append, text_cons zero, List.length_cons]
      rw [counted, List.length_cons, Nat.succ_le_succ_iff, inductionHypothesis,
        mem_tail_iff zero]

/-- A terminated string does not depend on what lies beyond its field. -/
theorem text_append {field : List (BitVec 8)} (terminated : 0#8 ∈ field)
    (beyond : List (BitVec 8)) : text (field ++ beyond) = text field := by
  induction field with
  | nil => cases terminated
  | cons byte rest inductionHypothesis =>
    by_cases zero : byte = 0#8
    · subst zero
      simp
    · have later : 0#8 ∈ rest := (mem_tail_iff zero rest).mp terminated
      rw [List.cons_append, text_cons zero, text_cons zero, inductionHypothesis later]

/-- `strcmp` stays inside two fields of one size, with memory beyond them, exactly
when they are not the same without a terminator. -/
theorem compared_inside_iff {first second : List (BitVec 8)} (size : first.length = second.length)
    {beyond other : List (BitVec 8)} (more : beyond ≠ []) (moreToo : other ≠ []) :
    compared (first ++ beyond) (second ++ other) ≤ first.length ↔
      ¬(first = second ∧ 0#8 ∉ first) := by
  induction first generalizing second with
  | nil =>
    obtain ⟨b, restB, rfl⟩ := List.exists_cons_of_ne_nil more
    obtain ⟨c, restC, rfl⟩ := List.exists_cons_of_ne_nil moreToo
    have empty : second = [] := List.length_eq_zero_iff.mp size.symm
    subst empty
    have some : 0 < compared (b :: restB) (c :: restC) := by
      unfold compared
      split <;> omega
    exact iff_of_false (Nat.not_le.mpr some) (fun outside => outside ⟨rfl, List.not_mem_nil⟩)
  | cons a first inductionHypothesis =>
    cases second with
    | nil => cases size
    | cons b second =>
      have rest := inductionHypothesis (Nat.succ.inj size)
      by_cases stops : a ≠ b ∨ a = 0#8
      · have once : compared (a :: first ++ beyond) (b :: second ++ other) = 1 := if_pos stops
        rw [once]
        refine iff_of_true (Nat.succ_le_succ (Nat.zero_le _)) ?_
        rintro ⟨same, unterminated⟩
        obtain ⟨equal, _⟩ := List.cons.inj same
        obtain different | zero := stops
        · exact different equal
        · exact unterminated (zero ▸ List.mem_cons_self)
      · obtain ⟨same, nonzero⟩ := not_or.mp stops
        have equal : a = b := not_not.mp same
        subst equal
        have goesOn : compared (a :: first ++ beyond) (a :: second ++ other) =
            compared (first ++ beyond) (second ++ other) + 1 := if_neg stops
        have sameRest : a :: first = a :: second ↔ first = second :=
          List.cons_inj_right a
        rw [goesOn, List.length_cons, Nat.succ_le_succ_iff, rest, sameRest,
          mem_tail_iff nonzero]

/-- Inside the fields, `strcmp` compares the strings that they hold. -/
theorem strcmp_inside {first second : List (BitVec 8)} (size : first.length = second.length)
    (beyond other : List (BitVec 8)) (inside : ¬(first = second ∧ 0#8 ∉ first)) :
    (strcmp (first ++ beyond) (second ++ other)).map (fun ret => decide (ret = 0)) =
      some (decide (text first = text second)) := by
  induction first generalizing second with
  | nil =>
    have empty : second = [] := List.length_eq_zero_iff.mp size.symm
    exact absurd ⟨empty.symm, List.not_mem_nil⟩ inside
  | cons a first inductionHypothesis =>
    cases second with
    | nil => cases size
    | cons b second =>
      by_cases same : a = b
      · subst same
        by_cases zero : a = 0#8
        · subst zero
          simp [strcmp]
        · have remaining : ¬(first = second ∧ 0#8 ∉ first) := by
            rwa [List.cons_inj_right, mem_tail_iff zero] at inside
          have rest := inductionHypothesis (Nat.succ.inj size) remaining
          have step : strcmp (a :: first ++ beyond) (a :: second ++ other) =
              strcmp (first ++ beyond) (second ++ other) :=
            (if_neg (not_not.mpr rfl)).trans (if_neg zero)
          rw [step, rest, text_cons zero, text_cons zero]
          simp only [List.cons_inj_right]
      · have stopped : strcmp (a :: first ++ beyond) (b :: second ++ other) =
            some (if a < b then -1 else 1) := if_pos same
        have apart : text (a :: first) ≠ text (b :: second) := by
          intro equal
          -- Of two different first bytes, at most one ends its string.
          by_cases zero : a = 0#8
          · subst zero
            rw [text_zero, text_cons (Ne.symm same)] at equal
            cases equal
          · rw [text_cons zero] at equal
            by_cases zeroB : b = 0#8
            · subst zeroB
              rw [text_zero] at equal
              cases equal
            · rw [text_cons zeroB] at equal
              exact same (List.cons.inj equal).1
        rw [stopped, decide_eq_false apart]
        split <;> rfl

end Interaction.CString
