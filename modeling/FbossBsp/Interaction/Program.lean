import Mathlib.Logic.Basic
import Mathlib.Data.List.Basic

/-!
# Programs that interact with a device

A program either returns a value or performs one operation and continues with
the reply. Sequencing is the monadic bind, so driver code is written in do
notation while every operation stays visible as a node of the tree.

A device answers an operation from its own state. Executing a program against
a device determines its result, the final device state and the performed
operations with their replies. A nondeterministic device is one whose state
holds the script of its own future choices; a law for all scripts is then a law
for all behaviors.

Nothing here names a particular operation, register or driver.
-/

namespace Interaction

universe u v w x

/-- A finite interaction: a value, or one operation and a continuation for
every possible reply to it. -/
inductive Program (Op : Type u) (Reply : Op → Type v) (α : Type w) where
  | done (value : α)
  | perform (op : Op) (next : Reply op → Program Op Reply α)

/-- A device answers one operation and moves to its next state. -/
abbrev Device (Op : Type u) (Reply : Op → Type v) (S : Type x) :=
  (op : Op) → S → Reply op × S

/-- One performed operation together with the reply the program received. -/
structure Event (Op : Type u) (Reply : Op → Type v) where
  op : Op
  reply : Reply op

namespace Program

variable {Op : Type u} {Reply : Op → Type v} {α β : Type w} {S : Type x}

/-- Run the first program, then the one its value selects. -/
protected def bind : Program Op Reply α → (α → Program Op Reply β) → Program Op Reply β
  | .done value, continuation => continuation value
  | .perform op next, continuation =>
      .perform op fun reply => (next reply).bind continuation

instance : Monad (Program Op Reply) where
  pure := .done
  bind := Program.bind

/-- A finished program passes on its value. -/
@[simp] theorem done_bind (value : α) (continuation : α → Program Op Reply β) :
    (Program.done value >>= continuation) = continuation value := rfl

/-- An operation comes before what follows its program. -/
@[simp] theorem perform_bind (op : Op) (next : Reply op → Program Op Reply α)
    (continuation : α → Program Op Reply β) :
    (Program.perform op next >>= continuation) =
      .perform op fun reply => next reply >>= continuation := rfl

/-- Returning after a program changes nothing. -/
theorem bind_done (program : Program Op Reply α) : program.bind .done = program := by
  induction program with
  | done value => rfl
  | perform op next inductionHypothesis =>
    exact congrArg (Program.perform op) (funext inductionHypothesis)

/-- Nested sequences may be regrouped. -/
theorem bind_assoc {γ : Type w} (program : Program Op Reply α)
    (first : α → Program Op Reply β) (second : β → Program Op Reply γ) :
    (program.bind first).bind second = program.bind fun value => (first value).bind second := by
  induction program with
  | done value => rfl
  | perform op next inductionHypothesis =>
    exact congrArg (Program.perform op) (funext inductionHypothesis)

instance : LawfulMonad (Program Op Reply) :=
  LawfulMonad.mk' _ bind_done (fun _ _ => rfl) bind_assoc

/-- The same interaction among more operations: each operation is renamed, and
its reply is read as a reply to the original operation. -/
def embed {Op' : Type u} {Reply' : Op' → Type v} (rename : Op → Op')
    (reply : (op : Op) → Reply' (rename op) → Reply op) :
    Program Op Reply α → Program Op' Reply' α
  | .done value => .done value
  | .perform op next =>
      .perform (rename op) fun answer => (next (reply op answer)).embed rename reply

/-- The value returned when every reply comes from the device. -/
def result (device : Device Op Reply S) : Program Op Reply α → S → α
  | .done value, _ => value
  | .perform op next, state => (next (device op state).1).result device (device op state).2

/-- The device state after the whole program. -/
def final (device : Device Op Reply S) : Program Op Reply α → S → S
  | .done _, state => state
  | .perform op next, state => (next (device op state).1).final device (device op state).2

/-- The performed operations and their replies, in order. -/
def events (device : Device Op Reply S) : Program Op Reply α → S → List (Event Op Reply)
  | .done _, _ => []
  | .perform op next, state =>
      ⟨op, (device op state).1⟩ :: (next (device op state).1).events device (device op state).2

section Execution

variable (device : Device Op Reply S)

/-- A finished program returns its value. -/
@[simp] theorem result_done (value : α) (state : S) :
    (Program.done value : Program Op Reply α).result device state = value := rfl

/-- A finished program leaves the state as it is. -/
@[simp] theorem final_done (value : α) (state : S) :
    (Program.done value : Program Op Reply α).final device state = state := rfl

/-- A finished program performs no operation. -/
@[simp] theorem events_done (value : α) (state : S) :
    (Program.done value : Program Op Reply α).events device state = [] := rfl

/-- A value is returned as it is. -/
@[simp] theorem result_pure (value : α) (state : S) :
    (pure value : Program Op Reply α).result device state = value := rfl

/-- A value leaves the state as it is. -/
@[simp] theorem final_pure (value : α) (state : S) :
    (pure value : Program Op Reply α).final device state = state := rfl

/-- A value performs no operation. -/
@[simp] theorem events_pure (value : α) (state : S) :
    (pure value : Program Op Reply α).events device state = [] := rfl

/-- Sequencing passes the first value and the intermediate state on. -/
@[simp] theorem result_bind (program : Program Op Reply α)
    (continuation : α → Program Op Reply β) (state : S) :
    (program >>= continuation).result device state =
      (continuation (program.result device state)).result device (program.final device state) := by
  induction program generalizing state with
  | done value => rfl
  | perform op next inductionHypothesis =>
    exact inductionHypothesis (device op state).1 (device op state).2

/-- The final state of a sequence is the final state of its second part. -/
@[simp] theorem final_bind (program : Program Op Reply α)
    (continuation : α → Program Op Reply β) (state : S) :
    (program >>= continuation).final device state =
      (continuation (program.result device state)).final device (program.final device state) := by
  induction program generalizing state with
  | done value => rfl
  | perform op next inductionHypothesis =>
    exact inductionHypothesis (device op state).1 (device op state).2

/-- The events of a sequence are those of its parts, one after the other. -/
@[simp] theorem events_bind (program : Program Op Reply α)
    (continuation : α → Program Op Reply β) (state : S) :
    (program >>= continuation).events device state =
      program.events device state ++
        (continuation (program.result device state)).events device
          (program.final device state) := by
  induction program generalizing state with
  | done value => rfl
  | perform op next inductionHypothesis =>
    exact congrArg (_ :: ·) (inductionHypothesis (device op state).1 (device op state).2)

end Execution

/-- Weakest precondition: every performed operation is allowed in the state it
meets, and the returned value and final state satisfy the postcondition. -/
def Wp (device : Device Op Reply S) (allowed : Op → S → Prop) :
    Program Op Reply α → (α → S → Prop) → S → Prop
  | .done value, post, state => post value state
  | .perform op next, post, state =>
      allowed op state ∧ (next (device op state).1).Wp device allowed post (device op state).2

/-- A precondition is decided by executing the program. -/
instance Wp.decidable (device : Device Op Reply S) (allowed : Op → S → Prop)
    [∀ op state, Decidable (allowed op state)] (post : α → S → Prop)
    [∀ value state, Decidable (post value state)] :
    (program : Program Op Reply α) → (state : S) → Decidable (program.Wp device allowed post state)
  | .done value, state => inferInstanceAs (Decidable (post value state))
  | .perform op next, state =>
      @instDecidableAnd _ _ (inferInstanceAs (Decidable (allowed op state)))
        (Wp.decidable device allowed post (next (device op state).1) (device op state).2)

/-- Every operation performed along the run is allowed in the state it meets. -/
def Along (device : Device Op Reply S) (allowed : Op → S → Prop)
    (program : Program Op Reply α) (state : S) : Prop :=
  program.Wp device allowed (fun _ _ => True) state

instance (device : Device Op Reply S) (allowed : Op → S → Prop)
    [∀ op state, Decidable (allowed op state)] (program : Program Op Reply α) (state : S) :
    Decidable (program.Along device allowed state) :=
  Wp.decidable device allowed (fun _ _ => True) program state

section Preconditions

variable (device : Device Op Reply S) (allowed : Op → S → Prop)

/-- A finished program has its postcondition at its value. -/
@[simp] theorem wp_done (value : α) (post : α → S → Prop) (state : S) :
    (Program.done value : Program Op Reply α).Wp device allowed post state ↔ post value state :=
  Iff.rfl

/-- A value has the postcondition where it holds of it. -/
@[simp] theorem wp_pure (value : α) (post : α → S → Prop) (state : S) :
    (pure value : Program Op Reply α).Wp device allowed post state ↔ post value state :=
  Iff.rfl

/-- An operation must be allowed, and the rest must hold after its reply. -/
@[simp] theorem wp_perform (op : Op) (next : Reply op → Program Op Reply α)
    (post : α → S → Prop) (state : S) :
    (Program.perform op next).Wp device allowed post state ↔
      allowed op state ∧
        (next (device op state).1).Wp device allowed post (device op state).2 :=
  Iff.rfl

/-- The rule of sequential composition. -/
theorem wp_bind (program : Program Op Reply α) (continuation : α → Program Op Reply β)
    (post : β → S → Prop) (state : S) :
    (program >>= continuation).Wp device allowed post state ↔
      program.Wp device allowed
        (fun value middle => (continuation value).Wp device allowed post middle) state := by
  induction program generalizing state with
  | done value => rfl
  | perform op next inductionHypothesis =>
    exact and_congr_right fun _ =>
      inductionHypothesis (device op state).1 (device op state).2

/-- A conditional program is judged by the branch it takes. -/
theorem wp_ite (condition : Prop) [Decidable condition] (first second : Program Op Reply α)
    (post : α → S → Prop) (state : S) :
    (if condition then first else second).Wp device allowed post state ↔
      (condition → first.Wp device allowed post state) ∧
        (¬condition → second.Wp device allowed post state) := by
  by_cases holds : condition <;> simp [holds]

/-- Both branches of a conditional are judged under the condition that takes them. -/
theorem Wp.ite {condition : Prop} [Decidable condition] {first second : Program Op Reply α}
    {device : Device Op Reply S} {allowed : Op → S → Prop} {post : α → S → Prop} {state : S}
    (taken : condition → first.Wp device allowed post state)
    (refused : ¬condition → second.Wp device allowed post state) :
    (if condition then first else second).Wp device allowed post state :=
  (wp_ite device allowed condition first second post state).mpr ⟨taken, refused⟩

/-- A sequence is judged by its first part, the second one judged where that ends. -/
theorem Wp.bind {program : Program Op Reply α} {continuation : α → Program Op Reply β}
    {device : Device Op Reply S} {allowed : Op → S → Prop} {post : β → S → Prop} {state : S}
    (first : program.Wp device allowed
      (fun value middle => (continuation value).Wp device allowed post middle) state) :
    (program >>= continuation).Wp device allowed post state :=
  (wp_bind device allowed program continuation post state).mpr first

/-- A precondition splits into the allowed run and the outcome of the run. -/
theorem wp_iff (program : Program Op Reply α) (post : α → S → Prop) (state : S) :
    program.Wp device allowed post state ↔
      program.Along device allowed state ∧
        post (program.result device state) (program.final device state) := by
  induction program generalizing state with
  | done value => exact ⟨fun holds => ⟨trivial, holds⟩, fun holds => holds.2⟩
  | perform op next inductionHypothesis =>
    simp only [Along, wp_perform, result, final, and_assoc]
    exact and_congr_right fun _ =>
      inductionHypothesis (device op state).1 (device op state).2

/-- A run under its precondition ends in the postcondition. -/
theorem Wp.outcome {device : Device Op Reply S} {allowed : Op → S → Prop}
    {program : Program Op Reply α} {post : α → S → Prop} {state : S}
    (holds : program.Wp device allowed post state) :
    post (program.result device state) (program.final device state) :=
  ((wp_iff device allowed program post state).mp holds).2

/-- The run of a sequence is allowed when the runs of both parts are. -/
theorem along_bind (program : Program Op Reply α) (continuation : α → Program Op Reply β)
    (state : S) :
    (program >>= continuation).Along device allowed state ↔
      program.Along device allowed state ∧
        (continuation (program.result device state)).Along device allowed
          (program.final device state) := by
  unfold Along
  rw [wp_bind, wp_iff]
  rfl

variable {device allowed}

/-- A precondition is monotone in the permission and in the postcondition. -/
theorem Wp.mono {permitted : Op → S → Prop} {program : Program Op Reply α}
    {post weaker : α → S → Prop} {state : S}
    (holds : program.Wp device allowed post state)
    (wider : ∀ op state, allowed op state → permitted op state)
    (weakened : ∀ value state, post value state → weaker value state) :
    program.Wp device permitted weaker state := by
  induction program generalizing state with
  | done value => exact weakened value state holds
  | perform op next inductionHypothesis =>
    exact ⟨wider op state holds.1, inductionHypothesis (device op state).1 holds.2⟩

/-- Only the postcondition is weakened. -/
theorem Wp.weaken {program : Program Op Reply α} {post weaker : α → S → Prop} {state : S}
    (holds : program.Wp device allowed post state)
    (weakened : ∀ value state, post value state → weaker value state) :
    program.Wp device allowed weaker state :=
  holds.mono (fun _ _ permitted => permitted) weakened

/-- A renamed program is judged on the device seen through the renaming. -/
theorem wp_embed {Op' : Type u} {Reply' : Op' → Type v} {rename : Op → Op'}
    {reply : (op : Op) → Reply' (rename op) → Reply op} {device : Device Op' Reply' S}
    {allowed : Op' → S → Prop} {program : Program Op Reply α} {post : α → S → Prop} {state : S} :
    (program.embed rename reply).Wp device allowed post state ↔
      program.Wp (fun op now => (reply op (device (rename op) now).1, (device (rename op) now).2))
        (fun op => allowed (rename op)) post state := by
  induction program generalizing state with
  | done value => rfl
  | perform op next inductionHypothesis => exact and_congr_right fun _ => inductionHypothesis _

/-- Two postconditions of one run hold together. -/
theorem Wp.and {program : Program Op Reply α} {post other : α → S → Prop} {state : S}
    (first : program.Wp device allowed post state) (second : program.Wp device allowed other state) :
    program.Wp device allowed (fun value final => post value final ∧ other value final) state := by
  rw [wp_iff] at first second ⊢
  exact ⟨first.1, first.2, second.2⟩

/-- A sequence is judged from the outcome of its first part. -/
theorem Wp.seq {program : Program Op Reply α} {continuation : α → Program Op Reply β}
    {middle : α → S → Prop} {post : β → S → Prop} {state : S}
    (first : program.Wp device allowed middle state)
    (later : ∀ value after, middle value after →
      (continuation value).Wp device allowed post after) :
    (program >>= continuation).Wp device allowed post state :=
  Wp.bind (first.weaken later)

end Preconditions

/-- From every state the whole run is allowed, and it ends in a state related to
the first one by `R`. -/
def Moves (device : Device Op Reply S) (allowed : Op → S → Prop) (R : S → S → Prop)
    (program : Program Op Reply α) : Prop :=
  ∀ state, program.Wp device allowed (fun _ after => R state after) state

section Moves

variable {device : Device Op Reply S} {allowed : Op → S → Prop} {R : S → S → Prop}

/-- A value moves nothing. -/
theorem Moves.pure (refl : ∀ state, R state state) (value : α) :
    (pure value : Program Op Reply α).Moves device allowed R := refl

/-- Moves compose along a transitive relation. -/
theorem Moves.bind (trans : ∀ first second third, R first second → R second third → R first third)
    {program : Program Op Reply α} {continuation : α → Program Op Reply β}
    (first : program.Moves device allowed R)
    (later : ∀ value, (continuation value).Moves device allowed R) :
    (program >>= continuation).Moves device allowed R := by
  intro state
  apply Wp.seq (first state)
  intro value middle moved
  exact (later value middle).weaken fun _ after => trans state middle after moved

/-- A branch moves as both of its sides do. -/
theorem Moves.ite {condition : Prop} [Decidable condition] {first second : Program Op Reply α}
    (taken : condition → first.Moves device allowed R)
    (refused : ¬condition → second.Moves device allowed R) :
    (if condition then first else second).Moves device allowed R := fun state =>
  Wp.ite (fun holds => taken holds state) (fun fails => refused fails state)

end Moves

/-- Weakest liberal precondition: the returned value and the final state satisfy
the postcondition, provided that each operation meets the assumption about it. -/
def Wlp (device : Device Op Reply S) (assumed : Op → S → Prop) :
    Program Op Reply α → (α → S → Prop) → S → Prop
  | .done value, post, state => post value state
  | .perform op next, post, state =>
      assumed op state → (next (device op state).1).Wlp device assumed post (device op state).2

section Assumptions

variable {device : Device Op Reply S} {assumed : Op → S → Prop}

/-- The liberal rule of sequential composition. -/
theorem Wlp.bind {program : Program Op Reply α} {continuation : α → Program Op Reply β}
    {post : β → S → Prop} {state : S}
    (first : program.Wlp device assumed
      (fun value middle => (continuation value).Wlp device assumed post middle) state) :
    (program >>= continuation).Wlp device assumed post state := by
  induction program generalizing state with
  | done value => exact first
  | perform op next inductionHypothesis =>
    intro holds
    exact inductionHypothesis (device op state).1 (first holds)

/-- The liberal rule of conditionals. -/
theorem Wlp.ite {condition : Prop} [Decidable condition] {first second : Program Op Reply α}
    {post : α → S → Prop} {state : S}
    (taken : condition → first.Wlp device assumed post state)
    (refused : ¬condition → second.Wlp device assumed post state) :
    (if condition then first else second).Wlp device assumed post state := by
  by_cases holds : condition
  · rw [if_pos holds]
    exact taken holds
  · rw [if_neg holds]
    exact refused holds

/-- Only the postcondition is weakened. -/
theorem Wlp.weaken {program : Program Op Reply α} {post weaker : α → S → Prop} {state : S}
    (holds : program.Wlp device assumed post state)
    (weakened : ∀ value state, post value state → weaker value state) :
    program.Wlp device assumed weaker state := by
  induction program generalizing state with
  | done value => exact weakened value state holds
  | perform op next inductionHypothesis =>
    intro assumption
    exact inductionHypothesis (device op state).1 (holds assumption)

/-- A run along which every assumption holds ends in the postcondition. -/
theorem Wlp.outcome {program : Program Op Reply α} {post : α → S → Prop} {state : S}
    (holds : program.Wlp device assumed post state)
    (along : program.Along device assumed state) :
    post (program.result device state) (program.final device state) := by
  induction program generalizing state with
  | done value => exact holds
  | perform op next inductionHypothesis =>
    exact inductionHypothesis (device op state).1 (holds along.1) along.2

/-- What holds without assumptions holds under them. -/
theorem Wp.liberal {allowed : Op → S → Prop} {program : Program Op Reply α}
    {post : α → S → Prop} {state : S} (holds : program.Wp device allowed post state) :
    program.Wlp device assumed post state := by
  induction program generalizing state with
  | done value => exact holds
  | perform op next inductionHypothesis =>
    intro _
    exact inductionHypothesis (device op state).1 holds.2

end Assumptions

/-- Whatever the replies are, the events of the run and the returned value
satisfy `T`. No device takes part in this law. -/
def Traces (T : List (Event Op Reply) → α → Prop) : Program Op Reply α → Prop
  | .done value => T [] value
  | .perform op next => ∀ reply, (next reply).Traces fun trace value => T (⟨op, reply⟩ :: trace) value

section Tracing

/-- A finished program has the empty trace. -/
@[simp] theorem traces_done (T : List (Event Op Reply) → α → Prop) (value : α) :
    (Program.done value).Traces T ↔ T [] value := Iff.rfl

/-- A value has the empty trace. -/
@[simp] theorem traces_pure (T : List (Event Op Reply) → α → Prop) (value : α) :
    (pure value : Program Op Reply α).Traces T ↔ T [] value := Iff.rfl

/-- An operation is the head of every trace, whatever its reply. -/
@[simp] theorem traces_perform (T : List (Event Op Reply) → α → Prop) (op : Op)
    (next : Reply op → Program Op Reply α) :
    (Program.perform op next).Traces T ↔
      ∀ reply, (next reply).Traces fun trace value => T (⟨op, reply⟩ :: trace) value := Iff.rfl

/-- The trace rule of sequential composition. -/
theorem traces_bind (T : List (Event Op Reply) → β → Prop) (program : Program Op Reply α)
    (continuation : α → Program Op Reply β) :
    (program >>= continuation).Traces T ↔
      program.Traces fun first value =>
        (continuation value).Traces fun second outcome => T (first ++ second) outcome := by
  induction program generalizing T with
  | done value => rfl
  | perform op next inductionHypothesis =>
    exact forall_congr' fun reply => inductionHypothesis reply _

/-- A conditional program has the traces of the branch it takes. -/
theorem traces_ite (T : List (Event Op Reply) → α → Prop) (condition : Prop)
    [Decidable condition] (first second : Program Op Reply α) :
    (if condition then first else second).Traces T ↔
      (condition → first.Traces T) ∧ (¬condition → second.Traces T) := by
  by_cases holds : condition <;> simp [holds]

/-- A trace law may be weakened. -/
theorem Traces.mono {T T' : List (Event Op Reply) → α → Prop} {program : Program Op Reply α}
    (traced : program.Traces T) (weakened : ∀ trace value, T trace value → T' trace value) :
    program.Traces T' := by
  induction program generalizing T T' with
  | done value => exact weakened [] value traced
  | perform op next inductionHypothesis =>
    exact fun reply => inductionHypothesis reply (traced reply) fun trace value holds =>
      weakened _ value holds

/-- Each branch of a conditional is judged under the condition that takes it. -/
theorem Traces.ite {T : List (Event Op Reply) → α → Prop} {condition : Prop}
    [Decidable condition] {first second : Program Op Reply α}
    (taken : condition → first.Traces T) (refused : ¬condition → second.Traces T) :
    (if condition then first else second).Traces T :=
  (traces_ite T condition first second).mpr ⟨taken, refused⟩

/-- A sequence is judged from the law of its first part. -/
theorem Traces.bind {law : List (Event Op Reply) → α → Prop}
    {T : List (Event Op Reply) → β → Prop} {program : Program Op Reply α}
    {continuation : α → Program Op Reply β} (first : program.Traces law)
    (later : ∀ trace value, law trace value →
      (continuation value).Traces fun rest outcome => T (trace ++ rest) outcome) :
    (program >>= continuation).Traces T :=
  (traces_bind T program continuation).mpr (first.mono later)

/-- Every device produces one of the traces. -/
theorem Traces.exec {T : List (Event Op Reply) → α → Prop} {program : Program Op Reply α}
    (traced : program.Traces T) (device : Device Op Reply S) (state : S) :
    T (program.events device state) (program.result device state) := by
  induction program generalizing T state with
  | done value => exact traced
  | perform op next inductionHypothesis =>
    exact inductionHypothesis (device op state).1 (traced _) (device op state).2

/-- Renaming the operations keeps every law of the events that are named. -/
theorem Traces.embed {Op' : Type u} {Reply' : Op' → Type v} {rename : Op → Op'}
    {reply : (op : Op) → Reply' (rename op) → Reply op}
    {named : Event Op' Reply' → Option (Event Op Reply)}
    (inverse : ∀ op answer, named ⟨rename op, answer⟩ = some ⟨op, reply op answer⟩)
    {T : List (Event Op Reply) → α → Prop} {program : Program Op Reply α}
    (traced : program.Traces T) :
    (program.embed rename reply).Traces fun trace value => T (trace.filterMap named) value := by
  induction program generalizing T with
  | done value => exact traced
  | perform op next inductionHypothesis =>
    intro answer
    apply (inductionHypothesis (reply op answer) (traced (reply op answer))).mono
    intro trace value law
    dsimp only
    rwa [List.filterMap_cons_some (inverse op answer)]

end Tracing

/-- Whatever the replies are, every operation satisfies `Q` and every returned
value satisfies `R`. No device takes part in this law. -/
def Conforms (Q : Op → Prop) (R : α → Prop) : Program Op Reply α → Prop
  | .done value => R value
  | .perform op next => Q op ∧ ∀ reply, (next reply).Conforms Q R

section Conformance

variable {Q : Op → Prop} {R : α → Prop}

/-- A finished program conforms if its value does. -/
@[simp] theorem conforms_done (value : α) :
    (Program.done value : Program Op Reply α).Conforms Q R ↔ R value := Iff.rfl

/-- A value conforms if it is one of those described. -/
@[simp] theorem conforms_pure (value : α) :
    (pure value : Program Op Reply α).Conforms Q R ↔ R value := Iff.rfl

/-- An operation conforms if it is permitted and the rest conforms for each reply. -/
@[simp] theorem conforms_perform (op : Op) (next : Reply op → Program Op Reply α) :
    (Program.perform op next).Conforms Q R ↔ Q op ∧ ∀ reply, (next reply).Conforms Q R :=
  Iff.rfl

/-- A conditional program conforms when the branch it takes does. -/
theorem conforms_ite (condition : Prop) [Decidable condition]
    (first second : Program Op Reply α) :
    (if condition then first else second).Conforms Q R ↔
      (condition → first.Conforms Q R) ∧ (¬condition → second.Conforms Q R) := by
  by_cases holds : condition <;> simp [holds]

/-- Both branches of a conditional conform under the condition that takes them. -/
theorem Conforms.ite {condition : Prop} [Decidable condition]
    {first second : Program Op Reply α} (taken : condition → first.Conforms Q R)
    (refused : ¬condition → second.Conforms Q R) :
    (if condition then first else second).Conforms Q R :=
  (conforms_ite condition first second).mpr ⟨taken, refused⟩

/-- Conformance composes: the second part may rely on what the first returns. -/
theorem Conforms.bind {program : Program Op Reply α} {continuation : α → Program Op Reply β}
    {T : β → Prop} (first : program.Conforms Q R)
    (second : ∀ value, R value → (continuation value).Conforms Q T) :
    (program >>= continuation).Conforms Q T := by
  induction program with
  | done value => exact second value first
  | perform op next inductionHypothesis =>
    exact ⟨first.1, fun reply => inductionHypothesis reply (first.2 reply)⟩

/-- Two sequences are equal when their second parts agree on what the first returns. -/
theorem Conforms.bind_congr {program : Program Op Reply α}
    {continuation other : α → Program Op Reply β} (first : program.Conforms Q R)
    (agree : ∀ value, R value → continuation value = other value) :
    program >>= continuation = program >>= other := by
  induction program with
  | done value => exact agree value first
  | perform op next inductionHypothesis =>
    exact congrArg (Program.perform op) (funext fun reply =>
      inductionHypothesis reply (first.2 reply))

/-- Conformance is monotone in both of its properties. -/
theorem Conforms.mono {Q' : Op → Prop} {R' : α → Prop} {program : Program Op Reply α}
    (conforms : program.Conforms Q R) (wider : ∀ op, Q op → Q' op)
    (weakened : ∀ value, R value → R' value) : program.Conforms Q' R' := by
  induction program with
  | done value => exact weakened value conforms
  | perform op next inductionHypothesis =>
    exact ⟨wider op conforms.1, fun reply => inductionHypothesis reply (conforms.2 reply)⟩

/-- Every program conforms to the law that asks nothing. -/
theorem conforms_true (program : Program Op Reply α) :
    program.Conforms (fun _ => True) fun _ => True := by
  induction program with
  | done value => trivial
  | perform op next inductionHypothesis => exact ⟨trivial, inductionHypothesis⟩

/-- Every value that a run returns satisfies the law of the returned values. -/
theorem Conforms.result {program : Program Op Reply α} (conforms : program.Conforms Q R)
    (device : Device Op Reply S) (state : S) : R (program.result device state) := by
  induction program generalizing state with
  | done value => exact conforms
  | perform op next inductionHypothesis =>
    exact inductionHypothesis (device op state).1 (conforms.2 _) (device op state).2

/-- Conformance is a law about traces. -/
theorem Conforms.traces {program : Program Op Reply α} (conforms : program.Conforms Q R) :
    program.Traces fun trace value => (∀ event ∈ trace, Q event.op) ∧ R value := by
  induction program with
  | done value => exact ⟨by simp, conforms⟩
  | perform op next inductionHypothesis =>
    intro reply
    refine (inductionHypothesis reply (conforms.2 reply)).mono ?_
    rintro trace value ⟨each, returned⟩
    exact ⟨List.forall_mem_cons.mpr ⟨conforms.1, each⟩, returned⟩

/-- An invariant kept by every operation of the permitted kind is kept by the
whole program, and licenses what it implies along the way. -/
theorem Conforms.wp {program : Program Op Reply α} (conforms : program.Conforms Q R)
    {device : Device Op Reply S} {allowed : Op → S → Prop} {invariant : S → Prop}
    (kept : ∀ op state, Q op → invariant state →
      allowed op state ∧ invariant (device op state).2)
    {state : S} (initially : invariant state) :
    program.Wp device allowed (fun value final => R value ∧ invariant final) state := by
  induction program generalizing state with
  | done value => exact ⟨conforms, initially⟩
  | perform op next inductionHypothesis =>
    obtain ⟨permitted, preserved⟩ := kept op state conforms.1 initially
    exact ⟨permitted, inductionHypothesis (device op state).1 (conforms.2 _) preserved⟩

/-- Where every operation is allowed, so is every run. -/
theorem along_of_forall {device : Device Op Reply S} {allowed : Op → S → Prop}
    (always : ∀ op state, allowed op state) (program : Program Op Reply α) (state : S) :
    program.Along device allowed state := by
  induction program generalizing state with
  | done value => trivial
  | perform op next inductionHypothesis =>
    exact ⟨always op state, inductionHypothesis (device op state).1 (device op state).2⟩

/-- A precondition may require of every operation what all operations of the
program satisfy. -/
theorem Conforms.allows {program : Program Op Reply α} (conforms : program.Conforms Q R)
    {device : Device Op Reply S} {allowed : Op → S → Prop}
    (always : ∀ op state, Q op → allowed op state) {post : α → S → Prop} {state : S}
    (wp : program.Wp device (fun _ _ => True) post state) : program.Wp device allowed post state := by
  induction program generalizing state with
  | done value => exact wp
  | perform op next inductionHypothesis =>
    exact ⟨always op state conforms.1,
      inductionHypothesis (device op state).1 (conforms.2 _) wp.2⟩

/-- A program made of operations that are allowed and relate their states by a
reflexive and transitive relation moves along that relation. -/
theorem Conforms.moves {program : Program Op Reply α} (conforms : program.Conforms Q R)
    {device : Device Op Reply S} {allowed : Op → S → Prop} {related : S → S → Prop}
    (refl : ∀ state, related state state)
    (trans : ∀ first second third, related first second → related second third →
      related first third)
    (step : ∀ op state, Q op → allowed op state ∧ related state (device op state).2) :
    program.Moves device allowed related := by
  intro state
  have kept : ∀ op now, Q op → related state now →
      allowed op now ∧ related state (device op now).2 := fun op now permitted moved =>
    ⟨(step op now permitted).1, trans _ _ _ moved (step op now permitted).2⟩
  exact (conforms.wp kept (refl state)).weaken fun _ _ outcome => outcome.2

/-- Conformance survives renaming the operations. -/
theorem Conforms.embed {Op' : Type u} {Reply' : Op' → Type v} {rename : Op → Op'}
    {reply : (op : Op) → Reply' (rename op) → Reply op} {Q' : Op' → Prop}
    {program : Program Op Reply α} (conforms : program.Conforms Q R)
    (renamed : ∀ op, Q op → Q' (rename op)) : (program.embed rename reply).Conforms Q' R := by
  induction program with
  | done value => exact conforms
  | perform op next inductionHypothesis =>
    exact ⟨renamed op conforms.1, fun answer =>
      inductionHypothesis (reply op answer) (conforms.2 (reply op answer))⟩

end Conformance

/-! ## Phases -/

section Phases

universe y

variable {Phase : Type y} {permits : Phase → Op → Prop} {after : Phase → Op → Phase}
variable {ends : Phase → Prop} {phase : Phase}

/-- Whatever the replies are, every operation is permitted in the phase that the
operations before it lead to, and the last phase is one of `ends`. -/
def Phased (permits : Phase → Op → Prop) (after : Phase → Op → Phase) (ends : Phase → Prop) :
    Phase → Program Op Reply α → Prop
  | phase, .done _ => ends phase
  | phase, .perform op next =>
      permits phase op ∧ ∀ reply, Phased permits after ends (after phase op) (next reply)

/-- In sequence, the second program starts in a last phase of the first. -/
theorem Phased.bind {program : Program Op Reply α} {continuation : α → Program Op Reply β}
    (phased : program.Phased permits after
      (fun last => ∀ value, (continuation value).Phased permits after ends last) phase) :
    (program >>= continuation).Phased permits after ends phase := by
  induction program generalizing phase with
  | done value => exact phased value
  | perform op next inductionHypothesis =>
    exact ⟨phased.1, fun reply => inductionHypothesis reply (phased.2 reply)⟩

/-- A branch keeps to the phases if both of its sides do. -/
theorem Phased.ite {condition : Prop} [Decidable condition] {yes no : Program Op Reply α}
    (holds : yes.Phased permits after ends phase) (fails : no.Phased permits after ends phase) :
    (if condition then yes else no).Phased permits after ends phase := by
  split
  · exact holds
  · exact fails

/-- Operations that keep the phase. -/
theorem Conforms.phased {Q : Op → Prop} {R : α → Prop} {program : Program Op Reply α}
    (conforms : program.Conforms Q R) (permitted : ∀ op, Q op → permits phase op)
    (same : ∀ op, Q op → after phase op = phase) (ended : ends phase) :
    program.Phased permits after ends phase := by
  induction program with
  | done value => exact ended
  | perform op next inductionHypothesis =>
    obtain ⟨allowed, later⟩ := conforms
    refine ⟨permitted op allowed, fun reply => ?_⟩
    rw [same op allowed]
    exact inductionHypothesis reply (later reply)

end Phases

end Program

end Interaction
