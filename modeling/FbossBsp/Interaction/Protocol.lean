import FbossBsp.Interaction.Calls

/-!
# Programs that follow a protocol

A protocol is an automaton over operations and the replies to them. It permits
an operation in a phase by naming the phase that the operation and its reply
lead to. A program follows a protocol when every operation that it can perform
is permitted, whatever the replies are; where it ends is related to what it
returns.

A protocol that looks at replies says more than one of the operations alone: an
operation may be permitted only after a reply has allowed it.
-/

namespace Interaction

universe u v w x y

/-- The phase that an operation and its reply lead to, if they are permitted. -/
abbrev Protocol (Op : Type u) (Reply : Op → Type v) (Phase : Type y) :=
  Phase → Event Op Reply → Option Phase

variable {Op : Type u} {Reply : Op → Type v} {α β : Type w} {S : Type x} {Phase : Type y}

/-- The phase after some events, if all of them are permitted. -/
def Protocol.run (protocol : Protocol Op Reply Phase) : Phase → List (Event Op Reply) → Option Phase
  | phase, [] => some phase
  | phase, event :: rest => (protocol phase event).bind fun later => protocol.run later rest

/-- The events after some events start in the phase that these lead to. -/
theorem Protocol.run_append (protocol : Protocol Op Reply Phase) (phase : Phase)
    (first second : List (Event Op Reply)) :
    protocol.run phase (first ++ second) =
      (protocol.run phase first).bind fun middle => protocol.run middle second := by
  induction first generalizing phase with
  | nil => rfl
  | cons event rest inductionHypothesis =>
    simp only [List.cons_append, run]
    cases protocol phase event with
    | none => rfl
    | some later => exact inductionHypothesis later

/-- An operation that is permitted under a condition. -/
theorem permitted_if {condition : Prop} [Decidable condition] {towards later : Phase}
    (permitted : (if condition then some towards else none) = some later) :
    condition ∧ towards = later := by
  obtain ⟨holds, same⟩ := Option.ite_none_right_eq_some.mp permitted
  exact ⟨holds, Option.some.inj same⟩

/-- From the phases in `within` the protocol leads to such phases only, by
operations in `Q`. -/
def Protocol.Within (protocol : Protocol Op Reply Phase) (within : Phase → Prop)
    (Q : Op → Prop) : Prop :=
  ∀ phase event later, within phase → protocol phase event = some later →
    Q event.op ∧ within later

namespace Program

variable {protocol : Protocol Op Reply Phase} {ends : Phase → α → Prop} {phase : Phase}

/-- Whatever the replies are, every operation is permitted in the phase that the
events before it lead to, and the last phase and the returned value are related
by `ends`. -/
def Follows (protocol : Protocol Op Reply Phase) (ends : Phase → α → Prop) :
    Phase → Program Op Reply α → Prop
  | phase, .done value => ends phase value
  | phase, .perform op next =>
      ∀ reply, ∃ later, protocol phase ⟨op, reply⟩ = some later ∧
        Follows protocol ends later (next reply)

/-- A finished program ends in the phase it is in. -/
@[simp] theorem follows_done (value : α) :
    (Program.done value : Program Op Reply α).Follows protocol ends phase ↔ ends phase value :=
  Iff.rfl

/-- A value ends in the phase it is in. -/
@[simp] theorem follows_pure (value : α) :
    (pure value : Program Op Reply α).Follows protocol ends phase ↔ ends phase value := Iff.rfl

/-- An operation whose reply does not matter to the protocol. -/
theorem Follows.perform {op : Op} {next : Reply op → Program Op Reply α} {later : Phase}
    (permitted : ∀ reply, protocol phase ⟨op, reply⟩ = some later)
    (follows : ∀ reply, (next reply).Follows protocol ends later) :
    (Program.perform op next).Follows protocol ends phase := fun reply =>
  ⟨later, permitted reply, follows reply⟩

/-- Less may be said about the end. -/
theorem Follows.weaken {weaker : Phase → α → Prop} {program : Program Op Reply α}
    (follows : program.Follows protocol ends phase)
    (weakened : ∀ last value, ends last value → weaker last value) :
    program.Follows protocol weaker phase := by
  induction program generalizing phase with
  | done value => exact weakened phase value follows
  | perform op next inductionHypothesis =>
    intro reply
    obtain ⟨later, permitted, rest⟩ := follows reply
    exact ⟨later, permitted, inductionHypothesis reply rest⟩

/-- In sequence, the second program goes on in the phase where the first one ends. -/
theorem Follows.bind {program : Program Op Reply α} {continuation : α → Program Op Reply β}
    {ends : Phase → β → Prop}
    (follows : program.Follows protocol
      (fun last value => (continuation value).Follows protocol ends last) phase) :
    (program >>= continuation).Follows protocol ends phase := by
  induction program generalizing phase with
  | done value => exact follows
  | perform op next inductionHypothesis =>
    intro reply
    obtain ⟨later, permitted, rest⟩ := follows reply
    exact ⟨later, permitted, inductionHypothesis reply rest⟩

/-- A sequence is judged from the ends of its first part. -/
theorem Follows.seq {program : Program Op Reply α} {continuation : α → Program Op Reply β}
    {middle : Phase → α → Prop} {ends : Phase → β → Prop}
    (first : program.Follows protocol middle phase)
    (later : ∀ last value, middle last value → (continuation value).Follows protocol ends last) :
    (program >>= continuation).Follows protocol ends phase :=
  Follows.bind (first.weaken later)

/-- Each branch follows under the condition that takes it. -/
theorem Follows.ite {condition : Prop} [Decidable condition] {yes no : Program Op Reply α}
    (taken : condition → yes.Follows protocol ends phase)
    (refused : ¬condition → no.Follows protocol ends phase) :
    (if condition then yes else no).Follows protocol ends phase := by
  by_cases holds : condition
  · rw [if_pos holds]
    exact taken holds
  · rw [if_neg holds]
    exact refused holds

/-- Operations that keep the phase. -/
theorem Conforms.follows {Q : Op → Prop} {R : α → Prop} {program : Program Op Reply α}
    (conforms : program.Conforms Q R)
    (kept : ∀ op reply, Q op → protocol phase ⟨op, reply⟩ = some phase) :
    program.Follows protocol (fun last value => last = phase ∧ R value) phase := by
  induction program with
  | done value => exact ⟨rfl, conforms⟩
  | perform op next inductionHypothesis =>
    obtain ⟨allowed, later⟩ := conforms
    exact fun reply => ⟨phase, kept op reply allowed, inductionHypothesis reply (later reply)⟩

/-- The operations of a program are among those that the protocol permits. -/
theorem Follows.conforms [∀ op, Nonempty (Reply op)] {within : Phase → Prop} {Q : Op → Prop}
    {R : α → Prop}
    (permits : protocol.Within within Q) {program : Program Op Reply α}
    (follows : program.Follows protocol ends phase) (inside : within phase)
    (ended : ∀ last value, ends last value → R value) : program.Conforms Q R := by
  induction program generalizing phase with
  | done value => exact ended phase value follows
  | perform op next inductionHypothesis =>
    have kept (reply : Reply op) : Q op ∧ (next reply).Conforms Q R := by
      obtain ⟨later, permitted, rest⟩ := follows reply
      obtain ⟨allowed, still⟩ := permits phase ⟨op, reply⟩ later inside permitted
      exact ⟨allowed, inductionHypothesis reply rest still⟩
    obtain ⟨some⟩ : Nonempty (Reply op) := inferInstance
    exact ⟨(kept some).1, fun reply => (kept reply).2⟩

/-- On every device the protocol accepts the events of the run. -/
theorem Follows.exec {program : Program Op Reply α} (follows : program.Follows protocol ends phase)
    (device : Device Op Reply S) (state : S) :
    ∃ last, protocol.run phase (program.events device state) = some last ∧
      ends last (program.result device state) := by
  induction program generalizing phase state with
  | done value => exact ⟨phase, rfl, follows⟩
  | perform op next inductionHypothesis =>
    obtain ⟨later, permitted, rest⟩ := follows (device op state).1
    obtain ⟨last, ran, ended⟩ :=
      inductionHypothesis (device op state).1 rest (device op state).2
    refine ⟨last, ?_, ended⟩
    simp only [events, Protocol.run, permitted, Option.bind_some]
    exact ran

end Program

/-- Calls that start and end in phases at rest follow the protocol in sequence. -/
theorem Calls.follows {Call : Type y} {program : Call → Program Op Reply α}
    {protocol : Protocol Op Reply Phase} {rest : Phase → Prop}
    (each : ∀ call phase, rest phase →
      (program call).Follows protocol (fun last _ => rest last) phase)
    (device : Device Op Reply S) (calls : List Call) {phase : Phase} (resting : rest phase)
    (state : S) : ∃ last, protocol.run phase (Calls.events device program calls state) = some last ∧
      rest last := by
  induction calls generalizing phase state with
  | nil => exact ⟨phase, rfl, resting⟩
  | cons call later inductionHypothesis =>
    obtain ⟨middle, first, again⟩ := (each call phase resting).exec device state
    obtain ⟨last, others, ended⟩ := inductionHypothesis again ((program call).final device state)
    refine ⟨last, ?_, ended⟩
    rw [Calls.events, protocol.run_append, first, Option.bind_some]
    exact others

end Interaction
