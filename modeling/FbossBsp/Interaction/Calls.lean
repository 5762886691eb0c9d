import FbossBsp.Interaction.Program

/-!
# Sequences of calls

A driver offers several entry points; each call of one is a program. A sequence
of calls runs the programs one after the other on the same device, each from the
state the one before has left.
-/

namespace Interaction.Calls

universe u v w x y

variable {Op : Type u} {Reply : Op → Type v} {α : Type w} {S : Type x} {Call : Type y}
variable (device : Device Op Reply S) (program : Call → Program Op Reply α)

/-- The state after a sequence of calls. -/
def final : List Call → S → S
  | [], state => state
  | call :: rest, state => final rest ((program call).final device state)

/-- The results of a sequence of calls. -/
def results : List Call → S → List α
  | [], _ => []
  | call :: rest, state =>
      (program call).result device state :: results rest ((program call).final device state)

/-- The operations of a sequence of calls with their replies. -/
def events : List Call → S → List (Event Op Reply)
  | [], _ => []
  | call :: rest, state =>
      (program call).events device state ++ events rest ((program call).final device state)

/-- Each call satisfies `P` in the state in which it starts. -/
def Each (P : Call → S → Prop) : List Call → S → Prop
  | [], _ => True
  | call :: rest, state => P call state ∧ Each P rest ((program call).final device state)

instance Each.decidable (P : Call → S → Prop) [∀ call state, Decidable (P call state)] :
    (calls : List Call) → (state : S) → Decidable (Each device program P calls state)
  | [], _ => .isTrue trivial
  | call :: rest, state =>
      have := Each.decidable P rest ((program call).final device state)
      inferInstanceAs (Decidable (P call state ∧ _))

variable {device program}

/-- A call after a sequence starts where the sequence ends. -/
theorem final_concat (calls : List Call) (call : Call) (state : S) :
    final device program (calls ++ [call]) state =
      (program call).final device (final device program calls state) := by
  induction calls generalizing state with
  | nil => rfl
  | cons first rest inductionHypothesis => exact inductionHypothesis _

/-- Each call of two sequences in a row: those of the first one, and those of the
second one where the first one ends. -/
theorem each_append {P : Call → S → Prop} (first second : List Call) (state : S) :
    Each device program P (first ++ second) state ↔ Each device program P first state ∧
      Each device program P second (final device program first state) := by
  induction first generalizing state with
  | nil => exact (iff_of_eq (true_and _)).symm
  | cons call rest inductionHypothesis =>
    have later := inductionHypothesis ((program call).final device state)
    simp only [List.cons_append, Each, final, later, and_assoc]

/-! Calls may be named by the threads that make them. -/

section Renamed

variable {Name : Type w} (call : Name → Call)

/-- Calls by name leave the same state. -/
theorem final_map (names : List Name) (state : S) :
    final device program (names.map call) state =
      final device (fun name => program (call name)) names state := by
  induction names generalizing state with
  | nil => rfl
  | cons name rest inductionHypothesis => exact inductionHypothesis _

/-- What holds of each call holds of each name. -/
theorem each_map (P : Call → S → Prop) (names : List Name) (state : S) :
    Each device program P (names.map call) state ↔
      Each device (fun name => program (call name)) (fun name => P (call name)) names state := by
  induction names generalizing state with
  | nil => exact Iff.rfl
  | cons name rest inductionHypothesis => exact and_congr_right fun _ => inductionHypothesis _

end Renamed

/-- Two drivers whose routines are the same program for each call of a sequence
return the same results, perform the same operations and leave the device in
the same state. -/
theorem replace {other : Call → Program Op Reply α} {calls : List Call}
    (same : ∀ call ∈ calls, program call = other call) (state : S) :
    results device program calls state = results device other calls state ∧
      events device program calls state = events device other calls state ∧
      final device program calls state = final device other calls state := by
  induction calls generalizing state with
  | nil => exact ⟨rfl, rfl, rfl⟩
  | cons call rest inductionHypothesis =>
    have first : program call = other call := same call List.mem_cons_self
    have remaining := inductionHypothesis
      (fun later member => same later (List.mem_cons_of_mem call member))
      ((other call).final device state)
    obtain ⟨sameResults, sameEvents, sameFinal⟩ := remaining
    simp only [results, events, final, first, sameResults, sameEvents, sameFinal, and_self]

/-- What holds of every call in every state holds of each call of a sequence. -/
theorem each_of_forall {P : Call → S → Prop} (always : ∀ call state, P call state)
    (calls : List Call) (state : S) : Each device program P calls state := by
  induction calls generalizing state with
  | nil => trivial
  | cons call rest inductionHypothesis =>
    exact ⟨always call state, inductionHypothesis _⟩

/-- A law of single calls is a law of each call of a sequence. -/
theorem Each.mono {Q P : Call → S → Prop} (implies : ∀ call state, Q call state → P call state)
    {calls : List Call} {state : S} (each : Each device program Q calls state) :
    Each device program P calls state := by
  induction calls generalizing state with
  | nil => trivial
  | cons call rest inductionHypothesis =>
    exact ⟨implies call state each.1, inductionHypothesis each.2⟩

/-- Where each call satisfies `P` exactly when it satisfies `Q`, so does a sequence. -/
theorem each_iff {P Q : Call → S → Prop} (same : ∀ call state, P call state ↔ Q call state)
    (calls : List Call) (state : S) :
    Each device program P calls state ↔ Each device program Q calls state :=
  ⟨Each.mono fun call state => (same call state).mp, Each.mono fun call state => (same call state).mpr⟩

/-- The state satisfies `P` before the first call and after each call. -/
def Throughout (device : Device Op Reply S) (program : Call → Program Op Reply α)
    (P : S → Prop) (calls : List Call) (state : S) : Prop :=
  ∀ reached, reached <+: calls → P (final device program reached state)

/-- What holds throughout holds before the first call and throughout the rest. -/
theorem throughout_cons {P : S → Prop} (call : Call) (rest : List Call) (state : S) :
    Throughout device program P (call :: rest) state ↔
      P state ∧ Throughout device program P rest ((program call).final device state) := by
  constructor
  · intro throughout
    constructor
    · exact throughout [] List.nil_prefix
    · intro reached initial
      exact throughout (call :: reached) (List.cons_prefix_cons.mpr ⟨rfl, initial⟩)
  · rintro ⟨initially, throughout⟩ reached initial
    cases reached with
    | nil => exact initially
    | cons first later =>
      obtain ⟨rfl, shorter⟩ := List.cons_prefix_cons.mp initial
      exact throughout later shorter

/-- Where a call keeps `P` and has the property `Q` exactly when it meets the
condition `C`, a run keeps `P` with all calls having `Q` exactly when all calls
meet `C`. -/
theorem throughout_iff {P : S → Prop} {Q C : Call → S → Prop} {calls : List Call} {state : S}
    (step : ∀ call ∈ calls, ∀ start, P start →
      (P ((program call).final device start) ∧ Q call start ↔ C call start))
    (initially : P state) :
    Throughout device program P calls state ∧ Each device program Q calls state ↔
      Each device program C calls state := by
  induction calls generalizing state with
  | nil =>
    have only : Throughout device program P [] state := by
      intro reached initial
      rw [List.prefix_nil.mp initial]
      exact initially
    exact ⟨fun _ => trivial, fun _ => ⟨only, trivial⟩⟩
  | cons call rest inductionHypothesis =>
    have first := step call List.mem_cons_self state initially
    have later (keeps : P ((program call).final device state)) :=
      inductionHypothesis (fun next member => step next (List.mem_cons_of_mem call member)) keeps
    rw [throughout_cons]
    constructor
    · rintro ⟨⟨_, throughout⟩, has, each⟩
      have keeps := throughout [] List.nil_prefix
      exact ⟨first.mp ⟨keeps, has⟩, (later keeps).mp ⟨throughout, each⟩⟩
    · rintro ⟨meets, each⟩
      obtain ⟨keeps, has⟩ := first.mpr meets
      obtain ⟨throughout, kept⟩ := (later keeps).mpr each
      exact ⟨⟨initially, throughout⟩, has, kept⟩

/-- Where a call keeps `P` exactly when it meets the condition `C`, a run keeps
`P` exactly when all calls meet `C`. -/
theorem throughout_iff_each {P : S → Prop} {C : Call → S → Prop} {calls : List Call} {state : S}
    (step : ∀ call ∈ calls, ∀ start, P start →
      (P ((program call).final device start) ↔ C call start))
    (initially : P state) :
    Throughout device program P calls state ↔ Each device program C calls state := by
  have both := throughout_iff (Q := fun _ _ => True)
    (fun call member start holds => (and_iff_left trivial).trans (step call member start holds))
    initially
  have always : Each device program (fun _ _ => True) calls state :=
    each_of_forall (fun _ _ => trivial) calls state
  exact (and_iff_left always).symm.trans both

end Interaction.Calls
