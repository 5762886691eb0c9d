import FbossBsp.Interaction.Calls
import FbossBsp.Interaction.Interleaving

/-!
# Calls of one operation

Several threads share a device that answers at once. A call that performs at
most one operation is atomic: an interleaving of such calls runs them one after
the other, in the order of their operations, and needs no lock for it.
-/

namespace Interaction

universe u v w x y z

variable {Op : Type u} {Reply : Op → Type v} {α : Type w} {S : Type x} {Thread : Type y}

/-- The program performs at most one operation. -/
def Program.Atomic : Program Op Reply α → Prop
  | .done _ => True
  | .perform _ next => ∀ reply, (next reply).Finished

/-- Each branch is atomic. -/
theorem Program.Atomic.ite {condition : Prop} [Decidable condition] {yes no : Program Op Reply α}
    (taken : yes.Atomic) (refused : no.Atomic) : (if condition then yes else no).Atomic := by
  split
  · exact taken
  · exact refused

/-- What is made of the result needs no operation. -/
theorem Program.Atomic.map {β : Type w} {program : Program Op Reply α} (atomic : program.Atomic)
    (f : α → β) : (program >>= fun value => pure (f value)).Atomic := by
  cases program with
  | done value => trivial
  | perform op next =>
    intro reply
    obtain ⟨value, finished⟩ := atomic reply
    exact ⟨f value, congrArg (· >>= fun value => pure (f value)) finished⟩

/-- A device that makes no thread wait. -/
def Device.shared (device : Device Op Reply S) : Shared Thread Op Reply S := fun _ op s =>
  some (device op s)

section Order

variable (device : Device Op Reply S) (program : Thread → Program Op Reply α)

/-- Some calls have run one after the other, and the others are before their start. -/
structure InOrder (start : S) (order : List Thread) (pool : Pool Thread Op Reply α S) : Prop where
  shared : pool.shared = Calls.final device program order start
  returned : ∀ before thread after, order = before ++ thread :: after →
    pool.program thread =
      .done ((program thread).result device (Calls.final device program before start))
  waiting : ∀ thread ∉ order, pool.program thread = program thread

variable {device} {program} {start : S} {order : List Thread}
variable [DecidableEq Thread] {pool next : Pool Thread Op Reply α S} {thread : Thread}

omit [DecidableEq Thread] in
/-- A thread that can still move is not among those that have run. -/
theorem InOrder.fresh (inOrder : InOrder device program start order pool) {op : Op}
    {after : Reply op → Program Op Reply α} (current : pool.program thread = .perform op after) :
    thread ∉ order := by
  intro member
  obtain ⟨before, later, split⟩ := List.append_of_mem member
  rw [inOrder.returned before thread later split] at current
  exact absurd current nofun

/-- The next thread to move runs its call. -/
theorem InOrder.step (inOrder : InOrder device program start order pool)
    (atomic : (program thread).Atomic) (advanced : pool.advance device.shared thread = some next) :
    InOrder device program start (order ++ [thread]) next := by
  obtain ⟨op, continuation, reply, shared, current, answered, rfl⟩ := Pool.advance_cases advanced
  have fresh := inOrder.fresh current
  have whole : program thread = .perform op continuation :=
    (inOrder.waiting thread fresh).symm.trans current
  obtain ⟨same, moved⟩ : (device op pool.shared).1 = reply ∧ (device op pool.shared).2 = shared :=
    Prod.ext_iff.mp (Option.some.inj answered)
  rw [whole] at atomic
  obtain ⟨value, finished⟩ := atomic reply
  refine ⟨?_, ?_, ?_⟩
  · rw [Calls.final_concat, ← inOrder.shared, whole]
    simp only [Program.final, same, finished, moved]
  · intro before other after split
    obtain rfl | ⟨earlier, last, rfl⟩ := after.eq_nil_or_concat
    · obtain ⟨rfl, only⟩ := List.append_inj' split rfl
      obtain rfl := List.singleton_inj.mp only
      rw [← inOrder.shared, whole]
      simp only [Function.update_self, Program.result, same, finished]
    · rw [List.concat_eq_append, ← List.cons_append, ← List.append_assoc] at split
      have ran := (List.append_inj' split rfl).1
      have different : other ≠ thread := fun equal => fresh (by simp [ran, equal])
      simpa [different] using inOrder.returned before other earlier ran
  · intro other out
    simp only [List.mem_append, List.mem_singleton, not_or] at out
    simpa [out.2] using inOrder.waiting other out.1

/-- Every interleaving of atomic calls runs them in the order of its steps. -/
theorem InOrder.run (atomic : ∀ thread, (program thread).Atomic)
    (inOrder : InOrder device program start order pool) {schedule : List Thread}
    {last : Pool Thread Op Reply α S} (ran : pool.run device.shared schedule = some last) :
    InOrder device program start (order ++ schedule) last := by
  induction schedule generalizing order pool with
  | nil =>
    obtain rfl := Option.some.inj ran
    simpa using inOrder
  | cons thread rest inductionHypothesis =>
    obtain ⟨next, advanced, remaining⟩ := Option.bind_eq_some_iff.mp ran
    have later := inductionHypothesis (inOrder.step (atomic thread) advanced) remaining
    simpa using later

end Order

/-- Atomic calls from their start on. -/
theorem atomic_run [DecidableEq Thread] {device : Device Op Reply S}
    {program : Thread → Program Op Reply α} (atomic : ∀ thread, (program thread).Atomic) {start : S}
    {schedule : List Thread} {last : Pool Thread Op Reply α S}
    (ran : Pool.run device.shared schedule ⟨start, program⟩ = some last) :
    InOrder device program start schedule last := by
  have none : InOrder device program start [] ⟨start, program⟩ :=
    ⟨rfl, fun before thread after split => by simp at split, fun _ _ => rfl⟩
  exact none.run atomic ran

end Interaction
