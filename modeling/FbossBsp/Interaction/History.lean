import FbossBsp.Interaction.Interleaving

/-!
# What each thread has seen

The shared state of a pool can be extended by a log for each thread: the
operations that the thread has performed, with the replies it got. The log does
not influence the run. In every run, the log of a thread and what is left of its
program together obey every trace law of the program that the thread started
with.
-/

namespace Interaction

universe u v w x y

variable {Thread : Type y} {Op : Type u} {Reply : Op → Type v} {α : Type w} {S : Type x}

/-- A shared state with the log of every thread. -/
structure Logged (Thread : Type y) (Op : Type u) (Reply : Op → Type v) (S : Type x) where
  shared : S
  log : Thread → List (Event Op Reply)

variable [DecidableEq Thread]

/-- Every answered operation enters the log of its thread. -/
def Shared.logged (answer : Shared Thread Op Reply S) :
    Shared Thread Op Reply (Logged Thread Op Reply S) :=
  fun thread op s => (answer thread op s.shared).map fun reply =>
    (reply.1, ⟨reply.2, Function.update s.log thread (s.log thread ++ [⟨op, reply.1⟩])⟩)

/-- An answer of the logging state is one of the shared state, logged. -/
theorem Shared.logged_eq_some {answer : Shared Thread Op Reply S} {thread : Thread} {op : Op}
    {s after : Logged Thread Op Reply S} {reply : Reply op}
    (answered : answer.logged thread op s = some (reply, after)) :
    answer thread op s.shared = some (reply, after.shared) ∧
      after.log = Function.update s.log thread (s.log thread ++ [⟨op, reply⟩]) := by
  obtain ⟨⟨given, shared⟩, plain, same⟩ := Option.map_eq_some_iff.mp answered
  obtain ⟨rfl, rfl⟩ := Prod.mk.inj same
  exact ⟨plain, rfl⟩

namespace Pool

/-- The log of a thread, continued by what is left of its program, obeys a law. -/
def Obeys (T : Thread → List (Event Op Reply) → α → Prop)
    (pool : Pool Thread Op Reply α (Logged Thread Op Reply S)) : Prop :=
  ∀ thread, (pool.program thread).Traces fun rest value =>
    T thread (pool.shared.log thread ++ rest) value

variable {T : Thread → List (Event Op Reply) → α → Prop} {answer : Shared Thread Op Reply S}

/-- A step moves an event from the program of its thread to the log. -/
theorem Obeys.advance {pool next : Pool Thread Op Reply α (Logged Thread Op Reply S)}
    (obeys : pool.Obeys T) {thread : Thread}
    (advanced : pool.advance answer.logged thread = some next) : next.Obeys T := by
  obtain ⟨op, continuation, reply, after, current, answered, rfl⟩ := advance_cases advanced
  obtain ⟨_, logged⟩ := Shared.logged_eq_some answered
  intro other
  dsimp only
  rw [logged]
  by_cases same : other = thread
  · subst same
    rw [Function.update_self, Function.update_self]
    have traced := obeys other
    rw [current] at traced
    apply (traced reply).mono
    intro rest value law
    rwa [List.append_assoc]
  · rw [Function.update_of_ne same, Function.update_of_ne same]
    exact obeys other

omit [DecidableEq Thread] in
/-- The log of a thread that has finished obeys the law of its program. -/
theorem Obeys.finished {pool : Pool Thread Op Reply α (Logged Thread Op Reply S)}
    (obeys : pool.Obeys T) {thread : Thread} {value : α}
    (finished : pool.program thread = .done value) : T thread (pool.shared.log thread) value := by
  have traced := obeys thread
  rw [finished] at traced
  simpa using traced

end Pool

end Interaction
