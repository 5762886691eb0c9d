import FbossBsp.Interaction.Program
import Mathlib.Data.Set.Basic
import Mathlib.Logic.Function.Basic

/-!
# Interleavings of programs over a shared state

A pool holds one program for each thread and one shared state. A schedule names
the thread that performs its next operation. The shared state may refuse the
operation of a waiting thread; such a schedule has no run, so a law for all runs
is a law for all interleavings that respect blocking.

A run may be restricted to steps that meet a condition on the pool before them.
An invariant kept by every such step holds after every such run.

What a thread is still going to do may claim resources. A step changes the
claims of its thread only.
-/

namespace Interaction

universe u v w x y

/-- The answer of the shared state to one thread's operation; `none` makes the
thread wait. -/
abbrev Shared (Thread : Type y) (Op : Type u) (Reply : Op → Type v) (S : Type x) :=
  Thread → (op : Op) → S → Option (Reply op × S)

/-- The remaining program of every thread, and the state they share. -/
structure Pool (Thread : Type y) (Op : Type u) (Reply : Op → Type v) (α : Type w)
    (S : Type x) where
  shared : S
  program : Thread → Program Op Reply α

namespace Program

variable {Op : Type u} {Reply : Op → Type v} {α : Type w}

/-- The operation a program is about to perform. -/
def pending : Program Op Reply α → Option Op
  | .done _ => none
  | .perform op _ => some op

/-- A finished program has nothing left to perform. -/
def Finished (program : Program Op Reply α) : Prop := ∃ value, program = .done value

/-- A program has finished exactly when no operation is pending. -/
theorem finished_iff (program : Program Op Reply α) :
    program.Finished ↔ program.pending = none := by
  cases program <;> simp [Finished, pending]

/-! ## What is left of a program -/

section Continuation

variable {S : Type x} {device : Device Op Reply S}

/-- What a program ensures from its start is still ensured by the rest of it, in
the state that it has reached. -/
def Continues (device : Device Op Reply S) (program : Program Op Reply α) (start : S)
    (rest : Program Op Reply α) (state : S) : Prop :=
  ∀ (allowed : Op → S → Prop) (post : α → S → Prop),
    program.Wp device allowed post start → rest.Wp device allowed post state

variable {program rest : Program Op Reply α} {start state : S}

/-- A program continues itself from where it starts. -/
theorem Continues.refl (program : Program Op Reply α) (start : S) :
    program.Continues device start program start := fun _ _ holds => holds

/-- One operation goes by. -/
theorem Continues.step {op : Op} {next : Reply op → Program Op Reply α}
    (continues : program.Continues device start (.perform op next) state) :
    program.Continues device start (next (device op state).1) (device op state).2 :=
  fun allowed post holds => (continues allowed post holds).2

/-- The rest of a program ends as the program does. -/
theorem Continues.outcome (continues : program.Continues device start rest state) :
    rest.result device state = program.result device start ∧
      rest.final device state = program.final device start := by
  have whole : program.Wp device (fun _ _ => True)
      (fun value last => value = program.result device start ∧ last = program.final device start)
      start :=
    (wp_iff device _ program _ start).mpr
      ⟨along_of_forall (fun _ _ => trivial) program start, rfl, rfl⟩
  exact (continues _ _ whole).outcome

/-- An operation of an allowed program is allowed where it is pending. -/
theorem Continues.allowed {allowed : Op → S → Prop} {op : Op}
    {next : Reply op → Program Op Reply α}
    (continues : program.Continues device start (.perform op next) state)
    (along : program.Along device allowed start) : allowed op state :=
  (continues allowed _ along).1

end Continuation

end Program

namespace Pool

variable {Thread : Type y} {Op : Type u} {Reply : Op → Type v} {α : Type w} {S : Type x}
variable [DecidableEq Thread]

/-- One thread performs its next operation, unless it is finished or must wait. -/
def advance (answer : Shared Thread Op Reply S) (thread : Thread)
    (pool : Pool Thread Op Reply α S) : Option (Pool Thread Op Reply α S) :=
  match pool.program thread with
  | .done _ => none
  | .perform op next =>
      (answer thread op pool.shared).map fun reply =>
        ⟨reply.2, Function.update pool.program thread (next reply.1)⟩

/-- Follow a schedule; an impossible step leaves no run. -/
def run (answer : Shared Thread Op Reply S) :
    List Thread → Pool Thread Op Reply α S → Option (Pool Thread Op Reply α S)
  | [], pool => some pool
  | thread :: rest, pool => (pool.advance answer thread).bind (run answer rest)

/-- Every step of the schedule meets a condition on the pool before it. -/
def Meets (answer : Shared Thread Op Reply S)
    (condition : Thread → Pool Thread Op Reply α S → Prop) :
    List Thread → Pool Thread Op Reply α S → Prop
  | [], _ => True
  | thread :: rest, pool =>
      condition thread pool ∧
        ∀ next, pool.advance answer thread = some next → Meets answer condition rest next

/-- The condition is decided by following the schedule. -/
instance Meets.decidable (answer : Shared Thread Op Reply S)
    (condition : Thread → Pool Thread Op Reply α S → Prop)
    [∀ thread pool, Decidable (condition thread pool)] :
    (schedule : List Thread) → (pool : Pool Thread Op Reply α S) →
      Decidable (pool.Meets answer condition schedule)
  | [], _ => .isTrue trivial
  | thread :: rest, pool =>
      match advanced : pool.advance answer thread with
      | none => decidable_of_iff (condition thread pool) (by simp [Meets, advanced])
      | some next =>
          have := Meets.decidable answer condition rest next
          decidable_of_iff (condition thread pool ∧ next.Meets answer condition rest)
            (by simp [Meets, advanced])

variable {answer : Shared Thread Op Reply S}

/-- All that one step can do: the thread had an operation pending, the shared
state answered it, and only this thread's program moved on. -/
theorem advance_cases {thread : Thread} {pool next : Pool Thread Op Reply α S}
    (advanced : pool.advance answer thread = some next) :
    ∃ op continuation reply shared,
      pool.program thread = .perform op continuation ∧
        answer thread op pool.shared = some (reply, shared) ∧
        next = ⟨shared, Function.update pool.program thread (continuation reply)⟩ := by
  unfold advance at advanced
  cases current : pool.program thread with
  | done value => simp [current] at advanced
  | perform op continuation =>
    rw [current] at advanced
    obtain ⟨⟨reply, shared⟩, answered, same⟩ := Option.map_eq_some_iff.mp advanced
    exact ⟨op, continuation, reply, shared, rfl, answered, same.symm⟩

/-- Without a condition on the steps every run is permitted. -/
theorem meets_true (schedule : List Thread) (pool : Pool Thread Op Reply α S) :
    pool.Meets answer (fun _ _ => True) schedule := by
  induction schedule generalizing pool with
  | nil => trivial
  | cons thread rest inductionHypothesis =>
    exact ⟨trivial, fun next _ => inductionHypothesis next⟩

/-- An invariant kept by every permitted step survives every permitted run. -/
theorem run_invariant {condition : Thread → Pool Thread Op Reply α S → Prop}
    {invariant : Pool Thread Op Reply α S → Prop}
    (kept : ∀ thread pool next, invariant pool → condition thread pool →
      pool.advance answer thread = some next → invariant next)
    (schedule : List Thread) {pool last : Pool Thread Op Reply α S}
    (initially : invariant pool) (permitted : pool.Meets answer condition schedule)
    (ran : pool.run answer schedule = some last) : invariant last := by
  induction schedule generalizing pool with
  | nil =>
    have same : pool = last := Option.some.inj ran
    exact same ▸ initially
  | cons thread rest inductionHypothesis =>
    obtain ⟨next, advanced, remaining⟩ := Option.bind_eq_some_iff.mp ran
    exact inductionHypothesis (kept thread pool next initially permitted.1 advanced)
      (permitted.2 next advanced) remaining

/-- Steps that keep an invariant meet every condition that follows from it. -/
theorem Meets.of_invariant {condition weaker : Thread → Pool Thread Op Reply α S → Prop}
    {invariant : Pool Thread Op Reply α S → Prop}
    (kept : ∀ thread pool next, invariant pool → condition thread pool →
      pool.advance answer thread = some next → invariant next)
    (implies : ∀ thread pool, invariant pool → condition thread pool → weaker thread pool)
    {schedule : List Thread} {pool : Pool Thread Op Reply α S} (initially : invariant pool)
    (permitted : pool.Meets answer condition schedule) : pool.Meets answer weaker schedule := by
  induction schedule generalizing pool with
  | nil => trivial
  | cons thread rest inductionHypothesis =>
    refine ⟨implies thread pool initially permitted.1, fun next advanced => ?_⟩
    exact inductionHypothesis (kept thread pool next initially permitted.1 advanced)
      (permitted.2 next advanced)

/-! ## Claims of threads -/

section Claims

universe z

variable {Resource : Type z} (claims : Program Op Reply α → Set Resource)

/-- What some thread claims. -/
def claimed (pool : Pool Thread Op Reply α S) : Set Resource :=
  {resource | ∃ thread, resource ∈ claims (pool.program thread)}

/-- What the other threads claim. -/
def claimedBeside (pool : Pool Thread Op Reply α S) (thread : Thread) : Set Resource :=
  {resource | ∃ other, other ≠ thread ∧ resource ∈ claims (pool.program other)}

/-- No two threads claim the same. -/
def Exclusive (pool : Pool Thread Op Reply α S) : Prop :=
  ∀ thread, ∀ resource ∈ claims (pool.program thread), resource ∉ pool.claimedBeside claims thread

/-- The claims are those of one thread and those of the others. -/
theorem claimed_split (pool : Pool Thread Op Reply α S) (thread : Thread) :
    pool.claimed claims = claims (pool.program thread) ∪ pool.claimedBeside claims thread := by
  ext resource
  constructor
  · rintro ⟨other, member⟩
    by_cases same : other = thread
    · exact Or.inl (same ▸ member)
    · exact Or.inr ⟨other, same, member⟩
  · rintro (member | ⟨other, _, member⟩)
    · exact ⟨thread, member⟩
    · exact ⟨other, member⟩

/-- A step of one thread changes the claims of this thread only. -/
theorem claimed_update (pool : Pool Thread Op Reply α S) (thread : Thread) (shared : S)
    (program : Program Op Reply α) :
    claimed claims ⟨shared, Function.update pool.program thread program⟩ =
      claims program ∪ pool.claimedBeside claims thread := by
  rw [claimed_split claims _ thread]
  simp only [Function.update_self]
  congr 1
  ext resource
  constructor
  · rintro ⟨other, different, member⟩
    exact ⟨other, different, by simpa [different] using member⟩
  · rintro ⟨other, different, member⟩
    exact ⟨other, different, by simpa [different] using member⟩

variable {claims}

/-- A thread may claim what no other thread claims. -/
theorem Exclusive.update {pool : Pool Thread Op Reply α S} (exclusive : pool.Exclusive claims)
    {thread : Thread} {shared : S} {program : Program Op Reply α}
    (apart : ∀ resource ∈ claims program, resource ∉ pool.claimedBeside claims thread) :
    Exclusive claims ⟨shared, Function.update pool.program thread program⟩ := by
  rintro owner resource member ⟨other, different, claimedToo⟩
  dsimp only at member claimedToo
  by_cases mine : owner = thread
  · subst mine
    rw [Function.update_self] at member
    rw [Function.update_of_ne different] at claimedToo
    exact apart resource member ⟨other, different, claimedToo⟩
  · rw [Function.update_of_ne mine] at member
    by_cases moved : other = thread
    · subst moved
      rw [Function.update_self] at claimedToo
      exact apart resource claimedToo ⟨owner, mine, member⟩
    · rw [Function.update_of_ne moved] at claimedToo
      exact exclusive owner resource member ⟨other, different, claimedToo⟩

/-- Every program is of a known form, no two threads claim the same, and the
shared state is as it must be for what is claimed. -/
structure Owned (Form : Program Op Reply α → Prop) (claims : Program Op Reply α → Set Resource)
    (Inv : Set Resource → S → Prop) (pool : Pool Thread Op Reply α S) : Prop where
  form : ∀ thread, Form (pool.program thread)
  exclusive : pool.Exclusive claims
  shared : Inv (pool.claimed claims) pool.shared

/-- A step of one thread concerns the form and the claims of this thread only. -/
theorem Owned.advance {Form : Program Op Reply α → Prop} {Inv : Set Resource → S → Prop}
    {pool : Pool Thread Op Reply α S} (owned : pool.Owned Form claims Inv) {thread : Thread}
    {shared : S} {program : Program Op Reply α} (form : Form program)
    (apart : ∀ resource ∈ claims program, resource ∉ pool.claimedBeside claims thread)
    (inv : Inv (claims program ∪ pool.claimedBeside claims thread) shared) :
    Owned Form claims Inv ⟨shared, Function.update pool.program thread program⟩ where
  form := by
    intro other
    by_cases same : other = thread
    · subst same
      simpa using form
    · simpa [same] using owned.form other
  exclusive := owned.exclusive.update apart
  shared := by
    rw [claimed_update]
    exact inv

/-- A thread that claims nothing after its step leaves what the others claim. -/
theorem Owned.advance_unclaimed {Form : Program Op Reply α → Prop} {Inv : Set Resource → S → Prop}
    {pool : Pool Thread Op Reply α S} (owned : pool.Owned Form claims Inv) {thread : Thread}
    {shared : S} {program : Program Op Reply α} (form : Form program)
    (none : claims program = ∅) (inv : Inv (pool.claimedBeside claims thread) shared) :
    Owned Form claims Inv ⟨shared, Function.update pool.program thread program⟩ := by
  apply owned.advance form
  · rw [none]
    exact fun resource member => absurd member (Set.notMem_empty resource)
  · rw [none, Set.empty_union]
    exact inv

end Claims

end Pool

end Interaction
