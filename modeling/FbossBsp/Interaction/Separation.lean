import FbossBsp.Interaction.Interleaving

/-!
# Shared devices made of parts

Several threads share a device that consists of parts. Each thread works on one
part, its home: its program is written for the part and placed on the device.
Where operations on a part act on the device as they act on the part alone, and
leave the other parts as they are, every interleaving is one of each part: the
steps of the threads at home there, taken alone, do the same to the part.
-/

namespace Interaction

universe u v w x y z

variable {Thread : Type y} {Part : Type z} {Op PartOp : Type u} {Reply : Op → Type v}
variable {PartReply : PartOp → Type v} {α : Type w} {S : Type x} {V : Part → Type x}

/-- How the operations on a part are performed on the device. -/
structure Placement (Part : Type z) {Op PartOp : Type u} (Reply : Op → Type v)
    (PartReply : PartOp → Type v) where
  op : Part → PartOp → Op
  reply : ∀ part op', Reply (op part op') → PartReply op'

variable (placement : Placement Part Reply PartReply)

/-- A program for a part, placed on the device. -/
def Placement.program (part : Part) (program : Program PartOp PartReply α) :
    Program Op Reply α :=
  program.embed (placement.op part) (placement.reply part)

/-- A placed program has ended where the program has. -/
theorem Placement.program_done (part : Part) (program : Program PartOp PartReply α) (value : α) :
    placement.program part program = .done value ↔ program = .done value := by
  cases program with
  | done last => exact ⟨fun same => congrArg Program.done (Program.done.inj same),
      fun same => congrArg Program.done (Program.done.inj same)⟩
  | perform op next => exact ⟨nofun, nofun⟩

/-- The device shows each part to the threads at home there as the part alone
would answer, and their operations in `Q` leave the other parts as they are. -/
structure Separated (home : Thread → Part) (Q : Part → PartOp → Prop)
    (view : ∀ part, S → V part) (answer : Shared Thread Op Reply S)
    (alone : ∀ part, Shared Thread PartOp PartReply (V part)) : Prop where
  own : ∀ thread op s, Q (home thread) op →
    (answer thread (placement.op (home thread) op) s).map (fun next =>
      (placement.reply (home thread) op next.1, view (home thread) next.2)) =
      alone (home thread) thread op (view (home thread) s)
  beside : ∀ thread op s next other, Q (home thread) op →
    answer thread (placement.op (home thread) op) s = some next → other ≠ home thread →
      view other next.2 = view other s

/-- A pool on the device as one part sees it: the state of the part, and what its
threads have left to do there. -/
structure Projects (home : Thread → Part) (Q : Part → PartOp → Prop)
    (view : ∀ part, S → V part) (pool : Pool Thread Op Reply α S) (part : Part)
    (own : Pool Thread PartOp PartReply α (V part)) : Prop where
  shared : own.shared = view part pool.shared
  program : ∀ thread, home thread = part →
    pool.program thread = placement.program part (own.program thread)
  conforms : ∀ thread, home thread = part → (own.program thread).Conforms (Q part) fun _ => True

variable {placement} {home : Thread → Part} {Q : Part → PartOp → Prop}
variable {view : ∀ part, S → V part} {answer : Shared Thread Op Reply S}
variable {alone : ∀ part, Shared Thread PartOp PartReply (V part)}

/-- Programs before their start, placed on the device. -/
theorem Projects.start {programs : Thread → Program PartOp PartReply α}
    (inside : ∀ thread, (programs thread).Conforms (Q (home thread)) fun _ => True) (s : S)
    (part : Part) :
    Projects placement home Q view
      ⟨s, fun thread => placement.program (home thread) (programs thread)⟩ part
      ⟨view part s, programs⟩ where
  shared := rfl
  program := fun _ here => here ▸ rfl
  conforms := fun thread here => here ▸ inside thread

variable [DecidableEq Thread]

/-- A thread that is at home elsewhere moves on: the part sees nothing of it. -/
theorem Projects.elsewhere {pool : Pool Thread Op Reply α S} {part : Part}
    {own : Pool Thread PartOp PartReply α (V part)}
    (projects : Projects placement home Q view pool part own) {thread : Thread}
    (away : home thread ≠ part) {shared : S} (same : view part shared = view part pool.shared)
    (program : Program Op Reply α) :
    Projects placement home Q view ⟨shared, Function.update pool.program thread program⟩ part
      own where
  shared := projects.shared.trans same.symm
  program := by
    intro other here
    have different : other ≠ thread := fun equal => away (equal ▸ here)
    simpa [different] using projects.program other here
  conforms := projects.conforms

/-- A thread at home in the part moves on there. -/
theorem Projects.here {pool : Pool Thread Op Reply α S} {part : Part}
    {own : Pool Thread PartOp PartReply α (V part)}
    (projects : Projects placement home Q view pool part own) {thread : Thread} {shared : S}
    {program : Program PartOp PartReply α} (conforms : program.Conforms (Q part) fun _ => True) :
    Projects placement home Q view
      ⟨shared, Function.update pool.program thread (placement.program part program)⟩ part
      ⟨view part shared, Function.update own.program thread program⟩ where
  shared := rfl
  program := by
    intro other here
    by_cases same : other = thread
    · subst same
      simp
    · simpa [same] using projects.program other here
  conforms := by
    intro other here
    by_cases same : other = thread
    · subst same
      simpa using conforms
    · simpa [same] using projects.conforms other here

/-- A thread can move on the device exactly when it can in the part where it is at
home: no other part makes it wait. -/
theorem Separated.advances (separated : Separated placement home Q view answer alone)
    {pool : Pool Thread Op Reply α S} {thread : Thread}
    {own : Pool Thread PartOp PartReply α (V (home thread))}
    (projects : Projects placement home Q view pool (home thread) own) :
    (pool.advance answer thread).isSome = (own.advance (alone (home thread)) thread).isSome := by
  have placed := projects.program thread rfl
  have conforms := projects.conforms thread rfl
  cases rest : own.program thread with
  | done value =>
    rw [rest] at placed
    change pool.program thread = .done value at placed
    simp only [Pool.advance, placed, rest, Option.isSome_none]
  | perform op after =>
    rw [rest] at placed conforms
    change pool.program thread = .perform _ _ at placed
    have answered := separated.own thread op pool.shared conforms.1
    rw [← projects.shared] at answered
    simp only [Pool.advance, placed, rest, Option.isSome_map, ← answered]

variable [DecidableEq Part]

/-- One step on the device is one step of the part where the thread is at home. -/
theorem Separated.advance (separated : Separated placement home Q view answer alone)
    {pool next : Pool Thread Op Reply α S}
    {own : ∀ part, Pool Thread PartOp PartReply α (V part)}
    (projects : ∀ part, Projects placement home Q view pool part (own part)) {thread : Thread}
    (advanced : pool.advance answer thread = some next) :
    ∃ moved, (own (home thread)).advance (alone (home thread)) thread = some moved ∧
      ∀ part, Projects placement home Q view next part
        (Function.update own (home thread) moved part) := by
  obtain ⟨op, continuation, reply, shared, program, answered, rfl⟩ := Pool.advance_cases advanced
  have mine := projects (home thread)
  have placed := mine.program thread rfl
  rw [program] at placed
  cases rest : (own (home thread)).program thread with
  | done value =>
    rw [rest] at placed
    exact absurd placed nofun
  | perform partOp after =>
    rw [rest] at placed
    obtain ⟨rfl, same⟩ := Program.perform.inj placed
    obtain rfl := eq_of_heq same
    have conforms := mine.conforms thread rfl
    rw [rest] at conforms
    obtain ⟨allowed, remaining⟩ := conforms
    have answeredAlone := separated.own thread partOp pool.shared allowed
    rw [answered, ← mine.shared] at answeredAlone
    refine ⟨⟨view (home thread) shared, Function.update (own (home thread)).program thread
      (after (placement.reply (home thread) partOp reply))⟩, ?_, ?_⟩
    · simp only [Pool.advance, rest, ← answeredAlone, Option.map_some]
    · intro part
      by_cases there : part = home thread
      · subst there
        rw [Function.update_self]
        exact mine.here (remaining _)
      · rw [Function.update_of_ne there]
        have kept := separated.beside thread partOp pool.shared ⟨reply, shared⟩ part allowed
          answered there
        exact (projects part).elsewhere (Ne.symm there) kept _

/-- Every run on the device is a run of each part by the threads at home there. -/
theorem Separated.run (separated : Separated placement home Q view answer alone)
    {schedule : List Thread} {pool last : Pool Thread Op Reply α S}
    {own : ∀ part, Pool Thread PartOp PartReply α (V part)}
    (projects : ∀ part, Projects placement home Q view pool part (own part))
    (ran : pool.run answer schedule = some last) (part : Part) :
    ∃ ended, (own part).run (alone part) (schedule.filter fun thread => home thread = part) =
        some ended ∧
      Projects placement home Q view last part ended := by
  induction schedule generalizing pool own with
  | nil =>
    obtain rfl := Option.some.inj ran
    exact ⟨own part, rfl, projects part⟩
  | cons thread rest inductionHypothesis =>
    obtain ⟨next, advanced, remaining⟩ := Option.bind_eq_some_iff.mp ran
    obtain ⟨moved, step, projected⟩ := separated.advance projects advanced
    obtain ⟨ended, later, same⟩ := inductionHypothesis projected remaining
    refine ⟨ended, ?_, same⟩
    by_cases here : home thread = part
    · subst here
      rw [Function.update_self] at later
      rw [List.filter_cons_of_pos (by simp), Pool.run, step, Option.bind_some]
      exact later
    · rw [Function.update_of_ne (Ne.symm here)] at later
      rw [List.filter_cons_of_neg (by simpa using here)]
      exact later

end Interaction
