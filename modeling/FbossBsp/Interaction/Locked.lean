import FbossBsp.Interaction.Calls
import FbossBsp.Interaction.Interleaving

/-!
# Programs under a lock

Several threads share a device and one lock. A guarded call takes the lock,
runs its program and releases the lock; any other call runs without it. The
device may answer the holder of the lock and the other threads differently, so
that their operations may fail independently.

Where the calls without the lock leave alone what the guarded calls can see,
every interleaving is serial: the guarded calls return what they return when
they run one after the other, in the order in which they have taken the lock.
-/

namespace Interaction

universe u v w x y z

/-- An operation on the lock, or one on the device. -/
inductive LockOp (Op : Type u) where
  | lock
  | unlock
  | access (op : Op)

@[reducible] def LockOp.Reply {Op : Type u} (reply : Op → Type v) : LockOp Op → Type v
  | .lock => PUnit
  | .unlock => PUnit
  | .access op => reply op

variable {Op : Type u} {Reply : Op → Type v} {α : Type w}

/-- A program among operations on the lock. -/
abbrev LockProgram (Op : Type u) (Reply : Op → Type v) (α : Type w) :=
  Program (LockOp Op) (LockOp.Reply Reply) α

/-- Take the lock. -/
def takeLock : LockProgram Op Reply PUnit := .perform .lock fun _ => pure ⟨⟩

/-- Release the lock. -/
def releaseLock : LockProgram Op Reply PUnit := .perform .unlock fun _ => pure ⟨⟩

namespace Program

/-- The program, without the lock. -/
def unlocked (program : Program Op Reply α) : LockProgram Op Reply α :=
  program.embed .access fun _ reply => reply

/-- The program, and then the release of the lock. -/
def release (program : Program Op Reply α) : LockProgram Op Reply α :=
  program.unlocked >>= fun value => .perform .unlock fun _ => pure value

/-- The program under the lock. -/
def locked (program : Program Op Reply α) : LockProgram Op Reply α :=
  .perform .lock fun _ => program.release

/-- A finished program performs no operation without the lock either. -/
@[simp] theorem unlocked_done (value : α) :
    (.done value : Program Op Reply α).unlocked = .done value := rfl

/-- Without the lock an operation is an access. -/
@[simp] theorem unlocked_perform (op : Op) (next : Reply op → Program Op Reply α) :
    (Program.perform op next).unlocked = .perform (.access op) fun reply => (next reply).unlocked :=
  rfl

/-- A finished program releases the lock. -/
@[simp] theorem release_done (value : α) :
    (.done value : Program Op Reply α).release = .perform .unlock fun _ => .done value := rfl

/-- An operation comes before the lock is released. -/
@[simp] theorem release_perform (op : Op) (next : Reply op → Program Op Reply α) :
    (Program.perform op next).release = .perform (.access op) fun reply => (next reply).release :=
  rfl

end Program

/-- A call: its program, and whether it takes the lock. -/
structure Access (Op : Type u) (Reply : Op → Type v) (α : Type w) where
  guarded : Bool
  body : Program Op Reply α

def Access.program (access : Access Op Reply α) : LockProgram Op Reply α :=
  if access.guarded then access.body.locked else access.body.unlocked

/-- A lock and a device. The threads that have taken the lock are recorded in
order. -/
structure Locked (Thread : Type y) (D : Type x) where
  holder : Option Thread
  taken : List Thread
  device : D

section Lock

variable {Thread : Type y} [DecidableEq Thread] {D : Type x} {V : Type z}

/-- A held lock makes its next taker wait. -/
def lockedDevice (inside outside : Device Op Reply D) :
    Shared Thread (LockOp Op) (LockOp.Reply Reply) (Locked Thread D)
  | thread, .lock, s =>
    if s.holder.isSome then none
    else some (⟨⟩, { s with holder := some thread, taken := s.taken ++ [thread] })
  | _, .unlock, s => some (⟨⟩, { s with holder := none })
  | thread, .access op, s =>
    if s.holder = some thread then
      some ((inside op s.device).1, { s with device := (inside op s.device).2 })
    else some ((outside op s.device).1, { s with device := (outside op s.device).2 })

/-- The calls before their start, with the lock free. -/
def lockedCalls (calls : Thread → Access Op Reply α) (device : D) :
    Pool Thread (LockOp Op) (LockOp.Reply Reply) α (Locked Thread D) where
  shared := ⟨none, [], device⟩
  program thread := (calls thread).program

/-- The holder of the lock sees the device through `view` as `inner`, and the
others leave that view as it is. -/
structure Views (view : D → V) (inner : Device Op Reply V) (inside outside : Device Op Reply D)
    (Q U : Op → Prop) : Prop where
  holder : ∀ op device, Q op → (inside op device).1 = (inner op (view device)).1 ∧
    view (inside op device).2 = (inner op (view device)).2
  others : ∀ op device, U op → view (outside op device).2 = view device

/-- A device seen as it is, with no call beside the lock. -/
theorem Views.whole (device : Device Op Reply D) :
    Views id device device device (fun _ => True) fun _ => False where
  holder _ _ _ := ⟨rfl, rfl⟩
  others _ _ beside := beside.elim

/-- Guarded calls perform operations in `Q`, the others operations in `U`. -/
def Access.Inside (Q U : Op → Prop) (access : Access Op Reply α) : Prop :=
  access.body.Conforms (if access.guarded then Q else U) fun _ => True

/-! ## The serial order -/

/-- The last element of a list without duplicates occurs at its end only. -/
theorem last_occurrence {Thread : Type y} {before earlier after : List Thread} {thread : Thread}
    (nodup : (before ++ [thread]).Nodup) (split : before ++ [thread] = earlier ++ thread :: after) :
    earlier = before ∧ after = [] := by
  obtain rfl | ⟨front, last, rfl⟩ := after.eq_nil_or_concat
  · exact ⟨(List.append_inj' split rfl).1.symm, rfl⟩
  · rw [List.concat_eq_append, ← List.cons_append, ← List.append_assoc] at split
    obtain ⟨same, _⟩ := List.append_inj' split rfl
    rw [List.nodup_append] at nodup
    exact absurd rfl (nodup.2.2 thread (by simp [same]) thread (List.mem_singleton_self thread))

section Serial

variable (calls : Thread → Access Op Reply α) (inner : Device Op Reply V) (view : D → V)
variable (Q U : Op → Prop) (start : V)

/-- What the guarded calls see after they have run one after the other. -/
def serialFinal (order : List Thread) : V :=
  Calls.final inner (fun thread => (calls thread).body) order start

/-- The calls that have taken the lock are those of a serial run: all have
finished but the last, which may still hold the lock. -/
structure Serial (pool : Pool Thread (LockOp Op) (LockOp.Reply Reply) α (Locked Thread D)) :
    Prop where
  nodup : pool.shared.taken.Nodup
  guarded : ∀ thread ∈ pool.shared.taken, (calls thread).guarded = true
  beside : ∀ thread, (calls thread).guarded = false → ∃ rest : Program Op Reply α,
    pool.program thread = rest.unlocked ∧ rest.Conforms U fun _ => True
  waiting : ∀ thread, (calls thread).guarded = true → thread ∉ pool.shared.taken →
    pool.program thread = (calls thread).body.locked
  past : ∀ before thread after, pool.shared.taken = before ++ thread :: after →
    pool.shared.holder ≠ some thread → pool.program thread =
      .done ((calls thread).body.result inner (serialFinal calls inner start before))
  held : ∀ thread, pool.shared.holder = some thread → ∃ before, ∃ rest : Program Op Reply α,
    pool.shared.taken = before ++ [thread] ∧ pool.program thread = rest.release ∧
      rest.Conforms Q (fun _ => True) ∧
      (calls thread).body.Continues inner (serialFinal calls inner start before) rest
        (view pool.shared.device)
  idle : pool.shared.holder = none →
    view pool.shared.device = serialFinal calls inner start pool.shared.taken

end Serial

variable {calls : Thread → Access Op Reply α} {inner : Device Op Reply V} {view : D → V}
variable {Q U : Op → Prop} {inside outside : Device Op Reply D}

omit [DecidableEq Thread] in
/-- Before the calls start, none has run. -/
theorem lockedCalls_serial (within : ∀ thread, (calls thread).Inside Q U) (device : D) :
    Serial calls inner view Q U (view device) (lockedCalls calls device) where
  nodup := List.nodup_nil
  guarded := fun _ member => absurd member List.not_mem_nil
  beside := by
    intro thread free
    have conforms := within thread
    rw [Access.Inside, free] at conforms
    exact ⟨(calls thread).body, by simp [lockedCalls, Access.program, free], by simpa using conforms⟩
  waiting := by
    intro thread guarded _
    simp [lockedCalls, Access.program, guarded]
  past := fun before thread after taken => by simp [lockedCalls] at taken
  held := fun _ holds => by simp [lockedCalls] at holds
  idle := fun _ => rfl

abbrev LockPool (Thread : Type y) (Op : Type u) (Reply : Op → Type v) (α : Type w) (D : Type x) :=
  Pool Thread (LockOp Op) (LockOp.Reply Reply) α (Locked Thread D)

namespace Serial

variable {start : V} {pool : LockPool Thread Op Reply α D} {thread : Thread}

omit [DecidableEq Thread] in
/-- The holder has taken the lock, so its call is guarded. -/
theorem holder_guarded (serial : Serial calls inner view Q U start pool)
    (holds : pool.shared.holder = some thread) : (calls thread).guarded = true := by
  obtain ⟨before, rest, taken, _⟩ := serial.held thread holds
  exact serial.guarded thread (by simp [taken])

/-- A call beside the lock leaves what the guarded calls see. -/
theorem step_beside (serial : Serial calls inner view Q U start pool)
    (free : (calls thread).guarded = false) {device : D} {rest : Program Op Reply α}
    (kept : view device = view pool.shared.device) (conforms : rest.Conforms U fun _ => True) :
    Serial calls inner view Q U start
      ⟨{ pool.shared with device }, Function.update pool.program thread rest.unlocked⟩ where
  nodup := serial.nodup
  guarded := serial.guarded
  beside := by
    intro other unguarded
    by_cases same : other = thread
    · subst same
      exact ⟨rest, by simp, conforms⟩
    · obtain ⟨later, program, within⟩ := serial.beside other unguarded
      exact ⟨later, by simpa [same] using program, within⟩
  waiting := by
    intro other guarded untaken
    have different : other ≠ thread := fun same => by simp [same, free] at guarded
    simpa [different] using serial.waiting other guarded untaken
  past := by
    intro before other after taken notHeld
    dsimp only at taken
    have guarded := serial.guarded other (by simp [taken])
    have different : other ≠ thread := fun same => by simp [same, free] at guarded
    simpa [different] using serial.past before other after taken notHeld
  held := by
    intro other holds
    have different : other ≠ thread := fun same => by
      have guarded := serial.holder_guarded holds
      simp [same, free] at guarded
    obtain ⟨before, later, taken, program, within, continues⟩ := serial.held other holds
    exact ⟨before, later, taken, by simpa [different] using program, within, by rwa [kept]⟩
  idle := fun noHolder => kept.trans (serial.idle noHolder)

/-- A guarded call takes the free lock. -/
theorem step_take (serial : Serial calls inner view Q U start pool)
    (within : (calls thread).Inside Q U) (guarded : (calls thread).guarded = true)
    (untaken : thread ∉ pool.shared.taken) (noHolder : pool.shared.holder = none) :
    Serial calls inner view Q U start
      ⟨{ pool.shared with holder := some thread, taken := pool.shared.taken ++ [thread] },
        Function.update pool.program thread (calls thread).body.release⟩ where
  nodup := by
    rw [List.nodup_append]
    refine ⟨serial.nodup, by simp, ?_⟩
    intro other member taker new
    rw [List.mem_singleton.mp new]
    exact fun same => untaken (same ▸ member)
  guarded := by
    intro other member
    obtain earlier | same := List.mem_append.mp member
    · exact serial.guarded other earlier
    · rw [List.mem_singleton.mp same]
      exact guarded
  beside := by
    intro other unguarded
    have different : other ≠ thread := fun same => by simp [same, guarded] at unguarded
    simpa [different] using serial.beside other unguarded
  waiting := by
    intro other guardedToo out
    simp only [List.mem_append, List.mem_singleton, not_or] at out
    simpa [out.2] using serial.waiting other guardedToo out.1
  past := by
    intro before other after taken notHeld
    have different : other ≠ thread := fun same => notHeld (by rw [same])
    obtain rfl | ⟨earlier, last, rfl⟩ := after.eq_nil_or_concat
    · obtain ⟨_, same⟩ := List.append_inj' taken rfl
      exact absurd (List.singleton_inj.mp same).symm different
    · have split : pool.shared.taken = before ++ other :: earlier := by
        rw [List.concat_eq_append, ← List.cons_append, ← List.append_assoc] at taken
        exact (List.append_inj' taken rfl).1
      have free : pool.shared.holder ≠ some other := by simp [noHolder]
      simpa [different] using serial.past before other earlier split free
  held := by
    intro other holds
    obtain rfl := Option.some.inj holds
    have conforms := within
    rw [Access.Inside, guarded, if_pos rfl] at conforms
    refine ⟨pool.shared.taken, (calls thread).body, rfl, by simp, conforms, ?_⟩
    rw [← serial.idle noHolder]
    exact .refl _ _
  idle := fun none => by cases none

/-- The holder performs an operation. -/
theorem step_inside (serial : Serial calls inner view Q U start pool) {before : List Thread}
    (holds : pool.shared.holder = some thread) (taken : pool.shared.taken = before ++ [thread])
    {device : D} {rest : Program Op Reply α} (conforms : rest.Conforms Q fun _ => True)
    (continues : (calls thread).body.Continues inner (serialFinal calls inner start before) rest
      (view device)) :
    Serial calls inner view Q U start
      ⟨{ pool.shared with device }, Function.update pool.program thread rest.release⟩ where
  nodup := serial.nodup
  guarded := serial.guarded
  beside := by
    intro other unguarded
    have different : other ≠ thread := fun same => by
      simp [same, serial.holder_guarded holds] at unguarded
    simpa [different] using serial.beside other unguarded
  waiting := by
    intro other guarded untaken
    have different : other ≠ thread := fun same =>
      untaken (by simp [same, taken])
    simpa [different] using serial.waiting other guarded untaken
  past := by
    intro earlier other after split notHeld
    have different : other ≠ thread := fun same => notHeld (same ▸ holds)
    simpa [different] using serial.past earlier other after split notHeld
  held := by
    intro other holder
    obtain rfl : thread = other := Option.some.inj (holds.symm.trans holder)
    exact ⟨before, rest, taken, by simp, conforms, continues⟩
  idle := fun none => by simp [holds] at none

/-- The holder releases the lock.

Proof: the holder has run its whole body, so what the lock guards is where the calls
that have taken it lead one after the other. -/
theorem step_release (serial : Serial calls inner view Q U start pool) {value : α}
    (holds : pool.shared.holder = some thread)
    (finished : pool.program thread = (Program.done value : Program Op Reply α).release) :
    Serial calls inner view Q U start
      ⟨{ pool.shared with holder := none }, Function.update pool.program thread (.done value)⟩ := by
  obtain ⟨before, rest, taken, program, _, continues⟩ := serial.held thread holds
  have ended : ∃ last, rest = .done last := by
    cases rest with
    | done last => exact ⟨last, rfl⟩
    | perform op next => simp [finished] at program
  obtain ⟨last, rfl⟩ := ended
  have same : value = last := by simpa [finished, funext_iff] using program
  subst same
  obtain ⟨returned, left⟩ := continues.outcome
  rw [Program.result_done] at returned
  rw [Program.final_done] at left
  constructor
  case nodup => exact serial.nodup
  case guarded => exact serial.guarded
  case beside =>
    intro other unguarded
    have different : other ≠ thread := fun same => by
      simp [same, serial.holder_guarded holds] at unguarded
    simpa [different] using serial.beside other unguarded
  case waiting =>
    intro other guarded untaken
    have different : other ≠ thread := fun same => untaken (by simp [same, taken])
    simpa [different] using serial.waiting other guarded untaken
  case past =>
    intro earlier other after split _
    by_cases same : other = thread
    · subst same
      -- The thread occurs once, so it is where it has taken the lock.
      have unique : earlier = before ∧ after = [] := by
        have nodup := serial.nodup
        dsimp only at split
        rw [taken] at split nodup
        exact last_occurrence nodup split
      obtain ⟨rfl, rfl⟩ := unique
      simp [returned]
    · have notHeld : pool.shared.holder ≠ some other := by simpa [holds] using Ne.symm same
      simpa [same] using serial.past earlier other after split notHeld
  case held => exact fun _ holder => by cases holder
  case idle =>
    intro _
    simp only [serialFinal, taken, Calls.final_concat]
    exact left

/-- Every step keeps the serial order.

Proof: by the operation. A thread beside the lock leaves the guarded view alone, the
lock is taken only while it is free, and its holder runs its own body. -/
theorem advance (serial : Serial calls inner view Q U start pool)
    (within : ∀ thread, (calls thread).Inside Q U) (views : Views view inner inside outside Q U)
    {next : LockPool Thread Op Reply α D}
    (advanced : pool.advance (lockedDevice inside outside) thread = some next) :
    Serial calls inner view Q U start next := by
  obtain ⟨op, continuation, reply, after, current, answered, rfl⟩ := Pool.advance_cases advanced
  cases guarded : (calls thread).guarded with
  | false =>
    -- The thread is beside the lock.
    obtain ⟨rest, program, conforms⟩ := serial.beside thread guarded
    have notHolder : pool.shared.holder ≠ some thread := fun holds => by
      simp [serial.holder_guarded holds] at guarded
    rw [current] at program
    cases rest with
    | done value => cases program
    | perform access later =>
      obtain ⟨rfl, same⟩ := Program.perform.inj program
      obtain rfl := eq_of_heq same
      simp only [lockedDevice, if_neg notHolder, Option.some.injEq, Prod.mk.injEq] at answered
      obtain ⟨rfl, rfl⟩ := answered
      exact serial.step_beside guarded (views.others access _ conforms.1) (conforms.2 _)
  | true =>
    by_cases holds : pool.shared.holder = some thread
    · obtain ⟨before, rest, taken, program, conforms, continues⟩ := serial.held thread holds
      have released := program
      rw [current] at program
      cases rest with
      | done value =>
        obtain ⟨rfl, same⟩ := Program.perform.inj program
        obtain rfl := eq_of_heq same
        simp only [lockedDevice, Option.some.injEq, Prod.mk.injEq] at answered
        obtain ⟨-, rfl⟩ := answered
        exact serial.step_release holds released
      | perform access later =>
        obtain ⟨rfl, same⟩ := Program.perform.inj program
        obtain rfl := eq_of_heq same
        simp only [lockedDevice, if_pos holds, Option.some.injEq, Prod.mk.injEq] at answered
        obtain ⟨rfl, rfl⟩ := answered
        obtain ⟨answers, moves⟩ := views.holder access pool.shared.device conforms.1
        refine serial.step_inside holds taken (conforms.2 _) ?_
        rw [answers, moves]
        exact continues.step
    · by_cases taken : thread ∈ pool.shared.taken
      · obtain ⟨before, later, split⟩ := List.append_of_mem taken
        have finished := serial.past before thread later split holds
        simp [current] at finished
      · have waiting := serial.waiting thread guarded taken
        rw [current] at waiting
        obtain ⟨rfl, same⟩ := Program.perform.inj waiting
        obtain rfl := eq_of_heq same
        cases holder : pool.shared.holder with
        | some other => simp [lockedDevice, holder] at answered
        | none =>
          simp only [lockedDevice, holder, Option.isSome_none, Bool.false_eq_true, if_false,
            Option.some.injEq, Prod.mk.injEq] at answered
          obtain ⟨-, rfl⟩ := answered
          exact serial.step_take (within thread) guarded taken holder

/-- Every run keeps the serial order. -/
theorem run (within : ∀ thread, (calls thread).Inside Q U)
    (views : Views view inner inside outside Q U) (device : D) {schedule : List Thread}
    {last : LockPool Thread Op Reply α D}
    (ran : (lockedCalls calls device).run (lockedDevice inside outside) schedule = some last) :
    Serial calls inner view Q U (view device) last :=
  Pool.run_invariant (fun _ _ _ serial _ advanced => serial.advance within views advanced) schedule
    (lockedCalls_serial within device) (Pool.meets_true schedule _) ran

omit [DecidableEq Thread] in
/-- A guarded call that has returned has its place in the serial order, and
returns what it returns there. -/
theorem returned (serial : Serial calls inner view Q U start pool)
    (guarded : (calls thread).guarded = true) {value : α}
    (finished : pool.program thread = .done value) :
    ∃ before after, pool.shared.taken = before ++ thread :: after ∧
      value = (calls thread).body.result inner (serialFinal calls inner start before) := by
  by_cases taken : thread ∈ pool.shared.taken
  · obtain ⟨before, after, split⟩ := List.append_of_mem taken
    have notHolder : pool.shared.holder ≠ some thread := by
      intro holds
      obtain ⟨_, rest, _, program, _⟩ := serial.held thread holds
      cases rest <;> simp [finished] at program
    have place := serial.past before thread after split notHolder
    rw [finished] at place
    exact ⟨before, after, split, Program.done.inj place⟩
  · have waiting := serial.waiting thread guarded taken
    simp [finished, Program.locked] at waiting

omit [DecidableEq Thread] in
/-- Where the calls of the serial order are allowed throughout, so is the next
operation of the holder. -/
theorem allowed (serial : Serial calls inner view Q U start pool) {allowed : Op → V → Prop}
    {op : Op} (holds : pool.shared.holder = some thread)
    (pending : (pool.program thread).pending = some (.access op))
    (each : Calls.Each inner (fun thread => (calls thread).body)
      (fun thread now => (calls thread).body.Along inner allowed now) pool.shared.taken start) :
    allowed op (view pool.shared.device) := by
  obtain ⟨before, rest, taken, program, _, continues⟩ := serial.held thread holds
  rw [taken, Calls.each_append] at each
  rw [program] at pending
  cases rest with
  | done value => simp [Program.pending] at pending
  | perform access later =>
    obtain rfl : access = op := by simpa [Program.pending] using pending
    exact continues.allowed each.2.1

omit [DecidableEq Thread] in
/-- What every guarded call keeps at each of its operations holds throughout. -/
theorem keeps (serial : Serial calls inner view Q U start pool) (invariant : V → Prop)
    (kept : ∀ thread state, (calls thread).guarded = true → invariant state →
      (calls thread).body.Wp inner (fun _ now => invariant now) (fun _ now => invariant now) state)
    (initially : invariant start) : invariant (view pool.shared.device) := by
  have after (order : List Thread) (guarded : ∀ thread ∈ order, (calls thread).guarded = true)
      (state : V) (holds : invariant state) :
      invariant (Calls.final inner (fun thread => (calls thread).body) order state) := by
    induction order generalizing state with
    | nil => exact holds
    | cons first rest inductionHypothesis =>
      obtain ⟨firstGuarded, later⟩ := List.forall_mem_cons.mp guarded
      exact inductionHypothesis later _ (kept first state firstGuarded holds).outcome
  cases holder : pool.shared.holder with
  | none =>
    rw [serial.idle holder]
    exact after _ serial.guarded start initially
  | some thread =>
    obtain ⟨before, rest, taken, _, _, continues⟩ := serial.held thread holder
    have earlier : ∀ other ∈ before, (calls other).guarded = true := fun other member =>
      serial.guarded other (by simp [taken, member])
    have left := continues _ _ (kept thread _ (serial.holder_guarded holder)
      (after before earlier start initially))
    cases rest with
    | done value => exact left
    | perform op next => exact left.1

omit [DecidableEq Thread] in
/-- Only the holder of the lock has an operation of a guarded call pending. -/
theorem pending_holder (serial : Serial calls inner view Q U start pool) {op : Op}
    (guarded : (calls thread).guarded = true)
    (pending : (pool.program thread).pending = some (.access op)) :
    pool.shared.holder = some thread := by
  by_contra notHolder
  by_cases taken : thread ∈ pool.shared.taken
  · obtain ⟨before, after, split⟩ := List.append_of_mem taken
    have finished := serial.past before thread after split notHolder
    simp [finished, Program.pending] at pending
  · have waiting := serial.waiting thread guarded taken
    simp [waiting, Program.locked, Program.pending] at pending

/-- While a call is unfinished, some call can go on: the holder of the lock, or
any unfinished one when the lock is free. -/
theorem progress (serial : Serial calls inner view Q U start pool)
    (unfinished : ¬(pool.program thread).Finished) :
    ∃ other next, pool.advance (lockedDevice inside outside) other = some next := by
  have steps (other : Thread) (op : LockOp Op)
      (rest : LockOp.Reply Reply op → LockProgram Op Reply α)
      (current : pool.program other = .perform op rest)
      (answered : (lockedDevice inside outside other op pool.shared).isSome) :
      ∃ next, pool.advance (lockedDevice inside outside) other = some next := by
    obtain ⟨answer, same⟩ := Option.isSome_iff_exists.mp answered
    exact ⟨_, by rw [Pool.advance, current]; simp only [same, Option.map_some]; rfl⟩
  cases holder : pool.shared.holder with
  | some owner =>
    obtain ⟨before, rest, _, program, _⟩ := serial.held owner holder
    refine ⟨owner, ?_⟩
    cases rest with
    | done value => exact steps owner _ _ program rfl
    | perform op next => exact steps owner _ _ program (by simp [lockedDevice, holder])
  | none =>
    refine ⟨thread, ?_⟩
    cases current : pool.program thread with
    | done value => exact absurd ⟨value, current⟩ unfinished
    | perform op rest =>
      apply steps thread op rest current
      cases op with
      | lock => simp [lockedDevice, holder]
      | unlock => rfl
      | access op => simp [lockedDevice, holder]

end Serial

end Lock

end Interaction
