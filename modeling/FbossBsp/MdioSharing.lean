import FbossBsp.Interaction.Locked
import FbossBsp.MdioHandshake

/-!
# Concurrent calls on the MDIO bus

`mdiobus_c45_read` and `mdiobus_c45_write` run the operation of the driver under
the lock of the bus. Any number of threads make such calls. As long as every
command completes within the poll budget of the wait that follows it, in the
order in which the calls have taken the lock, the handshake with the controller
is kept at every register access of every interleaving.
-/

namespace FbossBsp.Mdio

open Interaction

/-- `mdiobus_c45_read` or `mdiobus_c45_write`. -/
def BusCall.access (call : BusCall) : Access BusOp BusOp.Reply Int := ⟨true, call.perform⟩

/-- Every call accesses the controller only under the lock of the bus. -/
theorem call_inside (call : BusCall) :
    call.access.Inside (fun _ => True) fun _ => False :=
  call.perform.conforms_true

section Pool

variable {Thread : Type} [DecidableEq Thread]

abbrev BusPool (Thread : Type) := LockPool Thread BusOp BusOp.Reply Int MdioController

/-- The calls before their start, after a reset of the controller. -/
def startBusCalls (calls : Thread → BusCall) (start : MdioController) : BusPool Thread :=
  lockedCalls (fun thread => (calls thread).access) (fbiobMdioReset.final mdioController start)

/-- The calls of a reached state are in time, in the order of the lock. -/
def InTimeOrder (calls : Thread → BusCall) (start : MdioController) (pool : BusPool Thread) : Prop :=
  Calls.Each mdioController BusCall.perform InTime (pool.shared.taken.map calls)
    (fbiobMdioReset.final mdioController start)

/-- From a successful reset on, for every interleaving of reads and writes, any in
number, in a reached state in which every command was in time: a thread that is
about to access the controller holds the lock, writes CMD and WR_DAT only while
no command executes, and writes CMD only with a clear status; a call that has
returned has returned what it returns at its place in the order of the lock; and
while the lock is free, the bus is busy exactly when the status of a write is
still to be collected. -/
theorem concurrent_handshake_kept (start : MdioController)
    (reset : fbiobMdioReset.result mdioController start = 0) (calls : Thread → BusCall)
    (schedule : List Thread) (last : BusPool Thread)
    (ran : (startBusCalls calls start).run (lockedDevice mdioController mdioController) schedule =
      some last)
    (inTime : InTimeOrder calls start last) :
    (∀ thread op, (last.program thread).pending = some (.access op) →
      last.shared.holder = some thread ∧ Handshake op last.shared.device) ∧
    (∀ thread ret, last.program thread = .done ret →
      ∃ before after, last.shared.taken = before ++ thread :: after ∧
        ret = (calls thread).perform.result mdioController
          (Calls.final mdioController BusCall.perform (before.map calls)
            (fbiobMdioReset.final mdioController start))) ∧
    (last.shared.holder = none → (last.shared.device.state = .busy ↔
      uncollected (Calls.events mdioController BusCall.perform (last.shared.taken.map calls)
        (fbiobMdioReset.final mdioController start)) false = true)) := by
  have serial := Serial.run (fun thread => call_inside (calls thread)) (Views.whole mdioController)
    (fbiobMdioReset.final mdioController start) ran
  obtain ⟨between, notBusy⟩ := reset_between start reset
  obtain ⟨along, collected⟩ := calls_handshake (last.shared.taken.map calls) _ false
    between false (iff_of_false notBusy Bool.false_ne_true) inTime
  refine ⟨?_, ?_, ?_⟩
  · intro thread op pending
    have holds := serial.pending_holder rfl pending
    refine ⟨holds, serial.allowed holds pending ?_⟩
    exact (Calls.each_map calls _ _ _).mp along
  · intro thread ret finished
    obtain ⟨before, after, taken, returned⟩ := serial.returned rfl finished
    refine ⟨before, after, taken, ?_⟩
    rw [Calls.final_map]
    exact returned
  · intro free
    have rest := collected (last.shared.taken.map calls) List.prefix_rfl
    have reached : last.shared.device = Calls.final mdioController BusCall.perform
        (last.shared.taken.map calls) (fbiobMdioReset.final mdioController start) := by
      rw [Calls.final_map]
      exact serial.idle free
    rw [reached]
    exact rest

end Pool

/-- One thread writes, and another one reads. -/
def writeAndRead (reads : Bool) : BusCall :=
  if reads then .readC45 1 1 1 else .writeC45 0 1 1 1 7

/-- The read comes second and collects the failure of the write. -/
theorem failed_write_collected :
    ∃ last, (startBusCalls writeAndRead (resetController firstFails)).run
        (lockedDevice mdioController mdioController)
        (List.replicate 9 false ++ List.replicate 9 true) = some last ∧
      last.shared.device.state ≠ .busy := by
  have inTime : Calls.Each mdioController BusCall.perform InTime ([false, true].map writeAndRead)
      (fbiobMdioReset.final mdioController (resetController firstFails)) := by decide +kernel
  have collected : uncollected (Calls.events mdioController BusCall.perform
      ([false, true].map writeAndRead)
      (fbiobMdioReset.final mdioController (resetController firstFails))) false = false := by
    decide +kernel
  refine ⟨_, rfl, ?_⟩
  have kept := concurrent_handshake_kept (resetController firstFails) (by decide) writeAndRead
    (List.replicate 9 false ++ List.replicate 9 true) _ rfl inTime
  intro busy
  have pendingWrite := (kept.2.2 rfl).mp busy
  exact Bool.false_ne_true (collected.symm.trans pendingWrite)

end FbossBsp.Mdio
