import FbossBsp.I2cProtocol

/-!
# The clock of the I2C bus

Probing enables the controller and writes a divisor for one of two frequencies
to TIMING_CFG; any other request is taken for the lower one. A transfer that
finds the bus busy disables the controller and enables it again.

Every command of every later transfer runs on an enabled controller at the
frequency that the driver reports, and the other bits of both registers stay as
they were before the probe.
-/

namespace FbossBsp.I2cMaster

open Interaction

/-! ## The driver -/

def fbiobI2cRegTimingCfg : Nat := 0x4

def fbiobI2cTimingDiv100K : BitVec 32 := 0x63
def fbiobI2cTimingDiv400K : BitVec 32 := 0x18
def fbiobI2cTimingDivMask : BitVec 32 := genmask32 7 0

/-- The divisor for a frequency, and what becomes of `bus->bus_freq_hz`. -/
def validTiming (busFreqHz : BitVec 32) : BitVec 32 × BitVec 32 :=
  if busFreqHz = 400000 then (fbiobI2cTimingDiv400K, busFreqHz)
  else if busFreqHz = 100000 then (fbiobI2cTimingDiv100K, busFreqHz)
  else (fbiobI2cTimingDiv100K, 100000)

/-- `fbiob_i2c_set_timing`; it returns what it leaves in `bus->bus_freq_hz`. -/
def fbiobI2cSetTiming (busFreqHz : BitVec 32) : Mmio (BitVec 32) := do
  let (div, busFreqHz) := validTiming busFreqHz
  let val ← readl fbiobI2cRegTimingCfg
  let val := val &&& ~~~fbiobI2cTimingDivMask
  let val := val ||| div
  writel val fbiobI2cRegTimingCfg
  return busFreqHz

/-- The register accesses of `fbiob_i2c_probe`, with what it has for
`bus->bus_freq_hz` in the end. -/
def fbiobI2cProbeSetup (busFreqHz : BitVec 32) : Mmio (Int × BitVec 32) := do
  let ret ← fbiobI2cReset
  if ret ≠ 0 then return (ret, busFreqHz)
  else do
    let busFreqHz ← fbiobI2cSetTiming busFreqHz
    return (0, busFreqHz)

/-! ## The controller -/

/-- FUNC_CTRL and TIMING_CFG read back as they were last written; every other
register replies by a script. -/
structure ClockController where
  funcCtrl : BitVec 32
  timingCfg : BitVec 32
  clock : Nat
  replies : Nat → BitVec 32

def clockController : MmioDevice ClockController
  | .readl offset, s =>
      (if offset = fbiobI2cRegFuncCtrl then s.funcCtrl
        else if offset = fbiobI2cRegTimingCfg then s.timingCfg
        else s.replies s.clock, { s with clock := s.clock + 1 })
  | .writel offset val, s =>
      ((), if offset = fbiobI2cRegFuncCtrl then { s with funcCtrl := val }
        else if offset = fbiobI2cRegTimingCfg then { s with timingCfg := val }
        else s)

/-- The frequency of SCL: the divisor is 50 MHz / (frequency * 5) - 1. -/
def sclHz (timingCfg : BitVec 32) : Nat :=
  50000000 / (5 * ((timingCfg &&& fbiobI2cTimingDivMask).toNat + 1))

/-- The controller is enabled and runs at the frequency. -/
structure Clocked (busFreqHz : BitVec 32) (s : ClockController) : Prop where
  enabled : s.funcCtrl &&& fbiobI2cEnMasterFunc = fbiobI2cEnMasterFunc
  frequency : sclHz s.timingCfg = busFreqHz.toNat

/-- A command with START finds the controller clocked. -/
def ClockedStart (busFreqHz : BitVec 32) (op : MmioOp) (s : ClockController) : Prop :=
  ∀ cmd ∈ command? op, starts cmd = true → Clocked busFreqHz s

/-- Both registers are as before. -/
structure SameClock (before after : ClockController) : Prop where
  funcCtrl : after.funcCtrl = before.funcCtrl
  timingCfg : after.timingCfg = before.timingCfg

/-- The two registers are as they are. -/
theorem SameClock.refl (s : ClockController) : SameClock s s := ⟨rfl, rfl⟩

/-- The two registers are kept twice. -/
theorem SameClock.trans {first second third : ClockController} (here : SameClock first second)
    (there : SameClock second third) : SameClock first third :=
  ⟨there.funcCtrl.trans here.funcCtrl, there.timingCfg.trans here.timingCfg⟩

/-- A clocked controller stays so while the two registers are kept. -/
theorem Clocked.same {busFreqHz : BitVec 32} {before after : ClockController}
    (clocked : Clocked busFreqHz before) (same : SameClock before after) :
    Clocked busFreqHz after where
  enabled := by rw [same.funcCtrl, clocked.enabled]
  frequency := by rw [same.timingCfg, clocked.frequency]

/-! ## Accesses beside the two registers -/

def BesideClock (op : MmioOp) : Prop :=
  op.offset ≠ fbiobI2cRegFuncCtrl ∧ op.offset ≠ fbiobI2cRegTimingCfg

/-- An access beside the two registers keeps them. -/
theorem beside_same {op : MmioOp} (beside : BesideClock op) (s : ClockController) :
    SameClock s (clockController op s).2 := by
  obtain ⟨notFunc, notTiming⟩ := beside
  cases op with
  | readl offset => exact ⟨rfl, rfl⟩
  | writel offset val =>
    simp only [MmioOp.offset] at notFunc notTiming
    simp only [clockController, notFunc, notTiming, if_false]
    exact .refl s

/-- Such accesses keep the clock, and every START among them finds it. -/
theorem beside_wp {α : Type} {program : Mmio α} {R : α → Prop} {busFreqHz : BitVec 32}
    (conforms : program.Conforms BesideClock R) {s : ClockController}
    (clocked : Clocked busFreqHz s) :
    program.Wp clockController (ClockedStart busFreqHz)
      (fun value after => R value ∧ SameClock s after) s := by
  have kept (op : MmioOp) (now : ClockController) (beside : BesideClock op) (same : SameClock s now) :
      ClockedStart busFreqHz op now ∧ SameClock s (clockController op now).2 := by
    exact ⟨fun _ _ _ => clocked.same same, same.trans (beside_same beside now)⟩
  exact conforms.wp kept (.refl s)

instance (op : MmioOp) : Nonempty op.Reply := by
  cases op with
  | readl offset => exact ⟨(0 : BitVec 32)⟩
  | writel offset val => exact ⟨()⟩

/-- The bus is taken. -/
def Taken : HostPhase → Prop
  | .asked | .busy | .resetting => False
  | _ => True

/-- Staging writes neither of the two registers. -/
theorem stages_beside {offset : Nat} (staged : stages offset = true) :
    offset ≠ fbiobI2cRegFuncCtrl ∧ offset ≠ fbiobI2cRegTimingCfg := by
  constructor
  · rintro rfl
    exact absurd staged (by decide)
  · rintro rfl
    exact absurd staged (by decide)

/-- INTR_STS is neither of the two registers. -/
theorem intr_sts_beside : fbiobI2cRegIntrSts ≠ fbiobI2cRegFuncCtrl ∧
    fbiobI2cRegIntrSts ≠ fbiobI2cRegTimingCfg := by
  decide

/-- CMD_STS is neither of the two registers. -/
theorem cmd_sts_beside : fbiobI2cRegCmdSts ≠ fbiobI2cRegFuncCtrl ∧
    fbiobI2cRegCmdSts ≠ fbiobI2cRegTimingCfg := by
  decide

/-- Once the bus is taken, the protocol permits no access to the two registers.

Proof: by the phase. The protocol permits a reset only before the bus is taken. -/
theorem protocol_beside_clock : hostProtocol.Within Taken BesideClock := by
  rintro phase ⟨op, reply⟩ later taken permitted
  cases phase with
  | asked => exact taken.elim
  | busy => exact taken.elim
  | resetting => exact taken.elim
  | stopped => exact absurd permitted nofun
  | free =>
    cases op with
    | readl offset => exact absurd permitted nofun
    | writel offset val =>
      obtain ⟨⟨rfl, _⟩, rfl⟩ := permitted_if permitted
      exact ⟨intr_sts_beside, trivial⟩
  | owned =>
    cases op with
    | readl offset =>
      obtain ⟨staged, rfl⟩ := permitted_if permitted
      exact ⟨stages_beside staged, trivial⟩
    | writel offset val =>
      simp only [hostProtocol] at permitted
      split at permitted
      · rename_i access
        obtain rfl := Option.some.inj permitted
        obtain staged | ⟨rfl, _⟩ := access
        · exact ⟨stages_beside staged, trivial⟩
        · exact ⟨intr_sts_beside, trivial⟩
      · obtain ⟨⟨rfl, _⟩, rfl⟩ := permitted_if permitted
        exact ⟨cmd_sts_beside, trivial⟩
  | inFlight opcode =>
    cases op with
    | readl offset =>
      obtain ⟨rfl, rfl⟩ := permitted_if permitted
      refine ⟨intr_sts_beside, ?_⟩
      unfold polled
      split_ifs <;> trivial
    | writel offset val => exact absurd permitted nofun
  | nacked =>
    cases op with
    | readl offset =>
      obtain ⟨rfl, rfl⟩ := permitted_if permitted
      exact ⟨cmd_sts_beside, trivial⟩
    | writel offset val => exact absurd permitted nofun
  | stopping cmdSts =>
    cases op with
    | readl offset => exact absurd permitted nofun
    | writel offset val =>
      obtain ⟨⟨rfl, _⟩, rfl⟩ := permitted_if permitted
      exact ⟨cmd_sts_beside, trivial⟩

/-! ## Transfers -/

/-- A reset ends with the controller enabled, whether it was or not. -/
theorem reset_enables {busFreqHz : BitVec 32} (s : ClockController) :
    fbiobI2cReset.Wp clockController (ClockedStart busFreqHz)
      (fun ret after => ret = 0 ∧ after.funcCtrl = s.funcCtrl ||| fbiobI2cEnMasterFunc ∧
        after.timingCfg = s.timingCfg) s := by
  have set : s.funcCtrl &&& ~~~fbiobI2cEnMasterFunc ||| fbiobI2cEnMasterFunc =
      s.funcCtrl ||| fbiobI2cEnMasterFunc := by
    apply BitVec.eq_of_getLsbD_eq
    intro i inside
    simp only [BitVec.getLsbD_or, BitVec.getLsbD_and, BitVec.getLsbD_not, inside, decide_true]
    cases fbiobI2cEnMasterFunc.getLsbD i <;> simp
  exact ⟨nofun, nofun, nofun, rfl, set, rfl⟩

/-- An enabled controller is enabled as before. -/
theorem enabled_or {funcCtrl : BitVec 32}
    (enabled : funcCtrl &&& fbiobI2cEnMasterFunc = fbiobI2cEnMasterFunc) :
    funcCtrl ||| fbiobI2cEnMasterFunc = funcCtrl := by
  apply BitVec.eq_of_getLsbD_eq
  intro i inside
  have bit := congrArg (BitVec.getLsbD · i) enabled
  simp only [BitVec.getLsbD_and] at bit
  rw [BitVec.getLsbD_or]
  cases set : funcCtrl.getLsbD i with
  | true => rfl
  | false =>
    rw [set, Bool.false_and] at bit
    rw [← bit, Bool.false_or]

/-- Checking for a busy bus accesses neither of the two registers. -/
theorem check_busy_beside : fbiobI2cCheckBusy.Conforms BesideClock fun _ => True :=
  ⟨cmd_sts_beside, fun _ => Program.Conforms.ite (fun _ => trivial) fun _ => trivial⟩

/-- Waiting for the bus looks at CMD_STS only. -/
theorem wait_bus_beside (retry : Nat) :
    (waitBusForFreeLoop retry).Conforms BesideClock fun _ => True := by
  induction retry with
  | zero =>
    apply check_busy_beside.bind
    exact fun _ _ => Program.Conforms.ite (fun _ => trivial) fun _ => trivial
  | succ retry inductionHypothesis =>
    apply check_busy_beside.bind
    exact fun _ _ => Program.Conforms.ite (fun _ => trivial) fun _ => inductionHypothesis

/-- Taking the bus keeps the clock, also where it resets the controller. -/
theorem acquire_bus_clocked {busFreqHz : BitVec 32} {s : ClockController}
    (clocked : Clocked busFreqHz s) :
    acquireBus.Wp clockController (ClockedStart busFreqHz) (fun _ after => SameClock s after) s := by
  apply (beside_wp (wait_bus_beside _) clocked).seq
  rintro busy middle ⟨_, same⟩
  apply Program.Wp.ite
  · intro stuck
    apply (reset_enables middle).seq
    rintro ret after ⟨rfl, enabled, kept⟩
    have again : SameClock s after := by
      refine ⟨?_, kept.trans same.timingCfg⟩
      rw [enabled, enabled_or (clocked.same same).enabled, same.funcCtrl]
    apply (beside_wp check_busy_beside (clocked.same again)).weaken
    exact fun _ _ ended => again.trans ended.2
  · exact fun _ => same

/-- A transfer keeps the clock, and its commands find it. -/
theorem master_xfer_clocked (platform : Platform) (msgs : List I2cMsg) {busFreqHz : BitVec 32}
    {s : ClockController} (clocked : Clocked busFreqHz s) :
    (fbiobI2cMasterXfer platform msgs).Wp clockController (ClockedStart busFreqHz)
      (fun _ after => SameClock s after) s := by
  apply Program.Wp.ite
  · exact fun _ => .refl s
  · intro accepted
    have checked : checkMsgParams msgs = 0 := not_not.mp accepted
    have nonempty : msgs ≠ [] := by
      rintro rfl
      exact absurd checked (by decide)
    obtain ⟨_, _, each⟩ := check_msg_params_accepted msgs checked
    apply (acquire_bus_clocked clocked).seq
    intro ret middle same
    apply Program.Wp.ite
    · exact fun _ => same
    · intro free
      have ready : ret = 0 := not_not.mp free
      have start : (HostPhase.free = .owned) ∨ HostPhase.free = .free ∧ msgs ≠ [] :=
        Or.inr ⟨rfl, nonempty⟩
      have follows := xfer_msgs_follows platform (fun msg member => (each msg member).2) start
      have beside : (xferMsgs platform 0 msgs).Conforms BesideClock fun _ => True :=
        follows.conforms protocol_beside_clock trivial fun _ _ _ => trivial
      rw [ready]
      apply (beside_wp beside (clocked.same same)).seq
      exact fun _ _ ended => same.trans ended.2

/-! ## From the probe on -/

/-- The frequency that the driver settles on. -/
def settledHz (busFreqHz : BitVec 32) : BitVec 32 :=
  if busFreqHz = 400000 then 400000 else 100000

/-- The registers after the probe. -/
structure Probed (busFreqHz : BitVec 32) (before after : ClockController) : Prop where
  funcCtrl : after.funcCtrl = before.funcCtrl ||| fbiobI2cEnMasterFunc
  divisor : after.timingCfg &&& fbiobI2cTimingDivMask = (validTiming busFreqHz).1
  others : after.timingCfg &&& ~~~fbiobI2cTimingDivMask =
    before.timingCfg &&& ~~~fbiobI2cTimingDivMask

/-- The divisors are inside their field, and give the frequencies they stand for. -/
theorem valid_timing_cases (busFreqHz : BitVec 32) :
    (validTiming busFreqHz).2 = settledHz busFreqHz ∧
      (validTiming busFreqHz).1 &&& fbiobI2cTimingDivMask = (validTiming busFreqHz).1 ∧
      50000000 / (5 * ((validTiming busFreqHz).1.toNat + 1)) = (settledHz busFreqHz).toNat := by
  unfold validTiming settledHz
  by_cases fast : busFreqHz = 400000
  · simp only [fast, if_true]
    decide
  · by_cases slow : busFreqHz = 100000
    · simp only [slow]
      decide
    · simp only [fast, slow, if_false]
      decide

/-- A field is replaced, and the bits around it stay. -/
theorem replace_field {val field mask : BitVec 32} (inside : field &&& mask = field) :
    (val &&& ~~~mask ||| field) &&& mask = field ∧
      (val &&& ~~~mask ||| field) &&& ~~~mask = val &&& ~~~mask := by
  have part (i : Nat) (outside : mask.getLsbD i = false) : field.getLsbD i = false := by
    rw [← inside, BitVec.getLsbD_and, outside, Bool.and_false]
  constructor
  · apply BitVec.eq_of_getLsbD_eq
    intro i word
    simp only [BitVec.getLsbD_or, BitVec.getLsbD_and, BitVec.getLsbD_not, word, decide_true]
    cases masked : mask.getLsbD i with
    | true => simp
    | false => simp [part i masked]
  · apply BitVec.eq_of_getLsbD_eq
    intro i word
    simp only [BitVec.getLsbD_or, BitVec.getLsbD_and, BitVec.getLsbD_not, word, decide_true]
    cases masked : mask.getLsbD i with
    | true => simp
    | false => simp [part i masked]

/-- The setup of the probe enables the controller and sets the divisor of the
settled frequency, and changes nothing else of the two registers. -/
theorem probe_setup_probed (busFreqHz : BitVec 32) (s : ClockController) :
    (fbiobI2cProbeSetup busFreqHz).Wp clockController (ClockedStart (settledHz busFreqHz))
      (fun ret after => ret = (0, settledHz busFreqHz) ∧ Probed busFreqHz s after) s := by
  obtain ⟨settles, inside, _⟩ := valid_timing_cases busFreqHz
  apply (reset_enables s).seq
  rintro ret middle ⟨rfl, enabled, kept⟩
  obtain ⟨divisor, others⟩ : _ ∧ (middle.timingCfg &&& _ ||| _) &&& _ = _ := replace_field inside
  refine ⟨nofun, nofun, ?_, enabled, divisor, ?_⟩
  · exact congrArg (Prod.mk (0 : Int)) settles
  · rw [← kept]
    exact others

/-- A probed controller runs at the frequency that the driver settled on. -/
theorem Probed.clocked {busFreqHz : BitVec 32} {before after : ClockController}
    (probed : Probed busFreqHz before after) : Clocked (settledHz busFreqHz) after where
  enabled := by rw [probed.funcCtrl, or_mask_and]
  frequency := by
    obtain ⟨_, _, frequency⟩ := valid_timing_cases busFreqHz
    rw [sclHz, probed.divisor, frequency]

/-- A probed controller stays so while the two registers are kept. -/
theorem Probed.same {busFreqHz : BitVec 32} {before middle after : ClockController}
    (probed : Probed busFreqHz before middle) (same : SameClock middle after) :
    Probed busFreqHz before after where
  funcCtrl := by rw [same.funcCtrl, probed.funcCtrl]
  divisor := by rw [same.timingCfg, probed.divisor]
  others := by rw [same.timingCfg, probed.others]

/-- The transfers after a probe keep the registers, and each of them finds them. -/
theorem transfers_probed (platform : Platform) {busFreqHz : BitVec 32} {s ready : ClockController}
    (probed : Probed busFreqHz s ready) (calls : List (List I2cMsg)) :
    Calls.Each clockController (fbiobI2cMasterXfer platform) (fun msgs start =>
        (fbiobI2cMasterXfer platform msgs).Along clockController
          (ClockedStart (settledHz busFreqHz)) start) calls ready ∧
      Probed busFreqHz s (Calls.final clockController (fbiobI2cMasterXfer platform) calls ready) := by
  induction calls generalizing ready with
  | nil => exact ⟨trivial, probed⟩
  | cons msgs rest inductionHypothesis =>
    have transfer := master_xfer_clocked platform msgs probed.clocked
    obtain ⟨each, last⟩ := inductionHypothesis (probed.same transfer.outcome)
    exact ⟨⟨transfer.weaken fun _ _ _ => trivial, each⟩, last⟩

/-- For every requested frequency and every content of the two registers, a probe
settles on the requested frequency if that is 400 kHz, and on 100 kHz otherwise;
in every sequence of transfers after it, each command with START finds the
controller enabled and SCL at this frequency; and all that has changed of the
registers in the end are the enable bit, which is set, and the divisor. -/
theorem transfers_clocked (platform : Platform) (busFreqHz : BitVec 32)
    (calls : List (List I2cMsg)) (s : ClockController) :
    let ready := (fbiobI2cProbeSetup busFreqHz).final clockController s
    (fbiobI2cProbeSetup busFreqHz).result clockController s = (0, settledHz busFreqHz) ∧
    Calls.Each clockController (fbiobI2cMasterXfer platform) (fun msgs start =>
      (fbiobI2cMasterXfer platform msgs).Along clockController
        (ClockedStart (settledHz busFreqHz)) start) calls ready ∧
    Probed busFreqHz s (Calls.final clockController (fbiobI2cMasterXfer platform) calls ready) := by
  obtain ⟨returned, probed⟩ := (probe_setup_probed busFreqHz s).outcome
  exact ⟨returned, transfers_probed platform probed calls⟩

end FbossBsp.I2cMaster
