import FbossBsp.FanCpld

/-!
# Configuration requests of the generic fan driver

`FBFANCPLD_IOC_CONFIGURE` fills the channel tables in place and then registers a
hwmon device, a watchdog and the LEDs, each of which may fail. A failed request
undoes nothing, and the next one starts from what it left: table entries beyond
the number of fans stay set, and a registered device stays registered.

A request carries what the kernel answers while it is served. The CPLD is
written on the way, but no result of these writes decides anything.
-/

namespace FbossBsp.Fbfancpld

open Interaction

/-! ## LEDs -/

def regFanLed (fn : Int) : Int := 0x34 + (fn - 1) * 0x10

def fanLedHwCtrl : Int := 0x00
def fanLedBlue : BitVec 8 := 0x01
def fanLedAmber : BitVec 8 := 0x02

/-- `led_color_info`. -/
def ledColorInfo : List (BitVec 8 × String) := [(fanLedBlue, "blue"), (fanLedAmber, "amber")]

/-- `struct fan_led_data`, less the pointer to the client. -/
structure FanLedData where
  name : String
  regAddr : BitVec 8
  regVal : BitVec 8
  deriving DecidableEq

/-! ## Requests -/

/-- A request with the answers of the kernel: the copied configuration, unless
the copy fails, and whether each allocation and registration succeeds. LED slots
are registered one by one. -/
structure ConfigureRequest where
  ucfg : Option IoctlConfig
  hwmonRegister : Int
  wdtAllocated : Bool
  wdtRegister : Int
  ledsAllocated : Bool
  ledRegister : Nat → Int

/-- The rest of `struct fbfancpld_data`, and the devices registered for its client. -/
structure Client where
  data : Data
  configured : Bool
  leds : List FanLedData
  numLeds : Int
  hwmonDevices : Nat
  watchdogs : Nat
  ledDevices : List FanLedData

/-- The client of a probed device. -/
def Client.probed : Client := ⟨Data.probed, false, [], 0, 0, 0, []⟩

section Driver

variable (wdtTimeout : Int)
variable (watchdogInitTimeout : BitVec 32 → BitVec 32 → BitVec 32 → BitVec 32 × Int)
variable (request : ConfigureRequest)

/-- The inner loop of `fan_leds_init`: the LEDs of one fan. A failing
`led_trigger_init` is only reported. -/
def fanLedsOfFan (fn : Int) (regAddr : BitVec 8) :
    List (BitVec 8 × String) → Client → Int × Client
  | [], client => (0, client)
  | (regVal, color) :: rest, client =>
    let led : FanLedData := ⟨"fan" ++ toString fn ++ ":" ++ color ++ ":status", regAddr, regVal⟩
    let ret := request.ledRegister client.leds.length
    let client := { client with leds := client.leds ++ [led] }
    if ret ≠ 0 then (ret, client)
    else fanLedsOfFan fn regAddr rest { client with ledDevices := client.ledDevices ++ [led] }

/-- The loop of `fan_leds_init` from fan `fn` on, with `left` fans left. A
failing write of the LED register is only reported. -/
def fanLedsLoop (fn : Int) : (left : Nat) → Client → FanIo (Int × Client)
  | 0, client => return (0, client)
  | left + 1, client => do
    let regAddr : BitVec 8 := BitVec.ofInt 8 (regFanLed fn)
    let _ ← i2cSmbusWriteByteData regAddr.toNat fanLedHwCtrl
    let (ret, client) := fanLedsOfFan request fn regAddr ledColorInfo client
    if ret ≠ 0 then return (ret, client)
    fanLedsLoop (fn + 1) left client

/-- `fan_leds_init`. -/
def fanLedsInit (client : Client) : FanIo (Int × Client) := do
  let client := { client with numLeds := client.data.config.numFans * ledColorInfo.length }
  if !request.ledsAllocated then return (-enomem, client)
  fanLedsLoop request 1 client.data.config.numFans.toNat { client with leds := [] }

/-- `fbfancpld_apply_config`. -/
def fbfancpldApplyConfig (client : Client) : FanIo (Int × Client) := do
  let client := { client with data := buildTables client.data }
  let err := request.hwmonRegister
  if err ≠ 0 then return (err, client)
  let client := { client with hwmonDevices := client.hwmonDevices + 1 }
  let err ← fanWdtInit wdtTimeout request.wdtAllocated watchdogInitTimeout request.wdtRegister
  if err ≠ 0 then return (err, client)
  let client := { client with watchdogs := client.watchdogs + 1 }
  if client.data.config.hasLeds then fanLedsInit request client else return (0, client)

/-- `fbfancpld_ioctl_configure`. -/
def fbfancpldIoctlConfigure (client : Client) : FanIo (Int × Client) :=
  match request.ucfg with
  | none => return (-efault, client)
  | some ucfg => do
    let ret := fbfancpldValidateConfig ucfg
    if ret ≠ 0 then return (ret, client)
    if client.configured then return (-ebusy, client)
    let client := { client with data := { client.data with config := storedConfig ucfg } }
    let (ret, client) ← fbfancpldApplyConfig wdtTimeout watchdogInitTimeout request client
    if ret ≠ 0 then return (ret, client)
    return (0, { client with configured := true })

end Driver

/-! ## One request -/

section Outcomes

variable (wdtTimeout : Int)
variable (watchdogInitTimeout : BitVec 32 → BitVec 32 → BitVec 32 → BitVec 32 × Int)
variable (request : ConfigureRequest)

/-- What the LEDs leave of a client. -/
structure SameButLeds (before after : Client) : Prop where
  data : after.data = before.data
  configured : after.configured = before.configured
  hwmonDevices : after.hwmonDevices = before.hwmonDevices
  watchdogs : after.watchdogs = before.watchdogs

/-- Two clients that differ from a third in their LEDs only differ from each other
so. -/
theorem SameButLeds.trans {first second third : Client} (here : SameButLeds first second)
    (there : SameButLeds second third) : SameButLeds first third :=
  ⟨there.data.trans here.data, there.configured.trans here.configured,
    there.hwmonDevices.trans here.hwmonDevices, there.watchdogs.trans here.watchdogs⟩

/-- The LEDs of one fan change nothing but the LEDs. -/
theorem leds_of_fan_same (fn : Int) (regAddr : BitVec 8) (colors : List (BitVec 8 × String))
    (client : Client) :
    SameButLeds client (fanLedsOfFan request fn regAddr colors client).2 := by
  induction colors generalizing client with
  | nil => exact ⟨rfl, rfl, rfl, rfl⟩
  | cons color rest inductionHypothesis =>
    unfold fanLedsOfFan
    dsimp only
    split
    · exact ⟨rfl, rfl, rfl, rfl⟩
    · exact ⟨(inductionHypothesis _).data, (inductionHypothesis _).configured,
        (inductionHypothesis _).hwmonDevices, (inductionHypothesis _).watchdogs⟩

/-- The LEDs of the fans that are left change nothing but the LEDs. -/
theorem leds_loop_same (fn : Int) (left : Nat) (client : Client) :
    (fanLedsLoop request fn left client).Conforms (fun _ => True)
      fun outcome => SameButLeds client outcome.2 := by
  induction left generalizing fn client with
  | zero => exact ⟨rfl, rfl, rfl, rfl⟩
  | succ left inductionHypothesis =>
    refine ⟨trivial, fun _ => ?_⟩
    have fan := leds_of_fan_same request fn (BitVec.ofInt 8 (regFanLed fn)) ledColorInfo client
    apply Program.Conforms.ite
    · exact fun failed => fan
    · intro succeeded
      exact (inductionHypothesis _ _).mono (fun _ _ => trivial) fun _ later => fan.trans later

/-- Registering the LEDs changes nothing but the LEDs. -/
theorem leds_init_same (client : Client) :
    (fanLedsInit request client).Conforms (fun _ => True)
      fun outcome => SameButLeds client outcome.2 := by
  apply Program.Conforms.ite
  · exact fun refused => ⟨rfl, rfl, rfl, rfl⟩
  · intro allocated
    exact (leds_loop_same request _ _ _).mono (fun _ _ => trivial) fun _ later =>
      ⟨later.data, later.configured, later.hwmonDevices, later.watchdogs⟩

/-- What one application of a configuration leaves, whatever the CPLD answers. -/
structure Applied (client : Client) (outcome : Int × Client) : Prop where
  data : outcome.2.data = buildTables client.data
  configured : outcome.2.configured = client.configured
  hwmonDevices : outcome.2.hwmonDevices =
    client.hwmonDevices + if request.hwmonRegister = 0 then 1 else 0
  watchdogs : outcome.2.watchdogs = client.watchdogs ∨
    request.hwmonRegister = 0 ∧ outcome.2.watchdogs = client.watchdogs + 1
  succeeded : outcome.1 = 0 →
    request.hwmonRegister = 0 ∧ outcome.2.watchdogs = client.watchdogs + 1

/-- Applying a configuration registers the hwmon device first, and the watchdog
after it. -/
theorem apply_config_applied (client : Client) :
    (fbfancpldApplyConfig wdtTimeout watchdogInitTimeout request client).Conforms
      (fun _ => True) (Applied request client) := by
  apply Program.Conforms.ite
  · intro failed
    exact ⟨rfl, rfl, by simp [failed], Or.inl rfl, fun done => absurd done failed⟩
  · intro registered
    have hwmon : request.hwmonRegister = 0 := not_not.mp registered
    apply (Program.conforms_true _).bind
    intro err _
    apply Program.Conforms.ite
    · intro failed
      exact ⟨rfl, rfl, by simp [hwmon], Or.inl rfl, fun done => absurd done failed⟩
    · intro started
      apply Program.Conforms.ite
      · intro leds
        refine (leds_init_same request _).mono (fun _ _ => trivial) ?_
        rintro outcome ⟨data, configured, hwmonDevices, watchdogs⟩
        exact ⟨data, configured, by simp [hwmonDevices, hwmon], Or.inr ⟨hwmon, watchdogs⟩,
          fun _ => ⟨hwmon, watchdogs⟩⟩
      · intro noLeds
        exact ⟨rfl, rfl, by simp [hwmon], Or.inr ⟨hwmon, rfl⟩, fun _ => ⟨hwmon, rfl⟩⟩

end Outcomes

/-! ## Tables -/

/-- A table of `size` entries whose first `mark` entries were filled. -/
def Filled {α : Type} (size : Nat) (zero : α) (entry : Nat → α) (mark : Nat) (table : List α) :
    Prop :=
  mark < size ∧ table = (List.range mark).map entry ++ List.replicate (size - mark) zero

section Tables

variable {α : Type} {size mark count : Nat} {zero : α} {entry : Nat → α} {table : List α}

/-- A zeroed table. -/
theorem Filled.zeroed (positive : 0 < size) :
    Filled size zero entry 0 (List.replicate size zero) :=
  ⟨positive, rfl⟩

/-- Filling a table again never clears what it held. -/
theorem Filled.fill (filled : Filled size zero entry mark table) (fits : count < size) :
    Filled size zero entry (max mark count) (fillTable table count entry) := by
  obtain ⟨inside, rfl⟩ := filled
  refine ⟨by omega, ?_⟩
  rw [fill_table _ _ _ (by simp; omega)]
  by_cases longer : mark ≤ count
  · have zeros : size - mark - (count - mark) = size - count := by omega
    have rest : ((List.range mark).map entry ++ List.replicate (size - mark) zero).drop count =
        List.replicate (size - count) zero := by
      rw [List.drop_append, List.drop_of_length_le (by simpa using longer), List.length_map,
        List.length_range, List.drop_replicate, zeros, List.nil_append]
    rw [rest, Nat.max_eq_right longer]
  · have shorter : count ≤ mark := by omega
    have rest : ((List.range mark).map entry ++ List.replicate (size - mark) zero).drop count =
        ((List.range mark).drop count).map entry ++ List.replicate (size - mark) zero := by
      rw [List.drop_append_of_le_length (by simpa using shorter), List.map_drop]
    have front : List.range count = (List.range mark).take count := by
      rw [List.take_range, Nat.min_eq_left shorter]
    rw [rest, Nat.max_eq_left shorter, ← List.append_assoc, ← List.map_append, front,
      List.take_append_drop]

/-- The entries of a table before its zero entry, which it must have. -/
def Lists (nonzero : α → Bool) (table entries : List α) : Prop :=
  table.takeWhile nonzero = entries ∧ entries.length < table.length

/-- A filled table lists a number of entries exactly when that is its mark. -/
theorem Filled.lists_iff {nonzero : α → Bool} (filled : Filled size zero entry mark table)
    (entries : ∀ i, nonzero (entry i) = true) (ends : nonzero zero = false) :
    Lists nonzero table ((List.range count).map entry) ↔ mark = count := by
  obtain ⟨inside, rfl⟩ := filled
  have listed : ((List.range mark).map entry ++ List.replicate (size - mark) zero).takeWhile
      nonzero = (List.range mark).map entry := by
    rw [List.takeWhile_append_of_pos (by simp [entries]), List.takeWhile_replicate, ends]
    simp
  unfold Lists
  rw [listed]
  constructor
  · rintro ⟨same, _⟩
    simpa using congrArg List.length same
  · rintro rfl
    exact ⟨rfl, by simp; omega⟩

end Tables

/-! ## What a request asks for -/

namespace IoctlConfig

variable (ucfg : IoctlConfig)

def fans : Nat := ucfg.numFans.toNat

/-- One tachometer for each fan, or two. -/
def tachs : Nat := if ucfg.hasRearTach ≠ 0 then ucfg.numFans.toNat * 2 else ucfg.numFans.toNat

end IoctlConfig

/-- The configuration of a request that is copied and passes the validation. -/
def ConfigureRequest.accepted (request : ConfigureRequest) : Option IoctlConfig :=
  request.ucfg.filter fun ucfg => fbfancpldValidateConfig ucfg = 0

/-- A request is accepted when it is copied and passes the check. -/
theorem ConfigureRequest.accepted_eq_some {request : ConfigureRequest} {ucfg : IoctlConfig} :
    request.accepted = some ucfg ↔
      request.ucfg = some ucfg ∧ fbfancpldValidateConfig ucfg = 0 := by
  simp [accepted, Option.filter_eq_some_iff]

/-- The fan table after filling it `mark` entries far, and the tables with one
entry for each fan. -/
structure Marked (tachMark fanMark : Nat) (data : Data) : Prop where
  fanConfig : Filled (maxFans * 2 + 1) [] (fun _ => fanChannelAttrs) tachMark data.fanConfig
  pwmConfig : Filled (maxFans + 1) [] (fun _ => pwmChannelAttrs) fanMark data.pwmConfig
  presentPtrs : Filled (maxFans + 1) none (fun i => some ((i : Int) + 1)) fanMark data.presentPtrs

/-- Building the tables for an accepted configuration moves the marks up to its
numbers, and never down. -/
theorem Marked.build {tachMark fanMark : Nat} {data : Data} (marked : Marked tachMark fanMark data)
    {ucfg : IoctlConfig} (accepted : fbfancpldValidateConfig ucfg = 0) :
    Marked (max tachMark ucfg.tachs) (max fanMark ucfg.fans)
      (buildTables { data with config := storedConfig ucfg }) := by
  obtain ⟨_, few⟩ := accepted_fans accepted
  have fans : (storedConfig ucfg).numFans = (ucfg.fans : Int) := stored_fans accepted
  have tachs : (if (storedConfig ucfg).hasRearTach = true then (storedConfig ucfg).numFans * 2
      else (storedConfig ucfg).numFans) = (ucfg.tachs : Int) := by
    rw [fans]
    by_cases rear : ucfg.hasRearTach ≠ 0
    · have stored : (storedConfig ucfg).hasRearTach = true := decide_eq_true rear
      rw [if_pos stored, IoctlConfig.tachs, if_pos rear, IoctlConfig.fans]
      push_cast
      rfl
    · have stored : ¬(storedConfig ucfg).hasRearTach = true := by simpa [storedConfig] using rear
      rw [if_neg stored, IoctlConfig.tachs, if_neg rear]
      rfl
  have fanRoom : ucfg.fans < maxFans + 1 := by
    simp only [IoctlConfig.fans]
    omega
  have tachRoom : ucfg.tachs < maxFans * 2 + 1 := by
    simp only [IoctlConfig.tachs]
    split <;> omega
  constructor
  · simpa only [buildTables, tachs] using marked.fanConfig.fill tachRoom
  · simpa only [buildTables, fans] using marked.pwmConfig.fill fanRoom
  · simpa only [buildTables, fans] using marked.presentPtrs.fill fanRoom

/-! ## Sequences of requests -/

section Sequences

variable {S : Type} (cpld : SmbusDevice S) (wdtTimeout : Int)
variable (watchdogInitTimeout : BitVec 32 → BitVec 32 → BitVec 32 → BitVec 32 × Int)

/-- One request, from the state of the client and of the CPLD. -/
def serveOne (request : ConfigureRequest) (s : Client × (S × BitVec 32)) :
    Int × (Client × (S × BitVec 32)) :=
  let program := fbfancpldIoctlConfigure wdtTimeout watchdogInitTimeout request s.1
  let outcome := program.result (withTimeout cpld) s.2
  (outcome.1, outcome.2, program.final (withTimeout cpld) s.2)

/-- Requests one after the other: their results, and the state they leave. -/
def serve : List ConfigureRequest → Client × (S × BitVec 32) →
    List Int × (Client × (S × BitVec 32))
  | [], s => ([], s)
  | request :: rest, s =>
    let (ret, s) := serveOne cpld wdtTimeout watchdogInitTimeout request s
    let (rets, s) := serve rest s
    (ret :: rets, s)

/-- The requests of a sequence are served in two parts. -/
theorem serve_append (first second : List ConfigureRequest) (s : Client × (S × BitVec 32)) :
    (serve cpld wdtTimeout watchdogInitTimeout (first ++ second) s).2 =
      (serve cpld wdtTimeout watchdogInitTimeout second
        (serve cpld wdtTimeout watchdogInitTimeout first s).2).2 := by
  induction first generalizing s with
  | nil => rfl
  | cons request rest inductionHypothesis => exact inductionHypothesis _

/-- A request that is not copied, is invalid, or comes after the configuration
fails and changes nothing. -/
theorem configure_refused (request : ConfigureRequest) (client : Client)
    (refused : request.accepted = none ∨ client.configured = true) :
    (fbfancpldIoctlConfigure wdtTimeout watchdogInitTimeout request client).Conforms
      (fun _ => True) fun outcome => outcome.1 ≠ 0 ∧ outcome.2 = client := by
  unfold fbfancpldIoctlConfigure
  cases copied : request.ucfg with
  | none => exact ⟨(by decide : -efault ≠ 0), rfl⟩
  | some ucfg =>
    apply Program.Conforms.ite
    · exact fun invalid => ⟨invalid, rfl⟩
    · intro valid
      have accepted : request.accepted = some ucfg :=
        ConfigureRequest.accepted_eq_some.mpr ⟨copied, not_not.mp valid⟩
      have configured : client.configured = true := refused.resolve_left (by simp [accepted])
      rw [if_pos configured]
      exact ⟨(by decide : -ebusy ≠ 0), rfl⟩

/-- What an accepted request leaves of an unconfigured client. -/
structure Attempted (request : ConfigureRequest) (ucfg : IoctlConfig) (client : Client)
    (outcome : Int × Client) : Prop where
  data : outcome.2.data = buildTables { client.data with config := storedConfig ucfg }
  configured : outcome.2.configured = true ↔ outcome.1 = 0
  hwmonDevices : outcome.2.hwmonDevices =
    client.hwmonDevices + if request.hwmonRegister = 0 then 1 else 0
  watchdogs : outcome.2.watchdogs = client.watchdogs ∨
    request.hwmonRegister = 0 ∧ outcome.2.watchdogs = client.watchdogs + 1
  succeeded : outcome.1 = 0 →
    request.hwmonRegister = 0 ∧ outcome.2.watchdogs = client.watchdogs + 1

/-- On a client without a configuration an accepted request is tried. -/
theorem configure_attempted (request : ConfigureRequest) (ucfg : IoctlConfig) (client : Client)
    (accepted : request.accepted = some ucfg) (unconfigured : client.configured = false) :
    (fbfancpldIoctlConfigure wdtTimeout watchdogInitTimeout request client).Conforms
      (fun _ => True) (Attempted request ucfg client) := by
  obtain ⟨copied, valid⟩ := ConfigureRequest.accepted_eq_some.mp accepted
  simp only [fbfancpldIoctlConfigure, copied, valid, unconfigured, ne_eq, not_true_eq_false,
    Bool.false_eq_true, if_false]
  apply (apply_config_applied wdtTimeout watchdogInitTimeout request _).bind
  rintro ⟨ret, after⟩ ⟨data, configured, hwmonDevices, watchdogs, succeeded⟩
  apply Program.Conforms.ite
  · intro failed
    have unset : after.configured = false := configured
    refine ⟨data, ⟨fun ready => ?_, fun zero => absurd zero failed⟩, hwmonDevices, watchdogs,
      succeeded⟩
    exact absurd (unset.symm.trans ready) Bool.false_ne_true
  · intro zero
    have ok : ret = 0 := not_not.mp zero
    exact ⟨data, by simp, hwmonDevices, watchdogs, fun _ => succeeded ok⟩

/-- What a sequence of failed requests has left of a probed client. -/
structure History (past : List ConfigureRequest) (tachMark fanMark : Nat) (client : Client) :
    Prop where
  unconfigured : client.configured = false
  marked : Marked tachMark fanMark client.data
  tachs : ∀ bound, tachMark ≤ bound ↔
    ∀ request ∈ past, ∀ ucfg ∈ request.accepted, ucfg.tachs ≤ bound
  fans : ∀ bound, fanMark ≤ bound ↔
    ∀ request ∈ past, ∀ ucfg ∈ request.accepted, ucfg.fans ≤ bound
  hwmonDevices : client.hwmonDevices = 0 ↔
    ∀ request ∈ past, request.accepted.isSome → request.hwmonRegister ≠ 0
  watchdogs : client.watchdogs ≤ client.hwmonDevices

/-- After the probe the client has no history. -/
theorem History.probed : History [] 0 0 Client.probed where
  unconfigured := rfl
  marked := ⟨.zeroed (by decide), .zeroed (by decide), .zeroed (by decide)⟩
  tachs := by simp
  fans := by simp
  hwmonDevices := by simp [Client.probed]
  watchdogs := Nat.le_refl 0

/-- A failed request extends the history. -/
theorem History.failed {past : List ConfigureRequest} {tachMark fanMark : Nat} {client : Client}
    (history : History past tachMark fanMark client) (request : ConfigureRequest)
    (state : S × BitVec 32)
    (failed : (serveOne cpld wdtTimeout watchdogInitTimeout request (client, state)).1 ≠ 0) :
    ∃ tachMark fanMark, History (past ++ [request]) tachMark fanMark
      (serveOne cpld wdtTimeout watchdogInitTimeout request (client, state)).2.1 := by
  cases accepted : request.accepted with
  | none =>
    obtain ⟨_, same⟩ := (configure_refused wdtTimeout watchdogInitTimeout request client
      (Or.inl accepted)).result (withTimeout cpld) state
    refine ⟨tachMark, fanMark, ?_⟩
    simp only [serveOne, same]
    refine ⟨history.unconfigured, history.marked, ?_, ?_, ?_, history.watchdogs⟩
    · intro bound
      rw [List.forall_mem_append, List.forall_mem_singleton, history.tachs]
      simp [accepted]
    · intro bound
      rw [List.forall_mem_append, List.forall_mem_singleton, history.fans]
      simp [accepted]
    · rw [List.forall_mem_append, List.forall_mem_singleton, history.hwmonDevices]
      simp [accepted]
  | some ucfg =>
    obtain ⟨_, valid⟩ := ConfigureRequest.accepted_eq_some.mp accepted
    obtain ⟨data, configured, hwmonDevices, watchdogs, _⟩ :=
      (configure_attempted wdtTimeout watchdogInitTimeout request ucfg client accepted
        history.unconfigured).result (withTimeout cpld) state
    have built := history.marked.build valid
    refine ⟨max tachMark ucfg.tachs, max fanMark ucfg.fans, ?_, ?_, ?_, ?_, ?_, ?_⟩
    · exact Bool.eq_false_iff.mpr fun ready => failed (configured.mp ready)
    · exact data ▸ built
    · intro bound
      rw [Nat.max_le, history.tachs, List.forall_mem_append, List.forall_mem_singleton]
      simp [accepted]
    · intro bound
      rw [Nat.max_le, history.fans, List.forall_mem_append, List.forall_mem_singleton]
      simp [accepted]
    · rw [List.forall_mem_append, List.forall_mem_singleton, ← history.hwmonDevices]
      simp only [serveOne, hwmonDevices, accepted, Option.isSome_some, forall_const]
      by_cases registered : request.hwmonRegister = 0 <;> simp [registered]
    · have before := history.watchdogs
      simp only [serveOne, hwmonDevices]
      split <;> omega

/-- A sequence of failed requests extends the history by all of them. -/
theorem History.run {past : List ConfigureRequest} {tachMark fanMark : Nat}
    (requests : List ConfigureRequest) (s : Client × (S × BitVec 32))
    (history : History past tachMark fanMark s.1)
    (failed : ∀ ret ∈ (serve cpld wdtTimeout watchdogInitTimeout requests s).1, ret ≠ 0) :
    ∃ tachMark fanMark, History (past ++ requests) tachMark fanMark
      (serve cpld wdtTimeout watchdogInitTimeout requests s).2.1 := by
  induction requests generalizing past tachMark fanMark s with
  | nil => exact ⟨tachMark, fanMark, (List.append_nil past).symm ▸ history⟩
  | cons request rest inductionHypothesis =>
    obtain ⟨first, later⟩ := List.forall_mem_cons.mp failed
    obtain ⟨tachMark, fanMark, extended⟩ :=
      history.failed cpld wdtTimeout watchdogInitTimeout request s.2 first
    obtain ⟨tachMark, fanMark, whole⟩ := inductionHypothesis _ extended later
    rw [List.append_assoc] at whole
    exact ⟨tachMark, fanMark, whole⟩

/-- Requests after the configuration change nothing. -/
theorem configured_kept (requests : List ConfigureRequest) (s : Client × (S × BitVec 32))
    (configured : s.1.configured = true) :
    (serve cpld wdtTimeout watchdogInitTimeout requests s).2.1 = s.1 := by
  induction requests generalizing s with
  | nil => rfl
  | cons request rest inductionHypothesis =>
    obtain ⟨_, same⟩ := (configure_refused wdtTimeout watchdogInitTimeout request s.1
      (Or.inr configured)).result (withTimeout cpld) s.2
    have kept : (serveOne cpld wdtTimeout watchdogInitTimeout request s).2.1 = s.1 := same
    exact (inductionHypothesis _ (kept.symm ▸ configured)).trans kept

/-- The tables list what the configuration asks for and one device of each kind
is registered. -/
structure ConfiguredExactly (ucfg : IoctlConfig) (client : Client) : Prop where
  fanConfig : Lists (· ≠ []) client.data.fanConfig
    ((List.range ucfg.tachs).map fun _ => fanChannelAttrs)
  pwmConfig : Lists (· ≠ []) client.data.pwmConfig
    ((List.range ucfg.fans).map fun _ => pwmChannelAttrs)
  presentPtrs : Lists Option.isSome client.data.presentPtrs
    ((List.range ucfg.fans).map fun i : Nat => some ((i : Int) + 1))
  hwmonDevices : client.hwmonDevices = 1
  watchdogs : client.watchdogs = 1

/-- The request leaves nothing that a later configuration would not replace: it
is refused by the copy or by the validation, or it fails at the hwmon device and
asks for no more channels. -/
def ConfigureRequest.Harmless (request : ConfigureRequest) (ucfg : IoctlConfig) : Prop :=
  ∀ past ∈ request.accepted,
    request.hwmonRegister ≠ 0 ∧ past.tachs ≤ ucfg.tachs ∧ past.fans ≤ ucfg.fans

/-- A request that succeeds after a history of failed ones configures the client
exactly when all of them were harmless. -/
theorem History.configured_exactly {earlier : List ConfigureRequest} {tachMark fanMark : Nat}
    {client : Client} (history : History earlier tachMark fanMark client)
    {request : ConfigureRequest} {ucfg : IoctlConfig}
    (valid : fbfancpldValidateConfig ucfg = 0) {outcome : Int × Client}
    (attempted : Attempted request ucfg client outcome) (succeeded : outcome.1 = 0) :
    ConfiguredExactly ucfg outcome.2 ↔ ∀ past ∈ earlier, past.Harmless ucfg := by
  obtain ⟨hwmon, watchdogs⟩ := attempted.succeeded succeeded
  have hwmonDevices : outcome.2.hwmonDevices = client.hwmonDevices + 1 := by
    simpa only [hwmon, if_true] using attempted.hwmonDevices
  have tables : Marked (max tachMark ucfg.tachs) (max fanMark ucfg.fans) outcome.2.data :=
    attempted.data ▸ history.marked.build valid
  have fanConfig : Lists (· ≠ []) outcome.2.data.fanConfig
      ((List.range ucfg.tachs).map fun _ => fanChannelAttrs) ↔
        max tachMark ucfg.tachs = ucfg.tachs := tables.fanConfig.lists_iff (fun _ => rfl) rfl
  have pwmConfig : Lists (· ≠ []) outcome.2.data.pwmConfig
      ((List.range ucfg.fans).map fun _ => pwmChannelAttrs) ↔
        max fanMark ucfg.fans = ucfg.fans := tables.pwmConfig.lists_iff (fun _ => rfl) rfl
  have presentPtrs : Lists Option.isSome outcome.2.data.presentPtrs
      ((List.range ucfg.fans).map fun i : Nat => some ((i : Int) + 1)) ↔
        max fanMark ucfg.fans = ucfg.fans := tables.presentPtrs.lists_iff (fun _ => rfl) rfl
  have below := history.watchdogs
  constructor
  · intro exactly past member other accepted
    have tachs : tachMark ≤ ucfg.tachs := max_eq_right_iff.mp (fanConfig.mp exactly.fanConfig)
    have fans : fanMark ≤ ucfg.fans := max_eq_right_iff.mp (pwmConfig.mp exactly.pwmConfig)
    have none : client.hwmonDevices = 0 := by
      have one := exactly.hwmonDevices
      omega
    refine ⟨?_, (history.tachs _).mp tachs past member other accepted,
      (history.fans _).mp fans past member other accepted⟩
    exact history.hwmonDevices.mp none past member (by rw [accepted]; rfl)
  · intro harmless
    have tachs : max tachMark ucfg.tachs = ucfg.tachs :=
      Nat.max_eq_right ((history.tachs _).mpr fun past member other accepted =>
        (harmless past member other accepted).2.1)
    have fans : max fanMark ucfg.fans = ucfg.fans :=
      Nat.max_eq_right ((history.fans _).mpr fun past member other accepted =>
        (harmless past member other accepted).2.2)
    have none : client.hwmonDevices = 0 := by
      refine history.hwmonDevices.mpr fun past member isSome => ?_
      obtain ⟨other, accepted⟩ := Option.isSome_iff_exists.mp isSome
      exact (harmless past member other accepted).1
    exact ⟨fanConfig.mpr tachs, pwmConfig.mpr fans, presentPtrs.mpr fans, by omega, by omega⟩

/-- After the first request that returns 0, and any requests after it, the tables
are those of its configuration and one hwmon device and one watchdog exist
exactly when every failed request before it was harmless. This holds for every
CPLD, every parameter of the module and every pattern of failures.

Proof: the marks of the tables are the largest numbers asked for so far, and
every registration counts. -/
theorem configured_exactly_iff (state : S × BitVec 32) (earlier later : List ConfigureRequest)
    (request : ConfigureRequest) (ucfg : IoctlConfig) (asked : request.ucfg = some ucfg)
    (failed : ∀ ret ∈ (serve cpld wdtTimeout watchdogInitTimeout earlier
      (Client.probed, state)).1, ret ≠ 0)
    (succeeded : (serveOne cpld wdtTimeout watchdogInitTimeout request
      (serve cpld wdtTimeout watchdogInitTimeout earlier (Client.probed, state)).2).1 = 0) :
    ConfiguredExactly ucfg (serve cpld wdtTimeout watchdogInitTimeout
        (earlier ++ request :: later) (Client.probed, state)).2.1 ↔
      ∀ past ∈ earlier, past.Harmless ucfg := by
  obtain ⟨tachMark, fanMark, history⟩ := History.run cpld wdtTimeout watchdogInitTimeout
    earlier (Client.probed, state) History.probed failed
  rw [List.nil_append] at history
  generalize before : (serve cpld wdtTimeout watchdogInitTimeout earlier
    (Client.probed, state)).2 = middle at history succeeded
  have accepted : request.accepted = some ucfg := by
    cases refused : request.accepted with
    | none =>
      have outcome := (configure_refused wdtTimeout watchdogInitTimeout request middle.1
        (Or.inl refused)).result (withTimeout cpld) middle.2
      exact absurd succeeded outcome.1
    | some other =>
      have copied := (ConfigureRequest.accepted_eq_some.mp refused).1
      rw [asked] at copied
      exact copied.symm
  have valid := (ConfigureRequest.accepted_eq_some.mp accepted).2
  have attempted := (configure_attempted wdtTimeout watchdogInitTimeout request ucfg middle.1
    accepted history.unconfigured).result (withTimeout cpld) middle.2
  have after : (serve cpld wdtTimeout watchdogInitTimeout (earlier ++ request :: later)
      (Client.probed, state)).2.1 =
      (serveOne cpld wdtTimeout watchdogInitTimeout request middle).2.1 := by
    rw [serve_append, before]
    exact configured_kept cpld wdtTimeout watchdogInitTimeout later _
      (attempted.configured.mpr succeeded)
  rw [after]
  exact history.configured_exactly valid attempted succeeded

end Sequences

/-- A CPLD that reads zero and takes every write. -/
def quietCpld : SmbusDevice Unit
  | .readByteData _, s => (.ok 0, s)
  | .writeByteData _ _, s => (.ok (), s)

/-- A request for `numFans` fans with one tachometer each, for which everything
succeeds but perhaps the hwmon device. -/
def fansRequest (numFans : BitVec 32) (hwmonRegister : Int) : ConfigureRequest where
  ucfg := some ⟨numFans, 100, 150, 0, 1⟩
  hwmonRegister := hwmonRegister
  wdtAllocated := true
  wdtRegister := 0
  ledsAllocated := true
  ledRegister := fun _ => 0

/-- The parameter is always taken. -/
def anyTimeout (_timeout _maxTimeout timeoutParm : BitVec 32) : BitVec 32 × Int :=
  (timeoutParm, 0)

/-- A request that failed for fewer fans leaves nothing for the next one. -/
theorem larger_retry_exact :
    ConfiguredExactly ⟨8, 100, 150, 0, 1⟩
      (serve quietCpld wdtDftTimeout anyTimeout [fansRequest 1 (-enomem), fansRequest 8 0]
        (Client.probed, (), 0)).2.1 :=
  (configured_exactly_iff quietCpld wdtDftTimeout anyTimeout ((), 0) [fansRequest 1 (-enomem)] []
    (fansRequest 8 0) ⟨8, 100, 150, 0, 1⟩ rfl (by decide +kernel) (by decide +kernel)).mpr (by
      intro past member other accepted
      rw [List.mem_singleton.mp member] at accepted ⊢
      have same : (⟨1, 100, 150, 0, 1⟩ : IoctlConfig) = other := Option.some.inj accepted
      subst same
      exact ⟨by decide, by decide, by decide⟩)

/-- After a request for eight fans that failed at the hwmon device, a request for
one fan succeeds with eight channels registered. -/
theorem smaller_retry_inexact :
    (serve quietCpld wdtDftTimeout anyTimeout [fansRequest 8 (-enomem), fansRequest 1 0]
      (Client.probed, (), 0)).1 = [-enomem, 0] ∧
    ¬ConfiguredExactly ⟨1, 100, 150, 0, 1⟩
      (serve quietCpld wdtDftTimeout anyTimeout [fansRequest 8 (-enomem), fansRequest 1 0]
        (Client.probed, (), 0)).2.1 := by
  refine ⟨by decide +kernel, fun exactly => ?_⟩
  have listed := congrArg List.length exactly.fanConfig.1
  exact absurd listed (by decide +kernel)

end FbossBsp.Fbfancpld
