import FbossBsp.PanelLamps

/-!
# The front-panel LEDs while they come up

The devices of an LED are used by any number of threads as soon as the probe has
registered them, and the probe goes on without the lock, also with reads of the LEDs
that are in use. Still no update is lost: until its first device is there only the
probe writes an LED, and from then on only the holder of the lock does.

In every interleaving each LED is a lamp of one color. It is blue when its first
device appears, unless the transfer fails, and the calls then change it one after
the other.
-/

namespace FbossBsp.PanelLeds

open Interaction

variable {driver : PanelDriver} {User : Type}

section Panel

variable {requests : User → LedRequest driver} {start : Cpld} {s : Panel (Option User)}

/-! ## Users -/

variable (requests start s) in
/-- A user has taken effect, and its result is the one of a lamp at this place. -/
def Answered (user : User) (ret : Int) : Prop :=
  ∃ before event after, s.journal = before ++ (some user, event) :: after ∧
    (∀ entry ∈ after, entry.1 ≠ some user) ∧
    (requests user).Answers
      (litAfter requests (requests user).led (lit driver (requests user).led start) before)
      event ret

variable (requests start s) in
/-- Where a user is. Between its read and its write the holder of the lock knows
the register. -/
inductive UserAt (user : User) : PanelIo Int → Prop
  | opening (free : s.holder ≠ some (some user)) : UserAt user (requests user).program
  | getting (free : s.holder ≠ some (some user)) (published : (requests user).ldata ∈ s.devices)
      (led : LedsInfo) (listed : led ∈ driver.ledsTable) (color : LedColor)
      (same : requests user = .get led listed color) :
      UserAt user (onPanel (driver.brightnessGet (driver.ldata led color)))
  | locking (free : s.holder ≠ some (some user)) (published : (requests user).ldata ∈ s.devices)
      (call : LedCall driver) (same : requests user = .set call) :
      UserAt user (.perform .lock fun _ => call.underLock)
  | reading (held : s.holder = some (some user)) (published : (requests user).ldata ∈ s.devices)
      (call : LedCall driver) (same : requests user = .set call) : UserAt user call.underLock
  | writing (held : s.holder = some (some user)) (published : (requests user).ldata ∈ s.devices)
      (call : LedCall driver) (same : requests user = .set call) :
      UserAt user (.perform (.transfer (.writeByteData call.led.regAddr
        (call.stored (s.cpld.registers call.led.regAddr)))) fun reply =>
          unlockWith (writeResult reply))
  | unlocking (held : s.holder = some (some user)) (ret : Int)
      (answered : Answered requests start s user ret) : UserAt user (unlockWith ret)
  | returned (free : s.holder ≠ some (some user)) (ret : Int)
      (answered : Answered requests start s user ret) : UserAt user (.done ret)

omit requests start in
/-- An LED with a published device is not unpublished. -/
theorem not_unpublished {request : LedRequest driver} (published : request.ldata ∈ s.devices) :
    ¬Unpublished driver request.led s.devices := by
  intro unpublished
  cases request with
  | get led listed color => exact unpublished color published
  | set call => exact unpublished call.color published

/-- What a user has done stays done. -/
theorem Answered.beside {user : User} {ret : Int} (answered : Answered requests start s user ret)
    {thread : Option User} {after : Panel (Option User)} (step : StepOf driver thread s after)
    (other : some user ≠ thread) : Answered requests start after user ret := by
  obtain ⟨before, event, later, split, last, answers⟩ := answered
  obtain ⟨new, grown, made⟩ := step.journal
  refine ⟨before, event, later ++ new, by simp [grown, split], ?_, answers⟩
  intro entry member
  obtain old | fresh := List.mem_append.mp member
  · exact last entry old
  · rw [made entry fresh]
    exact other.symm

/-- Steps of others leave a user where it is. -/
theorem UserAt.beside {user : User} {program : PanelIo Int}
    (place : UserAt requests start s user program) {thread : Option User}
    {after : Panel (Option User)} (step : StepOf driver thread s after)
    (other : some user ≠ thread) : UserAt requests start after user program := by
  have holder := step.holder user other
  cases place with
  | opening free => exact .opening (fun held => free (holder.mp held))
  | getting free published led listed color same =>
    have still : after.holder ≠ some (some user) := fun held => free (holder.mp held)
    exact .getting still (step.devices published) led listed color same
  | locking free published call same =>
    have still : after.holder ≠ some (some user) := fun held => free (holder.mp held)
    exact .locking still (step.devices published) call same
  | reading held published call same =>
    exact .reading (holder.mpr held) (step.devices published) call same
  | writing held published call same =>
    have kept : after.cpld.registers call.led.regAddr = s.cpld.registers call.led.regAddr := by
      have visible := not_unpublished published
      rw [same] at visible
      obtain kept | ⟨_, hidden⟩ | ⟨elsewhere, _⟩ := step.writes call.led call.listed
      · exact kept
      · exact absurd hidden visible
      · exact absurd (Option.some.inj (held.symm.trans elsewhere)) other
    rw [← kept]
    exact .writing (holder.mpr held) (step.devices published) call same
  | unlocking held ret answered =>
    exact .unlocking (holder.mpr held) ret (answered.beside step other)
  | returned free ret answered =>
    exact .returned (fun held => free (holder.mp held)) ret (answered.beside step other)

variable (requests start s) in
/-- A step of a user: the user moves on, what holds is kept, and the others see
nothing that they do not expect. -/
structure UserStep (user : User) (rest : PanelIo Int) (after : Panel (Option User)) : Prop where
  place : UserAt requests start after user rest
  kept : Kept requests start after
  step : StepOf driver (some user) s after
  devices : after.devices = s.devices

omit requests start in
/-- A step without a transfer. -/
theorem StepOf.still {thread : Option User} {after : Panel (Option User)}
    (cpld : after.cpld = s.cpld) (devices : after.devices = s.devices)
    (journal : after.journal = s.journal)
    (holder : ∀ user, some user ≠ thread →
      (after.holder = some (some user) ↔ s.holder = some (some user))) :
    StepOf driver thread s after where
  devices := by
    rw [devices]
    exact fun _ member => member
  journal := ⟨[], by simp [journal], fun _ member => absurd member List.not_mem_nil⟩
  holder := holder
  writes := by
    rw [cpld]
    exact fun _ _ => Or.inl rfl

/-- A transfer by which a request takes effect. -/
theorem answered_now {user : User} {op : SmbusOp} {ret : Int} (kept : Kept requests start s)
    (answers : (requests user).Answers (lit driver (requests user).led s.cpld)
      ⟨op, (cpld op s.cpld).1⟩ ret) :
    Answered requests start (s.transferred (some user) op) user ret := by
  refine ⟨s.journal, ⟨op, (cpld op s.cpld).1⟩, [], rfl, ?_, ?_⟩
  · exact fun _ member => absurd member List.not_mem_nil
  · rw [← kept.shows _ (requests user).listed]
    exact answers

/-- `brightness_get` reads the color of its LED. -/
theorem get_step {user : User} (kept : Kept requests start s)
    (free : s.holder ≠ some (some user)) (published : (requests user).ldata ∈ s.devices)
    {led : LedsInfo} {listed : led ∈ driver.ledsTable} {color : LedColor}
    (same : requests user = .get led listed color) :
    UserStep requests start s user
      (driver.getReply color (cpld (.readByteData led.regAddr) s.cpld).1)
      (s.transferred (some user) (.readByteData led.regAddr)) := by
  have visible := not_unpublished published
  rw [same] at visible
  have still : (s.transferred (some user) (.readByteData led.regAddr)).holder ≠ some (some user) :=
    free
  refine ⟨?_, ?_, .read _ _, rfl⟩
  · have answers (ret : Int)
        (now : (LedRequest.get led listed color).Answers (lit driver led s.cpld)
          ⟨.readByteData led.regAddr, (cpld (.readByteData led.regAddr) s.cpld).1⟩ ret) :
        UserAt requests start (s.transferred (some user) (.readByteData led.regAddr)) user
          (.done ret) := by
      refine .returned still ret (answered_now kept ?_)
      rw [same]
      exact now
    cases outcome : s.cpld.outcome with
    | some errno =>
      simp only [cpld, outcome] at answers ⊢
      exact answers _ ⟨rfl, rfl⟩
    | none =>
      simp only [cpld, outcome] at answers ⊢
      exact answers _ ⟨rfl, rfl⟩
  · exact kept.read listed fun _ => visible

/-- Under the lock `brightness_set` first reads the register of its LED. -/
theorem read_step {user : User} (kept : Kept requests start s)
    (held : s.holder = some (some user)) (published : (requests user).ldata ∈ s.devices)
    {call : LedCall driver} (same : requests user = .set call) :
    UserStep requests start s user
      (call.setReply (cpld (.readByteData call.led.regAddr) s.cpld).1)
      (s.transferred (some user) (.readByteData call.led.regAddr)) := by
  have visible := not_unpublished published
  rw [same] at visible
  have still : (s.transferred (some user) (.readByteData call.led.regAddr)).holder =
      some (some user) := held
  refine ⟨?_, ?_, .read _ _, rfl⟩
  · cases outcome : s.cpld.outcome with
    | some errno =>
      have now : Answered requests start
          (s.transferred (some user) (.readByteData call.led.regAddr)) user (-errno.code) := by
        apply answered_now kept
        rw [same]
        simp only [cpld, outcome]
        exact ⟨rfl, rfl⟩
      simp only [cpld, outcome]
      exact .unlocking still _ now
    | none =>
      have unchanged : (s.transferred (some user) (.readByteData call.led.regAddr)).cpld.registers =
          s.cpld.registers := transferred_registers s _ _
      simp only [cpld, outcome]
      rw [← unchanged]
      exact .writing still published call same
  · exact kept.read call.listed fun _ => visible

/-- The write of `brightness_set` turns its LED. -/
theorem write_step {user : User} (kept : Kept requests start s)
    (held : s.holder = some (some user)) (published : (requests user).ldata ∈ s.devices)
    {call : LedCall driver} (same : requests user = .set call) :
    let op := SmbusOp.writeByteData call.led.regAddr
      (call.stored (s.cpld.registers call.led.regAddr))
    UserStep requests start s user (unlockWith (writeResult (cpld op s.cpld).1))
      (s.transferred (some user) op) := by
  intro op
  have visible := not_unpublished published
  rw [same] at visible
  have still : (s.transferred (some user) op).holder = some (some user) := held
  refine ⟨?_, ?_, .write call.listed _ (Or.inr ⟨held, visible⟩), rfl⟩
  · refine .unlocking still _ (answered_now kept ?_)
    rw [same]
    exact ⟨rfl, rfl⟩
  · apply kept.transfer call.listed rfl (fun _ => visible)
    · exact fun probe => absurd probe (Option.some_ne_none user)
    · intro val write
      obtain rfl := (SmbusOp.writeByteData.inj write).2
      rw [shown_stored, turned, same]
      rfl
    · intro val write
      obtain rfl := (SmbusOp.writeByteData.inj write).2
      exact stored_outside call _

/-- What a thread has left to do after the next operation of its program, and
the panel then. -/
def stepped (thread : Option User) (s : Panel (Option User)) :
    PanelIo Int → Option (PanelIo Int × Panel (Option User))
  | .done _ => none
  | .perform op next => (panel thread op s).map fun answer => (next answer.1, answer.2)

/-- An opened device is used. -/
theorem opened_at {user : User} (free : s.holder ≠ some (some user))
    (published : (requests user).ldata ∈ s.devices) :
    UserAt requests start s user (requests user).body := by
  cases same : requests user with
  | get led listed color => exact .getting free published led listed color same
  | set call =>
    have run : (LedRequest.set call).body = .perform .lock fun _ => call.underLock :=
      brightness_set_locked_eq call
    rw [run]
    exact .locking free published call same

/-- Every step of a user is one of these. -/
theorem UserAt.advance {user : User} {program rest : PanelIo Int} {after : Panel (Option User)}
    (place : UserAt requests start s user program) (kept : Kept requests start s)
    (moved : stepped (some user) s program = some (rest, after)) :
    UserStep requests start s user rest after := by
  cases place with
  | opening free =>
    obtain ⟨_, answered, same⟩ := Option.map_eq_some_iff.mp moved
    obtain ⟨published, opened⟩ := Option.ite_none_right_eq_some.mp answered
    obtain rfl := Option.some.inj opened
    obtain ⟨rfl, rfl⟩ := Prod.mk.inj same
    exact ⟨opened_at free published, kept, .still rfl rfl rfl fun _ _ => Iff.rfl, rfl⟩
  | getting free published led listed color request =>
    rw [brightness_get_eq driver listed] at moved
    obtain ⟨rfl, rfl⟩ := Prod.mk.inj (Option.some.inj moved)
    exact get_step kept free published request
  | locking free published call request =>
    obtain ⟨_, answered, same⟩ := Option.map_eq_some_iff.mp moved
    obtain ⟨idle, locked⟩ := Option.ite_none_left_eq_some.mp answered
    obtain rfl := Option.some.inj locked
    obtain ⟨rfl, rfl⟩ := Prod.mk.inj same
    have noHolder : s.holder = none := by simpa using idle
    have taken : ({ s with holder := some (some user) } : Panel (Option User)).holder =
        some (some user) := rfl
    refine ⟨.reading taken published call request, kept.same rfl rfl rfl, ?_, rfl⟩
    refine .still rfl rfl rfl fun other different => ?_
    exact iff_of_false (fun mine => different (Option.some.inj mine).symm) (by simp [noHolder])
  | reading held published call request =>
    obtain ⟨rfl, rfl⟩ := Prod.mk.inj (Option.some.inj moved)
    exact read_step kept held published request
  | writing held published call request =>
    obtain ⟨rfl, rfl⟩ := Prod.mk.inj (Option.some.inj moved)
    exact write_step kept held published request
  | unlocking held ret answered =>
    obtain ⟨rfl, rfl⟩ := Prod.mk.inj (Option.some.inj moved)
    refine ⟨.returned (by simp) ret answered, kept.same rfl rfl rfl, ?_, rfl⟩
    refine .still rfl rfl rfl fun other different => ?_
    exact iff_of_false (by simp) fun theirs => different (Option.some.inj (theirs.symm.trans held))
  | returned free ret answered => cases moved

/-! ## The probe -/

variable (driver s) in
/-- Where the probe is, and the devices that it has registered. The register of
an LED without devices holds what the probe has read. -/
inductive ProbeAt : PanelIo Int → Prop
  | next (past todo : List LedsInfo) (table : driver.ledsTable = past ++ todo)
      (devices : s.devices = driver.devicesOf past) : ProbeAt (driver.initFrom todo)
  | writing (past : List LedsInfo) (led : LedsInfo) (todo : List LedsInfo)
      (table : driver.ledsTable = past ++ led :: todo)
      (devices : s.devices = driver.devicesOf past) :
      ProbeAt (.perform (.transfer (.writeByteData led.regAddr
        (driver.selector.select (s.cpld.registers led.regAddr) .blue)))
          fun _ => driver.colorsFrom led driver.selector.all todo)
  | registering (past : List LedsInfo) (led : LedsInfo) (todo : List LedsInfo)
      (table : driver.ledsTable = past ++ led :: todo) (shown : List LedColor) (color : LedColor)
      (colors : List LedColor) (all : driver.selector.all = shown ++ color :: colors)
      (devices : s.devices = driver.devicesOf past ++ shown.map (driver.ldata led))
      (written : Defaulted led s.journal) : ProbeAt (driver.colorsFrom led (color :: colors) todo)
  | updating (past : List LedsInfo) (led : LedsInfo) (todo : List LedsInfo)
      (table : driver.ledsTable = past ++ led :: todo) (shown colors : List LedColor)
      (all : driver.selector.all = shown ++ colors)
      (devices : s.devices = driver.devicesOf past ++ shown.map (driver.ldata led))
      (written : Defaulted led s.journal) (ldata : LedsData) :
      ProbeAt (.perform (.transfer (.readByteData led.regAddr)) fun _ =>
        .perform (.triggerInit ldata) fun _ => driver.colorsFrom led colors todo)
  | triggering (past : List LedsInfo) (led : LedsInfo) (todo : List LedsInfo)
      (table : driver.ledsTable = past ++ led :: todo) (shown colors : List LedColor)
      (all : driver.selector.all = shown ++ colors)
      (devices : s.devices = driver.devicesOf past ++ shown.map (driver.ldata led))
      (written : Defaulted led s.journal) (ldata : LedsData) :
      ProbeAt (.perform (.triggerInit ldata) fun _ => driver.colorsFrom led colors todo)
  | failed (ret : Int) (nonzero : ret ≠ 0)
      (missing : ∃ device rest, driver.devicesOf driver.ledsTable =
        s.devices ++ device :: rest) : ProbeAt (.done ret)

/-- The devices of two lists of LEDs are those of the first and then those of the
second. -/
theorem devices_of_append (first second : List LedsInfo) :
    driver.devicesOf (first ++ second) = driver.devicesOf first ++ driver.devicesOf second :=
  List.flatMap_append

/-- The devices of an LED come before those of the LEDs after it. -/
theorem devices_of_cons (led : LedsInfo) (rest : List LedsInfo) :
    driver.devicesOf (led :: rest) =
      driver.selector.all.map (driver.ldata led) ++ driver.devicesOf rest := rfl

/-- An LED after those that are up has no device yet. -/
theorem unpublished_next {past : List LedsInfo} {led : LedsInfo} {todo : List LedsInfo}
    (table : driver.ledsTable = past ++ led :: todo) :
    Unpublished driver led (driver.devicesOf past) := by
  intro color member
  obtain ⟨earlier, before, device⟩ := List.mem_flatMap.mp member
  obtain ⟨shade, _, same⟩ := List.mem_map.mp device
  have listed : led ∈ driver.ledsTable := by simp [table]
  have earlierListed : earlier ∈ driver.ledsTable := by simp [table, before]
  obtain rfl : earlier = led :=
    led_eq driver earlierListed listed (congrArg LedsData.regAddr same)
  have nodup : driver.ledsTable.Nodup := by cases driver <;> decide
  rw [table, List.nodup_append] at nodup
  exact nodup.2.2 earlier before earlier List.mem_cons_self rfl

/-- The colors of an LED that are not registered yet, if any. -/
theorem ProbeAt.colors {past : List LedsInfo} {led : LedsInfo} {todo : List LedsInfo}
    (table : driver.ledsTable = past ++ led :: todo) {shown colors : List LedColor}
    (all : driver.selector.all = shown ++ colors)
    (devices : s.devices = driver.devicesOf past ++ shown.map (driver.ldata led))
    (written : Defaulted led s.journal) : ProbeAt driver s (driver.colorsFrom led colors todo) := by
  cases colors with
  | cons color colors =>
    exact .registering past led todo table shown color colors all devices written
  | nil =>
    rw [colors_from_nil]
    apply ProbeAt.next (past ++ [led]) todo (by simp [table])
    rw [devices, devices_of_append, devices_of_cons, all, List.append_nil]
    simp [PanelDriver.devicesOf]

/-- Steps of users leave the probe where it is. -/
theorem ProbeAt.beside {program : PanelIo Int} (place : ProbeAt driver s program) {user : User}
    {after : Panel (Option User)} (step : StepOf driver (some user) s after)
    (devices : after.devices = s.devices) : ProbeAt driver after program := by
  obtain ⟨new, grown, _⟩ := step.journal
  have stays {led : LedsInfo} (written : Defaulted led s.journal) :
      Defaulted led after.journal := by
    obtain ⟨val, reply, member⟩ := written
    exact ⟨val, reply, grown ▸ List.mem_append_left _ member⟩
  cases place with
  | next past todo table shown => exact .next past todo table (devices.trans shown)
  | writing past led todo table shown =>
    have hidden := unpublished_next table
    rw [← shown] at hidden
    have kept : after.cpld.registers led.regAddr = s.cpld.registers led.regAddr := by
      obtain kept | ⟨probe, _⟩ | ⟨_, visible⟩ := step.writes led (by simp [table])
      · exact kept
      · cases probe
      · exact absurd hidden visible
    rw [← kept]
    exact .writing past led todo table (devices.trans shown)
  | registering past led todo table shown color colors all are written =>
    exact .registering past led todo table shown color colors all (devices.trans are)
      (stays written)
  | updating past led todo table shown colors all are written ldata =>
    exact .updating past led todo table shown colors all (devices.trans are)
      (stays written) ldata
  | triggering past led todo table shown colors all are written ldata =>
    exact .triggering past led todo table shown colors all (devices.trans are)
      (stays written) ldata
  | failed ret nonzero missing => exact .failed ret nonzero (devices ▸ missing)

variable (requests start s) in
/-- A step of the probe: it moves on, what holds is kept, and the users see
nothing that they do not expect. -/
structure ProbeStep (rest : PanelIo Int) (after : Panel (Option User)) : Prop where
  place : ProbeAt driver after rest
  kept : Kept requests start after
  step : StepOf driver none s after

/-- The probe reads the register of the next LED. -/
theorem probe_read_step (kept : Kept requests start s) {past : List LedsInfo} {led : LedsInfo}
    {todo : List LedsInfo} (table : driver.ledsTable = past ++ led :: todo)
    (devices : s.devices = driver.devicesOf past) :
    ProbeStep requests start s
      (driver.writeFrom led todo (cpld (.readByteData led.regAddr) s.cpld).1)
      (s.transferred none (.readByteData led.regAddr)) := by
  have listed : led ∈ driver.ledsTable := by simp [table]
  have hidden := unpublished_next table
  rw [← devices] at hidden
  have still : (s.transferred none (.readByteData led.regAddr)).devices = driver.devicesOf past :=
    devices
  refine ⟨?_, kept.read listed fun user => absurd rfl user, .read _ _⟩
  cases outcome : s.cpld.outcome with
  | some errno =>
    have whole : driver.devicesOf driver.ledsTable = driver.devicesOf past ++
        (driver.selector.all.map (driver.ldata led) ++ driver.devicesOf todo) := by
      rw [table, devices_of_append, devices_of_cons]
    obtain ⟨color, colors, all⟩ : ∃ color colors, driver.selector.all = color :: colors := by
      cases driver <;> exact ⟨_, _, rfl⟩
    simp only [cpld, outcome]
    refine .failed _ (errno_negative errno).ne ⟨driver.ldata led color,
      colors.map (driver.ldata led) ++ driver.devicesOf todo, ?_⟩
    rw [whole, still, all]
    rfl
  | none =>
    have unchanged : (s.transferred none (.readByteData led.regAddr)).cpld.registers =
        s.cpld.registers := transferred_registers s _ _
    simp only [cpld, outcome]
    rw [← unchanged]
    exact .writing past led todo table still

/-- The probe writes the default color. -/
theorem probe_write_step (kept : Kept requests start s) {past : List LedsInfo} {led : LedsInfo}
    {todo : List LedsInfo} (table : driver.ledsTable = past ++ led :: todo)
    (devices : s.devices = driver.devicesOf past) :
    ProbeStep requests start s (driver.colorsFrom led driver.selector.all todo)
      (s.transferred none (.writeByteData led.regAddr
        (driver.selector.select (s.cpld.registers led.regAddr) .blue))) := by
  have listed : led ∈ driver.ledsTable := by simp [table]
  have hidden := unpublished_next table
  rw [← devices] at hidden
  refine ⟨?_, ?_, .write listed _ (Or.inl ⟨rfl, hidden⟩)⟩
  · apply ProbeAt.colors table (List.nil_append _).symm
    · exact devices.trans (List.append_nil _).symm
    · exact ⟨_, _, List.mem_append_right _ (List.mem_singleton_self _)⟩
  · apply kept.transfer listed rfl (fun user => absurd rfl user)
    · exact fun _ _ _ => hidden
    · intro val write
      obtain rfl := (SmbusOp.writeByteData.inj write).2
      exact driver.selector.shown_select _ _
    · intro val write
      obtain rfl := (SmbusOp.writeByteData.inj write).2
      exact driver.selector.select_outside _ _

/-- The LED core answers a registration. -/
theorem probe_register_step (kept : Kept requests start s) {past : List LedsInfo} {led : LedsInfo}
    {todo : List LedsInfo} (table : driver.ledsTable = past ++ led :: todo)
    {shown : List LedColor} {color : LedColor} {colors : List LedColor}
    (all : driver.selector.all = shown ++ color :: colors)
    (devices : s.devices = driver.devicesOf past ++ shown.map (driver.ldata led))
    (written : Defaulted led s.journal) :
    ProbeStep requests start s
      (if s.answer ≠ 0 then .done s.answer
        else .perform (.transfer (.readByteData led.regAddr)) fun _ =>
          .perform (.triggerInit (driver.ldata led color)) fun _ =>
            driver.colorsFrom led colors todo)
      (s.registered (driver.ldata led color)) := by
  have listed : led ∈ driver.ledsTable := by simp [table]
  refine ⟨?_, kept.register listed color written, ?_⟩
  · by_cases answer : s.answer = 0
    · have grown : (s.registered (driver.ldata led color)).devices =
          driver.devicesOf past ++ (shown ++ [color]).map (driver.ldata led) := by
        simp [Panel.registered, answer, devices]
      rw [if_neg (not_not.mpr answer)]
      exact .updating past led todo table (shown ++ [color]) colors (by simp [all]) grown
        written _
    · have same : (s.registered (driver.ldata led color)).devices = s.devices := if_neg answer
      rw [if_pos answer]
      refine .failed _ answer ⟨driver.ldata led color,
        colors.map (driver.ldata led) ++ driver.devicesOf todo, ?_⟩
      rw [same, devices, table, devices_of_append, devices_of_cons, all]
      simp
  · refine ⟨?_, ⟨[], by simp [Panel.registered], nofun⟩, fun _ _ => Iff.rfl, fun _ _ => Or.inl rfl⟩
    intro device member
    unfold Panel.registered
    dsimp only
    split
    · exact List.mem_append_left _ member
    · exact member

/-- The LED core reads the brightness of the new device. Users may be at work on the
LED by now, and a read leaves them alone. -/
theorem probe_update_step (kept : Kept requests start s) {past : List LedsInfo} {led : LedsInfo}
    {todo : List LedsInfo} (table : driver.ledsTable = past ++ led :: todo)
    {shown colors : List LedColor} (all : driver.selector.all = shown ++ colors)
    (devices : s.devices = driver.devicesOf past ++ shown.map (driver.ldata led))
    (written : Defaulted led s.journal) (ldata : LedsData) :
    ProbeStep requests start s
      (.perform (.triggerInit ldata) fun _ => driver.colorsFrom led colors todo)
      (s.transferred none (.readByteData led.regAddr)) := by
  have listed : led ∈ driver.ledsTable := by simp [table]
  have still : (s.transferred none (.readByteData led.regAddr)).devices =
      driver.devicesOf past ++ shown.map (driver.ldata led) := devices
  obtain ⟨val, reply, member⟩ := written
  have stays : Defaulted led (s.transferred none (.readByteData led.regAddr)).journal :=
    ⟨val, reply, List.mem_append_left _ member⟩
  exact ⟨.triggering past led todo table shown colors all still stays ldata,
    kept.read listed fun user => absurd rfl user, .read _ _⟩

/-- Every step of the probe is one of these. -/
theorem ProbeAt.advance {program rest : PanelIo Int} {after : Panel (Option User)}
    (place : ProbeAt driver s program) (kept : Kept requests start s)
    (moved : stepped none s program = some (rest, after)) :
    ProbeStep requests start s rest after := by
  cases place with
  | next past todo table devices =>
    cases todo with
    | nil => cases moved
    | cons led todo =>
      rw [init_from_cons driver (by simp [table])] at moved
      obtain ⟨rfl, rfl⟩ := Prod.mk.inj (Option.some.inj moved)
      exact probe_read_step kept table devices
  | writing past led todo table devices =>
    obtain ⟨rfl, rfl⟩ := Prod.mk.inj (Option.some.inj moved)
    exact probe_write_step kept table devices
  | registering past led todo table shown color colors all devices written =>
    rw [colors_from_cons driver (by simp [table])] at moved
    obtain ⟨rfl, rfl⟩ := Prod.mk.inj (Option.some.inj moved)
    exact probe_register_step kept table all devices written
  | updating past led todo table shown colors all devices written ldata =>
    obtain ⟨rfl, rfl⟩ := Prod.mk.inj (Option.some.inj moved)
    exact probe_update_step kept table all devices written ldata
  | triggering past led todo table shown colors all devices written ldata =>
    obtain ⟨rfl, rfl⟩ := Prod.mk.inj (Option.some.inj moved)
    have still : ({ s with answers := s.answers.tail } : Panel (Option User)).devices =
        driver.devicesOf past ++ shown.map (driver.ldata led) := devices
    exact ⟨.colors table all still written, kept.same rfl rfl rfl,
      .still rfl rfl rfl fun _ _ => Iff.rfl⟩
  | failed ret nonzero missing => cases moved

/-- No two devices have one name. -/
theorem device_names_nodup :
    ((driver.devicesOf driver.ledsTable).map LedsData.name).Nodup := by
  cases driver <;> decide +kernel

/-- The probe registers the devices in the order of the table. -/
theorem ProbeAt.registered {program : PanelIo Int} (place : ProbeAt driver s program) :
    s.devices <+: driver.devicesOf driver.ledsTable := by
  have within {past : List LedsInfo} {led : LedsInfo} {todo : List LedsInfo}
      {shown rest : List LedColor} (table : driver.ledsTable = past ++ led :: todo)
      (all : driver.selector.all = shown ++ rest) :
      driver.devicesOf past ++ shown.map (driver.ldata led) <+:
        driver.devicesOf driver.ledsTable := by
    rw [table, devices_of_append, devices_of_cons, all, List.map_append, List.append_assoc]
    exact (List.prefix_append_right_inj _).mpr (List.prefix_append _ _)
  cases place with
  | next past todo table devices =>
    rw [devices, table, devices_of_append]
    exact List.prefix_append _ _
  | writing past led todo table devices =>
    rw [devices, table, devices_of_append]
    exact List.prefix_append _ _
  | registering past led todo table shown color colors all devices written =>
    exact devices ▸ within table all
  | updating past led todo table shown colors all devices written ldata =>
    exact devices ▸ within table all
  | triggering past led todo table shown colors all devices written ldata =>
    exact devices ▸ within table all
  | failed ret nonzero missing =>
    obtain ⟨device, rest, whole⟩ := missing
    exact whole ▸ List.prefix_append _ _

/-- The probe succeeds exactly where all devices are registered. -/
theorem ProbeAt.ended {program : PanelIo Int} (place : ProbeAt driver s program) {ret : Int}
    (finished : program = .done ret) :
    ret = 0 ↔ s.devices = driver.devicesOf driver.ledsTable := by
  cases place with
  | next past todo table devices =>
    cases todo with
    | nil =>
      obtain rfl : 0 = ret := Program.done.inj finished
      exact iff_of_true rfl (by rw [devices, table, List.append_nil])
    | cons led todo =>
      rw [init_from_cons driver (by simp [table])] at finished
      cases finished
  | writing past led todo table devices => cases finished
  | registering past led todo table shown color colors all devices written =>
    rw [colors_from_cons driver (by simp [table])] at finished
    cases finished
  | updating past led todo table shown colors all devices written ldata => cases finished
  | triggering past led todo table shown colors all devices written ldata => cases finished
  | failed last nonzero missing =>
    obtain rfl := Program.done.inj finished
    obtain ⟨device, rest, whole⟩ := missing
    refine iff_of_false nonzero fun same => ?_
    rw [same] at whole
    exact List.cons_ne_nil device rest (List.append_right_eq_self.mp whole.symm)

/-- A user that has returned has been answered. -/
theorem UserAt.ended {user : User} {program : PanelIo Int}
    (place : UserAt requests start s user program) {ret : Int} (finished : program = .done ret) :
    Answered requests start s user ret := by
  cases place with
  | opening free => cases finished
  | getting free published led listed color same =>
    rw [brightness_get_eq driver listed] at finished
    cases finished
  | locking free published call same => cases finished
  | reading held published call same => cases finished
  | writing held published call same => cases finished
  | unlocking held last answered => cases finished
  | returned free last answered =>
    obtain rfl := Program.done.inj finished
    exact answered

/-- The holder of the lock never waits. -/
theorem UserAt.unblocked {user : User} {program : PanelIo Int}
    (place : UserAt requests start s user program) (holds : s.holder = some (some user)) :
    ∃ op next, program = .perform op next ∧ (panel (some user) op s).isSome := by
  cases place with
  | opening free => exact absurd holds free
  | getting free published led listed color same => exact absurd holds free
  | locking free published call same => exact absurd holds free
  | reading held published call same => exact ⟨_, _, rfl, rfl⟩
  | writing held published call same => exact ⟨_, _, rfl, rfl⟩
  | unlocking held ret answered => exact ⟨_, _, rfl, rfl⟩
  | returned free ret answered => exact absurd holds free

/-! ## Runs -/

variable (requests start) in
/-- What holds in every state of a run. -/
structure Running (pool : Pool (Option User) PanelOp PanelOp.Reply Int (Panel (Option User))) :
    Prop where
  probe : ProbeAt driver pool.shared (pool.program none)
  user : ∀ user, UserAt requests start pool.shared user (pool.program (some user))
  kept : Kept requests start pool.shared

variable (requests start) in
/-- Before the first step. -/
theorem probed_running (answers : List Int) :
    Running requests start (probedPool driver requests start answers) where
  probe := by
    have run : (probedPool driver requests start answers).program none = driver.ledsInit := rfl
    rw [run, leds_init_eq]
    exact .next [] driver.ledsTable rfl rfl
  user := by
    intro user
    exact .opening nofun
  kept := {
    shows := fun _ _ => rfl
    untouched := fun _ _ _ _ member => absurd member List.not_mem_nil
    ordered := by
      intro before command val reply after split
      exact absurd split.symm (by simp [probedPool])
    defaulted := fun _ _ published => absurd (fun _ => List.not_mem_nil) published
    outside := fun _ => rfl
    others := fun _ _ => rfl }

variable [DecidableEq User]
variable {pool next : Pool (Option User) PanelOp PanelOp.Reply Int (Panel (Option User))}

/-- Every step goes from such a state to such a state. -/
theorem Running.advance (running : Running requests start pool) {thread : Option User}
    (advanced : pool.advance panel thread = some next) : Running requests start next := by
  obtain ⟨op, continuation, reply, after, current, answered, rfl⟩ := Pool.advance_cases advanced
  have moved : stepped thread pool.shared (pool.program thread) =
      some (continuation reply, after) := by
    rw [current]
    exact congrArg (Option.map _) answered
  cases thread with
  | none =>
    have probe := running.probe.advance running.kept moved
    refine ⟨by simpa using probe.place, fun user => ?_, probe.kept⟩
    simpa using (running.user user).beside probe.step nofun
  | some user =>
    have own := (running.user user).advance running.kept moved
    refine ⟨by simpa using running.probe.beside own.step own.devices, fun other => ?_, own.kept⟩
    by_cases same : other = user
    · subst same
      simpa using own.place
    · have different : some other ≠ some user := fun equal => same (Option.some.inj equal)
      simpa [same] using (running.user other).beside own.step different

/-- The thread with the lock can move on. -/
theorem Running.unblocked (running : Running requests start pool) {user : User}
    (holds : pool.shared.holder = some (some user)) :
    ∃ next, pool.advance panel (some user) = some next := by
  obtain ⟨op, continuation, current, answered⟩ := (running.user user).unblocked holds
  obtain ⟨answer, same⟩ := Option.isSome_iff_exists.mp answered
  refine ⟨⟨answer.2, Function.update pool.program (some user) (continuation answer.1)⟩, ?_⟩
  rw [Pool.advance, current]
  simp only [same, Option.map_some]

end Panel

variable (requests : User → LedRequest driver) (start : Cpld) in
/-- The probe and the users of the LEDs after some steps: each LED has the color
of a lamp that the transfers of the journal have turned one after the other; a
call that has returned has seen the lamp at its place in the journal; the probe has
written an LED for the last time before the first transfer of a user with it, and
only reads it from then on; the devices are those of the table in order, with names
of their own, all of them exactly where the probe has succeeded, each after the
default color of its LED; the holder of the lock is never stuck; and no other bit
has changed. -/
structure Lamps [DecidableEq User]
    (pool : Pool (Option User) PanelOp PanelOp.Reply Int (Panel (Option User))) : Prop where
  shows : ∀ led ∈ driver.ledsTable, lit driver led pool.shared.cpld =
    litAfter requests led (lit driver led start) pool.shared.journal
  returned : ∀ user ret, pool.program (some user) = .done ret →
    Answered requests start pool.shared user ret
  ordered : ∀ before command val reply after,
    pool.shared.journal = before ++ (none, ⟨.writeByteData command val, reply⟩) :: after →
      ∀ entry ∈ before, entry.1 ≠ none → commandOf entry.2.op ≠ command
  registered : pool.shared.devices <+: driver.devicesOf driver.ledsTable
  names : (pool.shared.devices.map LedsData.name).Nodup
  probed : ∀ ret, pool.program none = .done ret →
    (ret = 0 ↔ pool.shared.devices = driver.devicesOf driver.ledsTable)
  defaulted : ∀ led ∈ driver.ledsTable, ∀ color, driver.ldata led color ∈ pool.shared.devices →
    Defaulted led pool.shared.journal
  unblocked : ∀ user, pool.shared.holder = some (some user) →
    ∃ next, pool.advance panel (some user) = some next
  outside : ∀ reg, pool.shared.cpld.registers reg &&& ~~~driver.selector.mask =
    start.registers reg &&& ~~~driver.selector.mask
  others : ∀ reg, (∀ led ∈ driver.ledsTable, led.regAddr ≠ reg) →
    pool.shared.cpld.registers reg = start.registers reg

/-- Whatever the registers hold at first, whatever transfers and calls of the LED
core fail, and whatever threads use the devices while the probe is still on its
way: the LEDs are lamps of one color. -/
theorem panel_leds_come_up [DecidableEq User] (requests : User → LedRequest driver) (start : Cpld)
    (answers : List Int) (schedule : List (Option User))
    (last : Pool (Option User) PanelOp PanelOp.Reply Int (Panel (Option User)))
    (ran : (probedPool driver requests start answers).run panel schedule = some last) :
    Lamps requests start last := by
  have running : Running requests start last :=
    Pool.run_invariant (fun _ _ _ running _ advanced => running.advance advanced) schedule
      (probed_running requests start answers) (Pool.meets_true schedule _) ran
  constructor
  case shows => exact running.kept.shows
  case returned => exact fun user ret finished => (running.user user).ended finished
  case ordered => exact running.kept.ordered
  case registered => exact running.probe.registered
  case names => exact device_names_nodup.sublist (running.probe.registered.map _).sublist
  case probed => exact fun ret finished => running.probe.ended finished
  case defaulted =>
    intro led listed color member
    exact running.kept.defaulted led listed fun unpublished => unpublished color member
  case unblocked => exact fun user holds => running.unblocked holds
  case outside => exact running.kept.outside
  case others => exact running.kept.others

/-- The LED that the probe of the SCM CPLD brings up first. -/
def sysLed : LedsInfo := ⟨"sys_led", 0x44, Mp3Scmcpld.fbscmCtlRegLedMask⟩

/-- One user turns the LED green, another one reads the green device. -/
def greenRequests (reader : Bool) : LedRequest .mp3Scmcpld :=
  if reader then .get sysLed (by decide) .green else .set ⟨sysLed, by decide, .green, 1⟩

/-- The devices of the first LED are used before the probe comes to the second one,
which reads the first LED once more while a user holds the lock. -/
theorem green_before_second :
    ∃ last, (probedPool .mp3Scmcpld greenRequests ⟨fun _ => 0xf8, []⟩ []).run panel
        [none, none, none, none, none, none, some false, some false, some false, some false, none,
          some false, some true, some true] = some last ∧
      lit .mp3Scmcpld sysLed last.shared.cpld = some .green ∧
      last.program (some true) = .done 1 := by
  refine ⟨_, rfl, ?_, rfl⟩
  have lamps := panel_leds_come_up greenRequests ⟨fun _ => 0xf8, []⟩ []
    [none, none, none, none, none, none, some false, some false, some false, some false, none,
      some false, some true, some true] _ rfl
  exact (lamps.shows sysLed (by decide)).trans rfl

end FbossBsp.PanelLeds
