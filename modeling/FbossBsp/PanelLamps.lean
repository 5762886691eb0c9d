import FbossBsp.PanelBringUp

/-!
# The front-panel LEDs as lamps

Each LED is a lamp of one color. The probe turns it blue and `brightness_set`
turns it as its call says, each by one write of its register. Read in order, the
transfers with the CPLD tell the color of every lamp, as long as each write is
made by the owner of the LED from what the register holds.
-/

namespace FbossBsp.PanelLeds

open Interaction

variable {driver : PanelDriver} {User : Type}

/-! ## The lamps -/

namespace LedRequest

/-- What a request makes of the color that is lit, when its write succeeds. -/
def turn : LedRequest driver → Option LedColor → Option LedColor
  | .get _ _ _, lit => lit
  | .set call, lit => call.turn lit

/-- A transfer by which a request takes effect, where `lit` is the color of its
LED, and what the request then returns. -/
def Answers (lit : Option LedColor) : LedRequest driver → Event SmbusOp SmbusOp.Reply → Int → Prop
  | .get led _ color, ⟨.readByteData command, reply⟩, ret =>
      command = led.regAddr ∧ ret = match reply with
        | .error errno => -errno.code
        | .ok _ => if lit = some color then ledOn else ledOff
  | .set call, ⟨.readByteData command, .error errno⟩, ret =>
      command = call.led.regAddr ∧ ret = -errno.code
  | .set call, ⟨.writeByteData command _, reply⟩, ret =>
      command = call.led.regAddr ∧ ret = writeResult reply
  | _, _, _ => False

end LedRequest

section Lamps

variable (requests : User → LedRequest driver)

/-- What a thread makes of the color of the LED that it writes. -/
def turned : Option User → Option LedColor → Option LedColor
  | none, _ => some .blue
  | some user, lit => (requests user).turn lit

/-- The color of an LED after a transfer. -/
def moved (led : LedsInfo) (lit : Option LedColor) : Entry (Option User) → Option LedColor
  | (thread, ⟨.writeByteData command _, .ok ()⟩) =>
      if command = led.regAddr then turned requests thread lit else lit
  | _ => lit

/-- The color of an LED after some transfers. -/
def litAfter (led : LedsInfo) (lit : Option LedColor) (journal : List (Entry (Option User))) :
    Option LedColor :=
  journal.foldl (moved requests led) lit

/-- The lamp after one more entry is the lamp before it, moved by that entry. -/
theorem lit_after_concat (led : LedsInfo) (lit : Option LedColor)
    (journal : List (Entry (Option User))) (entry : Entry (Option User)) :
    litAfter requests led lit (journal ++ [entry]) =
      moved requests led (litAfter requests led lit journal) entry :=
  List.foldl_append ..

end Lamps

/-! ## The routines, operation by operation -/

section Routines

variable (driver)

/-- The probe from some color of an LED on. -/
def PanelDriver.colorsFrom (led : LedsInfo) (colors : List LedColor) (todo : List LedsInfo) :
    PanelIo Int := do
  let ret ← registerColors driver.brightnessGet driver.selector.code led colors
  if ret ≠ 0 then return ret
  driver.initFrom todo

/-- After the last color the probe goes on with the next LED. -/
theorem colors_from_nil (led : LedsInfo) (todo : List LedsInfo) :
    driver.colorsFrom led [] todo = driver.initFrom todo := rfl

/-- `brightness_get` after it has read the register of its LED. -/
def PanelDriver.getReply (color : LedColor) : Except Errno (BitVec 8) → PanelIo Int
  | .error errno => .done (-errno.code)
  | .ok byte => .done (if driver.selector.shown byte = some color then ledOn else ledOff)

/-- `brightness_get` reads the register of its LED. -/
theorem brightness_get_eq {led : LedsInfo} (listed : led ∈ driver.ledsTable) (color : LedColor) :
    onPanel (driver.brightnessGet (driver.ldata led color)) =
      .perform (.transfer (.readByteData led.regAddr)) (driver.getReply color) := by
  have run : onPanel (driver.brightnessGet (driver.ldata led color)) =
      .perform (.transfer (.readByteData (BitVec.ofInt 8 led.regAddr.toNat))) fun reply =>
        onPanel (if readResult reply < 0 then .done (readResult reply)
        else .done (if (BitVec.ofInt 32 (readResult reply) &&&
          led.bitsmask.setWidth 32).setWidth 8 = driver.selector.code color then ledOn
            else ledOff)) := by
    cases driver <;> rfl
  rw [run, of_int_passed]
  congr 1
  funext reply
  cases reply with
  | error errno =>
    have negative : readResult (.error errno) < 0 := errno_negative errno
    rw [if_pos negative]
    rfl
  | ok byte =>
    have read : readResult (.ok byte) = byte.toNat := rfl
    have nonnegative : ¬(byte.toNat : Int) < 0 := by omega
    simp only [read, nonnegative, if_false, of_int_byte_and, bitsmask_eq driver listed,
      PanelDriver.getReply, driver.selector.shown_iff]
    rfl

/-- The probe makes the device of a color known and reads the register of its LED once
more.

Proof: the update of the brightness is one read, and its result is not used. -/
theorem colors_from_cons {led : LedsInfo} (listed : led ∈ driver.ledsTable) (color : LedColor)
    (colors : List LedColor) (todo : List LedsInfo) :
    driver.colorsFrom led (color :: colors) todo =
      .perform (.register (driver.ldata led color)) fun ret =>
        if ret ≠ 0 then .done ret
        else .perform (.transfer (.readByteData led.regAddr)) fun _ =>
          .perform (.triggerInit (driver.ldata led color)) fun _ =>
            driver.colorsFrom led colors todo := by
  have run : driver.colorsFrom led (color :: colors) todo =
      .perform (.register (driver.ldata led color)) fun ret =>
        ((if ret ≠ 0 then pure ret
          else onPanel (driver.brightnessGet (driver.ldata led color)) >>= fun _ => pure 0) >>=
            fun ret => if ret ≠ 0 then pure ret
              else .perform (.triggerInit (driver.ldata led color)) fun _ =>
                registerColors driver.brightnessGet driver.selector.code led colors) >>= fun ret =>
                  if ret ≠ 0 then pure ret else driver.initFrom todo := rfl
  rw [run, brightness_get_eq driver listed]
  congr 1
  funext ret
  by_cases failed : ret ≠ 0
  · rw [if_pos failed, if_pos failed, pure_bind, if_pos failed, pure_bind, if_pos failed]
    rfl
  · rw [if_neg failed, if_neg failed]
    refine congrArg (Program.perform _) (funext fun reply => ?_)
    cases reply <;> rfl

/-- The probe after it has read the register of an LED. -/
def PanelDriver.writeFrom (led : LedsInfo) (todo : List LedsInfo) :
    Except Errno (BitVec 8) → PanelIo Int
  | .error errno => .done (-errno.code)
  | .ok byte =>
    .perform (.transfer (.writeByteData led.regAddr (driver.selector.select byte .blue)))
      fun _ => driver.colorsFrom led driver.selector.all todo

/-- The probe reads the register of an LED, writes it, and goes on with the
colors. -/
theorem init_from_cons {led : LedsInfo} (listed : led ∈ driver.ledsTable) (todo : List LedsInfo) :
    driver.initFrom (led :: todo) =
      .perform (.transfer (.readByteData led.regAddr)) (driver.writeFrom led todo) := by
  have run : driver.initFrom (led :: todo) =
      .perform (.transfer (.readByteData (BitVec.ofInt 8 led.regAddr.toNat))) fun reply =>
        if readResult reply < 0 then .done (readResult reply)
        else onPanel (i2cSmbusWriteByteData led.regAddr.toNat (BitVec.toNat
          ((BitVec.ofInt 32 (readResult reply) &&& ~~~led.bitsmask.setWidth 32 |||
            (driver.selector.code .blue).setWidth 32).setWidth 8))) >>= fun _ =>
              driver.colorsFrom led driver.selector.all todo := rfl
  rw [run, of_int_passed]
  congr 1
  funext reply
  cases reply with
  | error errno => exact if_pos (errno_negative errno)
  | ok byte =>
    have read : readResult (.ok byte) = byte.toNat := rfl
    have nonnegative : ¬(byte.toNat : Int) < 0 := by omega
    simp only [read, nonnegative, if_false, int_insert, bitsmask_eq driver listed]
    rw [write_byte_data_eq]
    rfl

end Routines

/-- The end of `brightness_set`: the lock is released. -/
def unlockWith (ret : Int) : PanelIo Int := .perform .unlock fun _ => .done ret

/-- `brightness_set` after it has read the register of its LED. -/
def LedCall.setReply (call : LedCall driver) : Except Errno (BitVec 8) → PanelIo Int
  | .error errno => unlockWith (-errno.code)
  | .ok byte =>
    .perform (.transfer (.writeByteData call.led.regAddr (call.stored byte))) fun reply =>
      unlockWith (writeResult reply)

/-- `brightness_set` while it holds the lock. -/
def LedCall.underLock (call : LedCall driver) : PanelIo Int :=
  .perform (.transfer (.readByteData call.led.regAddr)) call.setReply

/-- Setting an LED takes the lock and then runs its section. -/
theorem brightness_set_locked_eq (call : LedCall driver) :
    driver.brightnessSetLocked (driver.ldata call.led call.color) call.value =
      .perform .lock fun _ => call.underLock := by
  have run : driver.brightnessSetLocked (driver.ldata call.led call.color) call.value =
      .perform .lock fun _ => onPanel call.perform >>= unlockWith := rfl
  rw [run, perform_eq]
  congr 1
  funext _
  refine congrArg (Program.perform _) (funext fun reply => ?_)
  cases reply <;> rfl

/-! ## What holds in between -/

variable (driver) in
/-- An LED of which no device is registered yet. -/
def Unpublished (led : LedsInfo) (devices : List LedsData) : Prop :=
  ∀ color, driver.ldata led color ∉ devices

/-- The probe has written the default color of an LED, or has failed to. -/
def Defaulted (led : LedsInfo) (journal : List (Entry (Option User))) : Prop :=
  ∃ val reply, (none, ⟨.writeByteData led.regAddr val, reply⟩) ∈ journal

/-- The registers after a transfer. -/
def afterEvent (registers : BitVec 8 → BitVec 8) :
    Event SmbusOp SmbusOp.Reply → BitVec 8 → BitVec 8
  | ⟨.writeByteData command val, .ok ()⟩ => Function.update registers command val
  | _ => registers

section Panel

variable (requests : User → LedRequest driver) (start : Cpld)

/-- What holds of the panel after every step. -/
structure Kept (s : Panel (Option User)) : Prop where
  shows : ∀ led ∈ driver.ledsTable,
    lit driver led s.cpld = litAfter requests led (lit driver led start) s.journal
  untouched : ∀ led ∈ driver.ledsTable, Unpublished driver led s.devices →
    ∀ entry ∈ s.journal, entry.1 ≠ none → commandOf entry.2.op ≠ led.regAddr
  ordered : ∀ before command val reply after,
    s.journal = before ++ (none, ⟨.writeByteData command val, reply⟩) :: after →
      ∀ entry ∈ before, entry.1 ≠ none → commandOf entry.2.op ≠ command
  defaulted : ∀ led ∈ driver.ledsTable, ¬Unpublished driver led s.devices →
    Defaulted led s.journal
  outside : ∀ reg, s.cpld.registers reg &&& ~~~driver.selector.mask =
    start.registers reg &&& ~~~driver.selector.mask
  others : ∀ reg, (∀ led ∈ driver.ledsTable, led.regAddr ≠ reg) →
    s.cpld.registers reg = start.registers reg

variable {requests start} {s : Panel (Option User)}

omit requests start in
/-- The registers after a transfer, read off its event. -/
theorem transferred_registers {Thread : Type} (s : Panel Thread) (thread : Thread) (op : SmbusOp) :
    (s.transferred thread op).cpld.registers =
      afterEvent s.cpld.registers ⟨op, (cpld op s.cpld).1⟩ := by
  cases op with
  | readByteData command =>
    simp only [Panel.transferred, cpld]
    split <;> rfl
  | writeByteData command val =>
    simp only [Panel.transferred, cpld]
    split <;> rfl

/-- A transfer with an LED moves the color of this LED only. -/
theorem lit_transferred {thread : Option User} {led : LedsInfo} (listed : led ∈ driver.ledsTable)
    {op : SmbusOp} (own : commandOf op = led.regAddr)
    (stores : ∀ val, op = .writeByteData led.regAddr val →
      driver.selector.shown val = turned requests thread (lit driver led s.cpld))
    {other : LedsInfo} (otherListed : other ∈ driver.ledsTable) :
    lit driver other (s.transferred thread op).cpld =
      moved requests other (lit driver other s.cpld) (thread, ⟨op, (cpld op s.cpld).1⟩) := by
  rw [lit, transferred_registers]
  generalize (cpld op s.cpld).1 = reply
  cases op with
  | readByteData command => rfl
  | writeByteData command val =>
    cases reply with
    | error errno => rfl
    | ok _ =>
      obtain rfl : command = led.regAddr := own
      simp only [afterEvent, moved]
      by_cases same : other = led
      · subst same
        rw [Function.update_self, if_pos rfl]
        exact stores val rfl
      · have apart : led.regAddr ≠ other.regAddr := fun shared =>
          same (led_eq driver otherListed listed shared.symm)
        rw [Function.update_of_ne apart.symm, if_neg apart]
        rfl

omit requests start in
/-- A transfer with an LED changes its register only, and there the field only. -/
theorem kept_transferred {Thread : Type} {s : Panel Thread} {thread : Thread} {led : LedsInfo}
    {op : SmbusOp} (own : commandOf op = led.regAddr)
    (inField : ∀ val, op = .writeByteData led.regAddr val → val &&& ~~~driver.selector.mask =
      s.cpld.registers led.regAddr &&& ~~~driver.selector.mask) (reg : BitVec 8) :
    (led.regAddr ≠ reg →
      (s.transferred thread op).cpld.registers reg = s.cpld.registers reg) ∧
    (s.transferred thread op).cpld.registers reg &&& ~~~driver.selector.mask =
      s.cpld.registers reg &&& ~~~driver.selector.mask := by
  rw [transferred_registers]
  generalize (cpld op s.cpld).1 = reply
  cases op with
  | readByteData command => exact ⟨fun _ => rfl, rfl⟩
  | writeByteData command val =>
    cases reply with
    | error errno => exact ⟨fun _ => rfl, rfl⟩
    | ok _ =>
      obtain rfl : command = led.regAddr := own
      simp only [afterEvent]
      by_cases same : reg = led.regAddr
      · subst same
        rw [Function.update_self]
        exact ⟨fun other => absurd rfl other, inField val rfl⟩
      · rw [Function.update_of_ne same]
        exact ⟨fun _ => rfl, rfl⟩

/-- A transfer keeps what holds: users transfer with an LED that has a device, and the
probe writes an LED that has none yet.

Proof: the write of an LED moves its lamp as the journal says. A user leaves alone the
LEDs without a device, so that the journal has nothing of a user where the probe
writes. -/
theorem Kept.transfer (kept : Kept requests start s) {thread : Option User} {led : LedsInfo}
    (listed : led ∈ driver.ledsTable) {op : SmbusOp} (own : commandOf op = led.regAddr)
    (visible : thread ≠ none → ¬Unpublished driver led s.devices)
    (hidden : thread = none → ∀ val, op = .writeByteData led.regAddr val →
      Unpublished driver led s.devices)
    (stores : ∀ val, op = .writeByteData led.regAddr val →
      driver.selector.shown val = turned requests thread (lit driver led s.cpld))
    (inField : ∀ val, op = .writeByteData led.regAddr val → val &&& ~~~driver.selector.mask =
      s.cpld.registers led.regAddr &&& ~~~driver.selector.mask) :
    Kept requests start (s.transferred thread op) where
  shows := by
    intro other otherListed
    rw [lit_transferred listed own stores otherListed, kept.shows other otherListed]
    exact (lit_after_concat requests other _ _ _).symm
  untouched := by
    intro other otherListed unpublished entry member user
    obtain earlier | new := List.mem_append.mp member
    · exact kept.untouched other otherListed unpublished entry earlier user
    · obtain rfl := List.mem_singleton.mp new
      intro same
      obtain rfl := led_eq driver listed otherListed (own.symm.trans same)
      exact visible user unpublished
  ordered := by
    intro before command val reply after split entry member user
    obtain rfl | ⟨earlier, last, rfl⟩ := after.eq_nil_or_concat
    · obtain ⟨rfl, only⟩ := List.append_inj' split rfl
      obtain ⟨probe, same⟩ := Prod.mk.inj (List.singleton_inj.mp only)
      have write : op = .writeByteData command val := congrArg Event.op same
      obtain rfl : command = led.regAddr := by rw [← own, write, commandOf]
      exact kept.untouched led listed (hidden probe val write) entry member user
    · have front : s.journal = before ++ (none, ⟨.writeByteData command val, reply⟩) :: earlier := by
        rw [List.concat_eq_append, ← List.cons_append, ← List.append_assoc] at split
        exact (List.append_inj' split rfl).1
      exact kept.ordered before command val reply earlier front entry member user
  defaulted := by
    intro other otherListed published
    obtain ⟨val, reply, member⟩ := kept.defaulted other otherListed published
    exact ⟨val, reply, List.mem_append_left _ member⟩
  outside := fun reg => (kept_transferred own inField reg).2.trans (kept.outside reg)
  others := by
    intro reg apart
    exact ((kept_transferred own inField reg).1 (apart led listed)).trans (kept.others reg apart)

/-- So does a read, by the probe of any LED and by a user of one that has a device. -/
theorem Kept.read (kept : Kept requests start s) {thread : Option User} {led : LedsInfo}
    (listed : led ∈ driver.ledsTable)
    (visible : thread ≠ none → ¬Unpublished driver led s.devices) :
    Kept requests start (s.transferred thread (.readByteData led.regAddr)) := by
  apply kept.transfer listed rfl visible
  · intro _ val write
    cases write
  · intro val write
    cases write
  · intro val write
    cases write

/-- Steps that transfer nothing and register nothing keep what holds. -/
theorem Kept.same (kept : Kept requests start s) {after : Panel (Option User)}
    (cpld : after.cpld = s.cpld) (devices : after.devices = s.devices)
    (journal : after.journal = s.journal) : Kept requests start after where
  shows := by
    rw [cpld, journal]
    exact kept.shows
  untouched := by
    rw [devices, journal]
    exact kept.untouched
  ordered := by
    rw [journal]
    exact kept.ordered
  defaulted := by
    rw [devices, journal]
    exact kept.defaulted
  outside := by
    rw [cpld]
    exact kept.outside
  others := by
    rw [cpld]
    exact kept.others

/-- A device of an LED with its default color may be registered. -/
theorem Kept.register (kept : Kept requests start s) {led : LedsInfo}
    (listed : led ∈ driver.ledsTable) (color : LedColor) (written : Defaulted led s.journal) :
    Kept requests start (s.registered (driver.ldata led color)) where
  shows := kept.shows
  untouched := by
    intro other otherListed unpublished
    apply kept.untouched other otherListed
    intro shade member
    apply unpublished shade
    unfold Panel.registered
    dsimp only
    split
    · exact List.mem_append_left _ member
    · exact member
  ordered := kept.ordered
  defaulted := by
    intro other otherListed published
    by_cases same : other = led
    · exact same ▸ written
    · apply kept.defaulted other otherListed
      intro unpublished
      apply published
      intro shade member
      unfold Panel.registered at member
      dsimp only at member
      split at member
      · obtain earlier | new := List.mem_append.mp member
        · exact unpublished shade earlier
        · have device := List.mem_singleton.mp new
          exact same (led_eq driver otherListed listed (congrArg LedsData.regAddr device))
      · exact unpublished shade member
  outside := kept.outside
  others := kept.others

/-! ## One step -/

variable (driver) in
/-- What the others may rely on in a step of a thread: it writes the register of
an LED only where the LED is its own, be it the probe or the holder of the lock. -/
structure StepOf (thread : Option User) (s after : Panel (Option User)) : Prop where
  devices : s.devices ⊆ after.devices
  journal : ∃ new, after.journal = s.journal ++ new ∧ ∀ entry ∈ new, entry.1 = thread
  holder : ∀ user, some user ≠ thread →
    (after.holder = some (some user) ↔ s.holder = some (some user))
  writes : ∀ led ∈ driver.ledsTable,
    after.cpld.registers led.regAddr = s.cpld.registers led.regAddr ∨
      thread = none ∧ Unpublished driver led s.devices ∨
      s.holder = some thread ∧ ¬Unpublished driver led s.devices

omit requests start in
/-- A read changes nothing that the others rely on. -/
theorem StepOf.read (thread : Option User) (command : BitVec 8) :
    StepOf driver thread s (s.transferred thread (.readByteData command)) where
  devices := fun _ member => member
  journal := ⟨_, rfl, fun entry member => by rw [List.mem_singleton.mp member]⟩
  holder := fun _ _ => Iff.rfl
  writes := by
    intro led _
    rw [transferred_registers]
    exact Or.inl rfl

omit requests start in
/-- The owner of an LED writes its register. -/
theorem StepOf.write {thread : Option User} {led : LedsInfo} (listed : led ∈ driver.ledsTable)
    (val : BitVec 8)
    (owner : thread = none ∧ Unpublished driver led s.devices ∨
      s.holder = some thread ∧ ¬Unpublished driver led s.devices) :
    StepOf driver thread s (s.transferred thread (.writeByteData led.regAddr val)) where
  devices := fun _ member => member
  journal := ⟨_, rfl, fun entry member => by rw [List.mem_singleton.mp member]⟩
  holder := fun _ _ => Iff.rfl
  writes := by
    intro other otherListed
    by_cases same : other = led
    · exact Or.inr (same ▸ owner)
    · left
      have apart : other.regAddr ≠ led.regAddr := fun shared =>
        same (led_eq driver otherListed listed shared)
      rw [transferred_registers]
      generalize (cpld (.writeByteData led.regAddr val) s.cpld).1 = reply
      cases reply with
      | error errno => rfl
      | ok _ => exact Function.update_of_ne apart _ _

end Panel

end FbossBsp.PanelLeds
