import FbossBsp.CpldHandlers

/-!
# Negated attributes

Both engines have a flag that negates the value of an attribute. The show
handlers obey it; the store handlers do not look at it.
-/

namespace FbossBsp.Regbit

open Interaction

/-! ## Shown numbers -/

/-- The byte of a digit. -/
def digitByte (digit : Nat) : BitVec 8 := BitVec.ofNat 8 digit.digitChar.toNat

/-- Two digits with the same byte are the same. -/
theorem digit_byte_injective :
    ∀ first < 16, ∀ second < 16, digitByte first = digitByte second → first = second := by
  decide

/-- The bytes of a number in a base. -/
def digits (base val : Nat) : Text := (Nat.toDigits base val).map fun c => BitVec.ofNat 8 c.toNat

/-- The last digit is the remainder, and the digits before it are those of the
quotient. -/
theorem digits_eq {base : Nat} (some : 1 < base) (val : Nat) :
    digits base val =
      (if val < base then [] else digits base (val / base)) ++ [digitByte (val % base)] := by
  unfold digits
  rw [Nat.toDigits_eq_if some]
  split
  · rename_i single
    rw [Nat.mod_eq_of_lt single]
    rfl
  · rw [List.map_append]
    rfl

/-- A number is known from its digits. -/
theorem digits_injective {base : Nat} (some : 1 < base) (few : base ≤ 16) {first second : Nat}
    (same : digits base first = digits base second) : first = second := by
  induction first using Nat.strongRecOn generalizing second with
  | ind first inductionHypothesis =>
    rw [digits_eq some first, digits_eq some second] at same
    obtain ⟨before, last⟩ := List.append_inj' same rfl
    have remainder : first % base = second % base :=
      digit_byte_injective _ (Nat.lt_of_lt_of_le (Nat.mod_lt _ (by omega)) few) _
        (Nat.lt_of_lt_of_le (Nat.mod_lt _ (by omega)) few) (List.singleton_inj.mp last)
    have nonempty (val : Nat) : digits base val ≠ [] := by
      rw [digits_eq some]
      exact List.concat_ne_nil _ _
    have quotient : first / base = second / base := by
      by_cases single : first < base <;> by_cases other : second < base
      · rw [Nat.div_eq_of_lt single, Nat.div_eq_of_lt other]
      · rw [if_pos single, if_neg other] at before
        exact absurd before.symm (nonempty _)
      · rw [if_neg single, if_pos other] at before
        exact absurd before (nonempty _)
      · rw [if_neg single, if_neg other] at before
        exact inductionHypothesis _ (Nat.div_lt_self (by omega) some) before
    rw [← Nat.div_add_mod first base, quotient, remainder, Nat.div_add_mod]

/-- Two words with the same hexadecimal text are the same. -/
theorem format_hex_injective {first second : BitVec 32} (same : formatHex first = formatHex second) :
    first = second := by
  simp only [formatHex, ascii, String.toList_ofList] at same
  exact BitVec.eq_of_toNat_eq (digits_injective (by decide) (by decide) same)

/-- Two words with the same decimal text are the same. -/
theorem format_dec_injective {first second : BitVec 32} (same : formatDec first = formatDec second) :
    first = second := by
  have text (val : Nat) : (toString val).toList = Nat.toDigits 10 val := Nat.toList_repr
  simp only [formatDec, ascii, text] at same
  exact BitVec.eq_of_toNat_eq (digits_injective (by decide) (by decide) same)

/-- A number between fixed texts, in decimal or in hexadecimal, is known from the
whole text. -/
theorem number_text_injective (dec : Prop) [Decidable dec] (note : Text) {first second : BitVec 32}
    (same : (if dec then formatDec first else ascii "0x" ++ formatHex first) ++ note =
      (if dec then formatDec second else ascii "0x" ++ formatHex second) ++ note) :
    first = second := by
  have number := List.append_cancel_right same
  split at number
  · exact format_dec_injective number
  · exact format_hex_injective (List.append_cancel_left number)

/-- What a file of `regbit` prints determines the number. -/
theorem show_text_injective {Entry : Type} (config : RegbitFileConfig Entry)
    {first second : BitVec 32} (same : config.showText first = config.showText second) :
    first = second := by
  unfold RegbitFileConfig.showText at same
  dsimp only at same
  split at same
  · simp only [List.append_assoc] at same
    exact number_text_injective _ _ same
  · exact number_text_injective _ _ same

/-! ## Held values -/

namespace RegbitSysfsConfig

/-- The value of the attribute is negated when it is shown. -/
def Negated (config : RegbitSysfsConfig) : Prop := config.flags &&& rbsFlagValNegate ≠ 0

instance (config : RegbitSysfsConfig) : Decidable config.Negated :=
  inferInstanceAs (Decidable (_ ≠ _))

/-- A nonempty bit range inside a register of `w` bits. -/
structure InsideWord (w : Nat) (config : RegbitSysfsConfig) : Prop where
  nonempty : 0 < config.numBits.toNat
  inside : config.bitOffset.toNat + config.numBits.toNat ≤ w

/-- The same bits, shown as they are. -/
def unnegated (config : RegbitSysfsConfig) : RegbitSysfsConfig := { config with flags := 0 }

variable {w : Nat} {config : RegbitSysfsConfig}

/-- A range inside a word is well formed once it is not negated. -/
theorem InsideWord.wellFormed (range : config.InsideWord w) : config.unnegated.WellFormed w :=
  ⟨range.nonempty, range.inside, BitVec.zero_and⟩

/-- The number that a file shows for the bits of an input. -/
def shownInput (config : RegbitSysfsConfig) (input : BitVec 32) : BitVec 32 :=
  (if config.Negated then ~~~input else input) &&& config.valueMask

/-- Whatever the flags are, a register shows the input whose bits its range holds, or
its negation. -/
theorem shown_val_held (range : config.InsideWord w) (small : w ≤ 32) (input val : BitVec 32)
    (held : ∀ i, config.Covers i → val.getLsbD i = input.getLsbD (i - config.bitOffset.toNat)) :
    config.shownVal val = config.shownInput input := by
  have plain (val : BitVec 32) :
      (val >>> config.bitOffset.toNat) &&& config.valueMask = config.unnegated.shownVal val :=
    (if_neg (not_not.mpr BitVec.zero_and)).symm
  have whole : config.shownVal val =
      config.unnegated.shownVal (if config.Negated then ~~~val else val) := by
    by_cases negated : config.Negated
    · rw [if_pos negated, ← plain]
      exact if_pos negated
    · rw [if_neg negated, ← plain]
      exact if_neg negated
  rw [whole, shownInput]
  split
  · refine shown_val_eq range.wellFormed small (~~~input) (~~~val) fun i covered => ?_
    have word : i < 32 := Nat.lt_of_lt_of_le covered.2 (Nat.le_trans range.inside small)
    have inWord : i - config.bitOffset.toNat < 32 := by omega
    change (~~~val).getLsbD i = (~~~input).getLsbD (i - config.bitOffset.toNat)
    rw [BitVec.getLsbD_not, BitVec.getLsbD_not, held i covered, decide_eq_true word,
      decide_eq_true inWord]
  · exact shown_val_eq range.wellFormed small input val held

/-- A negated attribute never shows the input itself. -/
theorem shown_input_inverted (range : config.InsideWord w) (small : w ≤ 32)
    (negated : config.Negated) (input : BitVec 32) :
    config.shownInput input ≠ input &&& config.valueMask := by
  intro same
  have first : config.valueMask.getLsbD 0 = true :=
    (value_mask_bit range.wellFormed small 0).trans (decide_eq_true range.nonempty)
  have bits := congrArg (fun word => BitVec.getLsbD word 0) same
  simp only [shownInput, if_pos negated, BitVec.getLsbD_and, BitVec.getLsbD_not, first,
    Bool.and_true] at bits
  cases low : input.getLsbD 0 <;> simp only [low] at bits <;> exact absurd bits (by decide)

end RegbitSysfsConfig

end FbossBsp.Regbit

namespace FbossBsp.Fbcpld

open Interaction Regbit

/-- What a file of `fbcpld` prints determines the number. -/
theorem show_text_injective (cfg : FbcpldSysfsAttr) (beyond : List (BitVec 8))
    {first second : BitVec 32} (same : cfg.showText beyond first = cfg.showText beyond second) :
    first = second := by
  unfold FbcpldSysfsAttr.showText at same
  dsimp only at same
  split at same
  · simp only [List.append_assoc] at same
    exact number_text_injective _ _ same
  · exact number_text_injective _ _ same

/-! ## Files of both engines -/

/-- A file that `regbit` or `fbcpld` has set up. -/
inductive BitFile (Entry : Type) where
  | regbit (entry : Entry) (config : RegbitFileConfig Entry)
  | fbcpld (cfg : FbcpldSysfsAttr) (beyond : List (BitVec 8))

namespace BitFile

variable {Entry : Type} (file : BitFile Entry) (kstrtou32 : String → Option (BitVec 32))

/-- The bits of the file and its flags. -/
def range : BitFile Entry → RegbitSysfsConfig
  | .regbit _ config => config.toRegbitSysfsConfig
  | .fbcpld cfg _ => ⟨cfg.regAddr, cfg.bitOffset, cfg.numBits, cfg.flags⟩

/-- The file can be read and written, with the default handlers. -/
def ReadsAndWrites : BitFile Entry → Prop
  | .regbit _ config => (config.mode &&& Regbit.sIrusr ≠ 0 ∧ config.mode &&& Regbit.sIwusr ≠ 0) ∧
      config.showFunc = none ∧ config.storeFunc = none
  | .fbcpld cfg _ => cfg.mode &&& sIrusr ≠ 0 ∧ cfg.mode &&& sIwusr ≠ 0

/-- What the file prints for a number. -/
def text : BitFile Entry → BitVec 32 → Text
  | .regbit _ config, val => config.showText val
  | .fbcpld cfg beyond, val => cfg.showText beyond val

section Calls

variable {w : Nat} (s : RegmapBus w)

/-- Reading the file. -/
def read : BitFile Entry → Except Int Text
  | .regbit entry config => (devAttrShow (regbitAttr kstrtou32 entry config)).result regmapBus s
  | .fbcpld cfg beyond => (fbcpldDynShow cfg beyond).result dynBus s

/-- Writing the file: the result, and the device afterwards. -/
def store (buf : String) (count : Nat) : BitFile Entry → Int × RegmapBus w
  | .regbit entry config =>
    let routine := devAttrStore (regbitAttr kstrtou32 entry config) buf count
    (routine.result regmapBus s, routine.final regmapBus s)
  | .fbcpld cfg _ =>
    let routine := fbcpldDynStore cfg kstrtou32 buf count
    (routine.result dynBus s, routine.final dynBus s)

end Calls

/-! ## Reading after a store -/

section ReadAfterStore

variable {w : Nat} {s : RegmapBus w} {file} {kstrtou32} {buf : String} {count : Nat}
variable {input : BitVec 32}

/-- A store that succeeds writes back what it has read, with the bits of the input. -/
theorem store_written (works : file.ReadsAndWrites) (range : file.range.InsideWord w)
    (small : w ≤ 32) (parsed : kstrtou32 buf = some input)
    (stored : 0 ≤ (file.store kstrtou32 s buf count).1) :
    (file.store kstrtou32 s buf count).2.regs = Function.update s.regs file.range.regAddr
      ((file.range.storedVal input ((s.regs file.range.regAddr).setWidth 32)).setWidth w) := by
  cases file with
  | regbit entry config =>
    obtain ⟨⟨_, writable⟩, _, defaultStore⟩ := works
    have routine : devAttrStore (regbitAttr kstrtou32 entry config) buf count =
        regbitSysfsStore config.toRegbitSysfsConfig entry count kstrtou32 buf := by
      simp only [devAttrStore, regbitAttr]
      rw [if_pos writable, defaultStore]
      rfl
    simp only [store, routine] at stored ⊢
    obtain ⟨refused, _⟩ | ⟨errno, failed, _⟩ | ⟨other, same, _, written, _⟩ :=
      store_cases kstrtou32 config.toRegbitSysfsConfig entry buf count s
    · rw [parsed] at refused
      cases refused
    · have negative := errno_negative errno
      omega
    · rw [parsed] at same
      cases same
      exact written
  | fbcpld cfg beyond =>
    have inside := RegbitSysfsConfig.shifted_inside range.wellFormed small input
    change ((input &&& cfg.valueMask) <<< cfg.bitOffset.toNat) &&& cfg.rangeMask =
      (input &&& cfg.valueMask) <<< cfg.bitOffset.toNat at inside
    have routine : fbcpldDynStore cfg kstrtou32 buf count =
        .perform (.regmapUpdateBits cfg.regAddr cfg.rangeMask
          ((input &&& cfg.valueMask) <<< cfg.bitOffset.toNat)) (dynStoreExit count) := by
      simp only [fbcpldDynStore, parsed]
      exact if_neg works.1
    simp only [store, routine] at stored ⊢
    cases outcome : s.outcome with
    | some errno =>
      have negative := errno_negative errno
      simp only [Program.result, dynBus, outcome, dynStoreExit, Program.result_pure] at stored
      omega
    | none =>
      simp only [Program.final, dynBus, outcome, dynStoreExit, Program.final_pure, inside]
      rfl

/-- Reading shows the value of the register, unless the transaction fails. -/
theorem read_shows (works : file.ReadsAndWrites) (succeeds : s.outcome = none) :
    file.read kstrtou32 s =
      .ok (file.text (file.range.shownVal ((s.regs file.range.regAddr).setWidth 32))) := by
  cases file with
  | regbit entry config =>
    obtain ⟨⟨readable, _⟩, defaultShow, _⟩ := works
    have routine : devAttrShow (regbitAttr kstrtou32 entry config) = regbitSysfsShow config := by
      simp only [devAttrShow, regbitAttr]
      rw [if_pos readable, defaultShow]
      rfl
    simp only [read, routine]
    simp only [regbitSysfsShow, Program.result, regmapBus, succeeds]
    rfl
  | fbcpld cfg beyond =>
    simp only [read, fbcpldDynShow, Program.result, dynBus, succeeds]
    rfl

/-- Reading after a store shows the input, or its negation, cut to the bits of the file. -/
theorem read_after_store (works : file.ReadsAndWrites) (range : file.range.InsideWord w)
    (small : w ≤ 32) (parsed : kstrtou32 buf = some input)
    (stored : 0 ≤ (file.store kstrtou32 s buf count).1)
    (succeeds : (file.store kstrtou32 s buf count).2.outcome = none) :
    file.read kstrtou32 (file.store kstrtou32 s buf count).2 =
      .ok (file.text (file.range.shownInput input)) := by
  rw [read_shows works succeeds, store_written works range small parsed stored,
    Function.update_self]
  refine congrArg (Except.ok ∘ file.text) (RegbitSysfsConfig.shown_val_held range small _ _ ?_)
  intro i covered
  have word : i < 32 := Nat.lt_of_lt_of_le covered.2 (Nat.le_trans range.inside small)
  have written := RegbitSysfsConfig.written_back_bit range.wellFormed small input
    (s.regs file.range.regAddr) i
  rw [BitVec.getLsbD_setWidth, decide_eq_true word, Bool.true_and]
  exact written.trans (if_pos covered)

end ReadAfterStore

/-- Two values with the same text in a file are the same. -/
theorem text_injective {first second : BitVec 32} (same : file.text first = file.text second) :
    first = second := by
  cases file with
  | regbit entry config => exact Regbit.show_text_injective config same
  | fbcpld cfg beyond => exact show_text_injective cfg beyond same

variable {w : Nat} (buf : String) (count : Nat) (input : BitVec 32) (s : RegmapBus w)

/-- Reading after a store of the input shows the input, cut to the bits of the file. -/
def RoundTrips : Prop :=
  file.read kstrtou32 (file.store kstrtou32 s buf count).2 =
    .ok (file.text (input &&& file.range.valueMask))

/-- In both engines, for every readable and writable file with the default handlers
whose flags contain the negation, every bit range inside the register, every content
of the registers and every input: reading after a store that has succeeded does not
show the input. -/
theorem negated_never_round_trips (works : file.ReadsAndWrites) (small : w ≤ 32)
    (range : file.range.InsideWord w) (negated : file.range.Negated)
    (parsed : kstrtou32 buf = some input) (stored : 0 ≤ (file.store kstrtou32 s buf count).1)
    (succeeds : (file.store kstrtou32 s buf count).2.outcome = none) :
    ¬file.RoundTrips kstrtou32 buf count input s := by
  intro roundTrips
  rw [RoundTrips, read_after_store works range small parsed stored succeeds] at roundTrips
  exact RegbitSysfsConfig.shown_input_inverted range small negated input
    (file.text_injective (Except.ok.inj roundTrips))

end BitFile

/-- Three bits of a register, negated. -/
def negatedBits : RegbitFileConfig Unit :=
  ⟨⟨0x10, 2, 3, rbsFlagValNegate⟩, ascii "present", 0o644, none, none, none⟩

/-- The three bits after a store of 5. -/
theorem negated_bits_differ :
    ¬(BitFile.regbit () negatedBits).RoundTrips (fun _ => some 5) "5" 1 5
      (⟨fun _ => 0, []⟩ : RegmapBus 8) :=
  BitFile.negated_never_round_trips (.regbit () negatedBits) (fun _ => some 5) "5" 1 5
    ⟨fun _ => 0, []⟩ ⟨⟨by decide, by decide⟩, rfl, rfl⟩ (by decide) ⟨by decide, by decide⟩
    (by decide) rfl (by decide) rfl

/-- After a store of 5 the three bits read 2, and after a store of 0x1F the nibble of
the other engine reads 0. -/
theorem negated_inputs_lost :
    ((BitFile.regbit () negatedBits).store (fun _ => some 5) (⟨fun _ => 0, []⟩ : RegmapBus 8)
        "5" 1).1 = 1 ∧
      ¬(BitFile.regbit () negatedBits).RoundTrips (fun _ => some 5) "5" 1 5
        (⟨fun _ => 0, []⟩ : RegmapBus 8) ∧
      ((BitFile.fbcpld nibbleAttr [] : BitFile Unit).store (fun _ => some 0x1F) nibbleBus
        "31" 2).1 = 2 ∧
      ¬(BitFile.fbcpld nibbleAttr [] : BitFile Unit).RoundTrips (fun _ => some 0x1F) "31" 2 0x1F
        nibbleBus := by
  refine ⟨by decide, ?_, by decide, ?_⟩
  · intro roundTrips
    have shown : (BitFile.regbit () negatedBits).read (fun _ => some 5)
        ((BitFile.regbit () negatedBits).store (fun _ => some 5)
          (⟨fun _ => 0, []⟩ : RegmapBus 8) "5" 1).2 = .ok (negatedBits.showText 2) := rfl
    exact absurd ((BitFile.regbit () negatedBits).text_injective
      (Except.ok.inj (shown.symm.trans roundTrips))) (by decide)
  · intro roundTrips
    have shown : (BitFile.fbcpld nibbleAttr [] : BitFile Unit).read (fun _ => some 0x1F)
        ((BitFile.fbcpld nibbleAttr [] : BitFile Unit).store (fun _ => some 0x1F) nibbleBus
          "31" 2).2 = .ok (nibbleAttr.showText [] 0) := rfl
    exact absurd ((BitFile.fbcpld nibbleAttr [] : BitFile Unit).text_injective
      (Except.ok.inj (shown.symm.trans roundTrips))) (by decide)

end FbossBsp.Fbcpld
