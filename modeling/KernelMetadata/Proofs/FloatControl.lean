import KernelMetadata.Rule.Dialects

/-!
# What float control keeps of a word

A float-control word expands into nine execution modes. Of the word these show the six bits that are
declared and nothing else: the expansion is read back (`FloatControl.ofEntries?`) as the word
without its other bits, and nothing but an expansion is read back at all.

The link is the parts of a word, its rounding, its operation and a treatment of denormals for each
width. A word of declared bits is put together from its parts (`FloatControl.ofParts_parts`), and
the modes of an expansion name just these parts.
-/

namespace KernelMetadata

/-! ## Modes name parts -/

/-- The rounding with an execution mode. -/
def Rounding.ofMode? (mode : ExecutionMode) : Option Rounding :=
  [toNearestEven, upward, downward, towardZero].find? fun r ↦ r.mode = mode

/-- The operation with an execution mode. -/
def Operation.ofMode? (mode : ExecutionMode) : Option Operation :=
  [ieee, alternative].find? fun o ↦ o.mode = mode

/-- The treatment of denormals with an execution mode. -/
def Denormals.ofMode? (mode : ExecutionMode) : Option Denormals :=
  [flushed, preserved].find? fun d ↦ d.mode = mode

@[simp] theorem Rounding.ofMode?_mode (r : Rounding) : ofMode? r.mode = some r := by
  cases r <;> rfl

@[simp] theorem Operation.ofMode?_mode (o : Operation) : ofMode? o.mode = some o := by
  cases o <;> rfl

@[simp] theorem Denormals.ofMode?_mode (d : Denormals) : ofMode? d.mode = some d := by
  cases d <;> rfl

namespace FloatControl

variable {c c' : FloatControl} {i : Nat}

/-! ## Declared bits -/

/-- The places of the bits that say something. -/
def declaredBits : List Nat := [0, 4, 5, 6, 7, 10]

theorem getLsbD_declared (i : Nat) : declared.getLsbD i = decide (i ∈ declaredBits) := by
  by_cases hi : i < 32
  · have hall : ∀ i < 32, declared.getLsbD i = decide (i ∈ declaredBits) := by decide
    exact hall i hi
  · have hmem : i ∉ declaredBits := by
      intro h
      simp only [declaredBits, List.mem_cons, List.not_mem_nil, or_false] at h
      omega
    rw [BitVec.getLsbD_of_ge _ _ (Nat.le_of_not_lt hi), decide_eq_false hmem]

theorem getLsbD_truncate (c : FloatControl) (i : Nat) :
    c.truncate.bits.getLsbD i = (c.bits.getLsbD i && decide (i ∈ declaredBits)) := by
  rw [truncate, BitVec.getLsbD_and, getLsbD_declared]

theorem getLsbD_truncate_of_mem (c : FloatControl) (h : i ∈ declaredBits) :
    c.truncate.bits.getLsbD i = c.bits.getLsbD i := by
  rw [getLsbD_truncate, decide_eq_true h, Bool.and_true]

theorem truncate_eq_iff :
    c.truncate = c'.truncate ↔ ∀ i ∈ declaredBits, c.bits.getLsbD i = c'.bits.getLsbD i := by
  constructor
  · intro h i hi
    rw [← getLsbD_truncate_of_mem c hi, h, getLsbD_truncate_of_mem c' hi]
  · intro h
    suffices hbits : c.truncate.bits = c'.truncate.bits by
      rwa [truncate, truncate, FloatControl.mk.injEq]
    refine BitVec.eq_of_getLsbD_eq fun i _ ↦ ?_
    rw [getLsbD_truncate, getLsbD_truncate]
    by_cases hi : i ∈ declaredBits
    · rw [h i hi]
    · rw [decide_eq_false hi, Bool.and_false, Bool.and_false]

/-- A word is known if nothing is lost by keeping only the declared bits. -/
theorem isKnown_iff : c.isKnown = true ↔ c.truncate = c := by
  obtain ⟨b⟩ := c
  rw [isKnown, beq_iff_eq, truncate, FloatControl.mk.injEq]
  constructor
  · intro h
    have hsplit : b &&& declared ||| b &&& ~~~declared = b := by
      rw [← BitVec.and_or_distrib_left, BitVec.or_not_self, BitVec.and_allOnes]
    rw [h, BitVec.or_zero] at hsplit
    exact hsplit
  · intro h
    rw [← h, BitVec.and_assoc]
    have hnone : declared &&& ~~~declared = 0#32 := by decide
    rw [hnone, BitVec.and_zero]

/-! ## Parts of a word -/

/-- The roundings, each at the place of the number that chooses it. -/
def roundings : List Rounding := [.toNearestEven, .upward, .downward, .towardZero]

/-- The rounding is chosen by two bits together, as a number. -/
theorem roundings_getElem? (c : FloatControl) :
    roundings[((c.bits >>> 4) &&& 3#32).toNat]? = some c.rounding := by
  have hfield : ((c.bits >>> 4) &&& 3#32).toNat = c.bits.toNat / 16 % 4 := by
    rw [BitVec.toNat_and, BitVec.toNat_ushiftRight, Nat.shiftRight_eq_div_pow]
    exact Nat.and_two_pow_sub_one_eq_mod _ 2
  have hlow : c.bits.getLsbD 4 = decide (c.bits.toNat / 16 % 2 = 1) :=
    Nat.testBit_eq_decide_div_mod_eq
  have hhigh : c.bits.getLsbD 5 = decide (c.bits.toNat / 32 % 2 = 1) :=
    Nat.testBit_eq_decide_div_mod_eq
  have hcases : c.bits.toNat / 16 % 4 = 2 * (c.bits.toNat / 32 % 2) + c.bits.toNat / 16 % 2 := by
    omega
  rw [hfield, hcases, rounding, hlow, hhigh]
  rcases Nat.mod_two_eq_zero_or_one (c.bits.toNat / 16) with h | h <;>
    rcases Nat.mod_two_eq_zero_or_one (c.bits.toNat / 32) with h' | h' <;> rw [h, h'] <;> rfl

/-- The bits that choose a rounding. -/
def roundingBits : Rounding → BitVec 32
  | .toNearestEven => 0x00#32
  | .upward => 0x10#32
  | .downward => 0x20#32
  | .towardZero => 0x30#32

/-- The bits that choose an operation. -/
def operationBits : Operation → BitVec 32
  | .ieee => 0#32
  | .alternative => 1#32

/-- The bits that choose a treatment of the denormals of a width. -/
def denormalBits (w : FloatWidth) : Denormals → BitVec 32
  | .flushed => 0#32
  | .preserved => BitVec.twoPow 32 w.denormalBit

/-- The word of declared bits with given parts. -/
def ofParts (r : Rounding) (o : Operation) (double single half : Denormals) : FloatControl :=
  ⟨roundingBits r ||| operationBits o ||| denormalBits .double double |||
    denormalBits .single single ||| denormalBits .half half⟩

theorem roundingBits_rounding (c : FloatControl) :
    roundingBits c.rounding = c.bits &&& 0x30#32 := by
  have hfield : 0x30#32 = BitVec.twoPow 32 5 ||| BitVec.twoPow 32 4 := by decide
  rw [hfield, BitVec.and_or_distrib_left, BitVec.and_twoPow, BitVec.and_twoPow, rounding]
  cases c.bits.getLsbD 5 <;> cases c.bits.getLsbD 4 <;> rfl

theorem operationBits_operation (c : FloatControl) :
    operationBits c.operation = c.bits &&& 1#32 := by
  have hfield : 1#32 = BitVec.twoPow 32 0 := by decide
  rw [hfield, BitVec.and_twoPow, operation]
  cases c.bits.getLsbD 0 <;> rfl

theorem denormalBits_denormals (c : FloatControl) (w : FloatWidth) :
    denormalBits w (c.denormals w) = c.bits &&& BitVec.twoPow 32 w.denormalBit := by
  rw [BitVec.and_twoPow, denormals]
  cases c.bits.getLsbD w.denormalBit <;> rfl

/-- **A word of declared bits is put together from its parts.** -/
theorem ofParts_parts (c : FloatControl) :
    ofParts c.rounding c.operation (c.denormals .double) (c.denormals .single)
      (c.denormals .half) = c.truncate := by
  have hdeclared : declared = 0x30#32 ||| 1#32 ||| BitVec.twoPow 32 6 ||| BitVec.twoPow 32 7 |||
      BitVec.twoPow 32 10 := by decide
  rw [ofParts, truncate, FloatControl.mk.injEq, roundingBits_rounding, operationBits_operation,
    denormalBits_denormals, denormalBits_denormals, denormalBits_denormals, hdeclared]
  simp only [BitVec.and_or_distrib_left, FloatWidth.denormalBit]

theorem truncate_ofParts (r : Rounding) (o : Operation) (double single half : Denormals) :
    (ofParts r o double single half).truncate = ofParts r o double single half := by
  have hr : roundingBits r &&& declared = roundingBits r := by cases r <;> rfl
  have ho : operationBits o &&& declared = operationBits o := by cases o <;> rfl
  have hd : ∀ w d, denormalBits w d &&& declared = denormalBits w d := by
    intro w d
    cases w <;> cases d <;> rfl
  rw [truncate, ofParts, FloatControl.mk.injEq]
  simp only [BitVec.and_comm _ declared, BitVec.and_or_distrib_left]
  simp only [BitVec.and_comm declared, hr, ho, hd]

/-! ## Expansions -/

/-- The nine execution modes of a word, one triple for each width. -/
theorem entries_eq (c : FloatControl) : c.entries =
    [⟨c.rounding.mode, [64]⟩, ⟨c.operation.mode, [64]⟩, ⟨(c.denormals .double).mode, [64]⟩,
      ⟨c.rounding.mode, [32]⟩, ⟨c.operation.mode, [32]⟩, ⟨(c.denormals .single).mode, [32]⟩,
      ⟨c.rounding.mode, [16]⟩, ⟨c.operation.mode, [16]⟩, ⟨(c.denormals .half).mode, [16]⟩] := rfl

/-- An expansion shows the declared bits only. -/
theorem entries_truncate (c : FloatControl) : c.truncate.entries = c.entries := by
  have hrounding : c.truncate.rounding = c.rounding := by
    rw [rounding, rounding, getLsbD_truncate_of_mem c (by decide),
      getLsbD_truncate_of_mem c (by decide)]
  have hoperation : c.truncate.operation = c.operation := by
    rw [operation, operation, getLsbD_truncate_of_mem c (by decide)]
  have hdenormals : ∀ w, c.truncate.denormals w = c.denormals w := by
    intro w
    have hw : w.denormalBit ∈ declaredBits := by cases w <;> decide
    rw [denormals, denormals, getLsbD_truncate_of_mem c hw]
  rw [entries_eq, entries_eq, hrounding, hoperation, hdenormals, hdenormals, hdenormals]

/-- The word of declared bits whose parts nine execution modes name. Of the modes that are repeated
for each width the first is read. -/
def ofModes? : List ExecutionMode → Option FloatControl
  | [r, o, double, _, _, single, _, _, half] => do
    let r ← Rounding.ofMode? r
    let o ← Operation.ofMode? o
    let double ← Denormals.ofMode? double
    let single ← Denormals.ofMode? single
    let half ← Denormals.ofMode? half
    pure (ofParts r o double single half)
  | _ => none

/-- The word of declared bits that expands into a list of execution modes. -/
def ofEntries? (es : List ModeEntry) : Option FloatControl :=
  (ofModes? (es.map ModeEntry.mode)).filter fun c ↦ c.entries = es

theorem ofModes?_entries (c : FloatControl) :
    ofModes? (c.entries.map ModeEntry.mode) = some c.truncate := by
  simp [entries_eq, ofModes?, ofParts_parts]

theorem truncate_of_ofModes? {ms : List ExecutionMode} (h : ofModes? ms = some c) :
    c.truncate = c := by
  rw [ofModes?.eq_def] at h
  split at h
  · simp only [Option.bind_eq_bind, Option.bind_eq_some_iff, Option.pure_def,
      Option.some_inj] at h
    obtain ⟨r, -, o, -, double, -, single, -, half, -, rfl⟩ := h
    exact truncate_ofParts r o double single half
  · cases h

/-- **An expansion is read back** as the word that it came from, but for the other bits. -/
theorem ofEntries?_entries (c : FloatControl) : ofEntries? c.entries = some c.truncate := by
  rw [ofEntries?, ofModes?_entries, Option.filter_some, if_pos]
  exact decide_eq_true c.entries_truncate

/-- Nothing else is read back. -/
theorem ofEntries?_eq_some_iff {es : List ModeEntry} :
    ofEntries? es = some c ↔ c.entries = es ∧ c.isKnown = true := by
  rw [isKnown_iff]
  constructor
  · intro h
    obtain ⟨hmodes, hentries⟩ := Option.filter_eq_some_iff.1 h
    exact ⟨of_decide_eq_true hentries, truncate_of_ofModes? hmodes⟩
  · rintro ⟨rfl, hknown⟩
    rw [ofEntries?_entries, hknown]

/-- Two words expand alike if they agree on the declared bits, and only then. -/
theorem entries_eq_entries_iff :
    c.entries = c'.entries ↔ ∀ i ∈ declaredBits, c.bits.getLsbD i = c'.bits.getLsbD i := by
  rw [← truncate_eq_iff]
  constructor
  · intro h
    have hread := congrArg ofEntries? h
    rwa [ofEntries?_entries, ofEntries?_entries, Option.some_inj] at hread
  · intro h
    rw [← c.entries_truncate, h, c'.entries_truncate]

/-- **Expansion is lossless on the declared bits and blind to the rest.** Two words expand alike if
they agree on the bits 0, 4 to 7 and 10, and only then. A word expands into a triple of rounding,
operation and denormal mode for each of the widths 64, 32 and 16. The rounding is the same in all
three, chosen by bits 4 and 5 as a number, and so is the operation, chosen by bit 0; the denormal
mode of a width depends on one bit of its own. The word without its other bits is read back from the
expansion, and what is no expansion is not read. -/
theorem expansions_lossless :
    (∀ b b' : UInt32, (ofWord b).entries = (ofWord b').entries ↔
      ∀ i ∈ [0, 4, 5, 6, 7, 10], b.toBitVec.getLsbD i = b'.toBitVec.getLsbD i) ∧
    (∀ b : UInt32, ∃ r o double single half : ExecutionMode,
      (ofWord b).entries = [⟨r, [64]⟩, ⟨o, [64]⟩, ⟨double, [64]⟩, ⟨r, [32]⟩, ⟨o, [32]⟩,
        ⟨single, [32]⟩, ⟨r, [16]⟩, ⟨o, [16]⟩, ⟨half, [16]⟩] ∧
      [ExecutionMode.roundingModeRTE, .roundingModeRTP, .roundingModeRTN, .roundingModeRTZ][
        ((b >>> 4) &&& 3).toNat]? = some r ∧
      o = (if b.toBitVec.getLsbD 0 then .floatingPointModeALT else .floatingPointModeIEEE) ∧
      double = (if b.toBitVec.getLsbD 6 then .denormPreserve else .denormFlushToZero) ∧
      single = (if b.toBitVec.getLsbD 7 then .denormPreserve else .denormFlushToZero) ∧
      half = if b.toBitVec.getLsbD 10 then .denormPreserve else .denormFlushToZero) ∧
    (∀ b : UInt32, ofEntries? (ofWord b).entries = some (ofWord (b &&& 0x4f1))) ∧
    ∀ (es : List ModeEntry) (b : UInt32), ofEntries? es = some (ofWord b) ↔
      (ofWord b).entries = es ∧ b &&& 0x4f1 = b := by
  have htruncate : ∀ b : UInt32, (ofWord b).truncate = ofWord (b &&& 0x4f1) := fun b ↦ rfl
  refine ⟨fun b b' ↦ entries_eq_entries_iff, fun b ↦ ?triples, fun b ↦ ?_, fun es b ↦ ?_⟩
  case triples =>
    refine ⟨_, _, _, _, _, entries_eq _, ?_, ?_, ?_, ?_, ?_⟩
    · have hrounding := congrArg (Option.map Rounding.mode) (ofWord b).roundings_getElem?
      rwa [← List.getElem?_map] at hrounding
    · rw [operation, apply_ite Operation.mode]
      rfl
    all_goals
      rw [denormals, apply_ite Denormals.mode]
      rfl
  · rw [ofEntries?_entries, htruncate]
  · rw [ofEntries?_eq_some_iff, isKnown_iff, htruncate, ofWord, ofWord, FloatControl.mk.injEq,
      UInt32.toBitVec_inj]

end FloatControl

end KernelMetadata
