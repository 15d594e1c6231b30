import KernelMetadata.Annotation.Basic
import Mathlib.Algebra.Group.Nat.Defs
import Mathlib.Data.List.Forall2

/-!
# Reading words

Windows of nodes are decoded by a walk that stops at the first operand that it cannot read. What
comes of it is said here without a walk, by what stands at the places of a node: a word
(`Node.WordAt`) or something that is none (`Node.FaultAt`). The faults are told by their places in
the node and not in the window.

A walk over two runs of operands is a walk over the first and then one over the second
(`readWords_append`). So a window can be decoded piece by piece (`Node.window_add_eq_ok_iff`).
-/

namespace KernelMetadata

variable {n : Node} {o : Operand} {os os' : List Operand} {w : UInt32} {ws : List UInt32}
  {e : DecodeError} {index offset count : Nat}

/-! ## One operand -/

namespace Operand

/-- Whether an operand is an integer constant with the value of a word, of whatever width. -/
def Holds (o : Operand) (w : UInt32) : Prop := ∃ c, o = .int c ∧ c.value.toNat = w.toNat

/-- What is wrong with an operand that is no word and stands at a place of a node. -/
inductive Faulty (index : Nat) : Operand → DecodeError → Prop where
  | notAnInteger {o : Operand} (h : ∀ c, o ≠ .int c) : Faulty index o (.notAnInteger index)
  | outOfRange {c : IntConst} (h : 2 ^ 32 ≤ c.value.toNat) :
    Faulty index (.int c) (.integerOutOfRange index c.value)

theorem readWord_eq_ok_iff (index : Nat) : o.readWord index = .ok w ↔ o.Holds w := by
  cases o with
  | int c =>
    simp only [readWord, Holds, int.injEq, exists_eq_left']
    split_ifs with hlt
    · have hword : c.value.toUInt32.toNat = c.value.toNat := by
        rw [UInt64.toNat_toUInt32]
        exact Nat.mod_eq_of_lt hlt
      rw [Except.ok.injEq, ← UInt32.toNat_inj, hword]
    · refine iff_of_false nofun fun h ↦ hlt ?_
      rw [h]
      exact w.toNat_lt_size
  | string _ | function _ | undef _ => simp [readWord, Holds]

theorem readWord_eq_error_iff : o.readWord index = .error e ↔ o.Faulty index e := by
  cases o with
  | int c =>
    rw [readWord]
    split_ifs with hlt
    · refine iff_of_false nofun ?_
      rintro (⟨hother⟩ | ⟨hlarge⟩)
      · exact hother c rfl
      · exact Nat.not_lt_of_le hlarge hlt
    · rw [Except.error.injEq]
      constructor
      · rintro rfl
        exact .outOfRange (Nat.le_of_not_lt hlt)
      · rintro (⟨hother⟩ | _)
        · exact (hother c rfl).elim
        · rfl
  | string _ | function _ | undef _ =>
    rw [readWord, Except.error.injEq]
    constructor
    · rintro rfl
      exact .notAnInteger nofun
    · rintro ⟨-⟩
      rfl

theorem holds_word (w : UInt32) : (word w).Holds w := ⟨_, rfl, UInt32.toNat_toUInt64 w⟩

/-- An operand with the width of an integer forgotten. -/
def forgetWidth : Operand → Operand
  | int c => int ⟨.i32, c.value⟩
  | string s => string s
  | function f => function f
  | undef t => undef t

theorem readWord_forgetWidth (index : Nat) (o : Operand) :
    o.forgetWidth.readWord index = o.readWord index := by
  cases o <;> rfl

end Operand

/-! ## Runs of operands -/

theorem readWords_cons (index : Nat) (o : Operand) (os : List Operand) :
    readWords index (o :: os) = (o.readWord index).bind fun w ↦
      (readWords (index + 1) os).map (w :: ·) := by
  rw [readWords]
  cases o.readWord index with
  | error e => rfl
  | ok w => cases readWords (index + 1) os <;> rfl

/-- Two runs of operands are read one after the other. -/
theorem readWords_append (index : Nat) (os os' : List Operand) :
    readWords index (os ++ os') = (readWords index os).bind fun us ↦
      (readWords (index + os.length) os').map (us ++ ·) := by
  induction os generalizing index with
  | nil =>
    rw [List.nil_append, readWords, List.length_nil, Nat.add_zero]
    cases readWords index os' <;> rfl
  | cons o os ih =>
    rw [List.cons_append, readWords_cons, readWords_cons, ih, List.length_cons,
      Nat.add_right_comm index, ← Nat.add_assoc]
    cases o.readWord index with
    | error e => rfl
    | ok w =>
      cases readWords (index + 1) os with
      | error e => rfl
      | ok us => cases readWords (index + os.length + 1) os' <;> simp [Except.bind, Except.map]

theorem readWords_eq_ok_iff (index : Nat) :
    readWords index os = .ok ws ↔ List.Forall₂ Operand.Holds os ws := by
  induction os generalizing index ws with
  | nil => simp [readWords, eq_comm]
  | cons o os ih =>
    rw [readWords_cons, List.forall₂_cons_left_iff]
    simp only [← Operand.readWord_eq_ok_iff index, ← ih (index + 1)]
    cases o.readWord index with
    | error e => simp [Except.bind]
    | ok w => cases readWords (index + 1) os <;> simp [Except.bind, Except.map, eq_comm]

theorem readWords_eq_ok_iff_getElem? : readWords index os = .ok ws ↔
    ws.length = os.length ∧
      ∀ (k : Nat) (w : UInt32), ws[k]? = some w → ∃ o : Operand, os[k]? = some o ∧ o.Holds w := by
  rw [readWords_eq_ok_iff, List.forall₂_iff_get, eq_comm]
  refine and_congr_right fun hlength ↦ ⟨fun h k w hw ↦ ?_, fun h k hos hws ↦ ?_⟩
  · obtain ⟨hk, rfl⟩ := List.getElem?_eq_some_iff.1 hw
    have hos : k < os.length := hlength ▸ hk
    exact ⟨os[k], List.getElem?_eq_getElem hos, h k hos hk⟩
  · obtain ⟨o, ho, hw⟩ := h k _ (List.getElem?_eq_getElem hws)
    rw [List.getElem?_eq_getElem hos, Option.some_inj] at ho
    subst ho
    exact hw

/-- Words are read from the operands that hold them. -/
theorem readWords_map_word (index : Nat) (ws : List UInt32) :
    readWords index (ws.map .word) = .ok ws := by
  rw [readWords_eq_ok_iff, List.forall₂_map_left_iff, List.forall₂_same]
  exact fun w _ ↦ Operand.holds_word w

/-- **The fault furthest left** is reported, by its place in the node. -/
theorem readWords_eq_error_iff : readWords index os = .error e ↔
    ∃ k, (∃ o : Operand, os[k]? = some o ∧ o.Faulty (index + k) e) ∧
      ∀ j < k, ∃ (o : Operand) (w : UInt32), os[j]? = some o ∧ o.Holds w := by
  induction os generalizing index with
  | nil => simp [readWords]
  | cons o os ih =>
    -- the fault is that of the head, or the head holds a word and the fault is further right
    have hsplit : (∃ k, (∃ o' : Operand, (o :: os)[k]? = some o' ∧ o'.Faulty (index + k) e) ∧
        ∀ j < k, ∃ (o' : Operand) (w : UInt32), (o :: os)[j]? = some o' ∧ o'.Holds w) ↔
          o.Faulty index e ∨ (∃ w, o.Holds w) ∧ readWords (index + 1) os = .error e := by
      rw [ih, ← Nat.or_exists_add_one]
      simp only [Nat.forall_lt_succ_left]
      simp [and_left_comm, Nat.add_assoc, Nat.add_comm 1]
    rw [hsplit, readWords_cons, ← Operand.readWord_eq_error_iff]
    simp only [← Operand.readWord_eq_ok_iff index]
    cases o.readWord index with
    | error e' => simp [Except.bind]
    | ok w => cases readWords (index + 1) os <;> simp [Except.bind, Except.map]

theorem readWords_congr (h : os.map Operand.forgetWidth = os'.map Operand.forgetWidth) :
    readWords index os = readWords index os' := by
  induction os generalizing index os' with
  | nil =>
    obtain rfl := List.map_eq_nil_iff.1 h.symm
    rfl
  | cons o os ih =>
    obtain ⟨o', os', rfl, ho, hos⟩ := List.map_eq_cons_iff.1 h.symm
    rw [readWords_cons, readWords_cons, ih hos.symm, ← Operand.readWord_forgetWidth index o, ← ho,
      Operand.readWord_forgetWidth]

/-! ## Windows -/

namespace Node

/-- Whether a word stands at a place of a node. -/
def WordAt (n : Node) (i : Nat) (w : UInt32) : Prop := ∃ o, n.operands[i]? = some o ∧ o.Holds w

/-- Whether something that is no word stands at a place of a node, with the fault to be reported. -/
def FaultAt (n : Node) (i : Nat) (e : DecodeError) : Prop :=
  ∃ o, n.operands[i]? = some o ∧ o.Faulty i e

/-- Whether two nodes agree within a window, but for the widths of integers. -/
def AgreeWithin (n n' : Node) (offset count : Nat) : Prop :=
  ∀ i, offset ≤ i → i < offset + count →
    n.operands[i]?.map Operand.forgetWidth = n'.operands[i]?.map Operand.forgetWidth

theorem window_of_long (h : offset + count ≤ n.operands.length) :
    n.window offset count = readWords offset ((n.operands.drop offset).take count) := by
  rw [window, if_neg (Nat.not_lt_of_le h)]

theorem getElem?_take_drop (n : Node) (offset count k : Nat) :
    ((n.operands.drop offset).take count)[k]? =
      if k < count then n.operands[offset + k]? else none := by
  rw [List.getElem?_take, List.getElem?_drop]

/-- A window is too short for no other reason than its length. -/
theorem window_eq_tooFewOperands_iff :
    n.window offset count = .error (.tooFewOperands (offset + count) n.operands.length) ↔
      n.operands.length < offset + count := by
  refine ⟨fun h ↦ ?_, window_of_short⟩
  by_contra hlong
  rw [window_of_long (Nat.le_of_not_lt hlong), readWords_eq_error_iff] at h
  obtain ⟨k, ⟨o, -, hfault⟩, -⟩ := h
  cases hfault

theorem window_eq_error_iff (h : offset + count ≤ n.operands.length) :
    n.window offset count = .error e ↔ ∃ i, offset ≤ i ∧ i < offset + count ∧ n.FaultAt i e ∧
      ∀ j, offset ≤ j → j < i → ∃ w, n.WordAt j w := by
  rw [window_of_long h, readWords_eq_error_iff]
  simp only [getElem?_take_drop]
  constructor
  · rintro ⟨k, ⟨o, ho, hfault⟩, hbefore⟩
    have hk : k < count := by
      by_contra hk
      rw [if_neg hk] at ho
      cases ho
    rw [if_pos hk] at ho
    refine ⟨offset + k, by omega, by omega, ⟨o, ho, hfault⟩, fun j hj hlt ↦ ?_⟩
    obtain ⟨j, rfl⟩ := Nat.exists_eq_add_of_le hj
    obtain ⟨o', w, ho', hw⟩ := hbefore j (by omega)
    rw [if_pos (by omega)] at ho'
    exact ⟨w, o', ho', hw⟩
  · rintro ⟨i, hi, hlt, ⟨o, ho, hfault⟩, hbefore⟩
    obtain ⟨k, rfl⟩ := Nat.exists_eq_add_of_le hi
    refine ⟨k, ⟨o, by rwa [if_pos (by omega)], hfault⟩, fun j hj ↦ ?_⟩
    obtain ⟨w, o', ho', hw⟩ := hbefore (offset + j) (by omega) (by omega)
    exact ⟨o', w, by rwa [if_pos (by omega)], hw⟩

theorem window_eq_ok_iff (h : offset + count ≤ n.operands.length) :
    n.window offset count = .ok ws ↔
      ws.length = count ∧ ∀ (k : Nat) (w : UInt32), ws[k]? = some w → n.WordAt (offset + k) w := by
  have hlength : ((n.operands.drop offset).take count).length = count := by
    rw [List.length_take, List.length_drop]
    omega
  rw [window_of_long h, readWords_eq_ok_iff_getElem?, hlength]
  refine and_congr_right fun hws ↦ forall_congr' fun k ↦ forall₂_congr fun w hw ↦ ?_
  rw [getElem?_take_drop, if_pos (hws ▸ (List.getElem?_eq_some_iff.1 hw).1), WordAt]

/-- A window within a node depends only on what the node holds there, whatever the widths. -/
theorem window_congr {n' : Node} (h : n.AgreeWithin n' offset count)
    (hn : offset + count ≤ n.operands.length) (hn' : offset + count ≤ n'.operands.length) :
    n.window offset count = n'.window offset count := by
  rw [window_of_long hn, window_of_long hn']
  refine readWords_congr (List.ext_getElem? fun k ↦ ?_)
  rw [List.getElem?_map, List.getElem?_map, getElem?_take_drop, getElem?_take_drop]
  split_ifs with hk
  · exact h _ (by omega) (by omega)
  · rfl

/-- **Windows are decoded piece by piece.** -/
theorem window_add_eq_ok_iff (offset a b : Nat) : n.window offset (a + b) = .ok ws ↔
    ∃ us vs, n.window offset a = .ok us ∧ n.window (offset + a) b = .ok vs ∧ ws = us ++ vs := by
  by_cases h : offset + (a + b) ≤ n.operands.length
  · have hlength : ((n.operands.drop offset).take a).length = a := by
      rw [List.length_take, List.length_drop]
      omega
    rw [window_of_long h, window_of_long (by omega), window_of_long (by omega), List.take_add,
      readWords_append, hlength, List.drop_drop]
    cases readWords offset ((n.operands.drop offset).take a) with
    | error e => simp [Except.bind]
    | ok us =>
      cases readWords (offset + a) ((n.operands.drop (offset + a)).take b) <;>
        simp [Except.bind, Except.map, eq_comm]
  · have hshort := Nat.lt_of_not_le h
    rw [window_of_short hshort]
    refine iff_of_false nofun ?_
    rintro ⟨us, vs, -, hvs, -⟩
    rw [window_of_short (by omega)] at hvs
    cases hvs

theorem windowAt?_of_lt {offset : UInt64} (h : offset.toNat + count < 2 ^ 64) :
    n.windowAt? offset count = some (n.window offset.toNat count) :=
  if_pos h

/-- **What a window decodes to is decided by its first fault.** A window whose end is a machine word
has an outcome. If the node is too short for the window, that is the outcome, whatever its operands,
and it never is otherwise. In a node that is long enough, the outcome is the fault furthest left in
the window, told by its place in the node, or else the words that stand in the window, in their
order. What stands outside the window does not matter, and neither do the widths of integers. A
window in two pieces decodes to the words of the first and then those of the second, and only if
both pieces can be decoded. The first operands of a node are the window from its beginning on. -/
theorem windows_decoded (n : Node) (offset : UInt64) (count : Nat)
    (hend : offset.toNat + count < 2 ^ 64) :
    ∃ outcome, n.windowAt? offset count = some outcome ∧
      (outcome = .error (.tooFewOperands (offset.toNat + count) n.operands.length) ↔
        n.operands.length < offset.toNat + count) ∧
      (offset.toNat + count ≤ n.operands.length →
        (∀ e, outcome = .error e ↔
          ∃ i, offset.toNat ≤ i ∧ i < offset.toNat + count ∧ n.FaultAt i e ∧
            ∀ j, offset.toNat ≤ j → j < i → ∃ w, n.WordAt j w) ∧
        (∀ ws, outcome = .ok ws ↔
          ws.length = count ∧ ∀ (k : Nat) w, ws[k]? = some w → n.WordAt (offset.toNat + k) w) ∧
        ∀ n', n.AgreeWithin n' offset.toNat count →
          offset.toNat + count ≤ n'.operands.length → n'.windowAt? offset count = some outcome) ∧
      (∀ a b, count = a + b → ∀ ws, outcome = .ok ws ↔ ∃ us vs,
        n.windowAt? offset a = some (.ok us) ∧
          n.windowAt? (offset + a.toUInt64) b = some (.ok vs) ∧ ws = us ++ vs) ∧
      (offset = 0 → outcome = n.words count) := by
  refine ⟨_, windowAt?_of_lt hend, window_eq_tooFewOperands_iff, fun hlong ↦
    ⟨fun e ↦ window_eq_error_iff hlong, fun ws ↦ window_eq_ok_iff hlong, fun n' hagree hn' ↦ ?_⟩,
    ?pieces, ?beginning⟩
  · rw [windowAt?_of_lt hend, window_congr hagree hlong hn']
  case pieces =>
    rintro a b rfl ws
    have hstart : (offset + a.toUInt64).toNat = offset.toNat + a := by
      have hle : a ≤ offset.toNat + (a + b) := by omega
      have ha : a.toUInt64.toNat = a := UInt64.toNat_ofNat_of_lt' (Nat.lt_of_le_of_lt hle hend)
      rw [UInt64.toNat_add, ha, Nat.mod_eq_of_lt (by omega)]
    rw [windowAt?_of_lt (by omega), windowAt?_of_lt (by omega), hstart, window_add_eq_ok_iff]
    simp only [Option.some_inj]
  case beginning =>
    rintro rfl
    rfl

/-- A node of a few words of several widths, and of other operands. -/
def mixedOperands : Node :=
  ⟨[.string "x", .int ⟨⟨7⟩, 8⟩, .word 4, .int ⟨⟨64⟩, 4294967296⟩, .word 1, .function ⟨1⟩]⟩

/-- Two words stand behind a string, and what is behind them is too large for one. -/
theorem windows_decoded_mixedOperands :
    (1 : UInt64).toNat + 4 < 2 ^ 64 ∧
      mixedOperands.windowAt? 1 4 = some (.error (.integerOutOfRange 3 4294967296)) ∧
      (1 : UInt64).toNat + 2 < 2 ^ 64 ∧ mixedOperands.windowAt? 1 2 = some (.ok [8, 4]) := by
  have hfour : (1 : UInt64).toNat + 4 < 2 ^ 64 := by decide
  have htwo : (1 : UInt64).toNat + 2 < 2 ^ 64 := by decide
  have hfirst : mixedOperands.WordAt 1 8 := ⟨_, rfl, _, rfl, rfl⟩
  have hsecond : mixedOperands.WordAt 2 4 := ⟨_, rfl, _, rfl, rfl⟩
  refine ⟨hfour, ?_, htwo, ?_⟩
  · obtain ⟨outcome, houtcome, -, hlong, -⟩ := windows_decoded mixedOperands 1 4 hfour
    rw [houtcome, Option.some_inj, (hlong (by decide)).1]
    refine ⟨3, by decide, by decide, ⟨_, rfl, .outOfRange (by decide)⟩, fun j hj hlt ↦ ?_⟩
    have hone : 1 ≤ j := hj
    obtain rfl | rfl : j = 1 ∨ j = 2 := by omega
    · exact ⟨8, hfirst⟩
    · exact ⟨4, hsecond⟩
  · obtain ⟨outcome, houtcome, -, hlong, -⟩ := windows_decoded mixedOperands 1 2 htwo
    rw [houtcome, Option.some_inj, (hlong (by decide)).2.1]
    refine ⟨rfl, fun k w hw ↦ ?_⟩
    rcases k with _ | _ | k <;> cases hw
    · exact hfirst
    · exact hsecond

theorem words_ofWords (ws : List UInt32) (count : Nat) : (ofWords ws).words count =
    if ws.length < count then .error (.tooFewOperands count ws.length) else .ok (ws.take count) := by
  rw [words, window, ofWords, List.length_map, Nat.zero_add, List.drop_zero, ← List.map_take,
    readWords_map_word]

end Node

/-! ## Attributes -/

namespace Annotation

variable {s : String}

theorem words_attr_of_ok (h : parseInteger s = .ok w) (count : Nat) : (attr s).words count =
    if count = 1 then .ok [w] else .error (.tooFewOperands count 1) := by
  rw [words, h]

theorem words_attr_of_error (h : parseInteger s = .error e) (count : Nat) :
    (attr s).words count = .error e := by
  rw [words, h]

/-- **An attribute is read like a node of one word**, unless nothing is to be read. One word is read
from either, and for more than one word either is too short; but to read no words succeeds for a
node and fails for an attribute. An attribute that is no integer fails in one way, whatever number
of words is to be read. -/
theorem attribute_as_node (s : String) :
    (∀ w, parseInteger s = .ok w → ∀ count,
      ((attr s).words count = (node (.ofWords [w])).words count ↔ count ≠ 0)) ∧
    ∀ e, parseInteger s = .error e → ∀ count, (attr s).words count = .error e := by
  refine ⟨fun w hw count ↦ ?_, fun e he count ↦ words_attr_of_error he count⟩
  rw [words_attr_of_ok hw, words, Node.words_ofWords, List.length_singleton]
  rcases count with _ | _ | count <;> simp

/-- The integer of an attribute is read through its prefix, and the fault of one that is none is
kept. -/
theorem attribute_as_node_prefixed :
    parseInteger "0x30" = .ok 48 ∧
      (attr "0x30").words 1 = (node (.ofWords [48])).words 1 ∧
      (attr "0x30").words 3 = (node (.ofWords [48])).words 3 ∧
      parseInteger "0x" = .error (.invalidInteger "0x") ∧
      (attr "0x").words 3 = .error (.invalidInteger "0x") := by
  have hok : parseInteger "0x30" = .ok 48 := by decide
  have herror : parseInteger "0x" = .error (.invalidInteger "0x") := by decide
  have hread := (attribute_as_node "0x30").1 48 hok
  exact ⟨hok, (hread 1).2 (by decide), (hread 3).2 (by decide), herror,
    (attribute_as_node "0x").2 _ herror 3⟩

/-- Of an attribute not even no words can be read, although it has more than that. -/
theorem attribute_without_words :
    parseInteger "16" = .ok 16 ∧ (attr "16").words 0 = .error (.tooFewOperands 0 1) ∧
      (node (.ofWords [16])).words 0 = .ok [] := by
  decide

end Annotation

end KernelMetadata
