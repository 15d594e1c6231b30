import KernelMetadata.Proofs.WordReading

/-!
# Windows on machine words

Where a window begins and how long it is are machine words, and so is the place where it ends; but
the sum of two machine words may be none. Here a window is decoded by what a machine does
(`Node.windowOn`): it adds, compares the end with the length of the node, and then reads operand
after operand, counting places up. An operand that is not there cannot be read, and then nothing
comes out (`Halt.outOfBounds`); nor does anything come out if sums are checked and one is no machine
word (`Halt.overflow`).

As long as the end of the window is a machine word, the comparison keeps the machine within the node
and what comes out is the decoded window (`Node.windowOn_of_lt`). Beyond that the comparison is of
no use: it is not reached if sums are checked, and if they are reduced it compares another number.
-/

namespace KernelMetadata

/-! ## Machine words -/

/-- What becomes of a sum that is no machine word: nothing, or what is left of it modulo the number
of machine words. -/
inductive Arithmetic where
  | checked
  | wrapping
  deriving DecidableEq

/-- Why nothing comes out. -/
inductive Halt where
  | overflow
  | outOfBounds (place : UInt64)
  deriving DecidableEq

namespace Arithmetic

variable {arith : Arithmetic} {x y : UInt64}

/-- Adds two machine words. -/
def add (x y : UInt64) : Arithmetic → Except Halt UInt64
  | checked => if x.toNat + y.toNat < UInt64.size then .ok (x + y) else .error .overflow
  | wrapping => .ok (x + y)

theorem add_of_lt (arith : Arithmetic) (h : x.toNat + y.toNat < 2 ^ 64) :
    arith.add x y = .ok (x + y) := by
  cases arith with
  | checked => exact if_pos h
  | wrapping => rfl

theorem toNat_add_of_lt (h : x.toNat + y.toNat < 2 ^ 64) : (x + y).toNat = x.toNat + y.toNat := by
  rw [UInt64.toNat_add, Nat.mod_eq_of_lt h]

theorem toNat_add_of_le (h : 2 ^ 64 ≤ x.toNat + y.toNat) :
    (x + y).toNat = x.toNat + y.toNat - 2 ^ 64 := by
  have hx := x.toNat_lt
  have hy := y.toNat_lt
  rw [UInt64.toNat_add]
  omega

end Arithmetic

namespace Node

variable {n : Node} {arith : Arithmetic} {offset count place : UInt64}

/-! ## Decoding -/

/-- Reads a number of operands from a place on, counting the place up. -/
def readOn (arith : Arithmetic) (n : Node) :
    Nat → UInt64 → Except Halt (Except DecodeError (List UInt32))
  | 0, _ => .ok (.ok [])
  | count + 1, place => do
    let next ← arith.add place 1
    match n.operands[place.toNat]? with
    | none => .error (.outOfBounds place)
    | some o =>
      match o.readWord place.toNat with
      | .error e => .ok (.error e)
      | .ok w => (n.readOn arith count next).map fun outcome ↦ outcome.map (w :: ·)

/-- Decodes a window, unless the node ends before the window. -/
def windowOn (arith : Arithmetic) (n : Node) (offset count : UInt64) :
    Except Halt (Except DecodeError (List UInt32)) := do
  let past ← arith.add offset count
  if n.operands.length < past.toNat then
    .ok (.error (.tooFewOperands past.toNat n.operands.length))
  else n.readOn arith count.toNat offset

theorem windowOn_of_add_eq {past : UInt64} (h : arith.add offset count = .ok past) :
    n.windowOn arith offset count =
      if n.operands.length < past.toNat then
        .ok (.error (.tooFewOperands past.toNat n.operands.length))
      else n.readOn arith count.toNat offset := by
  rw [windowOn, h]
  rfl

/-- **Within the node every operand is there**, and what is read is the window. -/
theorem readOn_of_le (arith : Arithmetic) {count : Nat}
    (hnode : place.toNat + count ≤ n.operands.length) (hword : place.toNat + count < 2 ^ 64) :
    n.readOn arith count place =
      .ok (readWords place.toNat ((n.operands.drop place.toNat).take count)) := by
  induction count generalizing place with
  | zero => rfl
  | succ count ih =>
    have hone : place.toNat + (1 : UInt64).toNat < 2 ^ 64 := by
      have hnext : (1 : UInt64).toNat = 1 := rfl
      omega
    have hnext : (place + 1).toNat = place.toNat + 1 := Arithmetic.toNat_add_of_lt hone
    have hplace : place.toNat < n.operands.length := by omega
    have hrest : n.readOn arith count (place + 1) =
        .ok (readWords (place + 1).toNat ((n.operands.drop (place + 1).toNat).take count)) :=
      ih (by omega) (by omega)
    rw [readOn, Arithmetic.add_of_lt arith hone, List.drop_eq_getElem_cons hplace,
      List.take_succ_cons, readWords_cons, List.getElem?_eq_getElem hplace, ← hnext]
    simp only [bind, Except.bind]
    cases n.operands[place.toNat].readWord place.toNat with
    | error e => rfl
    | ok w =>
      simp only [hrest]
      rfl

theorem windowOn_of_lt (arith : Arithmetic) (h : offset.toNat + count.toNat < 2 ^ 64) :
    n.windowOn arith offset count = .ok (n.window offset.toNat count.toNat) := by
  rw [windowOn_of_add_eq (Arithmetic.add_of_lt arith h), Arithmetic.toNat_add_of_lt h]
  split_ifs with hshort
  · rw [window_of_short hshort]
  · have hlong := Nat.le_of_not_lt hshort
    rw [readOn_of_le arith hlong h, window_of_long hlong]

/-! ## Beyond the machine words -/

theorem windowOn_checked_of_le (h : 2 ^ 64 ≤ offset.toNat + count.toNat) :
    n.windowOn .checked offset count = .error .overflow := by
  have hadd : Arithmetic.checked.add offset count = .error .overflow :=
    if_neg (Nat.not_lt_of_le h)
  rw [windowOn, hadd]
  rfl

theorem readOn_wrapping_of_le {count : Nat} (hcount : count ≠ 0)
    (h : n.operands.length ≤ place.toNat) :
    n.readOn .wrapping count place = .error (.outOfBounds place) := by
  obtain ⟨count, rfl⟩ := Nat.exists_eq_succ_of_ne_zero hcount
  rw [readOn, List.getElem?_eq_none h]
  rfl

/-- Where sums are reduced, the end is compared by what is left of it. A window that passes starts
behind the node, since neither the node nor the words that are read fill the machine. -/
theorem windowOn_wrapping_of_le (h : 2 ^ 64 ≤ offset.toNat + count.toNat)
    (hroom : n.operands.length + count.toNat < 2 ^ 64) :
    n.windowOn .wrapping offset count =
      if n.operands.length < offset.toNat + count.toNat - 2 ^ 64 then
        .ok (.error (.tooFewOperands (offset.toNat + count.toNat - 2 ^ 64) n.operands.length))
      else .error (.outOfBounds offset) := by
  have hoffset := offset.toNat_lt
  have hadd : Arithmetic.wrapping.add offset count = .ok (offset + count) := rfl
  rw [windowOn_of_add_eq hadd, Arithmetic.toNat_add_of_le h]
  split_ifs
  · rfl
  · exact readOn_wrapping_of_le (by omega) (by omega)

/-- **Decoding stays in bounds exactly while the end of the window is a machine word.** As long as it
is, something comes out however sums are added up, and it is that the node has too few operands
exactly if it ends before the window. If it is not, checked sums stop the machine before the length
of the node is looked at; and where sums are reduced, the node is told to have too few operands for
what is left of the end, or else the machine leaves it with the first operand. With checked sums no
operand is ever asked for that is not there, and what comes out, if anything does, is the reading of
the window. -/
theorem windows_in_bounds (n : Node) (offset count : UInt64) :
    (offset.toNat + count.toNat < 2 ^ 64 → ∀ arith, ∃ outcome,
      n.windowOn arith offset count = .ok outcome ∧
      (outcome = .error (.tooFewOperands (offset.toNat + count.toNat) n.operands.length) ↔
        n.operands.length < offset.toNat + count.toNat)) ∧
    (2 ^ 64 ≤ offset.toNat + count.toNat →
      n.windowOn .checked offset count = .error .overflow ∧
      (n.operands.length + count.toNat < 2 ^ 64 → n.windowOn .wrapping offset count =
        if n.operands.length < offset.toNat + count.toNat - 2 ^ 64 then
          .ok (.error (.tooFewOperands (offset.toNat + count.toNat - 2 ^ 64) n.operands.length))
        else .error (.outOfBounds offset))) ∧
    (∀ place, n.windowOn .checked offset count ≠ .error (.outOfBounds place)) ∧
    (n.windowOn .checked offset count).toOption = n.windowAt? offset count.toNat := by
  refine ⟨fun h arith ↦ ⟨_, windowOn_of_lt arith h, window_eq_tooFewOperands_iff⟩,
    fun h ↦ ⟨windowOn_checked_of_le h, windowOn_wrapping_of_le h⟩, ?_⟩
  by_cases h : offset.toNat + count.toNat < 2 ^ 64
  · rw [windowOn_of_lt .checked h, windowAt?_of_lt h]
    exact ⟨nofun, rfl⟩
  · have hnone : n.windowAt? offset count.toNat = none := if_neg h
    rw [windowOn_checked_of_le (Nat.le_of_not_lt h), hnone]
    exact ⟨nofun, rfl⟩

/-- The last end that is a machine word is told as it is, and the next one is not: here nothing comes
out of a node that is empty, or is told of it what is true of another window. -/
theorem windows_in_bounds_lastWord :
    (0xfffffffffffffffe : UInt64).toNat + (1 : UInt64).toNat < 2 ^ 64 ∧
      (∀ arith, Node.empty.windowOn arith 0xfffffffffffffffe 1 =
        .ok (.error (.tooFewOperands 18446744073709551615 0))) ∧
      2 ^ 64 ≤ (0xffffffffffffffff : UInt64).toNat + (2 : UInt64).toNat ∧
      Node.empty.windowOn .checked 0xffffffffffffffff 2 = .error .overflow ∧
      Node.empty.operands.length + (2 : UInt64).toNat < 2 ^ 64 ∧
      Node.empty.windowOn .wrapping 0xffffffffffffffff 2 = .ok (.error (.tooFewOperands 1 0)) := by
  have hlast : (0xfffffffffffffffe : UInt64).toNat + (1 : UInt64).toNat < 2 ^ 64 := by decide
  have hpast : 2 ^ 64 ≤ (0xffffffffffffffff : UInt64).toNat + (2 : UInt64).toNat := by decide
  have hroom : Node.empty.operands.length + (2 : UInt64).toNat < 2 ^ 64 := by decide
  obtain ⟨hchecked, hwrapping⟩ := (windows_in_bounds Node.empty _ _).2.1 hpast
  refine ⟨hlast, fun arith ↦ ?_, hpast, hchecked, hroom, ?_⟩
  · obtain ⟨outcome, houtcome, hshort⟩ := (windows_in_bounds Node.empty _ _).1 hlast arith
    rw [houtcome, hshort.2 (by decide)]
    rfl
  · rw [hwrapping hroom, if_pos (by decide)]
    rfl

/-- A window of one word at the last place has no outcome at all in a node of one word, although the
node is too short for it. -/
theorem window_at_last_place :
    (⟨[.word 7]⟩ : Node).operands.length <
        (0xffffffffffffffff : UInt64).toNat + (1 : UInt64).toNat ∧
      (⟨[.word 7]⟩ : Node).windowOn .checked 0xffffffffffffffff 1 = .error .overflow ∧
      (⟨[.word 7]⟩ : Node).windowOn .wrapping 0xffffffffffffffff 1 =
        .error (.outOfBounds 0xffffffffffffffff) ∧
      ∀ arith outcome, (⟨[.word 7]⟩ : Node).windowOn arith 0xffffffffffffffff 1 ≠ .ok outcome := by
  refine ⟨by decide, rfl, rfl, fun arith outcome h ↦ ?_⟩
  cases arith <;> cases h

end Node

end KernelMetadata
