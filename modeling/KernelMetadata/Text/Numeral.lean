/-!
# Numerals

Natural numbers in positional notation. Writing is the usual one, most significant digit first and
without leading zeros, or padded with zeros to a fixed width. Reading accepts any positive number of
digits of the radix, leading zeros included, and nothing else. The radix is at most sixteen.
-/

namespace KernelMetadata.Text

/-- The decimal numeral of `n`. -/
def decimal (n : Nat) : String := String.ofList (Nat.toDigits 10 n)

/-- The lower-case hexadecimal numeral of `n`. -/
def hexadecimal (n : Nat) : String := String.ofList (Nat.toDigits 16 n)

/-- The last `width` digits of `n`, with leading zeros where `n` has fewer. -/
def paddedDigits (radix n : Nat) : Nat → List Char
  | 0 => []
  | width + 1 => paddedDigits radix (n / radix) width ++ [Nat.digitChar (n % radix)]

theorem length_paddedDigits (radix n width : Nat) :
    (paddedDigits radix n width).length = width := by
  induction width generalizing n with
  | zero => rfl
  | succ width ih => simp [paddedDigits, ih]

/-- The value of a hexadecimal digit, letters of either case. -/
def hexDigit? (c : Char) : Option Nat :=
  if '0' ≤ c ∧ c ≤ '9' then some (c.toNat - 48)
  else if 'a' ≤ c ∧ c ≤ 'f' then some (c.toNat - 87)
  else if 'A' ≤ c ∧ c ≤ 'F' then some (c.toNat - 55)
  else none

/-- The value of a digit of a radix of at most sixteen. -/
def digit? (radix : Nat) (c : Char) : Option Nat :=
  (hexDigit? c).filter (· < radix)

theorem digit?_lt {radix : Nat} {c : Char} {d : Nat} (h : digit? radix c = some d) : d < radix := by
  rw [digit?, Option.filter_eq_some_iff] at h
  exact of_decide_eq_true h.2

/-- The number that a sequence of digit values denotes. -/
def positional (radix : Nat) (ds : List Nat) : Nat :=
  ds.foldl (fun n d ↦ radix * n + d) 0

/-- Reads a numeral of the radix: one digit or more, and nothing but digits. -/
def readNumeral? (radix : Nat) (cs : List Char) : Option Nat :=
  if cs.isEmpty then none else (cs.mapM (digit? radix)).map (positional radix)

theorem readNumeral?_eq_some_iff {radix : Nat} {cs : List Char} {n : Nat} :
    readNumeral? radix cs = some n ↔
      cs ≠ [] ∧ ∃ ds, cs.mapM (digit? radix) = some ds ∧ positional radix ds = n := by
  cases cs with
  | nil => simp [readNumeral?]
  | cons c cs =>
    rw [readNumeral?, if_neg (by simp), Option.map_eq_some_iff]
    exact ⟨fun h ↦ ⟨List.cons_ne_nil c cs, h⟩, And.right⟩

end KernelMetadata.Text
