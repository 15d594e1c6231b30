import KernelMetadata.Annotation.Error

/-!
# Integers in string attributes

The value of an integer attribute is a numeral whose beginning tells its radix: `0x` or `0X` for
sixteen, `0b` or `0B` for two, `0o` for eight. A zero before further digits also stands for eight,
and everything else is decimal. Neither signs nor blanks are allowed, and the number has to fit in
32 bits.
-/

namespace KernelMetadata.Annotation

/-- The radix that the beginning of a numeral tells, and the digits that follow. -/
def splitRadix : List Char → Nat × List Char
  | '0' :: 'x' :: ds => (16, ds)
  | '0' :: 'X' :: ds => (16, ds)
  | '0' :: 'b' :: ds => (2, ds)
  | '0' :: 'B' :: ds => (2, ds)
  | '0' :: 'o' :: ds => (8, ds)
  | '0' :: d :: ds => (8, d :: ds)
  | ds => (10, ds)

/-- The number that an integer attribute denotes, of any size. -/
def integerValue? (s : String) : Option Nat :=
  Text.readNumeral? (splitRadix s.toList).1 (splitRadix s.toList).2

/-- Reads an integer attribute as a 32-bit word. -/
def parseInteger (s : String) : Except DecodeError UInt32 :=
  match integerValue? s with
  | some n => if n < UInt32.size then .ok n.toUInt32 else .error (.invalidInteger s)
  | none => .error (.invalidInteger s)

/-- There is one way to fail, and it names the whole attribute. -/
theorem parseInteger_eq_error {s : String} {e : DecodeError} (h : parseInteger s = .error e) :
    e = .invalidInteger s := by
  rw [parseInteger] at h
  split at h
  · split at h
    · cases h
    · exact (Except.error.inj h).symm
  · exact (Except.error.inj h).symm

end KernelMetadata.Annotation
