/-!
# Types of parameters and operands

Integers of any width, five floating-point formats, pointers, vectors of scalars, and aggregates
passed by value. Only their coarse shape matters: whether a type is a pointer, what its scalar is,
how wide that is.

An `IntType` may hold any 32-bit width. The widths that have a meaning are `1` to `2^23 - 1`
(`IntType.InRange`), and `IntType.ofBits?` builds no others.
-/

namespace KernelMetadata

/-- An integer type, given by its width in bits. -/
structure IntType where
  bits : UInt32
  deriving DecidableEq, Repr

namespace IntType

/-- The greatest meaningful width. -/
def maxBits : UInt32 := 8388607

/-- Whether the width is one that an integer may have. -/
def InRange (t : IntType) : Prop := 1 ≤ t.bits ∧ t.bits ≤ maxBits

instance (t : IntType) : Decidable t.InRange := inferInstanceAs (Decidable (_ ∧ _))

/-- The integer type of a width, if integers may have it. -/
def ofBits? (bits : UInt32) : Option IntType :=
  if InRange ⟨bits⟩ then some ⟨bits⟩ else none

theorem ofBits?_eq_some_iff {bits : UInt32} {t : IntType} :
    ofBits? bits = some t ↔ t.bits = bits ∧ t.InRange := by
  rw [ofBits?, Option.ite_none_right_eq_some, Option.some_inj]
  constructor
  · rintro ⟨h, rfl⟩
    exact ⟨rfl, h⟩
  · rintro ⟨rfl, h⟩
    exact ⟨h, rfl⟩

/-- The 32-bit integers, in which every canonical operand is written. -/
def i32 : IntType := ⟨32⟩

end IntType

/-- A floating-point format. -/
inductive FloatFormat where
  | half
  | bfloat
  | single
  | double
  | quadruple
  deriving DecidableEq, Repr

/-- The width of a format in bits. -/
def FloatFormat.bits : FloatFormat → UInt32
  | half | bfloat => 16
  | single => 32
  | double => 64
  | quadruple => 128

/-- A type that a vector component or a pointee may have. -/
inductive Scalar where
  | int (type : IntType)
  | float (format : FloatFormat)
  deriving DecidableEq, Repr

/-- Whether a scalar is a floating-point number. -/
def Scalar.isFloat : Scalar → Bool
  | int _ => false
  | float _ => true

/-- A pointer into an address space; an opaque one has no pointee. -/
structure PointerType where
  addressSpace : UInt32
  pointee : Option Scalar
  deriving DecidableEq, Repr

/-- A fixed number of scalars operated on in parallel. -/
structure VectorType where
  component : Scalar
  length : UInt16
  deriving DecidableEq, Repr

/-- The type of a parameter or of a metadata operand. -/
inductive Ty where
  | int (type : IntType)
  | float (format : FloatFormat)
  | pointer (type : PointerType)
  | vector (type : VectorType)
  | aggregate (elements : List Ty)
  deriving Repr

/-- Induction on types, with all elements of an aggregate at once. -/
@[induction_eliminator]
theorem Ty.induct {motive : Ty → Prop} (int : ∀ t, motive (.int t)) (float : ∀ f, motive (.float f))
    (pointer : ∀ p, motive (.pointer p)) (vector : ∀ v, motive (.vector v))
    (aggregate : ∀ ts, (∀ t ∈ ts, motive t) → motive (.aggregate ts)) (t : Ty) : motive t := by
  refine @Ty.rec motive (fun ts ↦ ∀ t ∈ ts, motive t) int float pointer vector aggregate ?_ ?_ t
  · simp
  · intro t ts ht hts
    exact List.forall_mem_cons.2 ⟨ht, hts⟩

namespace Ty

/-- The scalar of a type: the type itself, or the component of a vector. -/
def scalar? : Ty → Option Scalar
  | int t => some (.int t)
  | float f => some (.float f)
  | vector v => some v.component
  | pointer _ | aggregate _ => none

/-- The width in bits of an integer or floating-point type. -/
def bits? : Ty → Option UInt32
  | int t => some t.bits
  | float f => some f.bits
  | pointer _ | vector _ | aggregate _ => none

/-- Whether a type is a pointer. -/
def isPointer : Ty → Bool
  | pointer _ => true
  | int _ | float _ | vector _ | aggregate _ => false

end Ty

end KernelMetadata
