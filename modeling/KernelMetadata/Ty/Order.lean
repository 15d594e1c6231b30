import KernelMetadata.Ty.Basic

/-!
# The order of types

Types compare first by kind (integers, floating-point formats, pointers, vectors, aggregates) and
then by content: pointers by address space and then pointee, the opaque pointer first; vectors by
component and then length; aggregates element by element, a proper beginning being less.

Two types compare as equal exactly when they are the same (`Ty.compare_eq_iff`), which also makes
equality of types decidable.
-/

namespace KernelMetadata

/-- Integer types are ordered by width. -/
def IntType.compare (a b : IntType) : Ordering := Ord.compare a.bits.toNat b.bits.toNat

/-- The place of a format in the order of formats. -/
def FloatFormat.rank : FloatFormat → Nat
  | half => 0
  | bfloat => 1
  | single => 2
  | double => 3
  | quadruple => 4

/-- Formats are ordered by rank. -/
def FloatFormat.compare (a b : FloatFormat) : Ordering := Ord.compare a.rank b.rank

/-- Integers come before floating-point numbers. -/
def Scalar.compare : Scalar → Scalar → Ordering
  | int a, int b => a.compare b
  | int _, float _ => .lt
  | float _, int _ => .gt
  | float a, float b => a.compare b

/-- What is absent comes before what is present. -/
def compareOption {α : Type} (cmp : α → α → Ordering) : Option α → Option α → Ordering
  | none, none => .eq
  | none, some _ => .lt
  | some _, none => .gt
  | some a, some b => cmp a b

/-- Pointers are ordered by address space, then by pointee. -/
def PointerType.compare (a b : PointerType) : Ordering :=
  (Ord.compare a.addressSpace.toNat b.addressSpace.toNat).then
    (compareOption Scalar.compare a.pointee b.pointee)

/-- Vectors are ordered by component, then by length. -/
def VectorType.compare (a b : VectorType) : Ordering :=
  (a.component.compare b.component).then (Ord.compare a.length.toNat b.length.toNat)

namespace Ty

/-- The place of a kind of type in the order of kinds. -/
def rank : Ty → Nat
  | int _ => 0
  | float _ => 1
  | pointer _ => 2
  | vector _ => 3
  | aggregate _ => 4

mutual

/-- The order of types. -/
def compare : Ty → Ty → Ordering
  | int a, int b => a.compare b
  | float a, float b => a.compare b
  | pointer a, pointer b => a.compare b
  | vector a, vector b => a.compare b
  | aggregate as, aggregate bs => compareElements as bs
  | a, b => Ord.compare a.rank b.rank

/-- The lexicographic order of lists of types. -/
def compareElements : List Ty → List Ty → Ordering
  | [], [] => .eq
  | [], _ :: _ => .lt
  | _ :: _, [] => .gt
  | a :: as, b :: bs => (compare a b).then (compareElements as bs)

end

end Ty

/-! ## Equal means the same -/

theorem IntType.compare_eq_iff {a b : IntType} : a.compare b = .eq ↔ a = b := by
  cases a
  cases b
  rw [compare, Nat.compare_eq_eq, UInt32.toNat_inj, IntType.mk.injEq]

theorem FloatFormat.compare_eq_iff {a b : FloatFormat} : a.compare b = .eq ↔ a = b := by
  cases a <;> cases b <;> decide

theorem Scalar.compare_eq_iff {a b : Scalar} : a.compare b = .eq ↔ a = b := by
  cases a <;> cases b <;> simp [compare, IntType.compare_eq_iff, FloatFormat.compare_eq_iff]

theorem compareOption_eq_iff {α : Type} {cmp : α → α → Ordering}
    (h : ∀ a b, cmp a b = .eq ↔ a = b) {x y : Option α} :
    compareOption cmp x y = .eq ↔ x = y := by
  cases x <;> cases y <;> simp [compareOption, h]

theorem PointerType.compare_eq_iff {a b : PointerType} : a.compare b = .eq ↔ a = b := by
  cases a
  cases b
  rw [compare, Ordering.then_eq_eq, Nat.compare_eq_eq, UInt32.toNat_inj,
    compareOption_eq_iff fun _ _ ↦ Scalar.compare_eq_iff, PointerType.mk.injEq]

theorem VectorType.compare_eq_iff {a b : VectorType} : a.compare b = .eq ↔ a = b := by
  cases a
  cases b
  rw [compare, Ordering.then_eq_eq, Scalar.compare_eq_iff, Nat.compare_eq_eq, UInt16.toNat_inj,
    VectorType.mk.injEq]

namespace Ty

mutual

theorem compare_eq_iff (a b : Ty) : compare a b = .eq ↔ a = b := by
  cases a with
  | int a => cases b <;> simp [compare, rank, IntType.compare_eq_iff]
  | float a => cases b <;> simp [compare, rank, FloatFormat.compare_eq_iff]
  | pointer a => cases b <;> simp [compare, rank, PointerType.compare_eq_iff]
  | vector a => cases b <;> simp [compare, rank, VectorType.compare_eq_iff]
  | aggregate as =>
    cases b with
    | aggregate bs => rw [compare, compareElements_eq_iff as bs, aggregate.injEq]
    | int _ | float _ | pointer _ | vector _ => simp [compare, rank]

theorem compareElements_eq_iff (as bs : List Ty) : compareElements as bs = .eq ↔ as = bs := by
  cases as with
  | nil => cases bs <;> simp [compareElements]
  | cons a as =>
    cases bs with
    | nil => simp [compareElements]
    | cons b bs =>
      rw [compareElements, Ordering.then_eq_eq, compare_eq_iff a b, compareElements_eq_iff as bs,
        List.cons.injEq]

end

instance : DecidableEq Ty := fun a b ↦ decidable_of_iff _ (compare_eq_iff a b)

end Ty

end KernelMetadata
