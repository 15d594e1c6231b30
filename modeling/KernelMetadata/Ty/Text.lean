import KernelMetadata.Text.Numeral
import KernelMetadata.Ty.Basic

/-!
# The text of a type

Integers are written `i` and their width, floating-point formats by name, vectors `<4 x float>`,
aggregates `{ i32, float }`. A pointer is its pointee, or `ptr` if opaque, then its address space
unless that is zero, then a star if it has a pointee: `float addrspace(1)*`.
-/

namespace KernelMetadata

/-- The text of an integer type. -/
def IntType.text (t : IntType) : String := "i" ++ Text.decimal t.bits.toNat

/-- The name of a floating-point format. -/
def FloatFormat.text : FloatFormat → String
  | half => "half"
  | bfloat => "bfloat"
  | single => "float"
  | double => "double"
  | quadruple => "fp128"

/-- The text of a scalar. -/
def Scalar.text : Scalar → String
  | int t => t.text
  | float f => f.text

/-- The text of a pointer type. -/
def PointerType.text (p : PointerType) : String :=
  (match p.pointee with
    | some s => s.text
    | none => "ptr") ++
  (if p.addressSpace = 0 then ""
    else " addrspace(" ++ Text.decimal p.addressSpace.toNat ++ ")") ++
  (if p.pointee.isSome then "*" else "")

/-- The text of a vector type. -/
def VectorType.text (v : VectorType) : String :=
  "<" ++ Text.decimal v.length.toNat ++ " x " ++ v.component.text ++ ">"

namespace Ty

mutual

/-- The text of a type. -/
def text : Ty → String
  | int t => t.text
  | float f => f.text
  | pointer p => p.text
  | vector v => v.text
  | aggregate elements => "\x7b " ++ String.intercalate ", " (texts elements) ++ " \x7d"

/-- The texts of types. -/
def texts : List Ty → List String
  | [] => []
  | t :: ts => text t :: texts ts

end

theorem texts_eq_map (ts : List Ty) : texts ts = ts.map text := by
  induction ts with
  | nil => rfl
  | cons t ts ih => rw [texts, ih, List.map_cons]

end Ty

end KernelMetadata
