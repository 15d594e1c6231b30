import KernelMetadata.Interchange.Json
import KernelMetadata.Ty.Basic

/-!
# Types as JSON

Each type is written as an object and read as `Interchange.Json` describes. The width of an integer
type is read as it stands; that it is a width integers may have is not checked.
-/

namespace KernelMetadata

namespace IntType

/-- An integer type as JSON. -/
def toJson (t : IntType) : Json := .object [("num_bits", .ofNat t.bits.toNat)]

/-- Reads an integer type. -/
def ofJson? (j : Json) : Option IntType :=
  match j.fields? ["num_bits"] with
  | some [bits] => bits.uint32?.map IntType.mk
  | _ => none

end IntType

namespace FloatFormat

/-- The name of a format in JSON. -/
def jsonName : FloatFormat → String
  | half => "Fp16"
  | bfloat => "Bf16"
  | single => "Fp32"
  | double => "Fp64"
  | quadruple => "Fp128"

/-- The format with a name. -/
def ofJsonName? (name : String) : Option FloatFormat :=
  [half, bfloat, single, double, quadruple].find? fun f ↦ f.jsonName = name

/-- A floating-point format as JSON. -/
def toJson (f : FloatFormat) : Json := .string f.jsonName

/-- Reads a floating-point format. -/
def ofJson? (j : Json) : Option FloatFormat :=
  match j.choice? with
  | some (name, .null) => ofJsonName? name
  | _ => none

theorem ofJsonName?_jsonName (f : FloatFormat) : ofJsonName? f.jsonName = some f := by
  cases f <;> decide

end FloatFormat

namespace Scalar

/-- A scalar as JSON. -/
def toJson : Scalar → Json
  | int t => .choice "Int" t.toJson
  | float f => .choice "Float" f.toJson

/-- Reads a scalar. -/
def ofJson? (j : Json) : Option Scalar :=
  match j.choice? with
  | some ("Int", content) => (IntType.ofJson? content).map int
  | some ("Float", content) => (FloatFormat.ofJson? content).map float
  | _ => none

end Scalar

namespace PointerType

/-- A pointer type as JSON. -/
def toJson (p : PointerType) : Json :=
  .object [("address_space", .ofNat p.addressSpace.toNat),
    ("pointee", (p.pointee.map Scalar.toJson).getD .null)]

/-- Reads a pointer type. -/
def ofJson? (j : Json) : Option PointerType :=
  match j.fields? ["address_space", "pointee"] with
  | some [space, pointee] => do
    let space ← space.uint32?
    let pointee ← pointee.optional? Scalar.ofJson?
    pure ⟨space, pointee⟩
  | _ => none

end PointerType

namespace VectorType

/-- A vector type as JSON. -/
def toJson (v : VectorType) : Json :=
  .object [("ty", v.component.toJson), ("num_elements", .ofNat v.length.toNat)]

/-- Reads a vector type. -/
def ofJson? (j : Json) : Option VectorType :=
  match j.fields? ["ty", "num_elements"] with
  | some [component, length] => do
    let component ← Scalar.ofJson? component
    let length ← length.uint16?
    pure ⟨component, length⟩
  | _ => none

end VectorType

namespace Ty

mutual

/-- A type as JSON. -/
def toJson : Ty → Json
  | int t => .choice "Int" t.toJson
  | float f => .choice "Float" f.toJson
  | pointer p => .choice "Ptr" p.toJson
  | vector v => .choice "Vc" v.toJson
  | aggregate elements => .choice "Struct" (.array (elementsToJson elements))

/-- Types as JSON values. -/
def elementsToJson : List Ty → List Json
  | [] => []
  | t :: ts => toJson t :: elementsToJson ts

end

theorem elementsToJson_eq_map (ts : List Ty) : elementsToJson ts = ts.map toJson := by
  induction ts with
  | nil => rfl
  | cons t ts ih => rw [elementsToJson, ih, List.map_cons]

/-- Reads a type that is no aggregate, from the name of its kind and its content. -/
def leafOfJson? (kind : String) (content : Json) : Option Ty :=
  match kind with
  | "Int" => (IntType.ofJson? content).map int
  | "Float" => (FloatFormat.ofJson? content).map float
  | "Ptr" => (PointerType.ofJson? content).map pointer
  | "Vc" => (VectorType.ofJson? content).map vector
  | _ => none

mutual

/-- Reads a type. -/
def ofJson? : Json → Option Ty
  | .object [("Struct", .array elements)] => (elementsOfJson? elements).map aggregate
  | .object [(kind, content)] => leafOfJson? kind content
  | _ => none

/-- Reads types. -/
def elementsOfJson? : List Json → Option (List Ty)
  | [] => some []
  | j :: js =>
    match ofJson? j, elementsOfJson? js with
    | some t, some ts => some (t :: ts)
    | _, _ => none

end

theorem elementsOfJson?_eq_mapM (js : List Json) : elementsOfJson? js = js.mapM ofJson? := by
  induction js with
  | nil => rfl
  | cons j js ih =>
    rw [elementsOfJson?, ih, List.mapM_cons]
    cases ofJson? j <;> cases js.mapM ofJson? <;> rfl

theorem ofJson?_struct (content : Json) :
    ofJson? (.choice "Struct" content) = (content.list? ofJson?).map aggregate := by
  cases content with
  | array elements => rw [Json.choice, ofJson?, elementsOfJson?_eq_mapM, Json.list?]
  | null | bool | integer | fraction | string | object => rfl

end Ty

end KernelMetadata
