import KernelMetadata.DeviceModule.Text
import KernelMetadata.Interchange.Ty

/-!
# Modules as JSON

Functions are identified in JSON by the hyphenated form of their identity, and read in any of its
spellings. Attributes, metadata and named lists are objects; of two members with one name the later
counts. Everything else follows `Interchange.Json`.
-/

namespace KernelMetadata

namespace FunctionId

/-- An identity as JSON. -/
def toJson (f : FunctionId) : Json := .string f.hyphenated

/-- Reads an identity. -/
def ofJson? (j : Json) : Option FunctionId := j.string?.bind parse?

end FunctionId

namespace NameMap

variable {α : Type}

/-- A map as JSON. -/
def toJson (write : α → Json) (m : NameMap α) : Json :=
  .object (m.entries.map fun e ↦ (e.1, write e.2))

/-- Reads a map. -/
def ofJson? (read : Json → Option α) (j : Json) : Option (NameMap α) := do
  let members ← j.members?
  let entries ← members.mapM fun m ↦ (read m.2).map fun a ↦ (m.1, a)
  pure (ofList entries)

end NameMap

/-! ## Nodes -/

namespace IntConst

/-- An integer constant as JSON. -/
def toJson (c : IntConst) : Json :=
  .object [("ty", c.type.toJson), ("value", .ofNat c.value.toNat)]

/-- Reads an integer constant. -/
def ofJson? (j : Json) : Option IntConst :=
  match j.fields? ["ty", "value"] with
  | some [type, value] => do
    let type ← IntType.ofJson? type
    let value ← value.uint64?
    pure ⟨type, value⟩
  | _ => none

end IntConst

namespace Operand

/-- An operand as JSON. -/
def toJson : Operand → Json
  | int c => .choice "Int" c.toJson
  | string s => .choice "String" (.string s)
  | function f => .choice "Function" f.toJson
  | undef t => .choice "Undef" t.toJson

/-- Reads an operand. -/
def ofJson? (j : Json) : Option Operand :=
  match j.choice? with
  | some ("Int", content) => (IntConst.ofJson? content).map int
  | some ("String", content) => content.string?.map string
  | some ("Function", content) => (FunctionId.ofJson? content).map function
  | some ("Undef", content) => (Ty.ofJson? content).map undef
  | _ => none

end Operand

namespace Node

/-- A node as JSON. -/
def toJson (n : Node) : Json := .object [("operands", .array (n.operands.map Operand.toJson))]

/-- Reads a node. -/
def ofJson? (j : Json) : Option Node :=
  match j.fields? ["operands"] with
  | some [operands] => (operands.list? Operand.ofJson?).map Node.mk
  | _ => none

/-- The nodes of a named list as JSON. -/
def listToJson (ns : List Node) : Json := .object [("nodes", .array (ns.map toJson))]

/-- Reads the nodes of a named list. -/
def listOfJson? (j : Json) : Option (List Node) :=
  match j.fields? ["nodes"] with
  | some [nodes] => nodes.list? ofJson?
  | _ => none

end Node

/-! ## Functions -/

namespace Param

/-- A parameter as JSON. -/
def toJson (p : Param) : Json := .object [("name", .string p.name), ("ty", p.type.toJson)]

/-- Reads a parameter. -/
def ofJson? (j : Json) : Option Param :=
  match j.fields? ["name", "ty"] with
  | some [name, type] => do
    let name ← name.string?
    let type ← Ty.ofJson? type
    pure ⟨name, type⟩
  | _ => none

end Param

namespace CallingConvention

/-- The conventions that have no number. -/
def unnumbered : List CallingConvention :=
  [c, fast, cold, spirFunction, spirKernel, ptxKernel, ptxDevice]

/-- A calling convention as JSON. -/
def toJson : CallingConvention → Json
  | numbered n => .choice "Numbered" (.ofNat n.toNat)
  | cc => .string cc.text

/-- Reads a calling convention. -/
def ofJson? (j : Json) : Option CallingConvention :=
  match j.choice? with
  | some ("Numbered", content) => content.uint32?.map numbered
  | some (name, .null) => unnumbered.find? fun cc ↦ cc.text = name
  | _ => none

end CallingConvention

namespace FunctionDecl

/-- A function as JSON. -/
def toJson (f : FunctionDecl) : Json :=
  .object [("uuid", f.id.toJson), ("name", .string f.name),
    ("params", .array (f.params.map Param.toJson)), ("cconv", f.convention.toJson),
    ("attributes", f.attributes.toJson .string), ("metadata", f.metadata.toJson Node.toJson)]

/-- Reads a function. -/
def ofJson? (j : Json) : Option FunctionDecl :=
  match j.fields? ["uuid", "name", "params", "cconv", "attributes", "metadata"] with
  | some [id, name, params, convention, attributes, metadata] => do
    let id ← FunctionId.ofJson? id
    let name ← name.string?
    let params ← params.list? Param.ofJson?
    let convention ← CallingConvention.ofJson? convention
    let attributes ← NameMap.ofJson? Json.string? attributes
    let metadata ← NameMap.ofJson? Node.ofJson? metadata
    pure ⟨id, name, params, convention, attributes, metadata⟩
  | _ => none

end FunctionDecl

/-! ## Modules -/

namespace DeviceModule

/-- A module as JSON. -/
def toJson (m : DeviceModule) : Json :=
  .object [("target_triple", (m.triple.map Json.string).getD .null),
    ("functions", .array (m.functions.map FunctionDecl.toJson)),
    ("named_metadata", m.lists.toJson Node.listToJson)]

/-- Reads a module. -/
def ofJson? (j : Json) : Option DeviceModule :=
  match j.fields? ["target_triple", "functions", "named_metadata"] with
  | some [triple, functions, lists] => do
    let triple ← triple.optional? Json.string?
    let functions ← functions.list? FunctionDecl.ofJson?
    let lists ← NameMap.ofJson? Node.listOfJson? lists
    pure ⟨triple, functions, lists⟩
  | _ => none

end DeviceModule

end KernelMetadata
