import KernelMetadata.FunctionId
import KernelMetadata.Text.Quoted
import KernelMetadata.Ty.Order
import KernelMetadata.Ty.Text

/-!
# Metadata nodes

A metadata node is an ordered tuple of operands: integer constants, strings, references to
functions, and undefined values that stand for their type. Nodes hang on functions and are collected
in the named lists of a module.

A node is written `!{i32 17, !"kernel", @f, float undef}`. References are written by the name of the
function that they resolve to, and as bare identities where they resolve to nothing, so the text of
a node depends on how references are resolved (`Node.render`); `Node.text` resolves none.
-/

namespace KernelMetadata

/-- An integer constant. Its value is not held against the width of its type. -/
structure IntConst where
  type : IntType
  value : UInt64
  deriving DecidableEq

/-- One operand of a metadata node. -/
inductive Operand where
  | int (constant : IntConst)
  | string (value : String)
  | function (target : FunctionId)
  | undef (type : Ty)
  deriving DecidableEq

/-- An ordered tuple of operands. -/
structure Node where
  operands : List Operand
  deriving DecidableEq

namespace Operand

/-- The 32-bit constant of a word. -/
def word (w : UInt32) : Operand := int ⟨.i32, w.toUInt64⟩

/-- The value of a string operand. -/
def string? : Operand → Option String
  | string s => some s
  | int _ | function _ | undef _ => none

/-- The target of a function reference. -/
def function? : Operand → Option FunctionId
  | function f => some f
  | int _ | string _ | undef _ => none

@[simp] theorem string?_eq_some_iff {o : Operand} {s : String} :
    o.string? = some s ↔ o = string s := by
  cases o <;> simp [string?]

@[simp] theorem function?_eq_some_iff {o : Operand} {f : FunctionId} :
    o.function? = some f ↔ o = function f := by
  cases o <;> simp [function?]

end Operand

namespace Node

/-- The node without operands. -/
def empty : Node := ⟨[]⟩

/-- The node of strings. -/
def ofStrings (ss : List String) : Node := ⟨ss.map .string⟩

/-- The node of words. -/
def ofWords (ws : List UInt32) : Node := ⟨ws.map .word⟩

/-- The functions that a node refers to, from left to right. -/
def functions (n : Node) : List FunctionId := n.operands.filterMap Operand.function?

/-- The strings among the operands, from left to right. -/
def strings (n : Node) : List String := n.operands.filterMap Operand.string?

theorem mem_functions {n : Node} {f : FunctionId} : f ∈ n.functions ↔ .function f ∈ n.operands := by
  simp [functions]

theorem mem_strings {n : Node} {s : String} : s ∈ n.strings ↔ .string s ∈ n.operands := by
  simp [strings]

end Node

/-! ## Text -/

/-- The text of an integer constant: its type and its value. -/
def IntConst.text (c : IntConst) : String := c.type.text ++ " " ++ Text.decimal c.value.toNat

/-- The text of an operand, where `nameOf` resolves references to names. -/
def Operand.render (nameOf : FunctionId → Option String) : Operand → String
  | int c => c.text
  | string s => "!" ++ Text.quote s
  | function f =>
    match nameOf f with
    | some name => "@" ++ name
    | none => f.text
  | undef t => t.text ++ " undef"

/-- The text of an operand with references left as identities. -/
def Operand.text (o : Operand) : String := o.render fun _ ↦ none

/-- The text of a node, where `nameOf` resolves references to names. -/
def Node.render (nameOf : FunctionId → Option String) (n : Node) : String :=
  "!\x7b" ++ String.intercalate ", " (n.operands.map (Operand.render nameOf)) ++ "\x7d"

/-- The text of a node with references left as identities. -/
def Node.text (n : Node) : String := n.render fun _ ↦ none

end KernelMetadata
