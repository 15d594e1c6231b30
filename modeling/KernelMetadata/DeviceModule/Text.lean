import KernelMetadata.DeviceModule.Basic

/-!
# The text of a module

One line for the target triple, one for each function, one for each named list. References are
written by name where the module defines their function. Names of functions, parameters, metadata
and lists stand as they are; the triple and the attributes are quoted.
-/

namespace KernelMetadata

/-- The name of a calling convention. -/
def CallingConvention.text : CallingConvention → String
  | c => "C"
  | fast => "FastC"
  | cold => "ColdC"
  | spirFunction => "SpirFunc"
  | spirKernel => "SpirKernel"
  | ptxKernel => "PtxKernel"
  | ptxDevice => "PtxDevice"
  | numbered n => "Numbered(" ++ Text.decimal n.toNat ++ ")"

/-- The text of a parameter. -/
def Param.text (p : Param) : String := p.type.text ++ " %" ++ p.name

/-- The line of a function, where `nameOf` resolves references to names. -/
def FunctionDecl.render (nameOf : FunctionId → Option String) (f : FunctionDecl) : String :=
  "define " ++ f.convention.text ++ " @" ++ f.name ++ "(" ++
    String.intercalate ", " (f.params.map Param.text) ++ ")" ++
    String.join (f.attributes.entries.map fun a ↦
      " " ++ Text.quote a.1 ++ "=" ++ Text.quote a.2) ++
    String.join (f.metadata.entries.map fun a ↦ " !" ++ a.1 ++ " " ++ a.2.render nameOf)

namespace DeviceModule

/-- The name of the function that a reference resolves to. -/
def nameOf (m : DeviceModule) (id : FunctionId) : Option String :=
  (m.function? id).map FunctionDecl.name

/-- The line of a named list. -/
def listText (m : DeviceModule) (name : String) (ns : List Node) : String :=
  "!" ++ name ++ " = !\x7b" ++ String.intercalate ", " (ns.map (Node.render m.nameOf)) ++ "\x7d"

/-- The lines of a module. -/
def textLines (m : DeviceModule) : List String :=
  (m.triple.map fun t ↦ "target triple = " ++ Text.quote t).toList ++
    m.functions.map (FunctionDecl.render m.nameOf) ++
    m.lists.entries.map fun l ↦ m.listText l.1 l.2

/-- The text of a module, each line with its end. -/
def text (m : DeviceModule) : String := String.join (m.textLines.map (· ++ "\n"))

end DeviceModule

end KernelMetadata
