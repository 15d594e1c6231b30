import KernelMetadata.NameMap
import KernelMetadata.Node

/-!
# Device modules

A device module holds what annotations need to know of a program for an accelerator: the functions
declared in it, in a fixed order, each with its calling convention, parameters, string attributes
and attached metadata nodes; and lists of metadata nodes under names.

Functions are found by identity. Nothing stops two functions from sharing an identity: look-up and
change then concern the first of them.
-/

namespace KernelMetadata

/-- A formal parameter. -/
structure Param where
  name : String
  type : Ty
  deriving DecidableEq

/-- How a function is called. -/
inductive CallingConvention where
  | c
  | fast
  | cold
  | spirFunction
  | spirKernel
  | ptxKernel
  | ptxDevice
  | numbered (number : UInt32)
  deriving DecidableEq

/-- Whether a convention makes its function a kernel, an entry point for the host. -/
def CallingConvention.isKernel : CallingConvention → Bool
  | spirKernel => true
  | c | fast | cold | spirFunction | ptxKernel | ptxDevice | numbered _ => false

theorem CallingConvention.isKernel_iff {cc : CallingConvention} :
    cc.isKernel = true ↔ cc = spirKernel := by
  cases cc <;> simp [isKernel]

/-- A function declaration with its annotations. -/
structure FunctionDecl where
  id : FunctionId
  name : String
  params : List Param
  convention : CallingConvention
  attributes : NameMap String
  metadata : NameMap Node
  deriving DecidableEq

/-- Whether a function is a kernel. -/
def FunctionDecl.isKernel (f : FunctionDecl) : Bool := f.convention.isKernel

/-- A module for an accelerator. -/
structure DeviceModule where
  triple : Option String
  functions : List FunctionDecl
  lists : NameMap (List Node)
  deriving DecidableEq

namespace DeviceModule

/-! ## Functions -/

/-- The first function with an identity. -/
def function? (m : DeviceModule) (id : FunctionId) : Option FunctionDecl :=
  m.functions.find? fun f ↦ f.id = id

/-- The first function with a name. -/
def functionNamed? (m : DeviceModule) (name : String) : Option FunctionDecl :=
  m.functions.find? fun f ↦ f.name = name

/-- Whether a reference resolves in the module. -/
def defines (m : DeviceModule) (id : FunctionId) : Bool := (m.function? id).isSome

/-- The kernels, in module order. -/
def kernels (m : DeviceModule) : List FunctionDecl := m.functions.filter (·.isKernel)

/-- Adds a function after all others. -/
def addFunction (m : DeviceModule) (f : FunctionDecl) : DeviceModule :=
  { m with functions := m.functions ++ [f] }

/-- Changes the first function with an identity. -/
def modifyFirst (id : FunctionId) (change : FunctionDecl → FunctionDecl) :
    List FunctionDecl → List FunctionDecl
  | [] => []
  | f :: fs => if f.id = id then change f :: fs else f :: modifyFirst id change fs

/-- Changes the first function with an identity. -/
def modifyFunction (m : DeviceModule) (id : FunctionId) (change : FunctionDecl → FunctionDecl) :
    DeviceModule :=
  { m with functions := modifyFirst id change m.functions }

/-- Exchanges the functions at two places; nothing happens unless both places are in use. -/
def swapFunctions (m : DeviceModule) (i j : Nat) : DeviceModule :=
  match m.functions[i]?, m.functions[j]? with
  | some f, some g => { m with functions := (m.functions.set i g).set j f }
  | _, _ => m

theorem length_modifyFirst (id : FunctionId) (change : FunctionDecl → FunctionDecl)
    (fs : List FunctionDecl) : (modifyFirst id change fs).length = fs.length := by
  induction fs with
  | nil => rfl
  | cons f fs ih =>
    rw [modifyFirst]
    split
    · rfl
    · rw [List.length_cons, ih, List.length_cons]

theorem function?_isSome_iff {m : DeviceModule} {id : FunctionId} :
    (m.function? id).isSome ↔ ∃ f ∈ m.functions, f.id = id := by
  simp [function?, List.find?_isSome]

/-! ## Named lists -/

/-- The nodes of a named list, if it exists. -/
def list? (m : DeviceModule) (name : String) : Option (List Node) := m.lists.get? name

/-- The nodes of a named list; an absent list has none. -/
def nodes (m : DeviceModule) (name : String) : List Node := (m.list? name).getD []

/-- Creates a named list unless it exists. -/
def openList (m : DeviceModule) (name : String) : DeviceModule :=
  { m with lists := m.lists.insert name (m.nodes name) }

/-- Adds nodes at the end of a named list, creating it if need be. -/
def appendNodes (m : DeviceModule) (name : String) (ns : List Node) : DeviceModule :=
  { m with lists := m.lists.insert name (m.nodes name ++ ns) }

/-- Removes a named list. -/
def eraseList (m : DeviceModule) (name : String) : DeviceModule :=
  { m with lists := m.lists.erase name }

/-- The distinct strings among the operands of a named list, in increasing order. -/
def distinctStrings (m : DeviceModule) (name : String) : List String :=
  (NameMap.ofList (((m.nodes name).flatMap Node.strings).map fun s ↦ (s, ()))).keys

end DeviceModule

end KernelMetadata
