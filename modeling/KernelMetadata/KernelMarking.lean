import KernelMetadata.Options.Basic
import KernelMetadata.Record
import KernelMetadata.Target

/-!
# Declarations and kernel marking

A module gets its memory model and its source extensions declared, and loses the lists that these
were read from. In a module for an NVPTX target, the functions that the NVPTX annotations mark as
kernels become kernels: they get metadata about their arguments and the calling convention of a
kernel.

A plan is computed first, from the module alone (`Plan.of`), and carried out afterwards
(`Plan.carryOut`); only the first step can fail.
-/

namespace KernelMetadata

/-! ## Annotated kernels -/

/-- Whether a node of the NVPTX annotations marks a kernel: three operands, the second the mark. -/
def Node.marksKernel (n : Node) : Bool :=
  match n.operands with
  | [_, .string mark, _] => mark = Vocabulary.kernelMark
  | _ => false

/-- The function that the first operand of a node resolves to. -/
def DeviceModule.firstOperandFunction? (m : DeviceModule) (n : Node) : Option FunctionDecl :=
  match n.operands with
  | .function f :: _ => m.function? f
  | _ => none

/-- Functions without those whose identity occurs earlier or in `seen`. -/
def distinctFunctions (seen : List FunctionId) : List FunctionDecl → List FunctionDecl
  | [] => []
  | f :: fs =>
    if f.id ∈ seen then distinctFunctions seen fs else f :: distinctFunctions (f.id :: seen) fs

namespace DeviceModule

/-- The nodes of the NVPTX annotations that mark kernels, with their places in the list. -/
def kernelMarks (m : DeviceModule) : List (Node × Nat) :=
  (m.nodes Vocabulary.nvptxAnnotations).zipIdx.filter fun n ↦ n.1.marksKernel

/-- The functions that the NVPTX annotations mark as kernels, each once, in the order in which they
are first mentioned. Marks that resolve to no function are told. -/
def annotatedKernels (m : DeviceModule) : Logged (List FunctionDecl) :=
  ⟨distinctFunctions [] (m.kernelMarks.filterMap fun n ↦ m.firstOperandFunction? n.1),
    m.kernelMarks.filterMap fun n ↦
      match m.firstOperandFunction? n.1 with
      | some _ => none
      | none => some (.annotationIgnored n.2)⟩

end DeviceModule

/-! ## Arguments of kernels -/

/-- The coarse name of the type of an argument. Pointers are told apart only by whether they are
known to point to floating-point numbers; of the other types only integers and single-precision
numbers have a name. -/
def Ty.argName? : Ty → Option String
  | pointer p => some (if p.pointee.any Scalar.isFloat then "float*" else "int*")
  | float .single => some "float"
  | int _ => some "int"
  | float .half | float .bfloat | float .double | float .quadruple | vector _ | aggregate _ => none

/-- The metadata about the arguments of a kernel. -/
structure KernelArgs where
  function : FunctionId
  accessQualifiers : Node
  types : Node
  addressSpaces : Node
  deriving DecidableEq

namespace KernelArgs

/-- The metadata about the arguments of a function: for each parameter no access qualifier, the name
of its type if it has one, and address space one for a pointer and zero otherwise. -/
def describe (f : FunctionDecl) : KernelArgs :=
  ⟨f.id, .ofStrings (f.params.map fun _ ↦ "none"),
    .ofStrings (f.params.filterMap fun p ↦ p.type.argName?),
    .ofWords (f.params.map fun p ↦ if p.type.isPointer then 1 else 0)⟩

/-- What describing the arguments of a function tells: the parameters whose types have no name. -/
def events (f : FunctionDecl) : List Event :=
  (f.params.filter fun p ↦ p.type.argName?.isNone).map fun p ↦ .argumentUnnamed p.name p.type f.name

/-- The edits that make a function a kernel with these arguments. -/
def edits (k : KernelArgs) : List Edit :=
  [.setMetadata k.function Vocabulary.argAccessQualifiers k.accessQualifiers,
    .setMetadata k.function Vocabulary.argTypes k.types,
    .setMetadata k.function Vocabulary.argAddressSpaces k.addressSpaces,
    .setConvention k.function .spirKernel]

end KernelArgs

/-! ## Plans -/

/-- What is going to be declared and marked. -/
structure Plan where
  addressing : AddressingModel
  memory : MemoryModel
  extensions : List String
  kernels : List KernelArgs
  deriving DecidableEq

namespace Plan

/-- The kernels to be marked. Without an NVPTX target there are none; with one, the annotations have
to be there. -/
def kernelsOf (m : DeviceModule) (t : Target) :
    Except TranscriptionError (Logged (List KernelArgs)) :=
  if t.arch.isNvptx then
    match m.list? Vocabulary.nvptxAnnotations with
    | none => .error (.missingKernelAnnotations t.triple)
    | some _ => .ok ⟨m.annotatedKernels.value.map KernelArgs.describe,
        m.annotatedKernels.events ++ m.annotatedKernels.value.flatMap KernelArgs.events⟩
  else .ok (pure [])

/-- Computes the plan for a module and a target. -/
def of (m : DeviceModule) (t : Target) : Except TranscriptionError (Logged Plan) :=
  (kernelsOf m t).map fun kernels ↦
    ⟨⟨t.arch.addressing, .openCL, m.distinctStrings Vocabulary.usedExtensions, kernels.value⟩,
      kernels.events⟩

/-- The edits that erase what is no longer needed. -/
def erasures (options : Options) : List Edit :=
  if options.eraseLegacy then
    [.erase Vocabulary.usedExtensions, .erase Vocabulary.usedCoreFeatures,
      .erase Vocabulary.contractionMark]
  else []

/-- Declares source extensions, unless there are none. -/
def declareExtensions (names : List String) (m : DeviceModule) : Logged DeviceModule :=
  if names.isEmpty then pure m
  else do
    Logged.tell (.extensionsDeclared names.length)
    m.edit (Record.sourceExtensions names).edit

/-- Makes functions kernels, one after the other. -/
def markKernels (m : DeviceModule) : List KernelArgs → Logged DeviceModule
  | [] => pure m
  | k :: ks => do
    Logged.tell (.kernelMarked k.function)
    let m ← m.replay k.edits
    markKernels m ks

/-- Carries out a plan. -/
def carryOut (p : Plan) (options : Options) (m : DeviceModule) : Logged DeviceModule := do
  let m ← m.edit (.erase Vocabulary.nvptxVersion)
  let m ← m.edit (Record.memoryModel p.addressing p.memory).edit
  let m ← declareExtensions p.extensions m
  let m ← m.replay (erasures options)
  markKernels m p.kernels

end Plan

end KernelMetadata
