import KernelMetadata.DeviceModule.Edit
import KernelMetadata.Vocabulary.Numbered

/-!
# Canonical records

What a transcription writes is a sequence of typed records: execution modes of kernels, the memory
model, source extensions, and version pairs. Each kind has its named list, and each record is
lowered to nodes at the end of that list: an execution mode to its function, its number and its
operands; a memory model and a version to a pair of words; extensions to one string node each.
-/

namespace KernelMetadata

/-- An execution mode with its operands. -/
structure ModeEntry where
  mode : ExecutionMode
  operands : List UInt32
  deriving DecidableEq

/-- An execution mode of a kernel. -/
structure KernelMode where
  target : FunctionId
  entry : ModeEntry
  deriving DecidableEq

/-- The node of an execution mode of a kernel. -/
def KernelMode.node (k : KernelMode) : Node :=
  ⟨.function k.target :: .word (Numbered.code k.entry.mode) :: k.entry.operands.map .word⟩

/-- The language that a version is of. -/
inductive VersionList where
  | spir
  | openCL
  deriving DecidableEq

/-- The named list of the versions of a language. -/
def VersionList.name : VersionList → String
  | spir => Vocabulary.spirVersion
  | openCL => Vocabulary.openCLVersion

/-- A canonical record. -/
inductive Record where
  | executionMode (mode : KernelMode)
  | memoryModel (addressing : AddressingModel) (memory : MemoryModel)
  | sourceExtensions (names : List String)
  | version (list : VersionList) (major minor : UInt32)
  deriving DecidableEq

namespace Record

/-- The version of the intermediate language that canonical metadata is written for. -/
def spir : Record := version .spir 1 2

/-- The version of the source language that canonical metadata is written for. -/
def openCL : Record := version .openCL 1 0

/-- The named list that holds a record. -/
def listName : Record → String
  | executionMode _ => Vocabulary.executionModes
  | memoryModel .. => Vocabulary.memoryModel
  | sourceExtensions _ => Vocabulary.sourceExtensions
  | version list .. => list.name

/-- The nodes that hold a record. -/
def nodes : Record → List Node
  | executionMode mode => [mode.node]
  | memoryModel addressing memory => [.ofWords [Numbered.code addressing, Numbered.code memory]]
  | sourceExtensions names => names.map fun name ↦ .ofStrings [name]
  | version _ major minor => [.ofWords [major, minor]]

/-- The edit that writes a record. -/
def edit (r : Record) : Edit := .write r.listName (r.nodes.map .ofNode)

theorem apply_edit (m : DeviceModule) (r : Record) :
    r.edit.apply m = m.appendNodes r.listName r.nodes := by
  rw [edit, Edit.apply, Draft.filterMap_committed?_ofNode]

end Record

end KernelMetadata
