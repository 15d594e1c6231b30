/-!
# Numbered vocabularies

The execution modes, addressing models and memory models that canonical metadata can name. Each has
a number, under which it is written, and a name. No number is used twice in a vocabulary, so a
number determines at most one member (`Numbered.ofCode?_eq_some_iff`).
-/

namespace KernelMetadata

/-- A finite vocabulary whose members have numbers and names. -/
class Numbered (α : Type) where
  /-- The members by increasing number. -/
  all : List α
  /-- The number of a member. -/
  code : α → UInt32
  /-- The name of a member. -/
  name : α → String
  find?_code : ∀ a, (all.find? fun b ↦ code b = code a) = some a

namespace Numbered

variable {α : Type} [Numbered α]

/-- The member with a number. -/
def ofCode? (c : UInt32) : Option α := (all : List α).find? fun a ↦ code a = c

@[simp] theorem ofCode?_code (a : α) : ofCode? (code a) = some a := find?_code a

theorem ofCode?_eq_some_iff {c : UInt32} {a : α} : ofCode? c = some a ↔ code a = c := by
  constructor
  · intro h
    rw [ofCode?] at h
    simpa using List.find?_some h
  · rintro rfl
    exact ofCode?_code a

theorem code_injective {a b : α} (h : code a = code b) : a = b :=
  Option.some_inj.1 ((ofCode?_eq_some_iff.2 h).symm.trans (ofCode?_code b))

end Numbered

/-- An execution mode of a kernel. -/
inductive ExecutionMode where
  | localSize
  | localSizeHint
  | vecTypeHint
  | subgroupSize
  | denormPreserve
  | denormFlushToZero
  | roundingModeRTE
  | roundingModeRTZ
  | sharedLocalMemorySize
  | roundingModeRTP
  | roundingModeRTN
  | floatingPointModeALT
  | floatingPointModeIEEE
  | maxWorkgroupSize
  | maxWorkDim
  | numSIMDWorkitems
  deriving DecidableEq

namespace ExecutionMode

/-- The execution modes by increasing number. -/
def all : List ExecutionMode :=
  [localSize, localSizeHint, vecTypeHint, subgroupSize, denormPreserve, denormFlushToZero,
    roundingModeRTE, roundingModeRTZ, sharedLocalMemorySize, roundingModeRTP, roundingModeRTN,
    floatingPointModeALT, floatingPointModeIEEE, maxWorkgroupSize, maxWorkDim, numSIMDWorkitems]

/-- The number of an execution mode. -/
def code : ExecutionMode → UInt32
  | localSize => 17
  | localSizeHint => 18
  | vecTypeHint => 30
  | subgroupSize => 35
  | denormPreserve => 4459
  | denormFlushToZero => 4460
  | roundingModeRTE => 4462
  | roundingModeRTZ => 4463
  | sharedLocalMemorySize => 5618
  | roundingModeRTP => 5620
  | roundingModeRTN => 5621
  | floatingPointModeALT => 5622
  | floatingPointModeIEEE => 5623
  | maxWorkgroupSize => 5893
  | maxWorkDim => 5894
  | numSIMDWorkitems => 5896

/-- The name of an execution mode. -/
def name : ExecutionMode → String
  | localSize => "LocalSize"
  | localSizeHint => "LocalSizeHint"
  | vecTypeHint => "VecTypeHint"
  | subgroupSize => "SubgroupSize"
  | denormPreserve => "DenormPreserve"
  | denormFlushToZero => "DenormFlushToZero"
  | roundingModeRTE => "RoundingModeRTE"
  | roundingModeRTZ => "RoundingModeRTZ"
  | sharedLocalMemorySize => "SharedLocalMemorySizeINTEL"
  | roundingModeRTP => "RoundingModeRTPINTEL"
  | roundingModeRTN => "RoundingModeRTNINTEL"
  | floatingPointModeALT => "FloatingPointModeALTINTEL"
  | floatingPointModeIEEE => "FloatingPointModeIEEEINTEL"
  | maxWorkgroupSize => "MaxWorkgroupSizeINTEL"
  | maxWorkDim => "MaxWorkDimINTEL"
  | numSIMDWorkitems => "NumSIMDWorkitemsINTEL"

instance : Numbered ExecutionMode := ⟨all, code, name, fun mode ↦ by cases mode <;> rfl⟩

end ExecutionMode

/-- How pointers of a module are laid out. -/
inductive AddressingModel where
  | logical
  | physical32
  | physical64
  deriving DecidableEq

namespace AddressingModel

/-- The addressing models by increasing number. -/
def all : List AddressingModel := [logical, physical32, physical64]

/-- The number of an addressing model. -/
def code : AddressingModel → UInt32
  | logical => 0
  | physical32 => 1
  | physical64 => 2

/-- The name of an addressing model. -/
def name : AddressingModel → String
  | logical => "Logical"
  | physical32 => "Physical32"
  | physical64 => "Physical64"

instance : Numbered AddressingModel := ⟨all, code, name, fun model ↦ by cases model <;> rfl⟩

end AddressingModel

/-- How memory accesses of a module are ordered. -/
inductive MemoryModel where
  | simple
  | glsl450
  | openCL
  | vulkan
  deriving DecidableEq

namespace MemoryModel

/-- The memory models by increasing number. -/
def all : List MemoryModel := [simple, glsl450, openCL, vulkan]

/-- The number of a memory model. -/
def code : MemoryModel → UInt32
  | simple => 0
  | glsl450 => 1
  | openCL => 2
  | vulkan => 3

/-- The name of a memory model. -/
def name : MemoryModel → String
  | simple => "Simple"
  | glsl450 => "Glsl450"
  | openCL => "OpenCL"
  | vulkan => "Vulkan"

instance : Numbered MemoryModel := ⟨all, code, name, fun model ↦ by cases model <;> rfl⟩

end MemoryModel

end KernelMetadata
