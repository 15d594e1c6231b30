import KernelMetadata.FloatControl
import KernelMetadata.Rule.Basic
import KernelMetadata.VectorHint

/-!
# The rules of the dialects

Kernels annotated by OpenCL carry metadata nodes; kernels of the vector-compute dialect carry string
attributes. Each dialect has its table of rules, and the order of a table is the order in which the
execution modes of a kernel are written.
-/

namespace KernelMetadata

namespace Rule

/-! ## OpenCL -/

/-- The required size of a work group. -/
def localSize : Rule :=
  ⟨"local-size", .metadata "reqd_work_group_size", Annotation.triple, single .localSize⟩

/-- The likely size of a work group. -/
def localSizeHint : Rule :=
  ⟨"local-size-hint", .metadata "work_group_size_hint", Annotation.triple, single .localSizeHint⟩

/-- The type in which a kernel is best vectorised. -/
def vecTypeHint : Rule :=
  ⟨"vec-type-hint", .metadata "vec_type_hint", VectorHint.extract, single .vecTypeHint⟩

/-- The required size of a subgroup. -/
def subgroupSize : Rule :=
  ⟨"subgroup-size", .metadata "intel_reqd_sub_group_size", Annotation.scalar, single .subgroupSize⟩

/-- The greatest size of a work group. -/
def maxWorkGroupSize : Rule :=
  ⟨"max-work-group-size", .metadata "max_work_group_size", Annotation.triple,
    single .maxWorkgroupSize⟩

/-- The greatest number of dimensions. -/
def maxWorkDim : Rule :=
  ⟨"max-work-dim", .metadata "max_global_work_dim", Annotation.scalar, single .maxWorkDim⟩

/-- The number of work items operated on in parallel. -/
def numSIMDWorkItems : Rule :=
  ⟨"num-simd-work-items", .metadata "num_simd_work_items", Annotation.scalar,
    single .numSIMDWorkitems⟩

/-! ## Vector compute -/

/-- The execution modes of a float-control word; there are none unless it is the only word. -/
def emitFloatControl : List UInt32 → List ModeEntry
  | [w] => (FloatControl.ofWord w).entries
  | _ => []

/-- The floating-point behaviour of a kernel. -/
def floatControl : Rule :=
  ⟨"vc-float-control", .attr "VCFloatControl", Annotation.scalar, emitFloatControl⟩

/-- The size of the local memory that work items share. -/
def sharedMemorySize : Rule :=
  ⟨"vc-slm-size", .attr "VCSLMSize", Annotation.scalar, single .sharedLocalMemorySize⟩

end Rule

namespace RuleGroup

/-- The rules for OpenCL metadata. -/
def openCL : RuleGroup :=
  ⟨"opencl", [.localSize, .localSizeHint, .vecTypeHint, .subgroupSize, .maxWorkGroupSize,
    .maxWorkDim, .numSIMDWorkItems]⟩

/-- The rules for vector-compute attributes. -/
def vectorCompute : RuleGroup := ⟨"vector-compute", [.floatControl, .sharedMemorySize]⟩

/-- The groups in the order in which they are applied. -/
def all : List RuleGroup := [openCL, vectorCompute]

/-- The group with a name. -/
def named? (name : String) : Option RuleGroup := all.find? fun g ↦ g.name = name

/-- The rule of a group with a name. -/
def rule? (g : RuleGroup) (name : String) : Option Rule := g.rules.find? fun r ↦ r.name = name

end RuleGroup

end KernelMetadata
