/-!
# Names with a meaning

The names of metadata lists, of function metadata and of function attributes that annotations are
read from and canonical metadata is written to.
-/

namespace KernelMetadata.Vocabulary

/-! ## Canonical lists -/

/-- The execution modes of kernels. -/
def executionModes : String := "spirv.ExecutionMode"

/-- The addressing and memory model. -/
def memoryModel : String := "spirv.MemoryModel"

/-- The extensions that the source uses. -/
def sourceExtensions : String := "spirv.SourceExtension"

/-- The version of the intermediate language. -/
def spirVersion : String := "opencl.spir.version"

/-- The version of the source language. -/
def openCLVersion : String := "opencl.ocl.version"

/-! ## Lists that are consumed -/

/-- The extensions that the source uses, as producers list them. -/
def usedExtensions : String := "opencl.used.extensions"

/-- The optional core features that the source uses. -/
def usedCoreFeatures : String := "opencl.used.optional.core.features"

/-- The mark that floating-point contraction is allowed. -/
def contractionMark : String := "opencl.enable.FP_CONTRACT"

/-- The version of the NVPTX flavour of the intermediate language. -/
def nvptxVersion : String := "nvvmir.version"

/-- The annotations of NVPTX functions. -/
def nvptxAnnotations : String := "nvvm.annotations"

/-- The second operand of an NVPTX annotation that marks a kernel. -/
def kernelMark : String := "kernel"

/-! ## Metadata of kernel arguments -/

/-- The access qualifiers of kernel arguments. -/
def argAccessQualifiers : String := "kernel_arg_access_qual"

/-- The types of kernel arguments. -/
def argTypes : String := "kernel_arg_type"

/-- The address spaces of kernel arguments. -/
def argAddressSpaces : String := "kernel_arg_addr_space"

end KernelMetadata.Vocabulary
