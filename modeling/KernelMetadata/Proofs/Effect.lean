import KernelMetadata.Proofs.NameMap
import KernelMetadata.Proofs.Refusal
import KernelMetadata.Proofs.Run
import KernelMetadata.Proofs.Text.ByteOrder

/-!
# What a successful run does

The sides of what a run leaves behind, said of the module that it was given. On the side of the
execution modes (`DeviceModule.executionModes_report`), the list in the result is the old list and
then what the rules yield on the entry points, and the report counts and names just that. On the
side of the functions (`DeviceModule.functions_frame`), every function is as it was but for the
marked ones, of which the convention and three keys are set. On the side of the named lists
(`DeviceModule.lists_frame`), four are erased at most, five are written to at most, and all others
are as they were.
-/

namespace KernelMetadata.DeviceModule

variable {options : Options} {m : DeviceModule} {report : Report}

/-! ## Execution modes -/

/-- **Execution modes.** A run appends to the list of execution modes what the rules yield on the
entry points of the original module: first what the rules of OpenCL yield, kernel by kernel and rule
by rule, and then what those of the vector-compute dialect yield. The report counts these modes,
names the entry points, and has one entry for each annotation that cannot be read, in the same
order. -/
theorem executionModes_report (h : (m.transcribe options).outcome = .ok report) :
    let ks := RuleGroup.openCL.recordsOf m.entryPoints ++
      RuleGroup.vectorCompute.recordsOf m.entryPoints
    (m.transcribe options).result.list? Vocabulary.executionModes =
        some (m.nodes Vocabulary.executionModes ++ ks.map KernelMode.node) ∧
      report.kernels = m.entryPoints.map FunctionDecl.id ∧
      report.recordsEmitted = ks.length ∧
      report.skipped = RuleGroup.openCL.skippedOf m.entryPoints ++
        RuleGroup.vectorCompute.skippedOf m.entryPoints := by
  intro ks
  obtain ⟨t, ht⟩ := exists_isFor_of_outcome h
  have hlist := list?_result options ht Vocabulary.executionModes
  rw [if_neg (notMem_erasedNames options (by decide)), written, if_pos rfl, Option.map_some,
    Option.some_or] at hlist
  have hreport := report_eq h
  exact ⟨hlist, by rw [hreport], by rw [hreport, modes], by rw [hreport, skips]⟩

theorem executionModes_report_twoKernels :
    (twoKernels.transcribe .default).outcome = .ok twoKernelsReport ∧
      (twoKernels.transcribe .default).result.list? Vocabulary.executionModes =
        some (.ofStrings ["old"] ::
          [⟨[.function ⟨1⟩, .word 17, .word 8, .word 4, .word 1]⟩,
            ⟨[.function ⟨2⟩, .word 5618, .word 1024]⟩]) := by
  have h := outcome_twoKernels .default
  refine ⟨h, ?_⟩
  rw [(executionModes_report h).1]
  decide +kernel

/-! ## Functions -/

/-- **Functions.** A run keeps the functions in their places, and at each place the identity, the
name, the parameters and the attributes. A function that is not marked is kept as it is. A marked
one gets the convention of a kernel, and of its metadata three keys are set: a qualifier for each
parameter, an address space for each parameter, and the names of the types that have one. -/
theorem functions_frame (h : (m.transcribe options).outcome = .ok report) :
    (m.transcribe options).result.functions.length = m.functions.length ∧
      ∀ i f, m.functions[i]? = some f →
        ∃ g, (m.transcribe options).result.functions[i]? = some g ∧
          g.id = f.id ∧ g.name = f.name ∧ g.params = f.params ∧ g.attributes = f.attributes ∧
          (¬ m.MarkedAt i → g = f) ∧
          (m.MarkedAt i → g.convention = .spirKernel ∧ ∀ key, g.metadata.get? key =
            if key = Vocabulary.argAddressSpaces then
              some (.ofWords (f.params.map fun p ↦ if p.type.isPointer then 1 else 0))
            else if key = Vocabulary.argTypes then
              some (.ofStrings (f.params.filterMap fun p ↦ p.type.argName?))
            else if key = Vocabulary.argAccessQualifiers then
              some (.ofStrings (f.params.map fun _ ↦ "none"))
            else f.metadata.get? key) := by
  obtain ⟨t, ht⟩ := exists_isFor_of_outcome h
  rw [functions_result options ht]
  refine ⟨by rw [markedFunctions, changeMarked, List.length_mapIdx], fun i f hf ↦ ?_⟩
  rw [markedFunctions, getElem?_changeMarked, hf, Option.map_some]
  by_cases hi : m.MarkedAt i
  · rw [if_pos hi]
    exact ⟨f.asKernel, rfl, f.id_asKernel, f.name_asKernel, f.params_asKernel,
      f.attributes_asKernel, fun hnot ↦ absurd hi hnot,
      fun _ ↦ ⟨rfl, f.get?_metadata_asKernel⟩⟩
  · rw [if_neg hi]
    exact ⟨f, rfl, rfl, rfl, rfl, rfl, fun _ ↦ rfl, fun hmarked ↦ absurd hmarked hi⟩

/-- Of two functions with one identity only the first is marked. -/
theorem functions_frame_twoKernels :
    (twoKernels.transcribe .default).outcome = .ok twoKernelsReport ∧
      twoKernels.MarkedAt 0 ∧ ¬ twoKernels.MarkedAt 2 ∧
      (∃ g, (twoKernels.transcribe .default).result.functions[0]? = some g ∧
        g.convention = .spirKernel ∧
        g.metadata.get? "kernel_arg_type" = some (.ofStrings ["float*", "int"])) ∧
      (twoKernels.transcribe .default).result.functions[2]? =
        some ⟨⟨1⟩, "shadow", [], .c, .empty, .empty⟩ := by
  have h := outcome_twoKernels .default
  have hmarked : twoKernels.MarkedAt 0 := by decide +kernel
  have hnot : ¬ twoKernels.MarkedAt 2 := by decide +kernel
  obtain ⟨f, hf, -, -, -, -, -, hkernel⟩ := (functions_frame h).2 0 _ rfl
  obtain ⟨hconvention, hmetadata⟩ := hkernel hmarked
  obtain ⟨g, hg, -, -, -, -, hsame, -⟩ := (functions_frame h).2 2 _ rfl
  refine ⟨h, hmarked, hnot, ⟨f, hf, hconvention, ?_⟩, ?_⟩
  · rw [hmetadata]
    decide +kernel
  · rw [hg, hsame hnot]

/-! ## Named lists -/

theorem mem_distinctStrings {name s : String} :
    s ∈ m.distinctStrings name ↔ ∃ n ∈ m.nodes name, .string s ∈ n.operands := by
  rw [distinctStrings, NameMap.mem_keys_ofList]
  simp [Node.mem_strings]

theorem pairwise_utf8_distinctStrings (m : DeviceModule) (name : String) :
    (m.distinctStrings name).Pairwise fun s t ↦ Text.utf8 s < Text.utf8 t :=
  (NameMap.pairwise_keys _).imp Text.utf8_lt_iff.2

/-- **Named lists.** A run keeps the triple. The version list of NVPTX is absent afterwards, and the
legacy lists are as they were unless they are to be erased. To the lists of the memory model and of
the two versions one node is added after those that they had, and the list of execution modes begins
with the nodes that it had. The list of source extensions gets one node for each string anywhere in
the list of used extensions, in the order of their bytes, and is as it was, absent or not, if there
is no string. All other lists are as they were. -/
theorem lists_frame (h : (m.transcribe options).outcome = .ok report) :
    let after := (m.transcribe options).result
    after.triple = m.triple ∧
      after.list? Vocabulary.nvptxVersion = none ∧
      (∀ name ∈ legacyNames,
        after.list? name = if options.eraseLegacy then none else m.list? name) ∧
      (∃ triple, ∃ a : Arch, m.triple = some triple ∧ Target.HasArchName triple a.name ∧
        after.list? Vocabulary.memoryModel = some (m.nodes Vocabulary.memoryModel ++
          [.ofWords [if a.is32Bit then 1 else 2, 2]])) ∧
      after.list? Vocabulary.spirVersion =
        some (m.nodes Vocabulary.spirVersion ++ [.ofWords [1, 2]]) ∧
      after.list? Vocabulary.openCLVersion =
        some (m.nodes Vocabulary.openCLVersion ++ [.ofWords [1, 0]]) ∧
      (∃ ns, after.list? Vocabulary.executionModes =
        some (m.nodes Vocabulary.executionModes ++ ns)) ∧
      (∃ ss : List String, (ss.Pairwise fun s t ↦ Text.utf8 s < Text.utf8 t) ∧
        (∀ s, s ∈ ss ↔ ∃ n ∈ m.nodes Vocabulary.usedExtensions, .string s ∈ n.operands) ∧
        after.list? Vocabulary.sourceExtensions =
          if ss = [] then m.list? Vocabulary.sourceExtensions
          else some (m.nodes Vocabulary.sourceExtensions ++ ss.map fun s ↦ .ofStrings [s])) ∧
      ∀ name, name ≠ Vocabulary.nvptxVersion → name ∉ legacyNames → name ∉ writtenNames →
        after.list? name = m.list? name := by
  intro after
  obtain ⟨t, ht⟩ := exists_isFor_of_outcome h
  obtain ⟨htriple, hname⟩ := Target.ofTriple_eq_ok_iff.1 ht.triple
  refine ⟨triple_result options ht, ?version, ?legacy, ⟨t.triple, t.arch, htriple, hname, ?memory⟩,
    ?spir, ?openCL, ⟨_, list?_result_executionModes options ht⟩,
    ⟨m.distinctStrings Vocabulary.usedExtensions, m.pairwise_utf8_distinctStrings _,
      fun s ↦ mem_distinctStrings, ?extensions⟩, ?others⟩
  case version =>
    exact (list?_result options ht _).trans (if_pos (mem_erasedNames_iff.2 (.inl rfl)))
  case legacy =>
    intro name hlegacy
    have hwritten : name ≠ Vocabulary.nvptxVersion ∧ name ∉ writtenNames := by
      revert name
      decide
    rw [list?_result_of_written_eq_none options ht (written_eq_none hwritten.2)]
    exact if_congr (by simp [mem_erasedNames_iff, hlegacy, hwritten.1]) rfl rfl
  case memory =>
    rw [list?_result_of_written options ht (by decide) rfl]
    cases t.arch <;> rfl
  case spir => exact list?_result_of_written options ht (by decide) rfl
  case openCL => exact list?_result_of_written options ht (by decide) rfl
  case extensions =>
    split_ifs with hnil
    · have hnone : m.written t Vocabulary.sourceExtensions = none := by
        simp +decide [written, hnil]
      rw [list?_result_of_written_eq_none options ht hnone,
        if_neg (notMem_erasedNames_of_mem options (by decide))]
    · exact list?_result_of_written options ht (by decide) (by simp +decide [written, hnil])
  case others =>
    intro name hversion hlegacy hwritten
    have herased : name ∉ erasedNames options := by
      rw [mem_erasedNames_iff, not_or]
      exact ⟨hversion, fun hall ↦ hlegacy hall.2⟩
    rw [list?_result_of_written_eq_none options ht (written_eq_none hwritten), if_neg herased]

/-- The used extensions are declared although their list is erased. -/
theorem lists_frame_twoKernels :
    let after := (twoKernels.transcribe .default).result
    (twoKernels.transcribe .default).outcome = .ok twoKernelsReport ∧
      after.list? "nvvmir.version" = none ∧ after.list? "opencl.used.extensions" = none ∧
      after.list? "opencl.spir.version" = some [.ofWords [1, 2]] ∧
      after.list? "nvvm.annotations" = twoKernels.list? "nvvm.annotations" ∧
      ∃ ss : List String, (ss.Pairwise fun s t ↦ Text.utf8 s < Text.utf8 t) ∧
        (∀ s, s ∈ ss ↔ s = "cl_khr_fp64" ∨ s = "cl_khr_fp16") ∧
        after.list? "spirv.SourceExtension" = some (ss.map fun s ↦ .ofStrings [s]) := by
  intro after
  have h := outcome_twoKernels .default
  obtain ⟨-, hversion, hlegacy, -, hspir, -, -, ⟨ss, hsorted, hmem, hextensions⟩, hothers⟩ :=
    lists_frame h
  have hused : ∀ s, s ∈ ss ↔ s = "cl_khr_fp64" ∨ s = "cl_khr_fp16" := by
    have hlist : twoKernels.nodes Vocabulary.usedExtensions =
        [.ofStrings ["cl_khr_fp64", "cl_khr_fp16"]] := by decide +kernel
    intro s
    rw [hmem, hlist]
    simp [Node.ofStrings]
  have hnonempty : ss ≠ [] := List.ne_nil_of_mem ((hused "cl_khr_fp64").2 (.inl rfl))
  refine ⟨h, hversion, hlegacy _ (by decide), hspir, hothers _ (by decide) (by decide) (by decide),
    ss, hsorted, hused, ?_⟩
  rw [if_neg hnonempty] at hextensions
  exact hextensions

end KernelMetadata.DeviceModule
