import KernelMetadata.Proofs.Wellformedness

/-!
# A second run

What a run leaves behind can be transcribed again, and nothing that the first run has written is
read by the second. The triple and the NVPTX annotations are still there, so the target is the same
and so are the marks. The functions that are marked are marked already, and marking them again
changes nothing; the rules do not see the difference. So the second run writes what the first has
written, and reports what the first has reported (`DeviceModule.second_run`).

The one thing that is read and may be gone is the list of used extensions, which the first run
erases if it is told to. Then the second run declares no extensions.
-/

namespace KernelMetadata.DeviceModule

variable {options : Options} {m : DeviceModule} {t : Target}

/-! ## What the second run reads -/

theorem list?_result_nvptxAnnotations (options : Options) (h : m.IsFor t) :
    (m.transcribe options).result.list? Vocabulary.nvptxAnnotations =
      m.list? Vocabulary.nvptxAnnotations := by
  rw [list?_result_of_written_eq_none options h (written_eq_none (by decide)),
    if_neg (notMem_erasedNames options (by decide))]

/-- The target stays the same. -/
theorem isFor_result (options : Options) (h : m.IsFor t) :
    (m.transcribe options).result.IsFor t where
  triple := by rw [triple_result options h, h.triple]
  annotated := by rw [list?_result_nvptxAnnotations options h]; exact h.annotated

/-- The marks stay the same. -/
theorem marks_result (options : Options) (h : m.IsFor t) (id : FunctionId) :
    (m.transcribe options).result.Marks id ↔ m.Marks id := by
  rw [Marks, Marks, (isFor_result options h).isNvptx_eq, h.isNvptx_eq, nodes,
    list?_result_nvptxAnnotations options h, nodes]

theorem markedAt_result (options : Options) (h : m.IsFor t) (i : Nat) :
    (m.transcribe options).result.MarkedAt i ↔ m.MarkedAt i := by
  refine markedAt_congr ?_ (fun id _ ↦ marks_result options h id) i
  rw [functions_result options h, map_id_markedFunctions]

/-- The functions that are marked are marked already. -/
theorem markedFunctions_result (options : Options) (h : m.IsFor t) :
    (m.transcribe options).result.markedFunctions = m.markedFunctions := by
  -- where the second run marks a function, the first run has marked it
  refine List.ext_getElem? fun i ↦ ?_
  rw [markedFunctions, getElem?_changeMarked, functions_result options h, markedFunctions,
    getElem?_changeMarked, Option.map_map]
  refine congrArg (fun c ↦ m.functions[i]?.map c) (funext fun f ↦ ?_)
  rw [Function.comp_apply]
  simp only [markedAt_result options h]
  split_ifs
  · exact f.asKernel_asKernel
  · rfl

/-! ## What the second run yields

The kernels that the first run leaves behind are, up to marking, the entry points of the original
module, and, up to marking again, those of the module that the first run leaves behind. -/

theorem flatMap_entryPoints_result (options : Options) (h : m.IsFor t) {α : Type}
    {c : FunctionDecl → List α} (hc : ∀ f, c f.asKernel = c f) :
    (m.transcribe options).result.entryPoints.flatMap c = m.entryPoints.flatMap c := by
  have hfunctions := functions_result options h
  rw [← flatMap_kernels hfunctions hc]
  exact (flatMap_kernels (hfunctions.trans (markedFunctions_result options h).symm) hc).symm

theorem map_id_entryPoints_result (options : Options) (h : m.IsFor t) :
    (m.transcribe options).result.entryPoints.map FunctionDecl.id =
      m.entryPoints.map FunctionDecl.id := by
  rw [List.map_eq_flatMap, List.map_eq_flatMap]
  exact flatMap_entryPoints_result options h fun _ ↦ rfl

/-- The second run writes the same execution modes. -/
theorem modes_result (options : Options) (h : m.IsFor t) :
    (m.transcribe options).result.modes = m.modes :=
  congrArg₂ _
    (flatMap_entryPoints_result options h (RuleGroup.recordsOn_asKernel RuleGroup.openCL_mem_all))
    (flatMap_entryPoints_result options h
      (RuleGroup.recordsOn_asKernel RuleGroup.vectorCompute_mem_all))

/-- The second run skips the same rules. -/
theorem skips_result (options : Options) (h : m.IsFor t) :
    (m.transcribe options).result.skips = m.skips :=
  congrArg₂ _
    (flatMap_entryPoints_result options h (RuleGroup.skippedOn_asKernel RuleGroup.openCL_mem_all))
    (flatMap_entryPoints_result options h
      (RuleGroup.skippedOn_asKernel RuleGroup.vectorCompute_mem_all))

/-- The used extensions are what they were, unless their list was erased. -/
theorem distinctStrings_result (options : Options) (h : m.IsFor t) :
    (m.transcribe options).result.distinctStrings Vocabulary.usedExtensions =
      if options.eraseLegacy then [] else m.distinctStrings Vocabulary.usedExtensions := by
  have hmem : Vocabulary.usedExtensions ∈ erasedNames options ↔ options.eraseLegacy = true := by
    simp +decide [mem_erasedNames_iff]
  rw [distinctStrings, nodes_result options h, written_eq_none (by decide), Option.getD_none,
    List.append_nil]
  simp only [hmem]
  split_ifs
  · rfl
  · rw [distinctStrings]

/-- What the second run writes to a list other than that of source extensions. -/
theorem written_result_of_ne (options : Options) (h : m.IsFor t) {name : String}
    (hname : name ≠ Vocabulary.sourceExtensions) :
    (m.transcribe options).result.written t name = m.written t name := by
  rw [written, written, modes_result options h]
  simp only [hname, false_and, if_false]

theorem written_result_sourceExtensions (options : Options) (h : m.IsFor t) :
    (m.transcribe options).result.written t Vocabulary.sourceExtensions =
      if options.eraseLegacy then none else m.written t Vocabulary.sourceExtensions := by
  simp only [written, distinctStrings_result options h]
  split_ifs <;> simp_all +decide

/-! ## The second run -/

/-- The fault stays the same, since a run adds no fault and its functions are marked already. -/
theorem violation?_result_result (options : Options) (h : m.IsFor t) :
    let first := (m.transcribe options).result
    (first.transcribe options).result.violation? = first.violation? := by
  intro first
  have hfirst : first.IsFor t := isFor_result options h
  have hfunctions : (first.transcribe options).result.functions = first.functions := by
    rw [functions_result options hfirst, markedFunctions_result options h,
      functions_result options h]
  have hids := congrArg (List.map FunctionDecl.id) hfunctions
  refine violation?_congr hids (fun name ↦ ?_) ?_
  · rw [listFaults_congr hids, listFaults_result options hfirst]
    split_ifs with hname
    · rw [nodes_result options h, if_pos hname]
    · rfl
  · rw [hfunctions]
    exact List.forall₂_same.2 fun f _ ↦ ⟨rfl, fun _ ↦ rfl⟩

/-- Whether a list that a first run has extended is extended by the same nodes in a second run. A
list that the first run leaves absent is then absent after the second. -/
def ExtendedAgain (before first second : DeviceModule) (name : String) : Prop :=
  ∃ ns, first.nodes name = before.nodes name ++ ns ∧
    second.list? name = (first.list? name).map fun l ↦ l ++ ns

/-- A list to which both runs write the same is extended again. -/
theorem extendedAgain_of_written_eq (options : Options) (h : m.IsFor t) {name : String}
    (hname : name ∈ writtenNames)
    (hwritten : (m.transcribe options).result.written t name = m.written t name) :
    ExtendedAgain m (m.transcribe options).result
      ((m.transcribe options).result.transcribe options).result name := by
  have hkept := notMem_erasedNames_of_mem options hname
  refine ⟨(m.written t name).getD [], ?_, ?_⟩
  · rw [nodes_result options h, if_neg hkept]
  · rw [list?_result options (isFor_result options h), if_neg hkept, hwritten]
    cases hns : m.written t name with
    | none => simp
    | some ns =>
      rw [nodes, list?_result options h, if_neg hkept, hns]
      rfl

/-- A list to which the second run does not write stays the same. -/
theorem list?_result_result_of_written_eq_none (options : Options) (h : m.IsFor t) {name : String}
    (hwritten : (m.transcribe options).result.written t name = none) :
    ((m.transcribe options).result.transcribe options).result.list? name =
      (m.transcribe options).result.list? name := by
  rw [list?_result_of_written_eq_none options (isFor_result options h) hwritten]
  split_ifs with hname
  · rw [list?_result options h, if_pos hname]
  · rfl

/-- **A second run repeats the first.** It succeeds with the same report, leaves the triple and the
functions as the first run has left them, and extends the lists of the memory model, of the versions
and of the execution modes by what the first run has extended them by. The list of source extensions
is extended again unless the list that it is read from was erased. All other lists stay the same. -/
theorem second_run {report : Report} (h : (m.transcribe options).outcome = .ok report) :
    let first := (m.transcribe options).result
    let second := (first.transcribe options).result
    (first.transcribe options).outcome = .ok report ∧
      second.triple = first.triple ∧ second.functions = first.functions ∧
      (∀ name ∈ openedNames,
        (first.list? name).isSome = true ∧ ExtendedAgain m first second name) ∧
      (if options.eraseLegacy then
        second.list? Vocabulary.sourceExtensions = first.list? Vocabulary.sourceExtensions
      else ExtendedAgain m first second Vocabulary.sourceExtensions) ∧
      ∀ name ∉ writtenNames, second.list? name = first.list? name := by
  obtain ⟨t, ht⟩ := exists_isFor_of_outcome h
  intro first second
  have hfirst : first.IsFor t := isFor_result options ht
  have hextensions := written_result_sourceExtensions options ht
  refine ⟨?_, triple_result options hfirst, ?_, fun name hname ↦ ?_, ?_, fun name hname ↦ ?_⟩
  · rw [outcome_of_isFor options hfirst, map_id_entryPoints_result options ht,
      modes_result options ht, skips_result options ht, violation?_result_result options ht,
      report_eq h]
  · rw [functions_result options hfirst, markedFunctions_result options ht,
      functions_result options ht]
  · have hmem : name ∈ writtenNames := List.mem_cons_of_mem _ hname
    have hne : name ≠ Vocabulary.sourceExtensions := by
      rintro rfl
      exact absurd hname (by decide)
    obtain ⟨ns, hns⟩ := Option.isSome_iff_exists.1 (written_isSome (m := m) (t := t) hname)
    refine ⟨?_, extendedAgain_of_written_eq options ht hmem (written_result_of_ne options ht hne)⟩
    rw [list?_result options ht, if_neg (notMem_erasedNames_of_mem options hmem), hns]
    rfl
  · split_ifs with herase
    · rw [if_pos herase] at hextensions
      exact list?_result_result_of_written_eq_none options ht hextensions
    · rw [if_neg herase] at hextensions
      exact extendedAgain_of_written_eq options ht List.mem_cons_self hextensions
  · exact list?_result_result_of_written_eq_none options ht (written_eq_none hname)

theorem second_run_twoKernels :
    (twoKernels.transcribe ⟨false⟩).outcome = .ok twoKernelsReport ∧
      ((twoKernels.transcribe ⟨false⟩).result.transcribe ⟨false⟩).outcome =
        .ok twoKernelsReport ∧
      ExtendedAgain twoKernels (twoKernels.transcribe ⟨false⟩).result
        ((twoKernels.transcribe ⟨false⟩).result.transcribe ⟨false⟩).result
        Vocabulary.executionModes ∧
      ExtendedAgain twoKernels (twoKernels.transcribe ⟨false⟩).result
        ((twoKernels.transcribe ⟨false⟩).result.transcribe ⟨false⟩).result
        Vocabulary.sourceExtensions ∧
      ((twoKernels.transcribe .default).result.transcribe .default).result.list?
          Vocabulary.sourceExtensions =
        some [.ofStrings ["cl_khr_fp16"], .ofStrings ["cl_khr_fp64"]] := by
  obtain ⟨hreport, -, -, hopened, hextensions, -⟩ := second_run (outcome_twoKernels ⟨false⟩)
  obtain ⟨-, -, -, -, herased, -⟩ := second_run (outcome_twoKernels .default)
  refine ⟨outcome_twoKernels ⟨false⟩, hreport, (hopened _ (by decide)).2, hextensions, ?_⟩
  exact herased.trans (by decide +kernel)

end KernelMetadata.DeviceModule
