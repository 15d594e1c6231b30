import KernelMetadata.Proofs.Effect
import Mathlib.Data.List.Sort
import Mathlib.Data.String.Basic

/-!
# What a run reads

A run writes to named lists and erases some, and reads named lists, and looks at a module again that
it has already changed. Still it reads only two of the lists: the NVPTX annotations, and the strings
in the list of used extensions. Two modules that agree in these, in the triple and in the functions
have the same inputs (`DeviceModule.SameInputs`), whatever their other lists hold, among them those
that runs write to.

From the same inputs come the same functions, the same report but for the fault, and at the end of
each list the same new nodes (`DeviceModule.inputs_decide`). So nothing that was written earlier, by
a run or by anyone else, has a part in what a run writes.
-/

namespace KernelMetadata.DeviceModule

variable {m n : DeviceModule}

/-- Whether two modules are the same as far as a run reads them. The strings in the list of used
extensions count as a set, and an empty list counts as much as an absent one. -/
structure SameInputs (m n : DeviceModule) : Prop where
  triple : m.triple = n.triple
  functions : m.functions = n.functions
  annotations : m.list? Vocabulary.nvptxAnnotations = n.list? Vocabulary.nvptxAnnotations
  extensions : ∀ s, (∃ x ∈ m.nodes Vocabulary.usedExtensions, .string s ∈ x.operands) ↔
    ∃ x ∈ n.nodes Vocabulary.usedExtensions, .string s ∈ x.operands

namespace SameInputs

theorem marks_iff (h : SameInputs m n) (id : FunctionId) : m.Marks id ↔ n.Marks id := by
  rw [Marks, Marks, isNvptx, isNvptx, nodes, nodes, h.triple, h.annotations]

theorem markedAt_iff (h : SameInputs m n) (i : Nat) : m.MarkedAt i ↔ n.MarkedAt i :=
  markedAt_congr (by rw [h.functions]) (fun id _ ↦ h.marks_iff id) i

theorem entryPoints_eq (h : SameInputs m n) : m.entryPoints = n.entryPoints :=
  entryPoints_congr h.functions h.markedAt_iff

theorem modes_eq (h : SameInputs m n) : m.modes = n.modes := by
  rw [modes, modes, h.entryPoints_eq]

theorem skips_eq (h : SameInputs m n) : m.skips = n.skips := by
  rw [skips, skips, h.entryPoints_eq]

theorem markedFunctions_eq (h : SameInputs m n) : m.markedFunctions = n.markedFunctions :=
  changeMarked_congr h.functions h.markedAt_iff _

/-- Sorted lists without repetitions are the same if their members are. -/
theorem distinctStrings_eq (h : SameInputs m n) :
    m.distinctStrings Vocabulary.usedExtensions = n.distinctStrings Vocabulary.usedExtensions := by
  refine (NameMap.pairwise_keys _).eq_of_mem_iff (NameMap.pairwise_keys _) fun s ↦ ?_
  change s ∈ m.distinctStrings _ ↔ s ∈ n.distinctStrings _
  rw [mem_distinctStrings, mem_distinctStrings]
  exact h.extensions s

/-- The same nodes are written to each list. -/
theorem written_eq (h : SameInputs m n) (t : Target) (name : String) :
    m.written t name = n.written t name :=
  written_congr_of_distinctStrings (fun _ ↦ h.modes_eq) h.distinctStrings_eq

end SameInputs

/-- Every run opens the lists of the memory model, of the versions and of the execution modes. -/
theorem isSome_list?_result {t : Target} {name : String} (options : Options) (h : m.IsFor t)
    (hname : name ∈ openedNames) : ((m.transcribe options).result.list? name).isSome = true := by
  obtain ⟨ns, hns⟩ := Option.isSome_iff_exists.1 (written_isSome (m := m) (t := t) hname)
  rw [list?_result_of_written options h (List.mem_cons_of_mem _ hname) hns]
  rfl

/-- **Inputs decide.** Where two modules have the same inputs, both runs fail for the same reason or
both succeed. If they succeed, they leave the same functions behind and report the same kernels, the
same number of execution modes and the same skipped rules. To each list that runs write to, both add
the same nodes, after what the list held before in the one module and in the other; and the lists
that every run opens are there in both. -/
theorem inputs_decide (options : Options) (h : SameInputs m n) :
    (∀ e, (m.transcribe options).outcome = .error e ↔ (n.transcribe options).outcome = .error e) ∧
      ∀ report, (m.transcribe options).outcome = .ok report →
        ∃ report', (n.transcribe options).outcome = .ok report' ∧
          (n.transcribe options).result.functions = (m.transcribe options).result.functions ∧
          report'.kernels = report.kernels ∧
          report'.recordsEmitted = report.recordsEmitted ∧
          report'.skipped = report.skipped ∧
          (∀ name ∈ writtenNames, ∃ ns,
            (m.transcribe options).result.nodes name = m.nodes name ++ ns ∧
              (n.transcribe options).result.nodes name = n.nodes name ++ ns) ∧
          ∀ name ∈ openedNames, ((m.transcribe options).result.list? name).isSome = true ∧
            ((n.transcribe options).result.list? name).isSome = true := by
  refine ⟨fun e ↦ ?_, fun report hreport ↦ ?_⟩
  · exact outcome_eq_error_congr h.triple (congrArg Option.isSome h.annotations)
  obtain ⟨t, hm⟩ := exists_isFor_of_outcome hreport
  have hn : n.IsFor t := hm.congr h.triple.symm (congrArg Option.isSome h.annotations.symm)
  rw [report_eq hreport]
  refine ⟨_, outcome_of_isFor options hn, ?functions, ?kernels, ?emitted, h.skips_eq.symm,
    fun name hname ↦ ?nodes, fun name hname ↦ ?opened⟩
  case functions =>
    rw [functions_result options hm, functions_result options hn, h.markedFunctions_eq]
  case kernels => rw [h.entryPoints_eq]
  case emitted => rw [h.modes_eq]
  case nodes =>
    have herased := notMem_erasedNames_of_mem options hname
    refine ⟨(m.written t name).getD [], ?_, ?_⟩
    · rw [nodes_result options hm, if_neg herased]
    · rw [nodes_result options hn, if_neg herased, h.written_eq]
  case opened =>
    exact ⟨isSome_list?_result options hm hname, isSome_list?_result options hn hname⟩

/-- A marked function, with named lists of choice. -/
def scaleWith (lists : NameMap (List Node)) : DeviceModule where
  triple := some "nvptx64"
  functions := [⟨⟨1⟩, "scale", [⟨"n", .int .i32⟩], .ptxKernel,
    NameMap.ofList [("VCSLMSize", "0x200")],
    NameMap.ofList [("max_global_work_dim", .ofStrings ["3"])]⟩]
  lists := lists.insert Vocabulary.nvptxAnnotations
    [⟨[.function ⟨1⟩, .string "kernel", .word 1]⟩]

/-- The function in a module that no run has written to yet. -/
def tidy : DeviceModule := scaleWith (NameMap.ofList [
  (Vocabulary.nvptxVersion, [.ofWords [2, 0]]),
  (Vocabulary.usedExtensions, [.ofStrings ["cl_khr_fp64", "cl_khr_fp16"]])])

/-- The report on `tidy`. -/
def tidyReport : Report := ⟨[⟨1⟩], 1, [⟨"scale", "max-work-dim", .notAnInteger 0⟩], none⟩

/-- The same function with the same extensions, and something in all lists that runs write to, with
a dangling reference among it. -/
def cluttered : DeviceModule := scaleWith (NameMap.ofList [
  (Vocabulary.usedExtensions, [.ofStrings ["cl_khr_fp16"], ⟨[.word 7, .string "cl_khr_fp64"]⟩]),
  (Vocabulary.memoryModel, [.ofWords [1, 2]]), (Vocabulary.spirVersion, [.ofWords [9, 9]]),
  (Vocabulary.openCLVersion, []), (Vocabulary.sourceExtensions, [.ofStrings ["cl_khr_subgroups"]]),
  (Vocabulary.executionModes, [⟨[.function ⟨9⟩]⟩]), ("llvm.ident", [.ofStrings ["clang"]])])

/-- Only the used extensions need a look. -/
theorem sameInputs_scaleWith {lists lists' : NameMap (List Node)}
    (h : ∀ s, (∃ x ∈ (scaleWith lists).nodes Vocabulary.usedExtensions, .string s ∈ x.operands) ↔
      ∃ x ∈ (scaleWith lists').nodes Vocabulary.usedExtensions, .string s ∈ x.operands) :
    SameInputs (scaleWith lists) (scaleWith lists') := by
  refine ⟨rfl, rfl, ?_, h⟩
  rw [list?, list?, scaleWith, scaleWith, NameMap.get?_insert_self, NameMap.get?_insert_self]

theorem sameInputs_tidy_cluttered : SameInputs tidy cluttered := by
  refine sameInputs_scaleWith fun s ↦ ?_
  have htidy : tidy.nodes Vocabulary.usedExtensions =
      [.ofStrings ["cl_khr_fp64", "cl_khr_fp16"]] := by decide +kernel
  have hcluttered : cluttered.nodes Vocabulary.usedExtensions =
      [.ofStrings ["cl_khr_fp16"], ⟨[.word 7, .string "cl_khr_fp64"]⟩] := by decide +kernel
  rw [← tidy, ← cluttered, htidy, hcluttered]
  simp [Node.ofStrings, Operand.word, or_comm]

/-- The dangling reference is reported, and nothing else tells the two runs apart. -/
theorem inputs_decide_cluttered :
    SameInputs tidy cluttered ∧ (tidy.transcribe .default).outcome = .ok tidyReport ∧
      ∃ report ns, (cluttered.transcribe .default).outcome = .ok report ∧
        report.kernels = [⟨1⟩] ∧ report.skipped = tidyReport.skipped ∧
        report.violation = some (.danglingReference (.list "spirv.ExecutionMode" 0) ⟨9⟩) ∧
        (tidy.transcribe .default).result.nodes Vocabulary.executionModes = ns ∧
        (cluttered.transcribe .default).result.nodes Vocabulary.executionModes =
          ⟨[.function ⟨9⟩]⟩ :: ns := by
  have hsame := sameInputs_tidy_cluttered
  have htidy : (tidy.transcribe .default).outcome = .ok tidyReport := by decide +kernel
  obtain ⟨report, hreport, -, hkernels, -, hskipped, hnodes, -⟩ :=
    (inputs_decide .default hsame).2 _ htidy
  obtain ⟨ns, hns, hns'⟩ := hnodes Vocabulary.executionModes (by decide)
  have hviolation : (cluttered.transcribe .default).result.violation? =
      some (.danglingReference (.list "spirv.ExecutionMode" 0) ⟨9⟩) := by decide +kernel
  have hreported : report.violation = (cluttered.transcribe .default).result.violation? := by
    rw [report_eq hreport]
  refine ⟨hsame, htidy, report, ns, hreport, hkernels, hskipped, hreported.trans hviolation,
    hns.trans ?_, hns'.trans ?_⟩
  · have hempty : tidy.nodes Vocabulary.executionModes = [] := by decide +kernel
    rw [hempty, List.nil_append]
  · have hold : cluttered.nodes Vocabulary.executionModes = [⟨[.function ⟨9⟩]⟩] := by
      decide +kernel
    rw [hold, List.singleton_append]

end KernelMetadata.DeviceModule
