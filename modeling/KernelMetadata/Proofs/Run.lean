import KernelMetadata.Proofs.Collection

/-!
# What a whole run leaves behind

A run reads modules that it has already changed: the rules collect from a module whose lists were
erased and extended and whose kernels were marked, and the second group from one that the first
group has written to. This file removes all of that. Everything that a run leaves behind is a
function of the module that it was given: its functions are the marked functions
(`DeviceModule.functions_result`), each named list is the old one, erased or followed by what is
written to it (`DeviceModule.list?_result`), and the report is read off the entry points
(`DeviceModule.outcome_of_isFor`).

A module can be transcribed exactly if it is *for* some target: its triple is recognised, and the
annotations are there if the target needs them (`DeviceModule.IsFor`).
-/

namespace KernelMetadata

open DeviceModule

/-! ## Which modules can be transcribed -/

namespace DeviceModule

variable {options : Options} {m : DeviceModule} {t : Target}

/-- Whether a module can be transcribed for a target. -/
structure IsFor (m : DeviceModule) (t : Target) : Prop where
  triple : Target.ofTriple m.triple = .ok t
  annotated : t.arch.isNvptx = true → (m.list? Vocabulary.nvptxAnnotations).isSome = true

/-- The plan for a module and a target. -/
def planFor (m : DeviceModule) (t : Target) : Plan :=
  ⟨t.arch.addressing, .openCL, m.distinctStrings Vocabulary.usedExtensions, m.plannedKernels⟩

theorem IsFor.isNvptx_eq (h : m.IsFor t) : m.isNvptx = t.arch.isNvptx := by
  rw [DeviceModule.isNvptx, h.triple]

/-- The triple and the presence of the annotations decide what a module is for. -/
theorem IsFor.congr {n : DeviceModule} (htriple : n.triple = m.triple)
    (hlist : (n.list? Vocabulary.nvptxAnnotations).isSome =
      (m.list? Vocabulary.nvptxAnnotations).isSome) (h : m.IsFor t) : n.IsFor t where
  triple := htriple ▸ h.triple
  annotated harch := hlist ▸ h.annotated harch

theorem exists_isFor_of_isNvptx (h : m.isNvptx = true)
    (hlist : (m.list? Vocabulary.nvptxAnnotations).isSome = true) : ∃ t, m.IsFor t := by
  rw [DeviceModule.isNvptx] at h
  split at h
  · next t ht => exact ⟨t, ht, fun _ ↦ hlist⟩
  · cases h

theorem exists_prepare_of_isFor (h : m.IsFor t) :
    ∃ plan, m.prepare = .ok (t, plan) ∧ plan.value = m.planFor t := by
  simp only [prepare, h.triple, Plan.of, Plan.kernelsOf, planFor, plannedKernels, h.isNvptx_eq]
  by_cases ht : t.arch.isNvptx = true
  · obtain ⟨ns, hns⟩ := Option.isSome_iff_exists.1 (h.annotated ht)
    simp [ht, hns, Except.map]
  · simp [ht, Except.map]

theorem isFor_of_prepare {plan : Logged Plan} (h : m.prepare = .ok (t, plan)) : m.IsFor t := by
  rw [prepare] at h
  cases ht : Target.ofTriple m.triple with
  | error e =>
    rw [ht] at h
    cases h
  | ok t' =>
    rw [ht] at h
    cases hplan : Plan.of m t' with
    | error e => simp [hplan, Except.map] at h
    | ok plan' =>
      have htt : t' = t := by
        simp only [hplan, Except.map, Except.ok.injEq, Prod.mk.injEq] at h
        exact h.1
      subst htt
      refine ⟨ht, fun harch ↦ ?_⟩
      by_contra hnone
      rw [Option.not_isSome_iff_eq_none] at hnone
      simp [Plan.of, Plan.kernelsOf, harch, hnone, Except.map] at hplan

/-- **A run succeeds exactly on the modules that are for some target.** -/
theorem exists_outcome_eq_ok_iff :
    (∃ report, (m.transcribe options).outcome = .ok report) ↔ ∃ t, m.IsFor t := by
  constructor
  · rintro ⟨report, h⟩
    rw [transcribe] at h
    cases hm : m.prepare with
    | error e => simp [hm] at h
    | ok p => exact ⟨p.1, isFor_of_prepare hm⟩
  · rintro ⟨t, h⟩
    obtain ⟨plan, hplan, -⟩ := exists_prepare_of_isFor h
    rw [transcribe, hplan]
    exact ⟨_, rfl⟩

end DeviceModule

/-! ## The steps of a run -/

theorem RuleGroup.value_write (g : RuleGroup) (m : DeviceModule) :
    (g.write m).value = (⟨g.recordsOf m.kernels, g.skippedOf m.kernels⟩,
      (m.replay ((g.recordsOf m.kernels).map fun k ↦ (Record.executionMode k).edit)).value) := by
  simp only [write, Logged.value_bind, Logged.value_pure, value_collect]

namespace DeviceModule

/-- A module with its declarations written, as the rules find it. -/
def declared (options : Options) (m : DeviceModule) (p : Plan) : DeviceModule :=
  ((p.carryOut options m).value.replay
    [Record.spir.edit, Record.openCL.edit, .write Vocabulary.executionModes []]).value

/-- A module with execution modes written after those that it has. -/
def withModes (m : DeviceModule) (ks : List KernelMode) : DeviceModule :=
  (m.replay ((ks.map Record.executionMode).map Record.edit)).value

variable {options : Options} {m : DeviceModule} {t : Target} {p : Plan}

theorem functions_withModes (m : DeviceModule) (ks : List KernelMode) :
    (m.withModes ks).functions = m.functions :=
  Record.functions_replay_edit m _

theorem kernels_withModes (m : DeviceModule) (ks : List KernelMode) :
    (m.withModes ks).kernels = m.kernels := by
  rw [kernels, functions_withModes, kernels]

theorem list?_withModes_of_ne {name : String} (h : name ≠ Vocabulary.executionModes)
    (ks : List KernelMode) : (m.withModes ks).list? name = m.list? name := by
  rw [withModes, list?_replay, Record.foldl_onList_of_ne]
  intro r hr
  obtain ⟨k, -, rfl⟩ := List.mem_map.1 hr
  exact h

theorem list?_withModes_of_eq_some {ns : List Node}
    (h : m.list? Vocabulary.executionModes = some ns) (ks : List KernelMode) :
    (m.withModes ks).list? Vocabulary.executionModes = some (ns ++ ks.map KernelMode.node) := by
  have hnodes : (ks.map Record.executionMode).flatMap Record.nodes = ks.map KernelMode.node := by
    rw [List.flatMap_map, List.map_eq_flatMap]
    rfl
  rw [withModes, list?_replay, h, Record.foldl_onList_of_eq, hnodes]
  intro r hr
  obtain ⟨k, -, rfl⟩ := List.mem_map.1 hr
  rfl

/-- The steps of a run, each from the module that the one before has left. The second group finds
the kernels that the first has found, since writing records changes no function. -/
theorem value_carryOut (options : Options) (m : DeviceModule) (t : Target) (plan : Logged Plan) :
    let d := m.declared options plan.value
    let result := (d.withModes (RuleGroup.openCL.recordsOf d.kernels)).withModes
      (RuleGroup.vectorCompute.recordsOf d.kernels)
    (m.carryOut options t plan).value =
      (⟨d.kernels.map FunctionDecl.id,
        (RuleGroup.openCL.recordsOf d.kernels).length +
          (RuleGroup.vectorCompute.recordsOf d.kernels).length,
        RuleGroup.openCL.skippedOf d.kernels ++ RuleGroup.vectorCompute.skippedOf d.kernels,
        result.violation?⟩, result) := by
  have hfirst : ∀ d : DeviceModule, (d.replay ((RuleGroup.openCL.recordsOf d.kernels).map
      fun k ↦ (Record.executionMode k).edit)).value =
      d.withModes (RuleGroup.openCL.recordsOf d.kernels) := by
    intro d
    rw [withModes, List.map_map]
    rfl
  simp only [carryOut, Logged.value_bind, Logged.value_pure, RuleGroup.value_write, value_verify]
  simp only [hfirst, kernels_withModes]
  simp only [withModes, declared, List.map_map, Function.comp_def]

/-- The edits that declare source extensions. -/
private def extensionEdits (names : List String) : List Edit :=
  if names.isEmpty then [] else [(Record.sourceExtensions names).edit]

private theorem value_declareExtensions (names : List String) (m : DeviceModule) :
    (Plan.declareExtensions names m).value = (m.replay (extensionEdits names)).value := by
  rw [Plan.declareExtensions, extensionEdits]
  split_ifs <;> rfl

/-- The lists that a run erases. -/
def erasedNames (options : Options) : List String :=
  Vocabulary.nvptxVersion :: if options.eraseLegacy then
    [Vocabulary.usedExtensions, Vocabulary.usedCoreFeatures, Vocabulary.contractionMark] else []

/-- The lists that a run erases only if it is asked to. -/
def legacyNames : List String :=
  [Vocabulary.usedExtensions, Vocabulary.usedCoreFeatures, Vocabulary.contractionMark]

theorem mem_erasedNames_iff {name : String} :
    name ∈ erasedNames options ↔
      name = Vocabulary.nvptxVersion ∨ options.eraseLegacy = true ∧ name ∈ legacyNames := by
  rw [erasedNames, List.mem_cons]
  split_ifs with h <;> simp [h, legacyNames]

theorem notMem_erasedNames (options : Options) {name : String}
    (h : name ∉ [Vocabulary.nvptxVersion, Vocabulary.usedExtensions, Vocabulary.usedCoreFeatures,
      Vocabulary.contractionMark]) : name ∉ erasedNames options := by
  rw [erasedNames]
  split_ifs
  · exact h
  · exact fun hname ↦ h (List.mem_cons.2 (.inl (List.mem_singleton.1 hname)))

/-- The execution modes that a run writes: those of the first group on all entry points, then those
of the second. -/
def modes (m : DeviceModule) : List KernelMode :=
  RuleGroup.openCL.recordsOf m.entryPoints ++ RuleGroup.vectorCompute.recordsOf m.entryPoints

/-- The rules that a run skips, in the same order. -/
def skips (m : DeviceModule) : List SkippedRule :=
  RuleGroup.openCL.skippedOf m.entryPoints ++ RuleGroup.vectorCompute.skippedOf m.entryPoints

theorem modes_eq_flatMap (m : DeviceModule) :
    m.modes = RuleGroup.all.flatMap fun g ↦ g.recordsOf m.entryPoints := by
  rw [RuleGroup.all, List.flatMap_cons, List.flatMap_singleton, modes]

theorem skips_eq_flatMap (m : DeviceModule) :
    m.skips = RuleGroup.all.flatMap fun g ↦ g.skippedOf m.entryPoints := by
  rw [RuleGroup.all, List.flatMap_cons, List.flatMap_singleton, skips]

/-- What a run writes to a list, if it opens the list at all. -/
def written (m : DeviceModule) (t : Target) (name : String) : Option (List Node) :=
  if name = Vocabulary.executionModes then
    some (m.modes.map KernelMode.node)
  else if name = Vocabulary.memoryModel then
    some [.ofWords [Numbered.code t.arch.addressing, Numbered.code MemoryModel.openCL]]
  else if name = Vocabulary.spirVersion then some [.ofWords [1, 2]]
  else if name = Vocabulary.openCLVersion then some [.ofWords [1, 0]]
  else if name = Vocabulary.sourceExtensions ∧
      m.distinctStrings Vocabulary.usedExtensions ≠ [] then
    some ((m.distinctStrings Vocabulary.usedExtensions).map fun s ↦ .ofStrings [s])
  else none

/-- The lists that every run opens: those of the memory model, of the versions and of the execution
modes. -/
def openedNames : List String :=
  [Vocabulary.memoryModel, Vocabulary.spirVersion, Vocabulary.openCLVersion,
    Vocabulary.executionModes]

/-- The lists that a run may write to. -/
def writtenNames : List String := Vocabulary.sourceExtensions :: openedNames

theorem notMem_erasedNames_of_mem (options : Options) {name : String} (h : name ∈ writtenNames) :
    name ∉ erasedNames options := by
  have hall : ∀ name ∈ writtenNames, name ∉ [Vocabulary.nvptxVersion, Vocabulary.usedExtensions,
      Vocabulary.usedCoreFeatures, Vocabulary.contractionMark] := by decide
  exact notMem_erasedNames options (hall name h)

theorem written_isSome {name : String} (h : name ∈ openedNames) :
    (m.written t name).isSome = true := by
  simp only [openedNames, List.mem_cons, List.not_mem_nil, or_false] at h
  rcases h with rfl | rfl | rfl | rfl <;> simp +decide [written]

theorem written_eq_none {name : String} (h : name ∉ writtenNames) : m.written t name = none := by
  simp only [writtenNames, openedNames, List.mem_cons, List.not_mem_nil, or_false, not_or] at h
  obtain ⟨hextensions, hmemory, hspir, hopenCL, hmodes⟩ := h
  rw [written, if_neg hmodes, if_neg hmemory, if_neg hspir, if_neg hopenCL,
    if_neg fun hall ↦ hextensions hall.1]

/-- What is written to a list is read off the strings in the list of used extensions, or is the
execution modes. -/
theorem written_congr_of_distinctStrings {n : DeviceModule} {name : String}
    (hmodes : name = Vocabulary.executionModes → m.modes = n.modes)
    (hstrings : m.distinctStrings Vocabulary.usedExtensions =
      n.distinctStrings Vocabulary.usedExtensions) : m.written t name = n.written t name := by
  rw [written, written, hstrings]
  exact ite_congr rfl (fun hname ↦ by rw [hmodes hname]) fun _ ↦ rfl

theorem written_congr {n : DeviceModule} {name : String}
    (hmodes : name = Vocabulary.executionModes → m.modes = n.modes)
    (hlist : m.list? Vocabulary.usedExtensions = n.list? Vocabulary.usedExtensions) :
    m.written t name = n.written t name := by
  refine written_congr_of_distinctStrings hmodes ?_
  rw [distinctStrings, distinctStrings, nodes, nodes, hlist]

/-- The edits of named lists that carry out a plan. -/
private def planEdits (options : Options) (p : Plan) : List Edit :=
  [.erase Vocabulary.nvptxVersion, (Record.memoryModel p.addressing p.memory).edit] ++
    extensionEdits p.extensions ++ Plan.erasures options

private theorem value_planCarryOut (options : Options) (m : DeviceModule) (p : Plan) :
    (p.carryOut options m).value =
      (Plan.markKernels (m.replay (planEdits options p)).value p.kernels).value := by
  simp only [Plan.carryOut, planEdits, Logged.value_bind, value_declareExtensions, value_edit,
    value_replay, List.foldl_append, List.foldl_cons, List.foldl_nil]

private theorem functions_replay_planEdits (options : Options) (m : DeviceModule) (p : Plan) :
    (m.replay (planEdits options p)).value.functions = m.functions := by
  rw [functions_replay, planEdits, extensionEdits, Plan.erasures]
  split_ifs <;> rfl

/-- Of the functions, carrying out a plan changes no more than marking its kernels does. -/
theorem exists_value_planCarryOut (options : Options) (m : DeviceModule) (p : Plan) :
    ∃ m' : DeviceModule, m'.functions = m.functions ∧
      (p.carryOut options m).value = (Plan.markKernels m' p.kernels).value :=
  ⟨_, functions_replay_planEdits options m p, value_planCarryOut options m p⟩

theorem functions_declared (options : Options) (m : DeviceModule) (t : Target) :
    (m.declared options (m.planFor t)).functions = m.markedFunctions := by
  rw [declared, functions_replay, value_planCarryOut]
  exact functions_markKernels_plannedKernels (functions_replay_planEdits options m (m.planFor t))

theorem triple_declared (options : Options) (m : DeviceModule) (p : Plan) :
    (m.declared options p).triple = m.triple := by
  rw [declared, triple_replay, value_planCarryOut, triple_markKernels, triple_replay]

private theorem foldl_onList_extensionEdits (names : List String) (name : String)
    (ns : Option (List Node)) :
    (extensionEdits names).foldl (Edit.onList name) ns =
      if name = Vocabulary.sourceExtensions ∧ names ≠ [] then
        some (ns.getD [] ++ names.map fun s ↦ .ofStrings [s])
      else ns := by
  rw [extensionEdits]
  cases names with
  | nil => simp
  | cons s names =>
    rw [if_neg (by simp), List.foldl_cons, List.foldl_nil, Record.onList_edit]
    exact if_congr (by simp [Record.listName]) rfl rfl

private theorem foldl_onList_erasures (options : Options) (name : String)
    (ns : Option (List Node)) :
    (Plan.erasures options).foldl (Edit.onList name) ns =
      if options.eraseLegacy = true ∧ (name = Vocabulary.usedExtensions ∨
        name = Vocabulary.usedCoreFeatures ∨ name = Vocabulary.contractionMark) then none
      else ns := by
  rw [Plan.erasures]
  by_cases h : options.eraseLegacy = true
  · simp only [h, if_true, List.foldl_cons, List.foldl_nil, Edit.onList_erase, true_and]
    split_ifs <;> simp_all
  · rw [if_neg h, if_neg fun hall ↦ h hall.1, List.foldl_nil]

/-- **A list after the declarations.** The list of execution modes is there, if only empty; the
others are as a run leaves them. -/
theorem list?_declared (options : Options) (m : DeviceModule) (t : Target) (name : String) :
    (m.declared options (m.planFor t)).list? name =
      if name ∈ erasedNames options then none
      else if name = Vocabulary.executionModes then some (m.nodes name)
      else ((m.written t name).map fun ns ↦ m.nodes name ++ ns).or (m.list? name) := by
  rw [declared, list?_replay, value_planCarryOut, list?_markKernels, list?_replay, planEdits]
  simp only [List.foldl_append, List.foldl_cons, List.foldl_nil, Record.onList_edit,
    foldl_onList_extensionEdits, foldl_onList_erasures, Edit.onList_erase, Edit.onList_write_nil,
    Record.spir, Record.openCL, Record.listName, Record.nodes, VersionList.name, planFor]
  -- each of these names is that of one edit at most, and all others are those of none
  by_cases hext : name = Vocabulary.sourceExtensions
  · subst hext
    by_cases hnames : m.distinctStrings Vocabulary.usedExtensions = [] <;>
      simp +decide [erasedNames, written, nodes, hnames]
  by_cases hname : name ∈ [Vocabulary.executionModes, Vocabulary.memoryModel,
      Vocabulary.spirVersion, Vocabulary.openCLVersion, Vocabulary.nvptxVersion,
      Vocabulary.usedExtensions, Vocabulary.usedCoreFeatures, Vocabulary.contractionMark]
  · simp only [List.mem_cons, List.not_mem_nil, or_false] at hname
    rcases hname with rfl | rfl | rfl | rfl | rfl | rfl | rfl | rfl <;>
      simp +decide [erasedNames, written, nodes]
  · simp only [List.mem_cons, List.not_mem_nil, or_false, not_or] at hname
    obtain ⟨h₁, h₂, h₃, h₄, h₅, h₆, h₇, h₈⟩ := hname
    simp [erasedNames, written, hext, h₁, h₂, h₃, h₄, h₅, h₆, h₇, h₈]

/-! ## The whole run -/

private theorem transcribe_of_isFor (options : Options) (h : m.IsFor t) :
    let d := m.declared options (m.planFor t)
    (m.transcribe options).result =
        (d.withModes (RuleGroup.openCL.recordsOf m.entryPoints)).withModes
          (RuleGroup.vectorCompute.recordsOf m.entryPoints) ∧
      (m.transcribe options).outcome = .ok ⟨m.entryPoints.map FunctionDecl.id, m.modes.length,
        m.skips, (m.transcribe options).result.violation?⟩ := by
  obtain ⟨plan, hplan, hvalue⟩ := exists_prepare_of_isFor h
  have hd : (m.declared options (m.planFor t)).functions = m.markedFunctions :=
    functions_declared options m t
  have hcl := RuleGroup.openCL_mem_all
  have hvc := RuleGroup.vectorCompute_mem_all
  simp only [transcribe, hplan, value_carryOut, recordsOf_kernels hcl hd, recordsOf_kernels hvc hd,
    skippedOf_kernels hcl hd, skippedOf_kernels hvc hd, map_id_kernels hd, hvalue, modes, skips,
    List.length_append, and_self]

/-- **The report** is read off the entry points, but for the fault, which is that of the module that
the run leaves behind. -/
theorem outcome_of_isFor (options : Options) (h : m.IsFor t) :
    (m.transcribe options).outcome = .ok ⟨m.entryPoints.map FunctionDecl.id, m.modes.length,
      m.skips, (m.transcribe options).result.violation?⟩ :=
  (transcribe_of_isFor options h).2

theorem exists_isFor_of_outcome {report : Report}
    (h : (m.transcribe options).outcome = .ok report) : ∃ t, m.IsFor t :=
  exists_outcome_eq_ok_iff.1 ⟨report, h⟩

theorem report_eq {report : Report} (h : (m.transcribe options).outcome = .ok report) :
    report = ⟨m.entryPoints.map FunctionDecl.id, m.modes.length, m.skips,
      (m.transcribe options).result.violation?⟩ := by
  obtain ⟨t, ht⟩ := exists_isFor_of_outcome h
  rw [outcome_of_isFor options ht] at h
  exact (Except.ok.inj h).symm

theorem triple_result (options : Options) (h : m.IsFor t) :
    (m.transcribe options).result.triple = m.triple := by
  rw [(transcribe_of_isFor options h).1, withModes, triple_replay, withModes, triple_replay,
    triple_declared]

/-- **The functions** are those of the module with the marked ones turned into kernels. -/
theorem functions_result (options : Options) (h : m.IsFor t) :
    (m.transcribe options).result.functions = m.markedFunctions := by
  rw [(transcribe_of_isFor options h).1, functions_withModes, functions_withModes,
    functions_declared]

/-- **The named lists** are erased, or followed by what is written to them, or as they were. -/
theorem list?_result (options : Options) (h : m.IsFor t) (name : String) :
    (m.transcribe options).result.list? name =
      if name ∈ erasedNames options then none
      else ((m.written t name).map fun ns ↦ m.nodes name ++ ns).or (m.list? name) := by
  rw [(transcribe_of_isFor options h).1]
  have hd := list?_declared options m t name
  by_cases hname : name = Vocabulary.executionModes
  · subst hname
    have herased : Vocabulary.executionModes ∉ erasedNames options :=
      notMem_erasedNames options (by decide)
    rw [if_neg herased, if_pos rfl] at hd
    rw [list?_withModes_of_eq_some (list?_withModes_of_eq_some hd _), if_neg herased, written,
      if_pos rfl, Option.map_some, Option.some_or, modes, List.map_append, List.append_assoc]
  · rw [list?_withModes_of_ne hname, list?_withModes_of_ne hname, hd, if_neg hname]

/-- What is written to a list stands after what the list held before. -/
theorem list?_result_of_written (options : Options) (h : m.IsFor t) {name : String}
    {ns : List Node} (hname : name ∈ writtenNames) (hns : m.written t name = some ns) :
    (m.transcribe options).result.list? name = some (m.nodes name ++ ns) := by
  rw [list?_result options h, if_neg (notMem_erasedNames_of_mem options hname), hns,
    Option.map_some, Option.some_or]

/-- A list that nothing is written to stays the same unless it is erased. -/
theorem list?_result_of_written_eq_none (options : Options) (h : m.IsFor t) {name : String}
    (hwritten : m.written t name = none) :
    (m.transcribe options).result.list? name =
      if name ∈ erasedNames options then none else m.list? name := by
  rw [list?_result options h, hwritten, Option.map_none, Option.none_or]

theorem list?_result_executionModes (options : Options) (h : m.IsFor t) :
    (m.transcribe options).result.list? Vocabulary.executionModes =
      some (m.nodes Vocabulary.executionModes ++ m.modes.map KernelMode.node) :=
  list?_result_of_written options h (by decide) rfl

theorem nodes_result (options : Options) (h : m.IsFor t) (name : String) :
    (m.transcribe options).result.nodes name =
      if name ∈ erasedNames options then [] else m.nodes name ++ (m.written t name).getD [] := by
  rw [nodes, list?_result options h]
  split_ifs
  · rfl
  · cases m.written t name with
    | none => rw [Option.map_none, Option.none_or, Option.getD_none, List.append_nil, nodes]
    | some ns => rw [Option.map_some, Option.some_or, Option.getD_some, Option.getD_some]

/-! ## A module to look at -/

/-- A module for an NVPTX target with a function that is marked twice, a kernel by convention, and
another function with the identity of the marked one. One annotation of the marked function cannot
be read, and the list of execution modes is not empty. -/
def twoKernels : DeviceModule where
  triple := some "nvptx64-nvidia-cuda"
  functions := [
    ⟨⟨1⟩, "scale", [⟨"x", .pointer ⟨1, some (.float .single)⟩⟩, ⟨"n", .int .i32⟩], .ptxKernel,
      .empty, NameMap.ofList [("reqd_work_group_size", .ofWords [8, 4, 1]),
        ("max_global_work_dim", .ofStrings ["3"]), ("kernel_arg_type", .ofStrings ["?"])]⟩,
    ⟨⟨2⟩, "blur", [], .spirKernel, NameMap.ofList [("VCSLMSize", "0x400")], .empty⟩,
    ⟨⟨1⟩, "shadow", [], .c, .empty, .empty⟩]
  lists := NameMap.ofList [
    (Vocabulary.nvptxVersion, [.ofWords [2, 0]]),
    (Vocabulary.usedExtensions, [.ofStrings ["cl_khr_fp64", "cl_khr_fp16"]]),
    (Vocabulary.nvptxAnnotations, [⟨[.function ⟨1⟩, .string "kernel", .word 1]⟩,
      ⟨[.function ⟨2⟩, .string "maxntidx", .word 64]⟩,
      ⟨[.function ⟨1⟩, .string "kernel", .word 0]⟩]),
    (Vocabulary.executionModes, [.ofStrings ["old"]])]

/-- The report on `twoKernels`. -/
def twoKernelsReport : Report := ⟨[⟨1⟩, ⟨2⟩], 2, [⟨"scale", "max-work-dim", .notAnInteger 0⟩], none⟩

theorem outcome_twoKernels (options : Options) :
    (twoKernels.transcribe options).outcome = .ok twoKernelsReport := by
  cases options with
  | mk eraseLegacy => cases eraseLegacy <;> decide +kernel

end DeviceModule

end KernelMetadata
