import KernelMetadata.Proofs.NameMap
import KernelMetadata.Proofs.Run

/-!
# The fault that a run reports

Verification stops at the first fault, and its order mixes everything that a run changes: names of
functions, named lists by name and index, metadata by function and key. To see what a run does to it
the faults are first listed in full (`DeviceModule.faults`) and then compared piece by piece: two
modules have the same first fault as soon as each list and each key of each function has the same
faults in both (`DeviceModule.violation?_congr`).

A run adds nodes at the end of lists and sets keys, and every reference in what it adds resolves. So
its fault is that of the original module without what the run throws away
(`DeviceModule.stripped`), and a run on a well-formed module reports none.
-/

namespace KernelMetadata

/-! ## References -/

namespace Node

@[simp] theorem functions_ofStrings (ss : List String) : (ofStrings ss).functions = [] := by
  simp [functions, ofStrings, Operand.function?]

@[simp] theorem functions_ofWords (ws : List UInt32) : (ofWords ws).functions = [] := by
  simp [functions, ofWords, Operand.word, Operand.function?]

end Node

/-- An execution mode refers to its kernel, and to nothing else. -/
@[simp] theorem KernelMode.functions_node (k : KernelMode) : k.node.functions = [k.target] := by
  simp [node, Node.functions, Operand.word, Operand.function?]

namespace DeviceModule

variable {options : Options} {m n : DeviceModule} {t : Target}

/-- Whether every reference in a node resolves. -/
def Resolves (m : DeviceModule) (x : Node) : Prop := ∀ id ∈ x.functions, m.defines id = true

theorem dangling?_eq_none_iff {x : Node} : m.dangling? x = none ↔ m.Resolves x := by
  simp only [dangling?, Resolves, List.find?_eq_none, defines_iff, decide_eq_true_eq, not_not]

theorem dangling?_congr (h : m.functions.map FunctionDecl.id = n.functions.map FunctionDecl.id) :
    m.dangling? = n.dangling? := by
  funext x
  rw [dangling?, dangling?, h]

theorem resolves_congr (h : m.functions.map FunctionDecl.id = n.functions.map FunctionDecl.id) :
    m.Resolves = n.Resolves := by
  funext x
  rw [← dangling?_eq_none_iff, dangling?_congr h, dangling?_eq_none_iff]

theorem resolves_of_functions_eq_nil {x : Node} (h : x.functions = []) : m.Resolves x := by
  intro id hid
  rw [h] at hid
  exact absurd hid List.not_mem_nil

/-! ## All faults -/

/-- The dangling references of a named list, with the places of the nodes that hold them. -/
def listFaults (m : DeviceModule) (name : String) (ns : List Node) : List Violation :=
  ns.zipIdx.filterMap fun x ↦ (m.dangling? x.1).map (.danglingReference (.list name x.2))

/-- The dangling reference of the node that a function carries under a key, if there is one. -/
def metadataFaults (m : DeviceModule) (f : FunctionDecl) (key : String) (x : Node) :
    List Violation :=
  ((m.dangling? x).map (.danglingReference (.function f.name key))).toList

/-- The dangling references of the metadata that a function carries. -/
def functionFaults (m : DeviceModule) (f : FunctionDecl) : List Violation :=
  f.metadata.entries.flatMap fun a ↦ m.metadataFaults f a.1 a.2

/-- The dangling references of a module, in the order of its verification. -/
def faults (m : DeviceModule) : List Violation :=
  (m.lists.entries.flatMap fun l ↦ m.listFaults l.1 l.2) ++ m.functions.flatMap m.functionFaults

/-- Verification reports a repeated name, and otherwise the first of the dangling references. -/
theorem violation?_eq_head? (m : DeviceModule) :
    m.violation? = ((firstRepeat? [] (m.functions.map FunctionDecl.name)).map
      Violation.duplicateName).or m.faults.head? := by
  have hfaults : m.sites.filterMap (fun s ↦ (m.dangling? s.2).map (.danglingReference s.1)) =
      m.faults := by
    rw [sites, faults, List.filterMap_append, List.filterMap_flatMap, List.filterMap_flatMap]
    refine congrArg₂ _ (List.flatMap_congr fun l _ ↦ ?_) (List.flatMap_congr fun f _ ↦ ?_)
    · rw [List.filterMap_map, listFaults]
      rfl
    · rw [List.filterMap_map, List.filterMap_eq_flatMap_toList]
      rfl
  rw [violation?, ← hfaults, List.head?_filterMap]

/-- The faults of a list depend on the identities that are defined, and on no more. -/
theorem listFaults_congr (h : m.functions.map FunctionDecl.id = n.functions.map FunctionDecl.id) :
    m.listFaults = n.listFaults := by
  funext name ns
  rw [listFaults, dangling?_congr h, listFaults]

/-- Nodes whose references resolve bring no fault, and shift none. -/
theorem listFaults_append {xs ys : List Node} (name : String) (h : ∀ y ∈ ys, m.Resolves y) :
    m.listFaults name (xs ++ ys) = m.listFaults name xs := by
  -- the nodes in front keep their indices
  rw [listFaults, List.zipIdx_append, List.filterMap_append, listFaults]
  refine List.append_right_eq_self.2 (List.filterMap_eq_nil_iff.2 fun y hy ↦ ?_)
  have hmem : y.1 ∈ ys := List.fst_mem_of_mem_zipIdx hy
  rw [dangling?_eq_none_iff.2 (h y.1 hmem), Option.map_none]

/-- Whether two functions have the same name and the same faults, as far as the references of `m`
go. -/
def SameFaults (m : DeviceModule) (f g : FunctionDecl) : Prop :=
  f.name = g.name ∧ ∀ key, (f.metadata.get? key).bind m.dangling? =
    (g.metadata.get? key).bind m.dangling?

theorem functionFaults_congr {f g : FunctionDecl} (h : m.SameFaults f g) :
    m.functionFaults f = m.functionFaults g := by
  have hyield : ∀ (f : FunctionDecl) (key : String),
      ((f.metadata.get? key).map (m.metadataFaults f key)).getD [] =
        (((f.metadata.get? key).bind m.dangling?).map
          (.danglingReference (.function f.name key))).toList := by
    intro f key
    cases f.metadata.get? key <;> rfl
  -- a node whose references resolve counts as little as an absent one
  refine NameMap.flatMap_entries_congr fun key ↦ ?_
  rw [hyield, hyield, h.1, h.2 key]

theorem flatMap_functionFaults_congr {fs gs : List FunctionDecl}
    (h : List.Forall₂ m.SameFaults fs gs) :
    fs.flatMap m.functionFaults = gs.flatMap m.functionFaults := by
  induction h with
  | nil => rfl
  | cons h _ ih => rw [List.flatMap_cons, List.flatMap_cons, ih, functionFaults_congr h]

/-- **Faults are compared piece by piece.** Two modules with the same identities and names have the
same first fault if each list has the same faults in both, and so has each key of each function. -/
theorem violation?_congr
    (hids : m.functions.map FunctionDecl.id = n.functions.map FunctionDecl.id)
    (hlists : ∀ name, m.listFaults name (m.nodes name) = m.listFaults name (n.nodes name))
    (hfunctions : List.Forall₂ m.SameFaults m.functions n.functions) :
    m.violation? = n.violation? := by
  have hnames : m.functions.map FunctionDecl.name = n.functions.map FunctionDecl.name := by
    rw [← List.forall₂_eq_eq_eq, List.forall₂_map_left_iff, List.forall₂_map_right_iff]
    exact hfunctions.imp fun f g h ↦ h.1
  have hfunctionFaults : n.functionFaults = m.functionFaults := by
    funext f
    simp only [functionFaults, metadataFaults, dangling?_congr hids]
  have hleft : (m.lists.entries.flatMap fun l ↦ m.listFaults l.1 l.2) =
      n.lists.entries.flatMap fun l ↦ m.listFaults l.1 l.2 := by
    have hyield : ∀ (k : DeviceModule) (name : String),
        ((k.lists.get? name).map (m.listFaults name)).getD [] =
          m.listFaults name (k.nodes name) := by
      intro k name
      rw [nodes, list?]
      cases k.lists.get? name <;> rfl
    -- a list without faults may be there in one of the modules only
    refine NameMap.flatMap_entries_congr fun name ↦ ?_
    rw [hyield, hyield, hlists name]
  rw [violation?_eq_head?, violation?_eq_head?, faults, faults, ← listFaults_congr hids,
    hfunctionFaults, hnames, hleft, flatMap_functionFaults_congr hfunctions]

theorem listFaults_eq_nil_iff {name : String} {ns : List Node} :
    m.listFaults name ns = [] ↔ ∀ x ∈ ns, m.Resolves x := by
  simp only [listFaults, List.filterMap_eq_nil_iff, Option.map_eq_none_iff,
    dangling?_eq_none_iff]
  constructor
  · intro h x hx
    obtain ⟨i, hi⟩ := List.mem_iff_getElem?.1 hx
    exact h (x, i) (List.mem_zipIdx_iff_getElem?.2 hi)
  · intro h x hx
    exact h x.1 (List.fst_mem_of_mem_zipIdx hx)

theorem functionFaults_eq_nil_iff {f : FunctionDecl} :
    m.functionFaults f = [] ↔ ∀ key, ∀ x ∈ f.metadata.get? key, m.Resolves x := by
  simp only [functionFaults, List.flatMap_eq_nil_iff, metadataFaults, Option.toList_eq_nil_iff,
    Option.map_eq_none_iff, dangling?_eq_none_iff, Prod.forall, NameMap.mem_entries_iff,
    Option.mem_def]

/-- **A module without a fault** repeats no name, and all references in it resolve. -/
theorem violation?_eq_none_iff : m.violation? = none ↔
    (m.functions.map FunctionDecl.name).Nodup ∧ (∀ name, ∀ x ∈ m.nodes name, m.Resolves x) ∧
      ∀ f ∈ m.functions, ∀ key, ∀ x ∈ f.metadata.get? key, m.Resolves x := by
  have hlists : (∀ l ∈ m.lists.entries, m.listFaults l.1 l.2 = []) ↔
      ∀ name, ∀ x ∈ m.nodes name, m.Resolves x := by
    simp only [Prod.forall, NameMap.mem_entries_iff, listFaults_eq_nil_iff, nodes, list?]
    refine forall_congr' fun name ↦ ?_
    cases m.lists.get? name <;> simp
  rw [violation?_eq_head?, Option.or_eq_none_iff, Option.map_eq_none_iff,
    firstRepeat?_eq_none_iff, List.head?_eq_none_iff, faults, List.append_eq_nil_iff,
    List.flatMap_eq_nil_iff, List.flatMap_eq_nil_iff, hlists]
  simp only [functionFaults_eq_nil_iff, List.not_mem_nil, not_false_eq_true, implies_true, and_true]

/-! ## What a run adds, and what it throws away -/

/-- References in what a run writes resolve, since only kernels are referred to. -/
theorem resolves_of_mem_written {name : String} {ns : List Node} (h : m.written t name = some ns) :
    ∀ x ∈ ns, m.Resolves x := by
  have hmodes : ∀ k ∈ m.modes, m.Resolves k.node := by
    intro k hk id hid
    rw [KernelMode.functions_node, List.mem_singleton] at hid
    obtain ⟨f, hf, htarget⟩ : ∃ f ∈ m.entryPoints, k.target = f.id := by
      rcases List.mem_append.1 hk with hk | hk <;> exact RuleGroup.exists_of_mem_recordsOf hk
    rw [hid, htarget]
    exact function?_isSome_iff.2 ⟨f, mem_of_mem_entryPoints hf, rfl⟩
  intro x hx
  rw [written] at h
  split_ifs at h <;> cases h
  · obtain ⟨k, hk, rfl⟩ := List.mem_map.1 hx
    exact hmodes k hk
  -- everything else is words and strings
  · rw [List.mem_singleton.1 hx]
    exact resolves_of_functions_eq_nil (Node.functions_ofWords _)
  · rw [List.mem_singleton.1 hx]
    exact resolves_of_functions_eq_nil (Node.functions_ofWords _)
  · rw [List.mem_singleton.1 hx]
    exact resolves_of_functions_eq_nil (Node.functions_ofWords _)
  · obtain ⟨s, -, rfl⟩ := List.mem_map.1 hx
    exact resolves_of_functions_eq_nil (Node.functions_ofStrings _)

end DeviceModule

/-- A function without the metadata about its arguments. -/
def FunctionDecl.withoutArguments (f : FunctionDecl) : FunctionDecl :=
  { f with metadata := argumentKeys.foldl NameMap.erase f.metadata }

namespace DeviceModule

variable {options : Options} {m n : DeviceModule} {t : Target}

/-- A module without what a run throws away: the lists that it erases, and the metadata about the
arguments of the functions that it marks. -/
def stripped (options : Options) (m : DeviceModule) : DeviceModule where
  triple := m.triple
  functions := m.changeMarked .withoutArguments
  lists := (erasedNames options).foldl NameMap.erase m.lists

theorem nodes_stripped (options : Options) (m : DeviceModule) (name : String) :
    (m.stripped options).nodes name = if name ∈ erasedNames options then [] else m.nodes name := by
  rw [nodes, list?, stripped, NameMap.get?_foldl_erase]
  split_ifs <;> rfl

theorem map_id_stripped (options : Options) (m : DeviceModule) :
    (m.stripped options).functions.map FunctionDecl.id = m.functions.map FunctionDecl.id :=
  m.map_changeMarked fun _ ↦ rfl

theorem map_name_stripped (options : Options) (m : DeviceModule) :
    (m.stripped options).functions.map FunctionDecl.name = m.functions.map FunctionDecl.name :=
  m.map_changeMarked fun _ ↦ rfl

/-- Marking puts words and strings where the metadata that it throws away stood. -/
theorem sameFaults_asKernel (m : DeviceModule) (f : FunctionDecl) :
    m.SameFaults f.asKernel f.withoutArguments := by
  refine ⟨rfl, fun key ↦ ?_⟩
  have hwithout : f.withoutArguments.metadata.get? key =
      if key ∈ FunctionDecl.argumentKeys then none else f.metadata.get? key :=
    NameMap.get?_foldl_erase f.metadata FunctionDecl.argumentKeys key
  have hnone : ∀ x : Node, x.functions = [] → (some x).bind m.dangling? = none := fun x hx ↦
    dangling?_eq_none_iff.2 (resolves_of_functions_eq_nil hx)
  by_cases hkey : key ∈ FunctionDecl.argumentKeys
  · rw [hwithout, if_pos hkey, Option.bind_none, FunctionDecl.get?_metadata_asKernel]
    split_ifs with haddress htypes haccess
    · exact hnone _ (Node.functions_ofWords _)
    · exact hnone _ (Node.functions_ofStrings _)
    · exact hnone _ (Node.functions_ofStrings _)
    · exact absurd hkey (by simp [FunctionDecl.argumentKeys, haddress, htypes, haccess])
  · rw [f.get?_metadata_asKernel_of_notMem hkey, hwithout, if_neg hkey]

/-- Throwing things away brings no fault. -/
theorem violation?_stripped_eq_none (options : Options) (h : m.violation? = none) :
    (m.stripped options).violation? = none := by
  obtain ⟨hnames, hlists, hfunctions⟩ := violation?_eq_none_iff.1 h
  rw [violation?_eq_none_iff, map_name_stripped, resolves_congr (map_id_stripped options m)]
  refine ⟨hnames, fun name x hx ↦ ?_, fun f hf key x hx ↦ ?_⟩
  · rw [nodes_stripped] at hx
    split_ifs at hx
    · exact absurd hx List.not_mem_nil
    · exact hlists name x hx
  · obtain ⟨i, hi⟩ := List.mem_iff_getElem?.1 hf
    rw [stripped, getElem?_changeMarked, Option.map_eq_some_iff] at hi
    obtain ⟨g, hg, rfl⟩ := hi
    have hget : g.metadata.get? key = some x := by
      split_ifs at hx
      · rw [FunctionDecl.withoutArguments, NameMap.get?_foldl_erase] at hx
        split_ifs at hx
        · exact absurd hx (by simp)
        · exact hx
      · exact hx
    exact hfunctions g (List.mem_of_getElem? hg) key x hget

/-- A run adds no fault to a list. -/
theorem listFaults_result (options : Options) (h : m.IsFor t) (name : String) :
    m.listFaults name ((m.transcribe options).result.nodes name) =
      m.listFaults name (if name ∈ erasedNames options then [] else m.nodes name) := by
  rw [nodes_result options h]
  split_ifs
  · rfl
  · refine listFaults_append name fun x hx ↦ ?_
    cases hwritten : m.written t name with
    | none => simp [hwritten] at hx
    | some ns =>
      rw [hwritten, Option.getD_some] at hx
      exact resolves_of_mem_written hwritten x hx

/-- **A run brings no fault.** Its fault is that of the module without what the run throws away, at
the same place and for the same reference. -/
theorem violation?_result (options : Options) (h : m.IsFor t) :
    (m.transcribe options).result.violation? = (m.stripped options).violation? := by
  have hids : (m.transcribe options).result.functions.map FunctionDecl.id =
      m.functions.map FunctionDecl.id := by
    rw [functions_result options h, map_id_markedFunctions]
  refine violation?_congr (hids.trans (map_id_stripped options m).symm) (fun name ↦ ?_) ?_
  · rw [listFaults_congr hids, listFaults_result options h, nodes_stripped]
  · rw [functions_result options h]
    exact forall₂_changeMarked (fun f ↦ ⟨rfl, fun key ↦ rfl⟩) (sameFaults_asKernel _)

/-! ## The report -/

/-- **The fault that is reported** is the one that verification finds in the original module without
what the run throws away. A module without a fault is reported to have none. -/
theorem violation_report {report : Report} (h : (m.transcribe options).outcome = .ok report) :
    report.violation = (m.stripped options).violation? ∧
      (m.violation? = none → report.violation = none) := by
  obtain ⟨t, ht⟩ := exists_isFor_of_outcome h
  have hreport : report.violation = (m.stripped options).violation? := by
    rw [report_eq h, violation?_result options ht]
  refine ⟨hreport, fun hm ↦ ?_⟩
  rw [hreport, violation?_stripped_eq_none options hm]

/-- A module with dangling references in all places: in a list and under a key that a run throws
away, before and after the execution modes that a run adds to, and under a key that it keeps. -/
def leftovers : DeviceModule where
  triple := some "nvptx"
  functions := [⟨⟨1⟩, "scale", [⟨"n", .int .i32⟩], .ptxKernel, .empty,
    NameMap.ofList [("kernel_arg_type", ⟨[.function ⟨7⟩]⟩),
      ("reqd_work_group_size", .ofWords [8, 4, 1]), ("type", ⟨[.function ⟨8⟩]⟩)]⟩]
  lists := NameMap.ofList [
    (Vocabulary.nvptxVersion, [⟨[.function ⟨6⟩]⟩]),
    (Vocabulary.nvptxAnnotations, [⟨[.function ⟨1⟩, .string "kernel", .word 1]⟩]),
    (Vocabulary.executionModes, [⟨[.function ⟨1⟩]⟩, ⟨[.function ⟨9⟩]⟩])]

/-- The report on `leftovers`. -/
def leftoversReport : Report :=
  ⟨[⟨1⟩], 1, [], some (.danglingReference (.list "spirv.ExecutionMode" 1) ⟨9⟩)⟩

/-- The dangling reference of a list that is erased is gone, and the next one is reported where it
stood. -/
theorem violation_report_leftovers :
    (leftovers.transcribe .default).outcome = .ok leftoversReport ∧
      leftovers.violation? = some (.danglingReference (.list "nvvmir.version" 0) ⟨6⟩) ∧
      (leftovers.stripped .default).violation? = leftoversReport.violation ∧
      twoKernels.violation? = none ∧ twoKernelsReport.violation = none := by
  have h : (leftovers.transcribe .default).outcome = .ok leftoversReport := by decide +kernel
  have hnone : twoKernels.violation? = none := by decide +kernel
  exact ⟨h, by decide +kernel, (violation_report h).1.symm, hnone,
    (violation_report (outcome_twoKernels .default)).2 hnone⟩

end DeviceModule

end KernelMetadata
