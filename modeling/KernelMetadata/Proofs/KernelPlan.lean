import KernelMetadata.Proofs.Run

/-!
# The kernels of a plan, and their order

Planning collects the functions that the NVPTX annotations mark, each once and in the order in which
they are first mentioned; carrying out then marks them one after the other. Both are held here
against the annotations themselves. The kernels of a plan are the identities that are marked and
resolve, and one stands before another exactly if it is marked by an earlier node
(`DeviceModule.idxOf_annotatedKernels_lt_iff`). What carrying out a plan makes of the functions is
what comes of going through the annotations node by node and making a kernel of the function each
time anew (`DeviceModule.functions_foldl_follow`).
-/

namespace KernelMetadata

variable {α β : Type}

/-! ## Order of first mention -/

/-- One place comes before another if the head is at the first, or the tail decides and the head is
not at the second. -/
theorem findIdx_cons_lt_iff (p q : α → Bool) (a : α) (as : List α) :
    (a :: as).findIdx p < (a :: as).findIdx q ↔
      q a = false ∧ (p a = true ∨ as.findIdx p < as.findIdx q) := by
  rw [List.findIdx_cons, List.findIdx_cons]
  cases p a <;> cases q a <;> simp

theorem idxOf_cons_lt_iff [DecidableEq β] (b b' c : β) (bs : List β) :
    (c :: bs).idxOf b < (c :: bs).idxOf b' ↔ c ≠ b' ∧ (c = b ∨ bs.idxOf b < bs.idxOf b') := by
  rw [List.idxOf, List.idxOf, findIdx_cons_lt_iff, beq_eq_false_iff_ne, beq_iff_eq]

/-- What a list is mapped to is first met in the order in which the list first shows it. -/
theorem idxOf_filterMap_lt_iff [DecidableEq β] (f : α → Option β) (as : List α) (b b' : β) :
    (as.filterMap f).idxOf b < (as.filterMap f).idxOf b' ↔
      (as.findIdx fun a ↦ f a = some b) < as.findIdx fun a ↦ f a = some b' := by
  induction as with
  | nil => simp
  | cons a as ih =>
    rw [findIdx_cons_lt_iff, decide_eq_false_iff_not, decide_eq_true_iff, ← ih]
    cases hf : f a with
    | none => simp [hf]
    | some c => simp [hf, idxOf_cons_lt_iff]

namespace DeviceModule

variable {fs : List FunctionDecl} {m : DeviceModule} {id : FunctionId} {seen : List FunctionId}

theorem nodup_map_id_distinctFunctions (seen : List FunctionId) (fs : List FunctionDecl) :
    ((distinctFunctions seen fs).map FunctionDecl.id).Nodup := by
  induction fs generalizing seen with
  | nil => exact .nil
  | cons f fs ih =>
    rw [distinctFunctions]
    split_ifs with hf
    · exact ih seen
    · rw [List.map_cons, List.nodup_cons, mem_map_id_distinctFunctions]
      exact ⟨fun h ↦ h.2 List.mem_cons_self, ih (f.id :: seen)⟩

/-- Dropping repetitions keeps the order of first mention. -/
theorem idxOf_distinctFunctions_lt_iff {u v : FunctionId} (hu : u ∉ seen) (hv : v ∉ seen) :
    ((distinctFunctions seen fs).map FunctionDecl.id).idxOf u <
        ((distinctFunctions seen fs).map FunctionDecl.id).idxOf v ↔
      (fs.map FunctionDecl.id).idxOf u < (fs.map FunctionDecl.id).idxOf v := by
  induction fs generalizing seen with
  | nil => rfl
  | cons f fs ih =>
    rw [distinctFunctions, List.map_cons, idxOf_cons_lt_iff]
    by_cases hf : f.id ∈ seen
    · have hfu : f.id ≠ u := fun h ↦ hu (h ▸ hf)
      have hfv : f.id ≠ v := fun h ↦ hv (h ▸ hf)
      rw [if_pos hf, ih hu hv]
      simp [hfu, hfv]
    · rw [if_neg hf, List.map_cons, idxOf_cons_lt_iff]
      by_cases hfu : f.id = u
      · simp [hfu]
      · refine and_congr_right fun hfv ↦ or_congr_right (ih ?_ ?_)
        · exact List.not_mem_cons_of_ne_of_not_mem (Ne.symm hfu) hu
        · exact List.not_mem_cons_of_ne_of_not_mem hfv.symm hv

/-- The function that a node of the annotations marks. -/
def markedFunction? (m : DeviceModule) (n : Node) : Option FunctionDecl :=
  if n.marksKernel then m.firstOperandFunction? n else none

theorem markedFunction?_eq_some_iff {n : Node} {f : FunctionDecl} :
    m.markedFunction? n = some f ↔ n.Marks f.id ∧ m.function? f.id = some f := by
  rw [markedFunction?, Option.ite_none_right_eq_some, Node.marks_iff,
    firstOperandFunction?_eq_some_iff, and_assoc, and_comm (a := m.function? f.id = some f)]

theorem map_id_markedFunction?_eq_some_iff {n : Node} :
    (m.markedFunction? n).map FunctionDecl.id = some id ↔ n.Marks id ∧ m.defines id = true := by
  rw [defines, Option.isSome_iff_exists, Option.map_eq_some_iff]
  simp only [markedFunction?_eq_some_iff]
  constructor
  · rintro ⟨f, ⟨hmarks, hf⟩, rfl⟩
    exact ⟨hmarks, f, hf⟩
  · rintro ⟨hmarks, f, hf⟩
    obtain rfl : f.id = id := by simpa using List.find?_some hf
    exact ⟨f, ⟨hmarks, hf⟩, rfl⟩

theorem map_id_filterMap_kernelMarks (m : DeviceModule) :
    (m.kernelMarks.filterMap fun n ↦ m.firstOperandFunction? n.1).map FunctionDecl.id =
      (m.nodes Vocabulary.nvptxAnnotations).filterMap fun n ↦
        (m.markedFunction? n).map FunctionDecl.id := by
  have hnodes := List.zipIdx_map_fst 0 (m.nodes Vocabulary.nvptxAnnotations)
  rw [← hnodes, List.filterMap_map, kernelMarks, List.filterMap_filter, List.map_filterMap]
  refine congrArg (fun g ↦ List.filterMap g _) (funext fun n ↦ ?_)
  rw [Function.comp_apply, markedFunction?]

/-- **A kernel is planned before another exactly if it is marked first.** -/
theorem idxOf_annotatedKernels_lt_iff {u v : FunctionId} (hu : m.defines u = true)
    (hv : m.defines v = true) :
    (m.annotatedKernels.value.map FunctionDecl.id).idxOf u <
        (m.annotatedKernels.value.map FunctionDecl.id).idxOf v ↔
      ((m.nodes Vocabulary.nvptxAnnotations).findIdx fun n ↦ n.Marks u) <
        (m.nodes Vocabulary.nvptxAnnotations).findIdx fun n ↦ n.Marks v := by
  rw [annotatedKernels, idxOf_distinctFunctions_lt_iff List.not_mem_nil List.not_mem_nil,
    map_id_filterMap_kernelMarks, idxOf_filterMap_lt_iff]
  simp only [map_id_markedFunction?_eq_some_iff, hu, hv, and_true]

/-! ## Node by node -/

/-- What one node of the annotations asks for: that the function it marks, if it marks one, becomes
a kernel with the arguments that this function has now. -/
def follow (m : DeviceModule) (n : Node) : DeviceModule :=
  match m.markedFunction? n with
  | some f => (m.replay (KernelArgs.describe f).edits).value
  | none => m

theorem describe_asKernel (f : FunctionDecl) :
    KernelArgs.describe f.asKernel = KernelArgs.describe f := rfl

/-- Marking does not change how the function with an identity is described. -/
theorem exists_find?_of_find?_changeFirsts {p : FunctionId → Bool} {f : FunctionDecl}
    (h : (changeFirsts p .asKernel fs).find? (fun g ↦ g.id = id) = some f) :
    ∃ g, fs.find? (fun g ↦ g.id = id) = some g ∧ KernelArgs.describe f = KernelArgs.describe g := by
  have hfind : ∀ gs : List FunctionDecl,
      (gs.map KernelArgs.describe).find? (fun k ↦ k.function = id) =
        (gs.find? fun g ↦ g.id = id).map KernelArgs.describe := fun gs ↦ List.find?_map
  have hdescribe := (hfind fs).symm
  rw [← map_changeFirsts (p := p) describe_asKernel, hfind, h, Option.map_some,
    Option.map_eq_some_iff] at hdescribe
  obtain ⟨g, hg, heq⟩ := hdescribe
  exact ⟨g, hg, heq.symm⟩

/-- **One node.** Where some first functions are kernels already, so is now the one that the node
marks. -/
theorem functions_follow {p : FunctionId → Bool} (hm : m.functions = changeFirsts p .asKernel fs)
    (n : Node) :
    (m.follow n).functions = changeFirsts (fun id ↦ p id || n.Marks id) .asKernel fs := by
  rw [follow]
  cases h : m.markedFunction? n with
  | none =>
    refine hm.trans (changeFirsts_congr fun f hf ↦ ?_)
    have hnone : ¬ n.Marks f.id := by
      intro hmarks
      have hids : m.functions.map FunctionDecl.id = fs.map FunctionDecl.id := by
        rw [hm, map_changeFirsts FunctionDecl.id_asKernel]
      have hdef : m.defines f.id = true := by
        rw [defines_iff, hids]
        exact List.mem_map_of_mem hf
      simpa [h] using map_id_markedFunction?_eq_some_iff.2 ⟨hmarks, hdef⟩
    rw [decide_eq_false hnone, Bool.or_false]
  | some f =>
    obtain ⟨hmarks, hf⟩ := markedFunction?_eq_some_iff.1 h
    rw [function?, hm] at hf
    obtain ⟨g, hg, hdescribe⟩ := exists_find?_of_find?_changeFirsts hf
    have hid : f.id = g.id := congrArg KernelArgs.function hdescribe
    rw [hid] at hg hmarks
    simp only [functions_replay_edits, hdescribe, hm]
    refine (modifyFirst_changeFirsts hg).trans (changeFirsts_congr fun g' _ ↦ ?_)
    have hiff : n.Marks g'.id ↔ g'.id = g.id := by
      refine ⟨fun h' ↦ ?_, fun h' ↦ h' ▸ hmarks⟩
      simpa [hmarks.2.2, eq_comm] using h'.2.2
    simp only [hiff]

/-- **All nodes.** Going through nodes one by one makes kernels of the functions that they mark, each
of them once and for all. -/
theorem functions_foldl_follow {p : FunctionId → Bool}
    (hm : m.functions = changeFirsts p .asKernel fs) (ns : List Node) :
    (ns.foldl follow m).functions =
      changeFirsts (fun id ↦ p id || ns.any fun n ↦ n.Marks id) .asKernel fs := by
  -- the identities marked so far are collected in `p`
  induction ns generalizing m p with
  | nil => exact hm.trans (changeFirsts_congr fun f _ ↦ by simp)
  | cons n ns ih =>
    rw [List.foldl_cons, ih (functions_follow hm n)]
    exact changeFirsts_congr fun f _ ↦ by simp [Bool.or_assoc]

/-! ## Plans -/

variable {t : Target}

theorem exists_planOf (harch : t.arch.isNvptx = true)
    (hlist : (m.list? Vocabulary.nvptxAnnotations).isSome = true) :
    ∃ plan, Plan.of m t = .ok plan ∧
      plan.value.kernels = m.annotatedKernels.value.map KernelArgs.describe := by
  obtain ⟨ns, hns⟩ := Option.isSome_iff_exists.1 hlist
  rw [Plan.of, Plan.kernelsOf, if_pos harch, hns]
  exact ⟨_, rfl, rfl⟩

/-- **A plan is followed like the annotations node by node.** -/
theorem functions_carryOut_eq_foldl_follow {plan : Plan}
    (hkernels : plan.kernels = m.annotatedKernels.value.map KernelArgs.describe)
    (options : Options) :
    (plan.carryOut options m).value.functions =
      ((m.nodes Vocabulary.nvptxAnnotations).foldl follow m).functions := by
  have hnone : m.functions = changeFirsts (fun _ ↦ false) .asKernel m.functions :=
    (changeFirsts_false _ _).symm
  obtain ⟨m', hm', hcarry⟩ := exists_value_planCarryOut options m plan
  rw [hcarry, hkernels, functions_foldl_follow hnone,
    functions_markKernels (fun g hg ↦ function?_of_mem_annotatedKernels hg) (hm'.trans hnone)]
  refine changeFirsts_congr fun f hf ↦ ?_
  have hdef : m.defines f.id = true := function?_isSome_iff.2 ⟨f, hf, rfl⟩
  have hmem : f.id ∈ m.annotatedKernels.value.map FunctionDecl.id ↔
      ∃ n ∈ m.nodes Vocabulary.nvptxAnnotations, n.Marks f.id := by
    rw [mem_map_id_annotatedKernels]
    exact and_iff_left hdef
  rw [Bool.false_or, Bool.false_or, Bool.eq_iff_iff, List.any_eq_true, List.any_eq_true]
  simpa only [decide_eq_true_iff, List.mem_map, eq_comm (a := f.id)] using hmem

/-- **A plan lists every annotated kernel once, in the order of first mention.** For a target that
has NVPTX annotations and a module in which they are there, planning succeeds. No two planned
kernels refer to the same identity, and each is described from the first function with its identity.
The identities that are planned are those that resolve and that some node marks; one stands before
another exactly if the first node that marks it does. And carrying out the plan on its module leaves
the functions that come of following the nodes one by one, describing and marking a function again
each time that it is met. -/
theorem planned_by_first_mention (m : DeviceModule) (t : Target) (harch : t.arch.isNvptx = true)
    (hlist : (m.list? Vocabulary.nvptxAnnotations).isSome = true) :
    ∃ plan, Plan.of m t = .ok plan ∧
      (plan.value.kernels.map KernelArgs.function).Nodup ∧
      (∀ k ∈ plan.value.kernels,
        ∃ f, m.function? k.function = some f ∧ k = KernelArgs.describe f) ∧
      (∀ id, id ∈ plan.value.kernels.map KernelArgs.function ↔ m.defines id = true ∧
        ∃ n ∈ m.nodes Vocabulary.nvptxAnnotations, n.Marks id) ∧
      (∀ u ∈ plan.value.kernels.map KernelArgs.function,
        ∀ v ∈ plan.value.kernels.map KernelArgs.function,
        (plan.value.kernels.map KernelArgs.function).idxOf u <
            (plan.value.kernels.map KernelArgs.function).idxOf v ↔
          ((m.nodes Vocabulary.nvptxAnnotations).findIdx fun n ↦ n.Marks u) <
            (m.nodes Vocabulary.nvptxAnnotations).findIdx fun n ↦ n.Marks v) ∧
      ∀ options, (plan.value.carryOut options m).value.functions =
        ((m.nodes Vocabulary.nvptxAnnotations).foldl follow m).functions := by
  obtain ⟨plan, hplan, hkernels⟩ := exists_planOf harch hlist
  have hids : plan.value.kernels.map KernelArgs.function =
      m.annotatedKernels.value.map FunctionDecl.id := by
    rw [hkernels, List.map_map]
    rfl
  refine ⟨plan, hplan, ?_, fun k hk ↦ ?_, fun id ↦ ?_, fun u hu v hv ↦ ?_,
    functions_carryOut_eq_foldl_follow hkernels⟩
  · rw [hids]
    exact nodup_map_id_distinctFunctions [] _
  · rw [hkernels] at hk
    obtain ⟨f, hf, rfl⟩ := List.mem_map.1 hk
    exact ⟨f, function?_of_mem_annotatedKernels hf, rfl⟩
  · rw [hids, mem_map_id_annotatedKernels, and_comm]
  · rw [hids, mem_map_id_annotatedKernels] at hu hv
    rw [hids, idxOf_annotatedKernels_lt_iff hu.2 hv.2]

/-- A module whose annotations mark two functions several times, one of which shares its identity
with a third, among marks that resolve to nothing and nodes that mark nothing. -/
def repetitive : DeviceModule where
  triple := none
  functions := [
    ⟨⟨1⟩, "scale", [⟨"x", .pointer ⟨1, some (.float .single)⟩⟩], .ptxKernel, .empty, .empty⟩,
    ⟨⟨2⟩, "blur", [⟨"n", .int .i32⟩], .ptxDevice, .empty, .empty⟩,
    ⟨⟨1⟩, "shadow", [], .c, .empty, .empty⟩]
  lists := NameMap.empty.insert Vocabulary.nvptxAnnotations [
    ⟨[.function ⟨1⟩, .string "maxntidx", .word 1]⟩, ⟨[.function ⟨1⟩, .string "kernel"]⟩,
    ⟨[.function ⟨9⟩, .string "kernel", .word 1]⟩, ⟨[.string "scale", .string "kernel", .word 1]⟩,
    ⟨[.function ⟨2⟩, .string "kernel", .word 0]⟩, ⟨[.function ⟨1⟩, .string "kernel", .word 1]⟩,
    ⟨[.function ⟨2⟩, .string "kernel", .word 1]⟩]

/-- The second function is planned first, since it is the first that a node marks. -/
theorem planned_by_first_mention_repetitive :
    Arch.nvptx64.isNvptx = true ∧
      (repetitive.list? Vocabulary.nvptxAnnotations).isSome = true ∧
      ∃ plan, Plan.of repetitive ⟨.nvptx64, "nvptx64"⟩ = .ok plan ∧
        (plan.value.kernels.map KernelArgs.function).idxOf ⟨2⟩ <
          (plan.value.kernels.map KernelArgs.function).idxOf ⟨1⟩ ∧
        (plan.value.carryOut .default repetitive).value.functions =
          ((repetitive.nodes Vocabulary.nvptxAnnotations).foldl follow repetitive).functions ∧
        (plan.value.carryOut .default repetitive).value.functions.map FunctionDecl.isKernel =
          [true, true, false] := by
  have hlist : (repetitive.list? Vocabulary.nvptxAnnotations).isSome = true := by decide +kernel
  obtain ⟨plan, hplan, -, -, hmem, horder, hfunctions⟩ :=
    planned_by_first_mention repetitive ⟨.nvptx64, "nvptx64"⟩ rfl hlist
  have hfirst : ⟨2⟩ ∈ plan.value.kernels.map KernelArgs.function := (hmem _).2 (by decide +kernel)
  have hsecond : ⟨1⟩ ∈ plan.value.kernels.map KernelArgs.function := (hmem _).2 (by decide +kernel)
  refine ⟨rfl, hlist, plan, hplan, (horder _ hfirst _ hsecond).2 (by decide +kernel),
    hfunctions .default, ?_⟩
  rw [hfunctions]
  decide +kernel

end DeviceModule

end KernelMetadata
