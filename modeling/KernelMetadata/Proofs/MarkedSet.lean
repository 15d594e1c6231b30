import KernelMetadata.Proofs.Run

/-!
# Marks count as a set

The NVPTX annotations are a list, and planning reads it in its order: it collects kernels as they
are first mentioned, and they are marked one after another in that order. None of this is seen in
what a run leaves behind. Two modules that differ only in their annotations, and in which the same
identities are marked and resolve, have the same functions, the same other lists and the same
kernels, execution modes and skipped rules (`DeviceModule.marked_set_decides`). So annotations may
be permuted and repeated, and those that mark nothing or resolve to nothing may be added or left
out.

Only the fault that is reported may differ: the annotations are verified along with the rest of the
module.
-/

namespace KernelMetadata.DeviceModule

variable {m n : DeviceModule} {name : String}

/-- Whether two modules have a named list and differ in its nodes at most. -/
structure SameButNodes (name : String) (m n : DeviceModule) : Prop where
  triple : m.triple = n.triple
  functions : m.functions = n.functions
  left : (m.list? name).isSome = true
  right : (n.list? name).isSome = true
  lists : ∀ other ≠ name, m.list? other = n.list? other

/-- Whether a module marks an identity and a function has it. -/
def MarksFunction (m : DeviceModule) (id : FunctionId) : Prop :=
  m.Marks id ∧ m.defines id = true

/-- The same functions are marked if the identities of functions are marked alike. -/
theorem marksFunction_congr_iff (hfunctions : m.functions = n.functions) :
    (∀ id, m.MarksFunction id ↔ n.MarksFunction id) ↔
      ∀ f ∈ m.functions, m.Marks f.id ↔ n.Marks f.id := by
  have hdefines : ∀ id, m.defines id = n.defines id := by
    intro id
    rw [defines, defines, function?, function?, hfunctions]
  constructor
  · intro h f hf
    have hm : m.defines f.id = true := function?_isSome_iff.2 ⟨f, hf, rfl⟩
    simpa [MarksFunction, ← hdefines, hm] using h f.id
  · intro h id
    rw [MarksFunction, MarksFunction, ← hdefines]
    refine and_congr_left fun hm ↦ ?_
    obtain ⟨f, hf, rfl⟩ := function?_isSome_iff.1 hm
    exact h f hf

theorem SameButNodes.markedAt_iff (h : SameButNodes name m n)
    (hmarks : ∀ id, m.MarksFunction id ↔ n.MarksFunction id) (i : Nat) :
    m.MarkedAt i ↔ n.MarkedAt i := by
  refine markedAt_congr (by rw [h.functions]) (fun id hid ↦ ?_) i
  obtain ⟨f, hf, rfl⟩ := List.mem_map.1 hid
  exact (marksFunction_congr_iff h.functions).1 hmarks f hf

/-- **Marks count as a set.** Where two modules for an NVPTX target differ in their annotations
only, and the same identities are marked and resolve, both runs succeed, with the same functions and
the same other lists, and report the same kernels, number of execution modes and skipped rules. -/
theorem marked_set_decides (options : Options) (hnvptx : m.isNvptx = true)
    (h : SameButNodes Vocabulary.nvptxAnnotations m n)
    (hmarks : ∀ id, m.MarksFunction id ↔ n.MarksFunction id) :
    ∃ reportM reportN, (m.transcribe options).outcome = .ok reportM ∧
      (n.transcribe options).outcome = .ok reportN ∧
      (m.transcribe options).result.functions = (n.transcribe options).result.functions ∧
      (∀ name ≠ Vocabulary.nvptxAnnotations,
        (m.transcribe options).result.list? name = (n.transcribe options).result.list? name) ∧
      reportM.kernels = reportN.kernels ∧ reportM.recordsEmitted = reportN.recordsEmitted ∧
      reportM.skipped = reportN.skipped := by
  obtain ⟨t, hm⟩ := exists_isFor_of_isNvptx hnvptx h.left
  have hn : n.IsFor t := hm.congr h.triple.symm (h.right.trans h.left.symm)
  have hmarked : ∀ i, m.MarkedAt i ↔ n.MarkedAt i := h.markedAt_iff hmarks
  have hentry : m.entryPoints = n.entryPoints := entryPoints_congr h.functions hmarked
  have hmodes : m.modes = n.modes := by rw [modes, modes, hentry]
  have hskips : m.skips = n.skips := by rw [skips, skips, hentry]
  refine ⟨_, _, outcome_of_isFor options hm, outcome_of_isFor options hn, ?_, fun name hname ↦ ?_,
    by rw [hentry], by rw [hmodes], hskips⟩
  · rw [functions_result options hm, functions_result options hn]
    exact changeMarked_congr h.functions hmarked _
  · have hlist : m.list? name = n.list? name := h.lists name hname
    have hwritten : m.written t name = n.written t name :=
      written_congr (fun _ ↦ hmodes) (h.lists _ (by decide))
    rw [list?_result options hm, list?_result options hn, hwritten, nodes, nodes, hlist]

/-- Two functions that annotations may mark, and one that shares the identity of the first. -/
def markedBy (annotations : List Node) : DeviceModule where
  triple := some "nvptx64"
  functions := [
    ⟨⟨1⟩, "scale", [⟨"x", .pointer ⟨1, some (.float .single)⟩⟩], .ptxKernel, .empty,
      NameMap.ofList [("reqd_work_group_size", .ofWords [8, 4, 1])]⟩,
    ⟨⟨2⟩, "blur", [], .ptxKernel, NameMap.ofList [("VCSLMSize", "x")], .empty⟩,
    ⟨⟨1⟩, "shadow", [], .c, .empty, .empty⟩]
  lists := NameMap.empty.insert Vocabulary.nvptxAnnotations annotations

/-- Marks of the first function, of the second, and of the first again. -/
def forwards : DeviceModule := markedBy [⟨[.function ⟨1⟩, .string "kernel", .word 1]⟩,
  ⟨[.function ⟨2⟩, .string "kernel", .word 1]⟩, ⟨[.function ⟨1⟩, .string "kernel", .word 1]⟩]

/-- The same marks in another order, between marks without a function and nodes that mark
nothing. -/
def backwards : DeviceModule := markedBy [⟨[.function ⟨9⟩, .string "kernel", .word 1]⟩,
  ⟨[.function ⟨2⟩, .string "kernel", .word 0]⟩, ⟨[.function ⟨1⟩, .string "kernel"]⟩,
  ⟨[.string "scale", .string "kernel", .word 1]⟩, ⟨[.function ⟨1⟩, .string "kernel", .word 1]⟩]

theorem marked_set_decides_backwards :
    (∀ id, forwards.MarksFunction id ↔ backwards.MarksFunction id) ∧
      forwards.annotatedKernels.value ≠ backwards.annotatedKernels.value ∧
      (forwards.transcribe .default).result.functions =
        (backwards.transcribe .default).result.functions ∧
      (forwards.transcribe .default).result.list? Vocabulary.executionModes =
        (backwards.transcribe .default).result.list? Vocabulary.executionModes := by
  have hsame : SameButNodes Vocabulary.nvptxAnnotations forwards backwards := by
    refine ⟨rfl, rfl, rfl, rfl, fun other hother ↦ ?_⟩
    rw [list?, forwards, markedBy, NameMap.get?_insert_of_ne _ hother.symm, list?, backwards,
      markedBy, NameMap.get?_insert_of_ne _ hother.symm]
  have hmarks : ∀ id, forwards.MarksFunction id ↔ backwards.MarksFunction id :=
    (marksFunction_congr_iff hsame.functions).2 (by decide +kernel)
  obtain ⟨_, _, -, -, hfunctions, hlists, -⟩ :=
    marked_set_decides .default (by decide +kernel) hsame hmarks
  exact ⟨hmarks, by decide +kernel, hfunctions, hlists _ (by decide)⟩

end KernelMetadata.DeviceModule
