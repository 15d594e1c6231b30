import KernelMetadata.Proofs.Refusal
import KernelMetadata.Proofs.Wellformedness

/-!
# Erasing is only erasing

Three lists are erased by a run if it is asked to, and one of them is the list of used extensions,
which the run also reads. It reads that list before it erases it, and reads none of the three
afterwards. So to erase them in the middle of a run is to remove them at its end
(`DeviceModule.result_eq_withoutLegacy`), and the choice has no part in anything else that is
written or reported (`DeviceModule.erasure_only_erases`).

Only a fault can go with the lists, since they may hold references that do not resolve. Names of
functions stand in no list, so that repeated names are reported all the same.
-/

namespace KernelMetadata.DeviceModule

variable {m : DeviceModule} {t : Target}

/-- Modules are the same if their lists are, name by name. -/
theorem eq_of_list?_eq {n : DeviceModule} (htriple : m.triple = n.triple)
    (hfunctions : m.functions = n.functions) (hlists : ∀ name, m.list? name = n.list? name) :
    m = n := by
  obtain ⟨triple, functions, lists⟩ := m
  obtain ⟨triple', functions', lists'⟩ := n
  obtain rfl : triple = triple' := htriple
  obtain rfl : functions = functions' := hfunctions
  obtain rfl : lists = lists' := NameMap.ext hlists
  rfl

/-! ## Modules without the legacy lists -/

/-- A module with the legacy lists removed. -/
def withoutLegacy (m : DeviceModule) : DeviceModule := legacyNames.foldl eraseList m

theorem triple_withoutLegacy (m : DeviceModule) : m.withoutLegacy.triple = m.triple := rfl

theorem functions_withoutLegacy (m : DeviceModule) : m.withoutLegacy.functions = m.functions := rfl

theorem list?_withoutLegacy (m : DeviceModule) (name : String) :
    m.withoutLegacy.list? name = if name ∈ legacyNames then none else m.list? name :=
  NameMap.get?_foldl_erase m.lists legacyNames name

/-- Removing lists brings no fault. -/
theorem violation?_withoutLegacy_eq_none (h : m.violation? = none) :
    m.withoutLegacy.violation? = none := by
  obtain ⟨hnames, hlists, hfunctions⟩ := violation?_eq_none_iff.1 h
  refine violation?_eq_none_iff.2 ⟨hnames, ?_, hfunctions⟩
  intro name x hx
  rw [nodes, list?_withoutLegacy] at hx
  split_ifs at hx
  · exact absurd hx List.not_mem_nil
  · exact hlists name x hx

/-- Whether a repeated name is reported depends on the names of the functions only. -/
theorem violation?_eq_duplicateName_iff {name : String} :
    m.violation? = some (.duplicateName name) ↔
      firstRepeat? [] (m.functions.map FunctionDecl.name) = some name := by
  have hdangling : m.sites.findSome? (fun s ↦ (m.dangling? s.2).map
      (Violation.danglingReference s.1)) ≠ some (.duplicateName name) := by
    intro h
    obtain ⟨s, -, hs⟩ := List.exists_of_findSome?_eq_some h
    obtain ⟨id, -, hid⟩ := Option.map_eq_some_iff.1 hs
    cases hid
  rw [violation?]
  cases hrepeat : firstRepeat? [] (m.functions.map FunctionDecl.name) with
  | none => simpa using hdangling
  | some name' => simp

/-! ## Runs with and without erasing -/

theorem mem_erasedNames_true_iff {name : String} :
    name ∈ erasedNames ⟨true⟩ ↔ name ∈ legacyNames ∨ name ∈ erasedNames ⟨false⟩ := by
  simp [mem_erasedNames_iff, or_comm]

/-- To erase the legacy lists in the middle of a run is to remove them at its end. -/
theorem result_eq_withoutLegacy (h : m.IsFor t) :
    (m.transcribe ⟨true⟩).result = (m.transcribe ⟨false⟩).result.withoutLegacy := by
  refine eq_of_list?_eq ?triple ?functions fun name ↦ ?lists
  case triple => rw [triple_withoutLegacy, triple_result ⟨true⟩ h, triple_result ⟨false⟩ h]
  case functions =>
    rw [functions_withoutLegacy, functions_result ⟨true⟩ h, functions_result ⟨false⟩ h]
  case lists =>
    -- what is written to a list does not depend on whether the legacy lists are erased
    rw [list?_withoutLegacy, list?_result ⟨true⟩ h, list?_result ⟨false⟩ h]
    by_cases hlegacy : name ∈ legacyNames
    · rw [if_pos (mem_erasedNames_true_iff.2 (.inl hlegacy)), if_pos hlegacy]
    · rw [if_neg hlegacy]
      exact if_congr (mem_erasedNames_true_iff.trans (or_iff_right hlegacy)) rfl rfl

/-- **Erasing is only erasing.** With and without erasing, a run fails for the same reason, or both
runs succeed. If they succeed, the module that the one leaves behind is that of the other with the
three legacy lists removed, and both report the same kernels, the same number of execution modes and
the same skipped rules. Where the run that keeps the lists finds no fault, neither does the run that
erases them, and repeated names are reported by both or by neither. -/
theorem erasure_only_erases (m : DeviceModule) :
    (∃ e, (m.transcribe ⟨true⟩).outcome = .error e ∧ (m.transcribe ⟨false⟩).outcome = .error e) ∨
      ∃ erased kept, (m.transcribe ⟨true⟩).outcome = .ok erased ∧
        (m.transcribe ⟨false⟩).outcome = .ok kept ∧
        (m.transcribe ⟨true⟩).result = (m.transcribe ⟨false⟩).result.withoutLegacy ∧
        erased.kernels = kept.kernels ∧
        erased.recordsEmitted = kept.recordsEmitted ∧
        erased.skipped = kept.skipped ∧
        (kept.violation = none → erased.violation = none) ∧
        ∀ name, erased.violation = some (.duplicateName name) ↔
          kept.violation = some (.duplicateName name) := by
  cases hkept : (m.transcribe ⟨false⟩).outcome with
  | error e =>
    have herased : (m.transcribe ⟨true⟩).outcome = .error e :=
      outcome_eq_error_iff.2 (outcome_eq_error_iff.1 hkept)
    exact .inl ⟨e, herased, rfl⟩
  | ok kept =>
    obtain ⟨t, ht⟩ := exists_isFor_of_outcome hkept
    have hresult := result_eq_withoutLegacy ht
    refine .inr ⟨_, kept, outcome_of_isFor ⟨true⟩ ht, rfl, hresult, ?_⟩
    rw [report_eq hkept, hresult]
    refine ⟨rfl, rfl, rfl, violation?_withoutLegacy_eq_none, ?_⟩
    intro name
    rw [violation?_eq_duplicateName_iff, violation?_eq_duplicateName_iff, functions_withoutLegacy]

/-- A module with an extension to declare, and with a reference to nothing in a legacy list. -/
def contracting : DeviceModule where
  triple := some "spir64-unknown-unknown"
  functions := [⟨⟨1⟩, "scale", [], .spirKernel, NameMap.ofList [("VCSLMSize", "0x400")], .empty⟩]
  lists := NameMap.ofList [
    (Vocabulary.usedExtensions, [.ofStrings ["cl_khr_fp64"]]),
    (Vocabulary.contractionMark, [⟨[.function ⟨9⟩]⟩])]

/-- The extension is declared by both runs, and the fault goes with the list. -/
theorem erasure_only_erases_contracting :
    ∃ erased kept, (contracting.transcribe ⟨true⟩).outcome = .ok erased ∧
      (contracting.transcribe ⟨false⟩).outcome = .ok kept ∧
      (contracting.transcribe ⟨true⟩).result.list? "spirv.SourceExtension" =
        some [.ofStrings ["cl_khr_fp64"]] ∧
      (contracting.transcribe ⟨false⟩).result.list? "opencl.enable.FP_CONTRACT" =
        some [⟨[.function ⟨9⟩]⟩] ∧
      (contracting.transcribe ⟨true⟩).result.list? "opencl.enable.FP_CONTRACT" = none ∧
      kept.violation =
        some (.danglingReference (.list "opencl.enable.FP_CONTRACT" 0) ⟨9⟩) ∧
      erased.violation = none ∧ erased.recordsEmitted = 1 := by
  have hkept : (contracting.transcribe ⟨false⟩).outcome = .ok ⟨[⟨1⟩], 1, [],
      some (.danglingReference (.list "opencl.enable.FP_CONTRACT" 0) ⟨9⟩)⟩ := by decide +kernel
  rcases erasure_only_erases contracting with ⟨e, -, hfailed⟩ |
    ⟨erased, kept, herased, hkept', hresult, -, hemitted, -, -, -⟩
  · rw [hkept] at hfailed
    cases hfailed
  · obtain rfl := Except.ok.inj (hkept'.symm.trans hkept)
    refine ⟨erased, _, herased, hkept, ?_, by decide +kernel, ?_, rfl, ?_, hemitted⟩
    · rw [hresult]
      decide +kernel
    · rw [hresult, list?_withoutLegacy]
      decide +kernel
    · rw [report_eq herased]
      decide +kernel

end KernelMetadata.DeviceModule
