import KernelMetadata.Transcription
import Mathlib.Data.List.TakeWhile
import Mathlib.Tactic.SplitIfs

/-!
# Which modules are refused

Three things can keep a module from being transcribed, and they are looked at in a fixed order: the
target triple is missing, its architecture is not supported, or the target is an NVPTX one and the
annotations that mark its kernels are missing. `DeviceModule.Refused` says so of the module alone,
with the architecture described by the triple as a whole and not by the way it is cut out of it
(`Target.HasArchName`).

A run fails exactly for these reasons (`DeviceModule.outcome_eq_error_iff`), so none of the many
steps after the preconditions can fail, and what is refused has been neither changed nor told of.
Which triple there is and whether there is a list of annotations decides everything: neither the
options nor the functions nor the nodes of any list have a part in it
(`DeviceModule.refused_congr`).
-/

namespace KernelMetadata

/-! ## The architecture part of a triple -/

/-- The name of an architecture. -/
def Arch.name : Arch → String
  | spir => "spir"
  | spir64 => "spir64"
  | nvptx => "nvptx"
  | nvptx64 => "nvptx64"

theorem Arch.ofName?_eq_some_iff {name : String} {a : Arch} :
    Arch.ofName? name = some a ↔ a.name = name := by
  constructor
  · intro h
    rw [Arch.ofName?] at h
    split_ifs at h <;> cases h <;> simp_all [Arch.name]
  · rintro rfl
    cases a <;> decide

theorem Arch.ofName?_eq_none_iff {name : String} :
    Arch.ofName? name = none ↔ ∀ a : Arch, a.name ≠ name := by
  simp only [Option.eq_none_iff_forall_ne_some, ne_eq, Arch.ofName?_eq_some_iff]

theorem Arch.name_ne_empty (a : Arch) : a.name ≠ "" := by
  cases a <;> decide

namespace Target

/-- Whether a name is the part of a triple before its first hyphen, or all of a triple without
one. -/
def HasArchName (triple name : String) : Prop :=
  '-' ∉ name.toList ∧ (triple = name ∨ ∃ rest, triple = name ++ "-" ++ rest)

theorem archName_eq_iff {triple name : String} :
    archName triple = name ↔ HasArchName triple name := by
  have hhyphen : "-".toList = ['-'] := rfl
  constructor
  · rintro rfl
    refine ⟨fun hmem ↦ ?_, ?_⟩
    · rw [archName, String.toList_ofList] at hmem
      simpa using List.mem_takeWhile_imp hmem
    · have hsplit := List.takeWhile_append_dropWhile (p := (· ≠ '-')) (l := triple.toList)
      cases hrest : triple.toList.dropWhile (· ≠ '-') with
      | nil =>
        rw [hrest, List.append_nil] at hsplit
        exact .inl (by rw [archName, hsplit, String.ofList_toList])
      | cons c cs =>
        have hc := List.head?_dropWhile_not (· ≠ '-') triple.toList
        rw [hrest] at hc hsplit
        obtain rfl : c = '-' := by simpa using hc
        refine .inr ⟨String.ofList cs, String.toList_injective ?_⟩
        rw [String.toList_append, String.toList_append, archName, hhyphen, String.toList_ofList,
          String.toList_ofList, List.append_assoc, List.singleton_append, hsplit]
  · rintro ⟨hname, h⟩
    have hall : ∀ c ∈ name.toList, decide (c ≠ '-') = true := by
      intro c hc
      exact decide_eq_true fun heq ↦ hname (heq ▸ hc)
    rcases h with rfl | ⟨rest, rfl⟩
    · rw [archName, List.takeWhile_eq_self_iff.2 hall, String.ofList_toList]
    · rw [archName, String.toList_append, String.toList_append, hhyphen, List.append_assoc,
        List.takeWhile_append_of_pos hall, List.singleton_append,
        List.takeWhile_cons_of_neg (by simp), List.append_nil, String.ofList_toList]

instance (triple name : String) : Decidable (HasArchName triple name) :=
  decidable_of_iff _ archName_eq_iff

/-- A triple is recognised by the name of its architecture. -/
theorem parse_eq_ok_iff {triple : String} {t : Target} :
    parse triple = .ok t ↔ triple = t.triple ∧ HasArchName triple t.arch.name := by
  rw [← archName_eq_iff, eq_comm (a := archName triple), ← Arch.ofName?_eq_some_iff, parse]
  cases Arch.ofName? (archName triple) with
  | none => simp
  | some a =>
    obtain ⟨arch, name⟩ := t
    simp [and_comm]

theorem parse_eq_error_iff {triple : String} {e : TranscriptionError} :
    parse triple = .error e ↔
      (∀ a : Arch, ¬ HasArchName triple a.name) ∧ e = .unsupportedTriple triple := by
  simp only [← archName_eq_iff, eq_comm (a := archName triple)]
  rw [← Arch.ofName?_eq_none_iff, parse]
  cases Arch.ofName? (archName triple) with
  | none => simp [eq_comm]
  | some a => simp

theorem ofTriple_eq_ok_iff {triple : Option String} {t : Target} :
    ofTriple triple = .ok t ↔ triple = some t.triple ∧ HasArchName t.triple t.arch.name := by
  cases triple with
  | none => simp [ofTriple]
  | some s =>
    rw [ofTriple, Option.some_inj]
    split_ifs with hs
    · subst hs
      -- an empty triple would be the name of its architecture
      have hempty : "" = t.triple → ¬ HasArchName t.triple t.arch.name := by
        intro ht hname
        exact t.arch.name_ne_empty (archName_eq_iff.2 (ht ▸ hname)).symm
      simpa using hempty
    · rw [parse_eq_ok_iff]
      exact and_congr_right fun ht ↦ by rw [ht]

theorem ofTriple_eq_error_iff {triple : Option String} {e : TranscriptionError} :
    ofTriple triple = .error e ↔
      (triple = none ∨ triple = some "") ∧ e = .missingTriple ∨
        ∃ s, triple = some s ∧ s ≠ "" ∧ (∀ a : Arch, ¬ HasArchName s a.name) ∧
          e = .unsupportedTriple s := by
  cases triple with
  | none => simp [ofTriple, eq_comm]
  | some s =>
    rw [ofTriple]
    split_ifs with hs
    · simp [hs, eq_comm]
    · simp [hs, parse_eq_error_iff]

end Target

namespace DeviceModule

/-! ## Refusals -/

/-- The reasons to refuse a module. A triple that is missing is not an unsupported one, and the
annotations are asked for by supported triples only. -/
inductive Refused (m : DeviceModule) : TranscriptionError → Prop where
  | missingTriple (h : m.triple = none ∨ m.triple = some "") : m.Refused .missingTriple
  | unsupportedTriple {triple : String} (h : m.triple = some triple) (hne : triple ≠ "")
      (hname : ∀ a : Arch, ¬ Target.HasArchName triple a.name) :
      m.Refused (.unsupportedTriple triple)
  | missingKernelAnnotations {triple : String} (h : m.triple = some triple)
      (hname : ∃ a : Arch, a.isNvptx = true ∧ Target.HasArchName triple a.name)
      (hlist : m.list? Vocabulary.nvptxAnnotations = none) :
      m.Refused (.missingKernelAnnotations triple)

variable {options : Options} {m n : DeviceModule} {e : TranscriptionError}

/-- Refusals depend on the triple and on whether there are annotations, and on nothing else. -/
theorem refused_congr (htriple : m.triple = n.triple)
    (hlist : (m.list? Vocabulary.nvptxAnnotations).isSome =
      (n.list? Vocabulary.nvptxAnnotations).isSome) : m.Refused e ↔ n.Refused e := by
  have himp : ∀ {m n : DeviceModule}, m.triple = n.triple →
      (m.list? Vocabulary.nvptxAnnotations).isSome =
        (n.list? Vocabulary.nvptxAnnotations).isSome → m.Refused e → n.Refused e := by
    intro m n htriple hlist h
    cases h with
    | missingTriple h => exact .missingTriple (htriple ▸ h)
    | unsupportedTriple h hne hname => exact .unsupportedTriple (htriple ▸ h) hne hname
    | missingKernelAnnotations h hname hnone =>
      refine .missingKernelAnnotations (htriple ▸ h) hname ?_
      rwa [← Option.not_isSome_iff_eq_none, ← hlist, Option.not_isSome_iff_eq_none]
  exact ⟨himp htriple hlist, himp htriple.symm hlist.symm⟩

theorem of_eq_error_iff {t : Target} :
    Plan.of m t = .error e ↔
      t.arch.isNvptx = true ∧ m.list? Vocabulary.nvptxAnnotations = none ∧
        e = .missingKernelAnnotations t.triple := by
  rw [Plan.of, Plan.kernelsOf]
  split_ifs with harch
  · cases m.list? Vocabulary.nvptxAnnotations <;> simp [harch, Except.map, eq_comm]
  · simp [harch, Except.map]

/-- Preparations fail over the triple or, after it has been recognised, over the annotations. -/
theorem prepare_eq_error_iff : m.prepare = .error e ↔
    Target.ofTriple m.triple = .error e ∨
      ∃ t, Target.ofTriple m.triple = .ok t ∧ Plan.of m t = .error e := by
  rw [prepare]
  cases Target.ofTriple m.triple with
  | error e' => simp
  | ok t => cases hplan : Plan.of m t <;> simp [hplan, Except.map]

theorem refused_iff : m.Refused e ↔ m.prepare = .error e := by
  rw [prepare_eq_error_iff, Target.ofTriple_eq_error_iff]
  simp only [Target.ofTriple_eq_ok_iff, of_eq_error_iff]
  constructor
  · intro h
    cases h with
    | missingTriple h => exact .inl (.inl ⟨h, rfl⟩)
    | unsupportedTriple h hne hname => exact .inl (.inr ⟨_, h, hne, hname, rfl⟩)
    | missingKernelAnnotations h hname hlist =>
      obtain ⟨arch, harch, hname⟩ := hname
      exact .inr ⟨⟨arch, _⟩, ⟨h, hname⟩, harch, hlist, rfl⟩
  · rintro ((⟨h, rfl⟩ | ⟨triple, h, hne, hname, rfl⟩) | ⟨t, ⟨h, hname⟩, harch, hlist, rfl⟩)
    · exact .missingTriple h
    · exact .unsupportedTriple h hne hname
    · exact .missingKernelAnnotations h ⟨t.arch, harch, hname⟩ hlist

/-- **A run fails exactly for the reasons to refuse a module.** -/
theorem outcome_eq_error_iff : (m.transcribe options).outcome = .error e ↔ m.Refused e := by
  rw [refused_iff, transcribe]
  cases m.prepare with
  | error e' => simp
  | ok p => simp

theorem outcome_eq_error_congr (htriple : m.triple = n.triple)
    (hlist : (m.list? Vocabulary.nvptxAnnotations).isSome =
      (n.list? Vocabulary.nvptxAnnotations).isSome) :
    (m.transcribe options).outcome = .error e ↔ (n.transcribe options).outcome = .error e := by
  rw [outcome_eq_error_iff, outcome_eq_error_iff, refused_congr htriple hlist]

/-- **Refusals.** A run fails exactly for the reasons to refuse its module and succeeds if there is
none. Failing leaves the module as it was and tells nothing. What comes out, a success or which
failure, depends on the triple and on whether the list of NVPTX annotations exists, whatever the
options, the functions and the nodes of the lists are; and the message for a missing list names the
list and the whole triple. -/
theorem refusals_exact (options : Options) (m : DeviceModule) :
    (∀ e, (m.transcribe options).outcome = .error e ↔ m.Refused e) ∧
      ((∃ report, (m.transcribe options).outcome = .ok report) ↔ ∀ e, ¬ m.Refused e) ∧
      (∀ e, (m.transcribe options).outcome = .error e →
        (m.transcribe options).result = m ∧ (m.transcribe options).events = []) ∧
      (∀ (options' : Options) (n : DeviceModule), n.triple = m.triple →
        (n.list? Vocabulary.nvptxAnnotations).isSome =
          (m.list? Vocabulary.nvptxAnnotations).isSome →
        ∀ e, (n.transcribe options').outcome = .error e ↔
          (m.transcribe options).outcome = .error e) ∧
      ∀ triple, (TranscriptionError.missingKernelAnnotations triple).message =
        "Named metadata `!nvvm.annotations` is required for target `" ++ triple ++
          "`; kernel entry points cannot be inferred without it." := by
  refine ⟨fun e ↦ outcome_eq_error_iff, ?_, fun e h ↦ ?_, fun options' n htriple hlist e ↦ ?_,
    fun triple ↦ rfl⟩
  · simp only [← @outcome_eq_error_iff options]
    cases (m.transcribe options).outcome <;> simp
  · rw [transcribe_eq_of_error h]
    exact ⟨rfl, rfl⟩
  · rw [outcome_eq_error_iff, outcome_eq_error_iff, refused_congr htriple hlist]

/-- A module for an NVPTX target with a kernel by convention, and without annotations. -/
def bare : DeviceModule where
  triple := some "nvptx64-nvidia-cuda"
  functions := [⟨⟨1⟩, "scale", [], .spirKernel, .empty,
    NameMap.ofList [("reqd_work_group_size", .ofWords [8, 4, 1])]⟩]
  lists := NameMap.ofList [(Vocabulary.nvptxVersion, [.ofWords [2, 0]])]

/-- An empty list of annotations is enough, and an architecture is recognised by all of its name. -/
theorem refusals_exact_bare :
    (bare.transcribe .default).outcome =
        .error (.missingKernelAnnotations "nvptx64-nvidia-cuda") ∧
      (bare.transcribe .default).result = bare ∧ (bare.transcribe .default).events = [] ∧
      (∃ report, ({ bare with
        lists := bare.lists.insert Vocabulary.nvptxAnnotations [] }.transcribe .default).outcome =
          .ok report) ∧
      ({ bare with triple := some "nvptx64 -nvidia-cuda" }.transcribe .default).outcome =
        .error (.unsupportedTriple "nvptx64 -nvidia-cuda") ∧
      ({ bare with triple := some "" }.transcribe .default).outcome = .error .missingTriple := by
  obtain ⟨hrefused, -, huntouched, -, -⟩ := refusals_exact .default bare
  have h : (bare.transcribe .default).outcome =
      .error (.missingKernelAnnotations "nvptx64-nvidia-cuda") :=
    (hrefused _).2 (.missingKernelAnnotations rfl ⟨.nvptx64, rfl, by decide⟩ rfl)
  refine ⟨h, (huntouched _ h).1, (huntouched _ h).2, ?_, ?_, ?_⟩
  · refine (refusals_exact .default _).2.1.2 fun e he ↦ ?_
    cases he with
    | missingTriple h => simp [bare] at h
    | unsupportedTriple h hne hname =>
      cases h
      exact hname .nvptx64 (by decide)
    | missingKernelAnnotations h hname hlist =>
      rw [list?, NameMap.get?_insert_self] at hlist
      cases hlist
  · refine ((refusals_exact .default _).1 _).2 (.unsupportedTriple rfl (by decide) fun a ↦ ?_)
    cases a <;> decide
  · exact ((refusals_exact .default _).1 _).2 (.missingTriple (.inr rfl))

end DeviceModule

end KernelMetadata
