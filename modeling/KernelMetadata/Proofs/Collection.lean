import KernelMetadata.Proofs.Marking

/-!
# What the rules yield

What a group of rules yields on a module is the concatenation, kernel by kernel and rule by rule, of
what each rule yields on each kernel (`RuleGroup.value_collect`), and a rule looks at one annotation
and nothing else. The annotations that the rules of the two dialects look at are not those that
marking writes. So it makes no difference to the rules whether they see a kernel before or after it
is marked (`DeviceModule.recordsOf_kernels`, `DeviceModule.skippedOf_kernels`): the kernels of the
marked module may be replaced by the functions of the original one that are kernels or are marked
(`DeviceModule.entryPoints`).
-/

namespace KernelMetadata

/-! ## One rule on one function -/

namespace Rule

/-- The records of a rule on a function: none if the annotation is absent or unreadable. -/
def recordsOn (r : Rule) (f : FunctionDecl) : List KernelMode :=
  match f.annotation? r.key with
  | none => []
  | some a =>
    match r.extract a with
    | .error _ => []
    | .ok ws => (r.emit ws).map (KernelMode.mk f.id)

/-- The report of a rule on a function. There is one if the annotation is present but unreadable. -/
def skippedOn? (r : Rule) (f : FunctionDecl) : Option SkippedRule :=
  match f.annotation? r.key with
  | none => none
  | some a =>
    match r.extract a with
    | .error e => some ⟨f.name, r.name, e⟩
    | .ok _ => none

theorem target_of_mem_recordsOn {r : Rule} {f : FunctionDecl} {k : KernelMode}
    (h : k ∈ r.recordsOn f) : k.target = f.id := by
  rw [recordsOn] at h
  split at h
  · exact absurd h List.not_mem_nil
  · split at h
    · exact absurd h List.not_mem_nil
    · obtain ⟨e, -, rfl⟩ := List.mem_map.1 h
      rfl

end Rule

/-! ## A group on functions -/

namespace RuleGroup

/-- The records of a group on a function, rule by rule. -/
def recordsOn (g : RuleGroup) (f : FunctionDecl) : List KernelMode :=
  g.rules.flatMap fun r ↦ r.recordsOn f

/-- The reports of a group on a function, rule by rule. -/
def skippedOn (g : RuleGroup) (f : FunctionDecl) : List SkippedRule :=
  g.rules.filterMap fun r ↦ r.skippedOn? f

/-- The records of a group on functions, one function after the other. -/
def recordsOf (g : RuleGroup) (fs : List FunctionDecl) : List KernelMode := fs.flatMap g.recordsOn

/-- The reports of a group on functions, one function after the other. -/
def skippedOf (g : RuleGroup) (fs : List FunctionDecl) : List SkippedRule := fs.flatMap g.skippedOn

theorem exists_of_mem_recordsOf {g : RuleGroup} {fs : List FunctionDecl} {k : KernelMode}
    (h : k ∈ g.recordsOf fs) : ∃ f ∈ fs, k.target = f.id := by
  obtain ⟨f, hf, hk⟩ := List.mem_flatMap.1 h
  obtain ⟨r, -, hk⟩ := List.mem_flatMap.1 hk
  exact ⟨f, hf, Rule.target_of_mem_recordsOn hk⟩

private theorem flatMap_records_filterMap (f : FunctionDecl) (rs : List Rule) :
    (rs.filterMap fun r ↦ (r.applyTo f).map fun outcome ↦ (⟨f, r, outcome⟩ : Attempt)).flatMap
      Attempt.records = rs.flatMap fun r ↦ r.recordsOn f := by
  induction rs with
  | nil => rfl
  | cons r rs ih =>
    rw [List.filterMap_cons, List.flatMap_cons, ← ih, Rule.recordsOn, Rule.applyTo]
    cases f.annotation? r.key with
    | none => rfl
    | some a =>
      simp only [Option.map_some, List.flatMap_cons, Attempt.records, Rule.modes]
      cases r.extract a <;> rfl

private theorem filterMap_skipped_filterMap (f : FunctionDecl) (rs : List Rule) :
    (rs.filterMap fun r ↦ (r.applyTo f).map fun outcome ↦ (⟨f, r, outcome⟩ : Attempt)).filterMap
      Attempt.skipped? = rs.filterMap fun r ↦ r.skippedOn? f := by
  rw [List.filterMap_filterMap]
  refine congrArg (fun c ↦ rs.filterMap c) (funext fun r ↦ ?_)
  rw [Rule.skippedOn?, Rule.applyTo]
  cases f.annotation? r.key with
  | none => rfl
  | some a =>
    simp only [Option.map_some, Option.bind_some, Attempt.skipped?, Rule.modes]
    cases r.extract a <;> rfl

/-- **A collection is read off kernels and rules**, in the order of the module and of the table. -/
theorem value_collect (g : RuleGroup) (m : DeviceModule) :
    (g.collect m).value = ⟨g.recordsOf m.kernels, g.skippedOf m.kernels⟩ := by
  rw [collect, attempts, Collection.mk.injEq, List.flatMap_assoc, List.filterMap_flatMap]
  constructor
  · exact List.flatMap_congr fun f _ ↦ flatMap_records_filterMap f g.rules
  · exact List.flatMap_congr fun f _ ↦ filterMap_skipped_filterMap f g.rules

end RuleGroup

/-! ## Rules and marking -/

namespace FunctionDecl

/-- The keys that marking writes. -/
def argumentKeys : List String :=
  [Vocabulary.argAccessQualifiers, Vocabulary.argTypes, Vocabulary.argAddressSpaces]

theorem get?_metadata_asKernel_of_notMem (f : FunctionDecl) {key : String}
    (h : key ∉ argumentKeys) : f.asKernel.metadata.get? key = f.metadata.get? key := by
  rw [argumentKeys, List.mem_cons, List.mem_cons, List.mem_singleton, not_or, not_or] at h
  rw [get?_metadata_asKernel, if_neg h.2.2, if_neg h.2.1, if_neg h.1]

theorem annotation?_asKernel (f : FunctionDecl) {key : AnnotationKey}
    (h : key.name ∉ argumentKeys) : f.asKernel.annotation? key = f.annotation? key := by
  cases key with
  | metadata name =>
    have hget : f.asKernel.metadata.get? name = f.metadata.get? name :=
      f.get?_metadata_asKernel_of_notMem h
    rw [annotation?, hget, annotation?]
  | attr name => rfl

end FunctionDecl

namespace Rule

variable {r : Rule}

theorem recordsOn_asKernel (h : r.key.name ∉ FunctionDecl.argumentKeys) (f : FunctionDecl) :
    r.recordsOn f.asKernel = r.recordsOn f := by
  rw [recordsOn, FunctionDecl.annotation?_asKernel f h, FunctionDecl.id_asKernel, recordsOn]

theorem skippedOn?_asKernel (h : r.key.name ∉ FunctionDecl.argumentKeys) (f : FunctionDecl) :
    r.skippedOn? f.asKernel = r.skippedOn? f := by
  rw [skippedOn?, FunctionDecl.annotation?_asKernel f h, FunctionDecl.name_asKernel, skippedOn?]

end Rule

namespace RuleGroup

theorem openCL_mem_all : openCL ∈ all := List.mem_cons_self

theorem vectorCompute_mem_all : vectorCompute ∈ all := List.mem_cons_of_mem _ List.mem_cons_self

variable {g : RuleGroup}

/-- The rules of the dialects look at no key that marking writes. -/
theorem name_key_notMem (hg : g ∈ all) {r : Rule} (hr : r ∈ g.rules) :
    r.key.name ∉ FunctionDecl.argumentKeys := by
  have hall : ∀ g ∈ all, ∀ r ∈ g.rules, r.key.name ∉ FunctionDecl.argumentKeys := by
    decide
  exact hall g hg r hr

/-- **Rules do not see marking.** -/
theorem recordsOn_asKernel (hg : g ∈ all) (f : FunctionDecl) :
    g.recordsOn f.asKernel = g.recordsOn f :=
  List.flatMap_congr fun _ hr ↦ Rule.recordsOn_asKernel (name_key_notMem hg hr) f

theorem skippedOn_asKernel (hg : g ∈ all) (f : FunctionDecl) :
    g.skippedOn f.asKernel = g.skippedOn f :=
  List.filterMap_congr fun _ hr ↦ Rule.skippedOn?_asKernel (name_key_notMem hg hr) f

end RuleGroup

namespace DeviceModule

/-- The functions that are kernels or are marked, in the order of the module and as they stand in
it. -/
def entryPoints (m : DeviceModule) : List FunctionDecl :=
  (m.functions.zipIdx.filter fun f ↦ f.1.isKernel || decide (m.MarkedAt f.2)).map Prod.fst

theorem mem_of_mem_entryPoints {m : DeviceModule} {f : FunctionDecl} (h : f ∈ m.entryPoints) :
    f ∈ m.functions := by
  obtain ⟨x, hx, rfl⟩ := List.mem_map.1 h
  exact List.fst_mem_of_mem_zipIdx (List.mem_filter.1 hx).1

theorem entryPoints_congr {m n : DeviceModule} (hfunctions : m.functions = n.functions)
    (hmarked : ∀ i, m.MarkedAt i ↔ n.MarkedAt i) : m.entryPoints = n.entryPoints := by
  simp only [entryPoints, hfunctions, hmarked]

/-- Whatever does not see the difference that marking makes goes through the entry points of a
module as it goes through the kernels of the marked module. -/
theorem flatMap_kernels {m m' : DeviceModule} {α : Type} {c : FunctionDecl → List α}
    (hm : m'.functions = m.markedFunctions) (hc : ∀ f, c f.asKernel = c f) :
    m'.kernels.flatMap c = m.entryPoints.flatMap c := by
  have hfs : m'.functions = m.functions.zipIdx.map fun f ↦
      if m.MarkedAt f.2 then f.1.asKernel else f.1 := by
    refine List.ext_getElem? fun i ↦ ?_
    rw [hm, markedFunctions, getElem?_changeMarked, List.getElem?_map, List.getElem?_zipIdx,
      Option.map_map, Nat.zero_add]
    rfl
  rw [kernels, hfs, List.filter_map, List.flatMap_map, entryPoints, List.flatMap_map]
  -- the kernels of the marked module stand where the entry points of the original one stand
  have hkernel : ((·.isKernel) ∘ fun f : FunctionDecl × Nat ↦
      if m.MarkedAt f.2 then f.1.asKernel else f.1) =
      fun f ↦ f.1.isKernel || decide (m.MarkedAt f.2) := by
    funext f
    rw [Function.comp_apply]
    split_ifs with hf <;> simp [hf]
  rw [hkernel]
  refine List.flatMap_congr fun f _ ↦ ?_
  split_ifs
  · exact hc f.1
  · rfl

variable {m m' : DeviceModule}

theorem map_id_kernels (hm : m'.functions = m.markedFunctions) :
    m'.kernels.map FunctionDecl.id = m.entryPoints.map FunctionDecl.id := by
  have h := flatMap_kernels (c := fun f ↦ [f.id]) hm fun _ ↦ rfl
  rwa [← List.map_eq_flatMap, ← List.map_eq_flatMap] at h

theorem recordsOf_kernels {g : RuleGroup} (hg : g ∈ RuleGroup.all)
    (hm : m'.functions = m.markedFunctions) :
    g.recordsOf m'.kernels = g.recordsOf m.entryPoints :=
  flatMap_kernels hm (RuleGroup.recordsOn_asKernel hg)

theorem skippedOf_kernels {g : RuleGroup} (hg : g ∈ RuleGroup.all)
    (hm : m'.functions = m.markedFunctions) :
    g.skippedOf m'.kernels = g.skippedOf m.entryPoints :=
  flatMap_kernels hm (RuleGroup.skippedOn_asKernel hg)

end DeviceModule

end KernelMetadata
