import KernelMetadata.Proofs.RuleIndependence
import KernelMetadata.Proofs.Wellformedness
import Mathlib.Data.List.Perm.Basic

/-!
# Functions in another order and under other names

Functions are identified by their identities, which neither their order nor their names have a part
in. Here the functions of a module are put in another order and given other names
(`DeviceModule.rearranged`), and the runs on both modules are compared.

An order is a list of places. What a run writes about functions goes through the places of the
module in turn and yields a block for each entry point (`DeviceModule.atEntry`), so in the
rearranged module the same blocks come in the other order (`DeviceModule.rearranged_run`). This
rests on identities not being repeated: then a function is marked if its identity is, wherever it
stands, and any names can be given by identity.
-/

namespace KernelMetadata

/-! ## Lists in another order -/

/-- The members of a list at places, in the order of the places. -/
def arrange {α : Type} (order : List Nat) (xs : List α) : List α :=
  order.filterMap fun i ↦ xs[i]?

section Arrange

variable {α β : Type} {order : List Nat} {xs : List α}

theorem arrange_range (xs : List α) : arrange (List.range xs.length) xs = xs := by
  have hget : ((List.range xs.length).map fun i ↦ xs[i]?) = xs.map some := by
    refine List.ext_getElem (by simp) fun i hi _ ↦ ?_
    rw [List.length_map, List.length_range] at hi
    simp [hi]
  have hsome : arrange (List.range xs.length) xs =
      ((List.range xs.length).map fun i ↦ xs[i]?).filterMap id := by
    rw [List.filterMap_map, Function.id_comp, arrange]
  rw [hsome, hget, List.filterMap_map, Function.id_comp, List.filterMap_some]

theorem map_arrange (f : α → β) (order : List Nat) (xs : List α) :
    (arrange order xs).map f = arrange order (xs.map f) := by
  rw [arrange, List.map_filterMap, arrange]
  simp only [List.getElem?_map]

theorem flatMap_arrange (f : α → List β) (order : List Nat) (xs : List α) :
    (arrange order xs).flatMap f = order.flatMap fun i ↦ xs[i]?.toList.flatMap f := by
  rw [arrange, List.filterMap_eq_flatMap_toList, List.flatMap_assoc]

theorem flatMap_range_getElem? (f : α → List β) (xs : List α) :
    ((List.range xs.length).flatMap fun i ↦ xs[i]?.toList.flatMap f) = xs.flatMap f := by
  rw [← flatMap_arrange, arrange_range]

/-- A list in another order has the same members. -/
theorem perm_arrange (h : order.Perm (List.range xs.length)) : (arrange order xs).Perm xs := by
  have hperm := h.filterMap fun i ↦ xs[i]?
  rwa [← arrange, ← arrange, arrange_range] at hperm

end Arrange

/-! ## Functions under other names -/

namespace FunctionDecl

/-- A function under the name that its identity is given. -/
def named (names : FunctionId → String) (f : FunctionDecl) : FunctionDecl :=
  { f with name := names f.id }

variable (names : FunctionId → String) (f : FunctionDecl)

@[simp] theorem name_named : (f.named names).name = names f.id := rfl

@[simp] theorem metadata_named : (f.named names).metadata = f.metadata := rfl

@[simp] theorem annotation?_named (key : AnnotationKey) :
    (f.named names).annotation? key = f.annotation? key := by
  cases key <;> rfl

/-- Marking does not look at names. -/
theorem asKernel_named : (f.named names).asKernel = f.asKernel.named names := rfl

end FunctionDecl

/-- A skipped rule with the function under another name. -/
def SkippedRule.named (name : String) (s : SkippedRule) : SkippedRule := { s with function := name }

namespace RuleGroup

variable (g : RuleGroup) (names : FunctionId → String) (f : FunctionDecl)

/-- Execution modes do not tell names. -/
theorem recordsOn_named : g.recordsOn (f.named names) = g.recordsOn f := rfl

theorem skippedOn_named :
    g.skippedOn (f.named names) = (g.skippedOn f).map (.named (names f.id)) := by
  rw [skippedOn, skippedOn, List.map_filterMap]
  refine List.filterMap_congr fun r _ ↦ ?_
  rw [Rule.skippedOn?, FunctionDecl.annotation?_named, Rule.skippedOn?]
  cases f.annotation? r.key with
  | none => rfl
  | some a => cases h : r.extract a <;> simp [h, SkippedRule.named]

end RuleGroup

namespace DeviceModule

variable {m : DeviceModule} {order : List Nat}

/-! ## Entry points by place -/

/-- What the function at a place yields if it is an entry point. -/
def atEntry {α : Type} (m : DeviceModule) (c : FunctionDecl → List α) (i : Nat) : List α :=
  if m.EntryAt i then m.functions[i]?.toList.flatMap c else []

/-- What the groups yield on the entry points at places, group by group and place by place. -/
def yields {α : Type} (m : DeviceModule) (c : RuleGroup → FunctionDecl → List α)
    (places : List Nat) : List α :=
  RuleGroup.all.flatMap fun g ↦ places.flatMap (m.atEntry (c g))

/-- The places of a module, in their order. -/
def places (m : DeviceModule) : List Nat := List.range m.functions.length

/-- Whether a function is an entry point of a module without repeated identities. -/
def isEntry (m : DeviceModule) (f : FunctionDecl) : Bool := f.isKernel || decide (m.Marks f.id)

section DistinctIdentities

variable (hids : (m.functions.map FunctionDecl.id).Nodup)

include hids

/-- Where no identity is repeated, a function is marked if its identity is. -/
theorem markedAt_iff_of_nodup {i : Nat} {f : FunctionDecl} (hf : m.functions[i]? = some f) :
    m.MarkedAt i ↔ m.Marks f.id := by
  rw [markedAt_iff hf, and_iff_left (freshAt_of_nodup hids hf)]

theorem changeMarked_of_nodup (change : FunctionDecl → FunctionDecl) :
    m.changeMarked change = m.functions.map fun f ↦ if m.Marks f.id then change f else f := by
  refine List.ext_getElem? fun i ↦ ?_
  rw [getElem?_changeMarked, List.getElem?_map]
  cases hf : m.functions[i]? with
  | none => rfl
  | some f => simp only [Option.map_some, markedAt_iff_of_nodup hids hf]

theorem flatMap_entryPoints_of_nodup {α : Type} (c : FunctionDecl → List α) :
    m.entryPoints.flatMap c = m.functions.flatMap fun f ↦ if m.isEntry f then c f else [] := by
  have hfilter : (m.functions.zipIdx.filter fun f ↦ f.1.isKernel || decide (m.MarkedAt f.2)) =
      m.functions.zipIdx.filter (m.isEntry ∘ Prod.fst) := by
    refine List.filter_congr fun f hf ↦ ?_
    rw [Function.comp_apply, isEntry,
      decide_eq_decide.2 (markedAt_iff_of_nodup hids (List.mem_zipIdx_iff_getElem?.1 hf))]
  rw [entryPoints, hfilter, ← List.filter_map, List.zipIdx_map_fst]
  induction m.functions with
  | nil => rfl
  | cons f fs ih =>
    rw [List.filter_cons, List.flatMap_cons, ← ih]
    split_ifs <;> simp

theorem atEntry_of_nodup {α : Type} (c : FunctionDecl → List α) (i : Nat) :
    m.atEntry c i = m.functions[i]?.toList.flatMap fun f ↦ if m.isEntry f then c f else [] := by
  rw [atEntry]
  cases hf : m.functions[i]? with
  | none => simp
  | some f =>
    simp only [entryAt_iff hf, markedAt_iff_of_nodup hids hf, isEntry, Bool.or_eq_true,
      decide_eq_true_eq, Option.toList_some, List.flatMap_singleton]

/-- A walk through the entry points is one through the places. -/
theorem flatMap_entryPoints_eq_places {α : Type} (c : FunctionDecl → List α) :
    m.entryPoints.flatMap c = m.places.flatMap (m.atEntry c) := by
  rw [flatMap_entryPoints_of_nodup hids, ← flatMap_range_getElem?, places]
  exact List.flatMap_congr fun i _ ↦ (atEntry_of_nodup hids c i).symm

theorem modes_eq_yields : m.modes = m.yields RuleGroup.recordsOn m.places := by
  rw [modes_eq_flatMap, yields]
  exact List.flatMap_congr fun g _ ↦ flatMap_entryPoints_eq_places hids _

theorem skips_eq_yields : m.skips = m.yields RuleGroup.skippedOn m.places := by
  rw [skips_eq_flatMap, yields]
  exact List.flatMap_congr fun g _ ↦ flatMap_entryPoints_eq_places hids _

end DistinctIdentities

/-! ## Rearranged modules -/

/-- A module with its functions in another order and under other names. -/
def rearranged (m : DeviceModule) (order : List Nat) (names : FunctionId → String) :
    DeviceModule :=
  { m with functions := arrange order (m.functions.map (.named names)) }

theorem perm_functions_rearranged (horder : order.Perm m.places) (names : FunctionId → String) :
    (m.rearranged order names).functions.Perm (m.functions.map (.named names)) := by
  refine perm_arrange ?_
  rwa [List.length_map]

/-- In another order, the groups yield the same in all. -/
theorem perm_yields {α : Type} (horder : order.Perm m.places)
    (c : RuleGroup → FunctionDecl → List α) : (m.yields c order).Perm (m.yields c m.places) :=
  .flatMap (.refl _) fun _ _ ↦ horder.flatMap_right _

section Rearranged

variable (hids : (m.functions.map FunctionDecl.id).Nodup) (horder : order.Perm m.places)
  (names : FunctionId → String)

include hids horder

theorem nodup_rearranged :
    ((m.rearranged order names).functions.map FunctionDecl.id).Nodup := by
  have hperm := (perm_functions_rearranged horder names).map FunctionDecl.id
  rw [List.map_map] at hperm
  exact hperm.nodup_iff.2 hids

/-- Of a walk through the entry points only the order of the places changes. -/
theorem flatMap_entryPoints_rearranged {α : Type} (c : FunctionDecl → List α) :
    (m.rearranged order names).entryPoints.flatMap c =
      order.flatMap (m.atEntry fun f ↦ c (f.named names)) := by
  rw [flatMap_entryPoints_of_nodup (nodup_rearranged hids horder names), rearranged, ← map_arrange,
    List.flatMap_map, flatMap_arrange]
  refine List.flatMap_congr fun i _ ↦ ?_
  rw [atEntry_of_nodup hids]
  rfl

theorem markedFunctions_rearranged :
    (m.rearranged order names).markedFunctions =
      arrange order (m.markedFunctions.map (.named names)) := by
  rw [markedFunctions, changeMarked_of_nodup (nodup_rearranged hids horder names), rearranged,
    map_arrange, markedFunctions, changeMarked_of_nodup hids, List.map_map, List.map_map]
  refine congrArg (arrange order) (List.map_congr_left fun f _ ↦ ?_)
  rw [Function.comp_apply, Function.comp_apply, apply_ite (FunctionDecl.named names),
    ← FunctionDecl.asKernel_named]
  rfl

theorem modes_rearranged :
    (m.rearranged order names).modes = m.yields RuleGroup.recordsOn order := by
  rw [modes_eq_flatMap, yields]
  refine List.flatMap_congr fun g _ ↦ ?_
  simp only [RuleGroup.recordsOf, flatMap_entryPoints_rearranged hids horder,
    RuleGroup.recordsOn_named]

theorem skips_rearranged :
    (m.rearranged order names).skips =
      m.yields (fun g f ↦ (g.skippedOn f).map (.named (names f.id))) order := by
  rw [skips_eq_flatMap, yields]
  refine List.flatMap_congr fun g _ ↦ ?_
  simp only [RuleGroup.skippedOf, flatMap_entryPoints_rearranged hids horder,
    RuleGroup.skippedOn_named]

end Rearranged

/-! ## Faults -/

/-- Whether a module has a fault is a matter of its functions, of whether two of them have one name,
and of the nodes in its lists, in any order. -/
theorem violation?_eq_none_congr {n : DeviceModule} (names : FunctionId → String)
    (hids : (m.functions.map FunctionDecl.id).Nodup)
    (hfunctions : n.functions.Perm (m.functions.map (.named names)))
    (hnames : ∀ f ∈ m.functions, ∀ g ∈ m.functions, names f.id = names g.id ↔ f.name = g.name)
    (hlists : ∀ name x, x ∈ n.nodes name ↔ x ∈ m.nodes name) :
    m.violation? = none ↔ n.violation? = none := by
  have hresolves : n.Resolves = m.Resolves := by
    funext x
    refine propext (forall₂_congr fun id _ ↦ ?_)
    have hperm := (hfunctions.map FunctionDecl.id).mem_iff (a := id)
    rw [List.map_map] at hperm
    rw [defines_iff, defines_iff, hperm]
    rfl
  have hnodup : (n.functions.map FunctionDecl.name).Nodup ↔
      (m.functions.map FunctionDecl.name).Nodup := by
    have hperm := (hfunctions.map FunctionDecl.name).nodup_iff
    rw [hperm, List.map_map, List.nodup_map_iff_inj_on (.of_map _ hids),
      List.nodup_map_iff_inj_on (.of_map _ hids)]
    exact forall₄_congr fun f hf g hg ↦ imp_congr_left (hnames f hf g hg)
  have hmetadata : (∀ f ∈ n.functions, ∀ key, ∀ x ∈ f.metadata.get? key, n.Resolves x) ↔
      ∀ f ∈ m.functions, ∀ key, ∀ x ∈ f.metadata.get? key, m.Resolves x := by
    simp only [hfunctions.mem_iff, List.forall_mem_map, FunctionDecl.metadata_named, hresolves]
  rw [violation?_eq_none_iff, violation?_eq_none_iff, hnodup, hmetadata]
  simp only [hlists, hresolves]

/-! ## The two runs -/

/-- **Order and names have no part in a run.** Where no identity is repeated and the functions of a
module are put in another order and given other names, both runs succeed or both fail alike. If they
succeed, the functions of the one result are those of the other in that order and under those names,
and all lists but that of the execution modes are the same. To the execution modes, to the kernels
and to the skipped rules of the reports the entry points contribute the same blocks, which come, for
each group on its own, in the order of the functions. If two functions have one name after the
renaming exactly if they had one before, both reports name a fault or neither does. -/
theorem rearranged_run (options : Options) (hids : (m.functions.map FunctionDecl.id).Nodup)
    (horder : order.Perm m.places) (names : FunctionId → String) :
    let n := m.rearranged order names
    (∀ e, (m.transcribe options).outcome = .error e ↔ (n.transcribe options).outcome = .error e) ∧
      ∀ report, (m.transcribe options).outcome = .ok report →
        ∃ report', (n.transcribe options).outcome = .ok report' ∧
          (n.transcribe options).result.functions =
            arrange order ((m.transcribe options).result.functions.map (.named names)) ∧
          (∀ name ≠ Vocabulary.executionModes,
            (n.transcribe options).result.list? name = (m.transcribe options).result.list? name) ∧
          (m.transcribe options).result.list? Vocabulary.executionModes =
            some (m.nodes Vocabulary.executionModes ++
              (m.yields RuleGroup.recordsOn m.places).map KernelMode.node) ∧
          (n.transcribe options).result.list? Vocabulary.executionModes =
            some (m.nodes Vocabulary.executionModes ++
              (m.yields RuleGroup.recordsOn order).map KernelMode.node) ∧
          report.kernels = m.places.flatMap (m.atEntry fun f ↦ [f.id]) ∧
          report'.kernels = order.flatMap (m.atEntry fun f ↦ [f.id]) ∧
          report.skipped = m.yields RuleGroup.skippedOn m.places ∧
          report'.skipped =
            m.yields (fun g f ↦ (g.skippedOn f).map (.named (names f.id))) order ∧
          report'.recordsEmitted = report.recordsEmitted ∧
          (order = m.places → (n.transcribe options).result.list? Vocabulary.executionModes =
            (m.transcribe options).result.list? Vocabulary.executionModes) ∧
          ((∀ f ∈ m.functions, ∀ g ∈ m.functions, names f.id = names g.id ↔ f.name = g.name) →
            (report.violation = none ↔ report'.violation = none)) := by
  intro n
  refine ⟨fun e ↦ ?_, fun report hreport ↦ ?_⟩
  · exact outcome_eq_error_congr rfl rfl
  obtain ⟨t, hm⟩ := exists_isFor_of_outcome hreport
  have htriple : n.triple = m.triple := rfl
  have hn : n.IsFor t := hm.congr htriple rfl
  have hmodes := list?_result_executionModes options hm
  have hmodes' := list?_result_executionModes options hn
  rw [modes_eq_yields hids] at hmodes
  rw [modes_rearranged hids horder] at hmodes'
  have hfunctions : (n.transcribe options).result.functions =
      arrange order ((m.transcribe options).result.functions.map (.named names)) := by
    rw [functions_result options hn, functions_result options hm]
    exact markedFunctions_rearranged hids horder names
  have hlists : ∀ name ≠ Vocabulary.executionModes,
      (n.transcribe options).result.list? name = (m.transcribe options).result.list? name := by
    intro name hname
    have hwritten : n.written t name = m.written t name :=
      written_congr (fun heq ↦ absurd heq hname) rfl
    rw [list?_result options hn, list?_result options hm, hwritten]
    rfl
  rw [report_eq hreport]
  refine ⟨_, outcome_of_isFor options hn, hfunctions, hlists, hmodes, hmodes', ?kernels, ?kernels',
    skips_eq_yields hids, skips_rearranged hids horder names, ?emitted, fun hsame ↦ ?renamed,
    fun hnames ↦ ?violation⟩
  case kernels =>
    rw [List.map_eq_flatMap]
    exact flatMap_entryPoints_eq_places hids _
  case kernels' =>
    rw [List.map_eq_flatMap]
    exact flatMap_entryPoints_rearranged hids horder names _
  case emitted =>
    rw [modes_rearranged hids horder, modes_eq_yields hids]
    exact (perm_yields horder _).length_eq
  case renamed =>
    rw [hmodes, hmodes', hsame]
    rfl
  case violation =>
    have hresult := functions_result options hm
    refine violation?_eq_none_congr names ?_ ?_ (fun f hf g hg ↦ ?_) fun name x ↦ ?_
    · rwa [hresult, map_id_markedFunctions]
    · rw [hfunctions]
      refine perm_arrange ?_
      rwa [hresult, markedFunctions, changeMarked, List.length_map, List.length_mapIdx]
    · rw [hresult] at hf hg
      obtain ⟨f', hf', hid, hname⟩ := exists_of_mem_markedFunctions hf
      obtain ⟨g', hg', hid', hname'⟩ := exists_of_mem_markedFunctions hg
      rw [hid, hid', hname, hname']
      exact hnames f' hf' g' hg'
    · by_cases hname : name = Vocabulary.executionModes
      · have hperm := (perm_yields horder RuleGroup.recordsOn).map KernelMode.node
        rw [hname, nodes, nodes, hmodes, hmodes', Option.getD_some, Option.getD_some]
        exact (hperm.append_left _).mem_iff
      · rw [nodes, nodes, hlists name hname]

/-- A marked function, a function that is no entry point and a kernel, each with an identity of its
own. -/
def threeFunctions : DeviceModule where
  triple := some "nvptx64-nvidia-cuda"
  functions := [
    ⟨⟨1⟩, "scale", [⟨"n", .int .i32⟩], .ptxKernel, NameMap.ofList [("VCSLMSize", "0x200")],
      NameMap.ofList [("reqd_work_group_size", .ofWords [8, 4, 1])]⟩,
    ⟨⟨2⟩, "clamp", [], .c, .empty, NameMap.ofList [("max_global_work_dim", .ofWords [2])]⟩,
    ⟨⟨3⟩, "blur", [], .spirKernel, NameMap.ofList [("VCSLMSize", "0x400")],
      NameMap.ofList [("max_global_work_dim", .ofStrings ["3"])]⟩]
  lists := NameMap.ofList [
    (Vocabulary.nvptxAnnotations, [⟨[.function ⟨1⟩, .string "kernel", .word 1]⟩])]

/-- Other names for its functions. -/
def romanNames (id : FunctionId) : String :=
  if id = ⟨1⟩ then "I" else if id = ⟨2⟩ then "II" else "III"

/-- The report on `threeFunctions`. -/
def threeFunctionsReport : Report :=
  ⟨[⟨1⟩, ⟨3⟩], 3, [⟨"blur", "max-work-dim", .notAnInteger 0⟩], none⟩

/-- With the kernel in front of the marked function, its execution modes come first in their
group. -/
theorem rearranged_run_threeFunctions :
    let n := threeFunctions.rearranged [2, 0, 1] romanNames
    (threeFunctions.transcribe .default).outcome = .ok threeFunctionsReport ∧
      (threeFunctions.transcribe .default).result.list? Vocabulary.executionModes =
        some [⟨[.function ⟨1⟩, .word 17, .word 8, .word 4, .word 1]⟩,
          ⟨[.function ⟨1⟩, .word 5618, .word 512]⟩, ⟨[.function ⟨3⟩, .word 5618, .word 1024]⟩] ∧
      (n.transcribe .default).result.list? Vocabulary.executionModes =
        some [⟨[.function ⟨1⟩, .word 17, .word 8, .word 4, .word 1]⟩,
          ⟨[.function ⟨3⟩, .word 5618, .word 1024]⟩, ⟨[.function ⟨1⟩, .word 5618, .word 512]⟩] ∧
      (n.transcribe .default).outcome =
        .ok ⟨[⟨3⟩, ⟨1⟩], 3, [⟨"III", "max-work-dim", .notAnInteger 0⟩], none⟩ := by
  intro n
  have h : (threeFunctions.transcribe .default).outcome = .ok threeFunctionsReport := by
    decide +kernel
  have horder : [2, 0, 1].Perm threeFunctions.places := by decide +kernel
  obtain ⟨report, hreport, -, -, hmodes, hmodes', -, hkernels, -, hskipped, hemitted, -,
    hviolation⟩ := (rearranged_run .default (by decide) horder romanNames).2 _ h
  have hnone : report.violation = none := (hviolation (by decide +kernel)).1 rfl
  refine ⟨h, hmodes.trans (by decide +kernel), hmodes'.trans (by decide +kernel), ?_⟩
  rw [hreport]
  obtain ⟨kernels, emitted, skipped, violation⟩ := report
  rw [Except.ok.injEq, Report.mk.injEq]
  exact ⟨hkernels.trans (by decide +kernel), hemitted, hskipped.trans (by decide +kernel), hnone⟩

end DeviceModule

end KernelMetadata
