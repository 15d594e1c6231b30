import KernelMetadata.Proofs.Run

/-!
# Where execution modes come from

The node of an execution mode names its kernel by identity, and says neither at which place the
kernel stands nor which annotation the mode was decoded from. Both are put back here: modes are
tagged with where they come from (`Origin`), rule by rule and kernel by kernel, and erasing the tags
gives the modes that a run writes (`DeviceModule.map_mode_origins`).

A reference resolves to the first function with an identity (`DeviceModule.place?`). So a mode
resolves to the function that it comes from exactly if no function before that one has the same
identity (`DeviceModule.modes_resolve_to_first`). Verification asks for distinct names and not for
distinct identities: a module may pass it although a mode resolves to a function that is no kernel
and carries no annotation (`DeviceModule.modes_resolve_elsewhere`).
-/

namespace KernelMetadata

/-! ## Modes with their origins -/

/-- An execution mode with the place of the function and the rule that it comes from. -/
structure Origin where
  place : Nat
  rule : Rule
  mode : KernelMode

/-- Whether a function carries the annotation that a mode was decoded from. -/
def Origin.DecodedFrom (o : Origin) (f : FunctionDecl) : Prop :=
  ∃ a ws, f.annotation? o.rule.key = some a ∧ o.rule.extract a = .ok ws ∧
    o.mode.entry ∈ o.rule.emit ws

/-- The records of a rule on a function refer to it and are decoded from its annotation. -/
theorem Rule.mem_recordsOn_iff {r : Rule} {f : FunctionDecl} {k : KernelMode} :
    k ∈ r.recordsOn f ↔ k.target = f.id ∧ ∃ a ws, f.annotation? r.key = some a ∧
      r.extract a = .ok ws ∧ k.entry ∈ r.emit ws := by
  obtain ⟨target, entry⟩ := k
  rw [recordsOn]
  cases ha : f.annotation? r.key with
  | none => simp
  | some a => cases hws : r.extract a <;> simp [hws, and_comm, eq_comm]

namespace DeviceModule

variable {options : Options} {m : DeviceModule} {t : Target} {report : Report}

/-- What the rules yield on the kernels of a module, each mode with its origin, group by group,
kernel by kernel and rule by rule. -/
def origins (m : DeviceModule) : List Origin :=
  RuleGroup.all.flatMap fun g ↦ (m.functions.zipIdx.filter fun f ↦ f.1.isKernel).flatMap fun f ↦
    g.rules.flatMap fun r ↦ (r.recordsOn f.1).map (Origin.mk f.2 r)

theorem mem_origins_iff {o : Origin} :
    o ∈ m.origins ↔ (∃ g ∈ RuleGroup.all, o.rule ∈ g.rules) ∧ ∃ f,
      m.functions[o.place]? = some f ∧ f.isKernel = true ∧ o.mode.target = f.id ∧
        o.DecodedFrom f := by
  obtain ⟨place, rule, mode⟩ := o
  simp only [origins, List.mem_flatMap, List.mem_filter, List.mem_map, Prod.exists,
    List.mem_zipIdx_iff_getElem?, Rule.mem_recordsOn_iff, Origin.mk.injEq, Origin.DecodedFrom]
  constructor
  · rintro ⟨g, hg, f, i, ⟨hf, hkernel⟩, r, hr, k, ⟨htarget, hdecoded⟩, rfl, rfl, rfl⟩
    exact ⟨⟨g, hg, hr⟩, f, hf, hkernel, htarget, hdecoded⟩
  · rintro ⟨⟨g, hg, hr⟩, f, hf, hkernel, htarget, hdecoded⟩
    exact ⟨g, hg, f, place, ⟨hf, hkernel⟩, rule, hr, mode, ⟨htarget, hdecoded⟩, rfl, rfl, rfl⟩

/-- Without their origins, the modes of a module are what the groups yield on its kernels. -/
theorem map_mode_origins (m : DeviceModule) :
    m.origins.map Origin.mode = RuleGroup.all.flatMap fun g ↦ g.recordsOf m.kernels := by
  have hkernels : m.kernels = (m.functions.zipIdx.filter fun f ↦ f.1.isKernel).map Prod.fst := by
    conv_lhs => rw [kernels, ← List.zipIdx_map_fst 0 m.functions, List.filter_map]
    rfl
  rw [origins, List.map_flatMap]
  refine List.flatMap_congr fun g _ ↦ ?_
  rw [RuleGroup.recordsOf, hkernels, List.flatMap_map, List.map_flatMap]
  refine List.flatMap_congr fun f _ ↦ ?_
  rw [RuleGroup.recordsOn, List.map_flatMap]
  refine List.flatMap_congr fun r _ ↦ ?_
  rw [List.map_map]
  exact List.map_id _

/-- The modes that a run writes are those of the kernels that it leaves behind. -/
theorem map_mode_origins_result (options : Options) (h : m.IsFor t) :
    (m.transcribe options).result.origins.map Origin.mode = m.modes := by
  have hfunctions := functions_result options h
  rw [map_mode_origins, modes_eq_flatMap]
  exact List.flatMap_congr fun g hg ↦ recordsOf_kernels hg hfunctions

/-! ## Where references resolve to -/

/-- The place of the function that an identity resolves to. -/
def place? (m : DeviceModule) (id : FunctionId) : Option Nat :=
  m.functions.findIdx? fun f ↦ f.id = id

theorem function?_eq_bind_place? (m : DeviceModule) (id : FunctionId) :
    m.function? id = (m.place? id).bind fun i ↦ m.functions[i]? :=
  List.find?_eq_bind_findIdx?_getElem?

/-- An identity resolves to the place where a function has it and no function before has. -/
theorem place?_eq_some_iff {id : FunctionId} {i : Nat} :
    m.place? id = some i ↔
      (∃ f, m.functions[i]? = some f ∧ f.id = id) ∧ FreshAt m.functions i id := by
  rw [place?, List.findIdx?_eq_some_iff_getElem]
  simp only [FreshAt, List.mem_take_iff_getElem, List.getElem?_eq_some_iff, decide_eq_true_eq]
  constructor
  · rintro ⟨hi, hid, hfirst⟩
    refine ⟨⟨_, ⟨hi, rfl⟩, hid⟩, ?_⟩
    rintro g ⟨j, hj, rfl⟩
    exact hfirst j (by omega)
  · rintro ⟨⟨f, ⟨hi, rfl⟩, hid⟩, hfresh⟩
    exact ⟨hi, hid, fun j hj ↦ hfresh _ ⟨j, by omega, rfl⟩⟩

/-- The identity of a function resolves to its place or to one before it. -/
theorem exists_place?_le {f : FunctionDecl} {i : Nat} (hf : m.functions[i]? = some f) :
    ∃ j ≤ i, m.place? f.id = some j := by
  obtain ⟨hi, rfl⟩ := List.getElem?_eq_some_iff.1 hf
  have hex : ∃ g ∈ m.functions, decide (g.id = m.functions[i].id) = true :=
    ⟨_, List.getElem_mem hi, decide_eq_true rfl⟩
  refine ⟨_, ?_, List.findIdx?_eq_some_of_exists hex⟩
  by_contra hlt
  have hfalse := List.not_of_lt_findIdx (Nat.lt_of_not_le hlt)
  simp at hfalse

/-- The identity of a function resolves to its place if no function before it has the identity. -/
theorem place?_id_eq_some_iff {f : FunctionDecl} {i : Nat} (hf : m.functions[i]? = some f) :
    m.place? f.id = some i ↔ FreshAt m.functions i f.id :=
  place?_eq_some_iff.trans (and_iff_right ⟨f, hf, rfl⟩)

/-! ## The modes of a run -/

/-- **A mode resolves to the first function with the identity of the function that it comes from.**
The modes that a run appends are, with their origins, those of the kernels that it leaves behind.
The function at the place that a mode comes from is a kernel and carries the annotation that the
mode was decoded from. The reference of the mode is to the identity of this function and resolves to
its place or to one before it, and to the very place exactly if no function before it has the same
identity; in a module without repeated identities it always does. -/
theorem modes_resolve_to_first (h : (m.transcribe options).outcome = .ok report) :
    let after := (m.transcribe options).result
    after.list? Vocabulary.executionModes = some (m.nodes Vocabulary.executionModes ++
        after.origins.map fun o ↦ o.mode.node) ∧
      (∀ o ∈ after.origins, ∃ f i, after.functions[o.place]? = some f ∧ f.isKernel = true ∧
        o.DecodedFrom f ∧ o.mode.node.operands[0]? = some (.function f.id) ∧
        after.place? f.id = some i ∧ after.function? f.id = after.functions[i]? ∧ i ≤ o.place ∧
        (i = o.place ↔ ∀ g ∈ m.functions.take o.place, g.id ≠ f.id)) ∧
      ((m.functions.map FunctionDecl.id).Nodup → ∀ o ∈ after.origins,
        after.function? o.mode.target = after.functions[o.place]?) := by
  intro after
  obtain ⟨t, ht⟩ := exists_isFor_of_outcome h
  have hids : after.functions.map FunctionDecl.id = m.functions.map FunctionDecl.id := by
    rw [functions_result options ht, map_id_markedFunctions]
  refine ⟨?appended, fun o ho ↦ ?resolved, fun hnodup o ho ↦ ?distinct⟩
  case appended =>
    rw [list?_result_executionModes options ht, ← map_mode_origins_result options ht, List.map_map]
    rfl
  case resolved =>
    obtain ⟨-, f, hf, hkernel, htarget, hdecoded⟩ := mem_origins_iff.1 ho
    obtain ⟨i, hle, hi⟩ := exists_place?_le hf
    have hresolved : after.function? f.id = after.functions[i]? := by
      rw [function?_eq_bind_place?, hi, Option.bind_some]
    refine ⟨f, i, hf, hkernel, hdecoded, ?_, hi, hresolved, hle, ?_⟩
    · rw [KernelMode.node, htarget]
      rfl
    · have hplace := place?_id_eq_some_iff hf
      rw [hi, Option.some_inj, freshAt_congr hids] at hplace
      exact hplace
  case distinct =>
    obtain ⟨-, f, hf, -, htarget, -⟩ := mem_origins_iff.1 ho
    have hplace : after.place? f.id = some o.place :=
      (place?_id_eq_some_iff hf).2 (freshAt_of_nodup (hids ▸ hnodup) hf)
    rw [function?_eq_bind_place?, htarget, hplace, Option.bind_some]

/-- A kernel behind a function with an identity of choice, which may be that of the kernel. -/
def blurBehind (id : FunctionId) : DeviceModule where
  triple := some "spir64"
  functions := [⟨id, "scale", [], .c, .empty, .empty⟩,
    ⟨⟨1⟩, "blur", [], .spirKernel, .empty,
      NameMap.ofList [("reqd_work_group_size", .ofWords [8, 4, 1])]⟩]
  lists := .empty

/-- The report on it. -/
def blurBehindReport : Report := ⟨[⟨1⟩], 1, [], none⟩

/-- The required size of a work group of the kernel, with its origin. -/
def blurOrigin : Origin := ⟨1, .localSize, ⟨⟨1⟩, ⟨.localSize, [8, 4, 1]⟩⟩⟩

private theorem blurOrigin_mem {m : DeviceModule}
    (h : m.functions[1]? = (blurBehind ⟨1⟩).functions[1]?) : blurOrigin ∈ m.origins := by
  refine mem_origins_iff.2 ⟨⟨_, RuleGroup.openCL_mem_all, List.mem_cons_self⟩, _, h, rfl, rfl,
    .node (.ofWords [8, 4, 1]), [8, 4, 1], ?_⟩
  decide +kernel

/-- With the identity of its own, the kernel is what its mode resolves to; if the function before it
shares the identity, then that function is. -/
theorem modes_resolve_to_first_blurBehind :
    ((blurBehind ⟨2⟩).transcribe .default).outcome = .ok blurBehindReport ∧
      ((blurBehind ⟨2⟩).transcribe .default).result.function? ⟨1⟩ =
        (blurBehind ⟨2⟩).functions[1]? ∧
      ((blurBehind ⟨1⟩).transcribe .default).outcome = .ok blurBehindReport ∧
      ((blurBehind ⟨1⟩).transcribe .default).result.function? ⟨1⟩ =
        (blurBehind ⟨1⟩).functions[0]? := by
  have hdistinct : ((blurBehind ⟨2⟩).transcribe .default).outcome = .ok blurBehindReport := by
    decide +kernel
  have hshared : ((blurBehind ⟨1⟩).transcribe .default).outcome = .ok blurBehindReport := by
    decide +kernel
  have hafter : ∀ id ∈ ([⟨1⟩, ⟨2⟩] : List FunctionId),
      ((blurBehind id).transcribe .default).result.functions = (blurBehind id).functions := by
    decide +kernel
  refine ⟨hdistinct, ?_, hshared, ?_⟩
  · have hresolved := (modes_resolve_to_first hdistinct).2.2 (by decide) blurOrigin
      (blurOrigin_mem (by rw [hafter ⟨2⟩ (by decide)]; rfl))
    rwa [hafter ⟨2⟩ (by decide)] at hresolved
  · obtain ⟨f, i, hf, -, -, -, -, hresolved, hle, hfirst⟩ :=
      (modes_resolve_to_first hshared).2.1 blurOrigin
        (blurOrigin_mem (by rw [hafter ⟨1⟩ (by decide)]))
    rw [hafter ⟨1⟩ (by decide)] at hf hresolved
    cases hf
    -- the place before that of the kernel is the only one left
    have hne : i ≠ 1 := fun hi ↦ hfirst.1 hi _ List.mem_cons_self rfl
    have hone : i ≤ 1 := hle
    have hzero : i = 0 := by omega
    rwa [hzero] at hresolved

/-- Verification finds no fault in a module although a mode resolves to a function that is not the
one it comes from, is no kernel, and does not carry the annotation. -/
theorem modes_resolve_elsewhere :
    let after := ((blurBehind ⟨1⟩).transcribe .default).result
    (blurBehind ⟨1⟩).verify.value = none ∧
      ((blurBehind ⟨1⟩).transcribe .default).outcome = .ok blurBehindReport ∧
      blurOrigin ∈ after.origins ∧
      after.function? blurOrigin.mode.target ≠ after.functions[blurOrigin.place]? ∧
      ∃ f, after.function? blurOrigin.mode.target = some f ∧ f.isKernel = false ∧
        ¬ blurOrigin.DecodedFrom f := by
  intro after
  have hafter : after.functions = (blurBehind ⟨1⟩).functions := by decide +kernel
  have hscale : after.function? ⟨1⟩ = (blurBehind ⟨1⟩).functions[0]? := by
    rw [function?, hafter]
    rfl
  refine ⟨by decide +kernel, by decide +kernel, blurOrigin_mem (by rw [hafter]), ?_, _, hscale,
    rfl, ?_⟩
  · rw [hafter]
    exact hscale ▸ by decide +kernel
  · rintro ⟨a, ws, ha, -⟩
    cases ha

end DeviceModule

end KernelMetadata
