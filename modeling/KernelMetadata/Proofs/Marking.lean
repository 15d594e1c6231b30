import KernelMetadata.Transcription
import KernelMetadata.Proofs.Replay
import Mathlib.Data.List.Forall2
import Mathlib.Tactic.SplitIfs

/-!
# Which functions become kernels, and what becomes of them

Marking works in two steps that do not look at the same thing. Planning scans the NVPTX annotations
and collects, each once, the functions that they resolve to; carrying out changes functions by
identity, one after another. Both are described here by the module alone: a function is *marked* if
the annotations mark its identity and no earlier function has that identity
(`DeviceModule.MarkedAt`), and a marked function becomes `FunctionDecl.asKernel`.

The bridge between scan and change is that marking depends only on the parameters of a function,
which marking leaves alone. So a function may be marked any number of times and in any order, and
the functions that carrying out leaves behind are `DeviceModule.markedFunctions`
(`functions_markKernels`).
-/

namespace KernelMetadata

/-! ## Marks -/

/-- Whether a node marks an identity as a kernel: three operands, of which the second is the mark
and the first refers to the identity. -/
def Node.Marks (n : Node) (id : FunctionId) : Prop :=
  n.operands.length = 3 ∧ n.operands[1]? = some (.string Vocabulary.kernelMark) ∧
    n.operands[0]? = some (.function id)

instance (n : Node) (id : FunctionId) : Decidable (n.Marks id) :=
  inferInstanceAs (Decidable (_ ∧ _ ∧ _))

theorem Node.marks_iff {n : Node} {id : FunctionId} :
    n.Marks id ↔ n.marksKernel = true ∧ ∃ os, n.operands = .function id :: os := by
  obtain ⟨os⟩ := n
  rw [Node.Marks, Node.marksKernel]
  match os with
  | [] | [_] | [_, _] | _ :: _ :: _ :: _ :: _ => simp
  | [o, o', _] => cases o' <;> simp [and_comm]

namespace DeviceModule

/-- Whether a module is for an NVPTX target. -/
def isNvptx (m : DeviceModule) : Bool :=
  match Target.ofTriple m.triple with
  | .ok t => t.arch.isNvptx
  | .error _ => false

/-- Whether a module marks an identity as a kernel. Nothing is said of whether a function has it. -/
def Marks (m : DeviceModule) (id : FunctionId) : Prop :=
  m.isNvptx = true ∧ ∃ n ∈ m.nodes Vocabulary.nvptxAnnotations, n.Marks id

instance (m : DeviceModule) (id : FunctionId) : Decidable (m.Marks id) :=
  inferInstanceAs (Decidable (_ ∧ _))

/-- Whether no function before a place has an identity. -/
def FreshAt (fs : List FunctionDecl) (i : Nat) (id : FunctionId) : Prop :=
  ∀ g ∈ fs.take i, g.id ≠ id

instance (fs : List FunctionDecl) (i : Nat) (id : FunctionId) : Decidable (FreshAt fs i id) :=
  inferInstanceAs (Decidable (∀ g ∈ fs.take i, _))

/-- Whether the function at a place is marked: the module marks its identity, and it is the first
function with that identity. -/
def MarkedAt (m : DeviceModule) (i : Nat) : Prop :=
  ∃ f ∈ m.functions[i]?, m.Marks f.id ∧ FreshAt m.functions i f.id

instance (m : DeviceModule) (i : Nat) : Decidable (m.MarkedAt i) :=
  inferInstanceAs (Decidable (∃ f ∈ m.functions[i]?, _))

end DeviceModule

/-! ## The change -/

/-- A function as it becomes a kernel with the arguments `k`. -/
def KernelArgs.applyTo (k : KernelArgs) (f : FunctionDecl) : FunctionDecl :=
  { f with
    convention := .spirKernel
    metadata := ((f.metadata.insert Vocabulary.argAccessQualifiers k.accessQualifiers).insert
      Vocabulary.argTypes k.types).insert Vocabulary.argAddressSpaces k.addressSpaces }

/-- A function as marking leaves it. -/
def FunctionDecl.asKernel (f : FunctionDecl) : FunctionDecl := (KernelArgs.describe f).applyTo f

namespace FunctionDecl

@[simp] theorem id_asKernel (f : FunctionDecl) : f.asKernel.id = f.id := rfl

@[simp] theorem name_asKernel (f : FunctionDecl) : f.asKernel.name = f.name := rfl

@[simp] theorem params_asKernel (f : FunctionDecl) : f.asKernel.params = f.params := rfl

@[simp] theorem attributes_asKernel (f : FunctionDecl) :
    f.asKernel.attributes = f.attributes := rfl

@[simp] theorem isKernel_asKernel (f : FunctionDecl) : f.asKernel.isKernel = true := rfl

/-- Marking sets three keys and no other. -/
theorem get?_metadata_asKernel (f : FunctionDecl) (key : String) :
    f.asKernel.metadata.get? key =
      if key = Vocabulary.argAddressSpaces then some (KernelArgs.describe f).addressSpaces
      else if key = Vocabulary.argTypes then some (KernelArgs.describe f).types
      else if key = Vocabulary.argAccessQualifiers then
        some (KernelArgs.describe f).accessQualifiers
      else f.metadata.get? key := by
  rw [asKernel, KernelArgs.applyTo]
  simp only [NameMap.get?_insert, eq_comm (a := key)]

theorem applyTo_describe_asKernel (f : FunctionDecl) :
    (KernelArgs.describe f).applyTo f.asKernel = f.asKernel := by
  rw [asKernel, KernelArgs.applyTo, KernelArgs.applyTo, FunctionDecl.mk.injEq]
  refine ⟨rfl, rfl, rfl, rfl, rfl, NameMap.ext fun key ↦ ?_⟩
  simp only [NameMap.get?_insert]
  split_ifs <;> rfl

/-- A function can be marked again without effect. -/
@[simp] theorem asKernel_asKernel (f : FunctionDecl) : f.asKernel.asKernel = f.asKernel :=
  applyTo_describe_asKernel f

end FunctionDecl

/-! ## First functions

Look-up and change by identity concern the first function with the identity. The places where that
happens are described by place rather than by look-up, since only a place tells two functions with
one identity apart. -/

namespace DeviceModule

variable {fs : List FunctionDecl} {p q : FunctionId → Bool}
  {change change' : FunctionDecl → FunctionDecl}

/-- A reference resolves if some function has the identity, be it one or several. -/
theorem defines_iff {m : DeviceModule} {id : FunctionId} :
    m.defines id = true ↔ id ∈ m.functions.map FunctionDecl.id := by
  rw [defines, function?_isSome_iff, List.mem_map]

theorem freshAt_zero (fs : List FunctionDecl) (id : FunctionId) : FreshAt fs 0 id := by
  intro g hg
  rw [List.take_zero] at hg
  exact absurd hg List.not_mem_nil

theorem freshAt_cons_succ {f : FunctionDecl} {i : Nat} {id : FunctionId} :
    FreshAt (f :: fs) (i + 1) id ↔ f.id ≠ id ∧ FreshAt fs i id := by
  rw [FreshAt, List.take_succ_cons, List.forall_mem_cons, FreshAt]

/-- Freshness is a matter of the identities alone. -/
theorem freshAt_iff {i : Nat} {id : FunctionId} :
    FreshAt fs i id ↔ id ∉ (fs.map FunctionDecl.id).take i := by
  rw [FreshAt, ← List.map_take, List.mem_map, not_exists]
  exact forall_congr' fun g ↦ not_and.symm

theorem freshAt_congr {gs : List FunctionDecl}
    (h : gs.map FunctionDecl.id = fs.map FunctionDecl.id) (i : Nat) (id : FunctionId) :
    FreshAt gs i id ↔ FreshAt fs i id := by
  rw [freshAt_iff, freshAt_iff, h]

/-- Where no identity is repeated, every function is the first with its identity. -/
theorem freshAt_of_nodup {f : FunctionDecl} {i : Nat} (h : (fs.map FunctionDecl.id).Nodup)
    (hf : fs[i]? = some f) : FreshAt fs i f.id := by
  obtain ⟨hi, hget⟩ := List.getElem?_eq_some_iff.1
    (show (fs.map FunctionDecl.id)[i]? = some f.id by rw [List.getElem?_map, hf, Option.map_some])
  rw [freshAt_iff, List.mem_take_iff_getElem]
  rintro ⟨j, hj, heq⟩
  exact List.pairwise_iff_getElem.1 h j i (by omega) hi (by omega) (heq.trans hget.symm)

/-- Changes the functions that are the first with their identity, as far as `p` chooses the
identity. -/
def changeFirsts (p : FunctionId → Bool) (change : FunctionDecl → FunctionDecl)
    (fs : List FunctionDecl) : List FunctionDecl :=
  fs.mapIdx fun i f ↦ if p f.id = true ∧ FreshAt fs i f.id then change f else f

theorem getElem?_changeFirsts (p : FunctionId → Bool) (change : FunctionDecl → FunctionDecl)
    (fs : List FunctionDecl) (i : Nat) :
    (changeFirsts p change fs)[i]? = fs[i]?.map fun f ↦
      if p f.id = true ∧ FreshAt fs i f.id then change f else f :=
  List.getElem?_mapIdx

/-- A change by identity is a change by place. -/
theorem getElem?_modifyFirst (id : FunctionId) (change : FunctionDecl → FunctionDecl)
    (fs : List FunctionDecl) (i : Nat) :
    (modifyFirst id change fs)[i]? = fs[i]?.map fun f ↦
      if f.id = id ∧ FreshAt fs i id then change f else f := by
  induction fs generalizing i with
  | nil => rfl
  | cons f fs ih =>
    rw [modifyFirst]
    by_cases hf : f.id = id
    · rw [if_pos hf]
      cases i with
      | zero => simp [hf, freshAt_zero]
      | succ i => simp [hf, freshAt_cons_succ]
    · rw [if_neg hf]
      cases i with
      | zero => simp [hf]
      | succ i => simp [hf, ih, freshAt_cons_succ]

/-- The function that an identity resolves to is the one at the place where it is fresh. -/
theorem eq_of_find?_eq_some {id : FunctionId} {f g : FunctionDecl} {i : Nat}
    (hfind : fs.find? (fun g ↦ g.id = id) = some f) (hg : fs[i]? = some g) (hid : g.id = id)
    (hfresh : FreshAt fs i id) : g = f := by
  induction fs generalizing i with
  | nil => simp at hg
  | cons f' fs ih =>
    cases i with
    | zero =>
      rw [List.getElem?_cons_zero, Option.some_inj] at hg
      subst hg
      rw [List.find?_cons_of_pos (by simpa using hid), Option.some_inj] at hfind
      exact hfind
    | succ i =>
      obtain ⟨hne, hfresh⟩ := freshAt_cons_succ.1 hfresh
      rw [List.getElem?_cons_succ] at hg
      rw [List.find?_cons_of_neg (by simpa using hne)] at hfind
      exact ih hfind hg hfresh

/-- What the change of a function keeps is kept in the whole. -/
theorem map_changeFirsts {α : Type} {c : FunctionDecl → α} (h : ∀ f, c (change f) = c f) :
    (changeFirsts p change fs).map c = fs.map c := by
  refine List.ext_getElem? fun i ↦ ?_
  rw [List.getElem?_map, List.getElem?_map, getElem?_changeFirsts, Option.map_map]
  refine congrArg (fun c ↦ fs[i]?.map c) (funext fun f ↦ ?_)
  rw [Function.comp_apply]
  split_ifs
  · exact h f
  · rfl

theorem changeFirsts_congr (h : ∀ f ∈ fs, p f.id = q f.id) :
    changeFirsts p change fs = changeFirsts q change fs := by
  refine List.ext_getElem? fun i ↦ ?_
  rw [getElem?_changeFirsts, getElem?_changeFirsts]
  cases hi : fs[i]? with
  | none => rfl
  | some f => rw [Option.map_some, Option.map_some, h f (List.mem_of_getElem? hi)]

theorem changeFirsts_false (change : FunctionDecl → FunctionDecl) (fs : List FunctionDecl) :
    changeFirsts (fun _ ↦ false) change fs = fs := by
  refine List.ext_getElem? fun i ↦ ?_
  rw [getElem?_changeFirsts]
  simp

/-! ## One kernel, and all of them -/

theorem modifyFirst_modifyFirst (id : FunctionId) (h : ∀ f, (change f).id = f.id)
    (fs : List FunctionDecl) :
    modifyFirst id change' (modifyFirst id change fs) =
      modifyFirst id (fun f ↦ change' (change f)) fs := by
  induction fs with
  | nil => rfl
  | cons f fs ih =>
    by_cases hf : f.id = id
    · rw [modifyFirst, if_pos hf, modifyFirst, if_pos ((h f).trans hf), modifyFirst, if_pos hf]
    · rw [modifyFirst, if_neg hf, modifyFirst, if_neg hf, ih, modifyFirst, if_neg hf]

/-- The four edits for one kernel come down to one change. -/
theorem functions_replay_edits (m : DeviceModule) (k : KernelArgs) :
    (m.replay k.edits).value.functions = modifyFirst k.function k.applyTo m.functions := by
  rw [functions_replay, KernelArgs.edits]
  simp only [List.foldl_cons, List.foldl_nil, Edit.onFunctions]
  rw [modifyFirst_modifyFirst, modifyFirst_modifyFirst, modifyFirst_modifyFirst]
  · rfl
  all_goals exact fun _ ↦ rfl

theorem list?_replay_edits (m : DeviceModule) (k : KernelArgs) (name : String) :
    (m.replay k.edits).value.list? name = m.list? name := by
  rw [list?_replay, KernelArgs.edits]
  rfl

/-- **One kernel.** Where some first functions are kernels already, one more of them becomes one. -/
theorem modifyFirst_changeFirsts {f : FunctionDecl}
    (hf : fs.find? (fun g ↦ g.id = f.id) = some f) :
    modifyFirst f.id (KernelArgs.describe f).applyTo (changeFirsts p .asKernel fs) =
      changeFirsts (fun id ↦ p id || id = f.id) .asKernel fs := by
  refine List.ext_getElem? fun i ↦ ?_
  have hids : (changeFirsts p .asKernel fs).map FunctionDecl.id = fs.map FunctionDecl.id :=
    map_changeFirsts FunctionDecl.id_asKernel
  rw [getElem?_modifyFirst, getElem?_changeFirsts, getElem?_changeFirsts]
  simp only [freshAt_congr hids]
  cases hi : fs[i]? with
  | none => rfl
  | some g =>
    simp only [Option.map_some, Option.some_inj]
    by_cases hid : g.id = f.id
    · by_cases hfresh : FreshAt fs i f.id
      · -- the first function with the identity of `f` is `f` itself, marked before or not
        have hgf : g = f := eq_of_find?_eq_some hf hi hid hfresh
        subst hgf
        by_cases hp : p g.id = true
        · simp [hp, hfresh, FunctionDecl.applyTo_describe_asKernel]
        · simp [hp, hfresh, FunctionDecl.asKernel]
      · simp [hid, hfresh]
    · have hne : ∀ c : Prop, [Decidable c] → (if c then g.asKernel else g).id ≠ f.id := by
        intro c _
        split_ifs <;> exact hid
      rw [if_neg fun h ↦ hne _ h.1]
      simp [hid]

/-- **All kernels.** Where some first functions are kernels already, those with the identities of
more functions become ones. -/
theorem functions_markKernels {gs : List FunctionDecl} {m : DeviceModule}
    (hgs : ∀ g ∈ gs, fs.find? (fun g' ↦ g'.id = g.id) = some g)
    (hm : m.functions = changeFirsts p .asKernel fs) :
    (Plan.markKernels m (gs.map KernelArgs.describe)).value.functions =
      changeFirsts (fun id ↦ p id || gs.any fun g ↦ id = g.id) .asKernel fs := by
  -- the identities marked so far are collected in `p`
  induction gs generalizing m p with
  | nil =>
    rw [List.map_nil, Plan.markKernels, Logged.value_pure, hm]
    exact changeFirsts_congr fun f _ ↦ by simp
  | cons g gs ih =>
    have hstep : (m.replay (KernelArgs.describe g).edits).value.functions =
        changeFirsts (fun id ↦ p id || id = g.id) .asKernel fs := by
      rw [functions_replay_edits, hm]
      exact modifyFirst_changeFirsts (hgs g List.mem_cons_self)
    rw [List.map_cons, Plan.markKernels, Logged.value_bind, Logged.value_bind,
      ih (fun g' hg' ↦ hgs g' (List.mem_cons_of_mem _ hg')) hstep]
    exact changeFirsts_congr fun f _ ↦ by simp [Bool.or_assoc]

theorem list?_markKernels (m : DeviceModule) (ks : List KernelArgs) (name : String) :
    (Plan.markKernels m ks).value.list? name = m.list? name := by
  induction ks generalizing m with
  | nil => rfl
  | cons k ks ih =>
    rw [Plan.markKernels, Logged.value_bind, Logged.value_bind, ih, list?_replay_edits]

theorem triple_markKernels (m : DeviceModule) (ks : List KernelArgs) :
    (Plan.markKernels m ks).value.triple = m.triple := by
  induction ks generalizing m with
  | nil => rfl
  | cons k ks ih =>
    rw [Plan.markKernels, Logged.value_bind, Logged.value_bind, ih, triple_replay]

/-! ## The planned kernels -/

theorem mem_of_mem_distinctFunctions {seen : List FunctionId} {f : FunctionDecl}
    (h : f ∈ distinctFunctions seen fs) : f ∈ fs := by
  induction fs generalizing seen with
  | nil => exact absurd h List.not_mem_nil
  | cons f' fs ih =>
    rw [distinctFunctions] at h
    split at h
    · exact List.mem_cons_of_mem _ (ih h)
    · rcases List.mem_cons.1 h with rfl | h
      · exact List.mem_cons_self
      · exact List.mem_cons_of_mem _ (ih h)

/-- Dropping repetitions loses no identity. -/
theorem mem_map_id_distinctFunctions {seen : List FunctionId} {id : FunctionId} :
    id ∈ (distinctFunctions seen fs).map FunctionDecl.id ↔
      id ∈ fs.map FunctionDecl.id ∧ id ∉ seen := by
  induction fs generalizing seen with
  | nil => simp [distinctFunctions]
  | cons f fs ih =>
    rw [distinctFunctions]
    by_cases hf : f.id ∈ seen
    · rw [if_pos hf, ih, List.map_cons, List.mem_cons]
      constructor
      · rintro ⟨hid, hseen⟩
        exact ⟨.inr hid, hseen⟩
      · rintro ⟨rfl | hid, hseen⟩
        · exact absurd hf hseen
        · exact ⟨hid, hseen⟩
    · rw [if_neg hf, List.map_cons, List.map_cons, List.mem_cons, List.mem_cons, ih, List.mem_cons,
        not_or]
      by_cases hid : id = f.id
      · subst hid
        simp [hf]
      · simp [hid]

theorem firstOperandFunction?_eq_some_iff {m : DeviceModule} {n : Node} {f : FunctionDecl} :
    m.firstOperandFunction? n = some f ↔
      m.function? f.id = some f ∧ ∃ os, n.operands = .function f.id :: os := by
  obtain ⟨os⟩ := n
  rw [firstOperandFunction?]
  match os with
  | .function id :: os =>
    simp only [List.cons.injEq, Operand.function.injEq, exists_and_left, exists_eq', and_true]
    constructor
    · intro h
      have hid : f.id = id := by simpa using List.find?_some h
      rw [hid]
      exact ⟨h, rfl⟩
    · rintro ⟨h, rfl⟩
      exact h
  | [] | .int _ :: _ | .string _ :: _ | .undef _ :: _ => simp

theorem function?_of_mem_annotatedKernels {m : DeviceModule} {f : FunctionDecl}
    (h : f ∈ m.annotatedKernels.value) : m.function? f.id = some f := by
  obtain ⟨n, -, hn⟩ := List.mem_filterMap.1 (mem_of_mem_distinctFunctions h)
  exact (firstOperandFunction?_eq_some_iff.1 hn).1

/-- The planned kernels have the identities that some annotation marks, as far as they resolve. -/
theorem mem_map_id_annotatedKernels {m : DeviceModule} {id : FunctionId} :
    id ∈ m.annotatedKernels.value.map FunctionDecl.id ↔
      (∃ n ∈ m.nodes Vocabulary.nvptxAnnotations, n.Marks id) ∧ m.defines id = true := by
  rw [annotatedKernels, mem_map_id_distinctFunctions, kernelMarks, defines]
  simp only [List.mem_map, List.mem_filterMap, List.mem_filter, List.not_mem_nil,
    not_false_eq_true, and_true, Node.marks_iff, firstOperandFunction?_eq_some_iff,
    Option.isSome_iff_exists]
  constructor
  · rintro ⟨f, ⟨n, ⟨hn, hmark⟩, hf, hos⟩, rfl⟩
    exact ⟨⟨n.1, List.mem_of_getElem? (List.mem_zipIdx_iff_getElem?.1 hn), hmark, hos⟩, f, hf⟩
  · rintro ⟨⟨n, hn, hmark, hos⟩, f, hf⟩
    have hid : f.id = id := by simpa using List.find?_some hf
    subst hid
    obtain ⟨i, hi⟩ := List.mem_iff_getElem?.1 hn
    exact ⟨f, ⟨(n, i), ⟨List.mem_zipIdx_iff_getElem?.2 hi, hmark⟩, hf, hos⟩, rfl⟩

/-- The kernels that are planned for a module. -/
def plannedKernels (m : DeviceModule) : List KernelArgs :=
  if m.isNvptx then m.annotatedKernels.value.map KernelArgs.describe else []

/-- The functions of a module with the marked ones changed. -/
def changeMarked (m : DeviceModule) (change : FunctionDecl → FunctionDecl) : List FunctionDecl :=
  m.functions.mapIdx fun i f ↦ if m.MarkedAt i then change f else f

/-- The functions of a module with the marked ones turned into kernels. -/
def markedFunctions (m : DeviceModule) : List FunctionDecl := m.changeMarked .asKernel

theorem getElem?_changeMarked (m : DeviceModule) (change : FunctionDecl → FunctionDecl) (i : Nat) :
    (m.changeMarked change)[i]? = m.functions[i]?.map fun f ↦
      if m.MarkedAt i then change f else f :=
  List.getElem?_mapIdx

theorem markedAt_iff {m : DeviceModule} {i : Nat} {f : FunctionDecl}
    (h : m.functions[i]? = some f) :
    m.MarkedAt i ↔ m.Marks f.id ∧ FreshAt m.functions i f.id := by
  rw [MarkedAt, h]
  simp

/-- Which functions are marked is a matter of the identities and of the marks that resolve. -/
theorem markedAt_congr {m n : DeviceModule}
    (hids : m.functions.map FunctionDecl.id = n.functions.map FunctionDecl.id)
    (hmarks : ∀ id ∈ m.functions.map FunctionDecl.id, m.Marks id ↔ n.Marks id) (i : Nat) :
    m.MarkedAt i ↔ n.MarkedAt i := by
  have hiff : ∀ k : DeviceModule, k.MarkedAt i ↔
      ∃ id ∈ (k.functions.map FunctionDecl.id)[i]?,
        k.Marks id ∧ id ∉ (k.functions.map FunctionDecl.id).take i := by
    intro k
    rw [MarkedAt, List.getElem?_map]
    cases k.functions[i]? with
    | none => simp
    | some f => simp [freshAt_iff]
  rw [hiff m, hiff n, ← hids]
  refine exists_congr fun id ↦ and_congr_right fun hid ↦ ?_
  rw [hmarks id (List.mem_of_getElem? hid)]

/-- Of two modules that mark the same places, the same functions are changed. -/
theorem changeMarked_congr {m n : DeviceModule} (hfunctions : m.functions = n.functions)
    (hmarked : ∀ i, m.MarkedAt i ↔ n.MarkedAt i) (change : FunctionDecl → FunctionDecl) :
    m.changeMarked change = n.changeMarked change := by
  simp only [changeMarked, hfunctions, hmarked]

theorem changeFirsts_marks (m : DeviceModule) (change : FunctionDecl → FunctionDecl) :
    changeFirsts (fun id ↦ m.Marks id) change m.functions = m.changeMarked change := by
  refine List.ext_getElem? fun i ↦ ?_
  rw [getElem?_changeFirsts, getElem?_changeMarked]
  cases h : m.functions[i]? with
  | none => rfl
  | some f => simp only [Option.map_some, markedAt_iff h, decide_eq_true_eq]

theorem map_changeMarked {α : Type} (m : DeviceModule) {c : FunctionDecl → α}
    (h : ∀ f, c (change f) = c f) : (m.changeMarked change).map c = m.functions.map c := by
  rw [← changeFirsts_marks, map_changeFirsts h]

/-- Two changes of the marked functions are compared function by function. -/
theorem forall₂_changeMarked {m : DeviceModule} {r : FunctionDecl → FunctionDecl → Prop}
    (hsame : ∀ f, r f f) (hmarked : ∀ f, r (change f) (change' f)) :
    List.Forall₂ r (m.changeMarked change) (m.changeMarked change') := by
  rw [List.forall₂_iff_get]
  refine ⟨by simp [changeMarked], fun i h h' ↦ ?_⟩
  simp only [List.get_eq_getElem, changeMarked, List.getElem_mapIdx]
  split_ifs
  · exact hmarked _
  · exact hsame _

/-- **What is planned is what is marked.** Carrying out the plan for a module on its functions, also
after its lists have changed, turns exactly the marked functions into kernels. -/
theorem functions_markKernels_plannedKernels {m m' : DeviceModule}
    (h : m'.functions = m.functions) :
    (Plan.markKernels m' m.plannedKernels).value.functions = m.markedFunctions := by
  rw [plannedKernels, markedFunctions, ← changeFirsts_marks]
  by_cases hm : m.isNvptx = true
  · have hfs : m'.functions = changeFirsts (fun _ ↦ false) .asKernel m.functions := by
      rw [changeFirsts_false, h]
    rw [if_pos hm, functions_markKernels (fun g hg ↦ function?_of_mem_annotatedKernels hg) hfs]
    refine changeFirsts_congr fun f hf ↦ ?_
    have hdef : m.defines f.id = true := function?_isSome_iff.2 ⟨f, hf, rfl⟩
    have hmem : f.id ∈ m.annotatedKernels.value.map FunctionDecl.id ↔
        (∃ n ∈ m.nodes Vocabulary.nvptxAnnotations, n.Marks f.id) ∧ m.defines f.id = true :=
      mem_map_id_annotatedKernels
    rw [Bool.eq_iff_iff, Bool.false_or, List.any_eq_true, decide_eq_true_iff, Marks]
    simpa [hdef, hm, eq_comm] using hmem
  · have hnone : ∀ f ∈ m.functions, decide (m.Marks f.id) = false := by
      intro f _
      exact decide_eq_false fun hmarks ↦ hm hmarks.1
    rw [if_neg hm, Plan.markKernels, Logged.value_pure, h,
      changeFirsts_congr (q := fun _ ↦ false) hnone, changeFirsts_false]

theorem map_id_markedFunctions (m : DeviceModule) :
    m.markedFunctions.map FunctionDecl.id = m.functions.map FunctionDecl.id :=
  m.map_changeMarked FunctionDecl.id_asKernel

/-- Marking keeps identities and names. -/
theorem exists_of_mem_markedFunctions {m : DeviceModule} {f : FunctionDecl}
    (h : f ∈ m.markedFunctions) :
    ∃ g ∈ m.functions, f.id = g.id ∧ f.name = g.name := by
  obtain ⟨i, hi⟩ := List.mem_iff_getElem?.1 h
  rw [markedFunctions, getElem?_changeMarked, Option.map_eq_some_iff] at hi
  obtain ⟨g, hg, rfl⟩ := hi
  refine ⟨g, List.mem_of_getElem? hg, ?_⟩
  split_ifs
  · exact ⟨g.id_asKernel, g.name_asKernel⟩
  · exact ⟨rfl, rfl⟩

end DeviceModule

end KernelMetadata
