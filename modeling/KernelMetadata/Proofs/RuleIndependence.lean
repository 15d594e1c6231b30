import KernelMetadata.Proofs.Refusal
import KernelMetadata.Proofs.Run
import Mathlib.Data.List.Nodup

/-!
# Rules do not interfere

An annotation that is missing, changed or unreadable concerns the one rule that looks at it and the
one function that carries it. To say so, two runs are compared: on a module, and on the same module
with one annotation of one function exchanged (`FunctionDecl.AgreeBut`,
`DeviceModule.withFunction`). Everything that the runs leave behind is the same but for that
annotation, for one block of execution modes, and for one report of a skipped rule
(`DeviceModule.rules_do_not_interfere`).

That lists agree but for one block (`DifferByBlock`) is what carries the argument through the loops:
the entry points of the two modules differ by one function, hence the walk of a group over them by
what the group yields on this function, hence by what one rule yields on it, since all keys in the
tables are different.
-/

namespace KernelMetadata

/-! ## Lists that agree but for one block -/

/-- Whether two lists are the same but for a block `b` in the one, in the place of which the other
has `b'`. -/
def DifferByBlock {α : Type} (b b' xs ys : List α) : Prop :=
  ∃ before after, xs = before ++ b ++ after ∧ ys = before ++ b' ++ after

namespace DifferByBlock

variable {α β : Type} {b b' c c' xs ys : List α}

theorem append_left (zs : List α) (h : DifferByBlock b b' xs ys) :
    DifferByBlock b b' (zs ++ xs) (zs ++ ys) := by
  obtain ⟨before, after, rfl, rfl⟩ := h
  exact ⟨zs ++ before, after, by simp, by simp⟩

theorem append_right (zs : List α) (h : DifferByBlock b b' xs ys) :
    DifferByBlock b b' (xs ++ zs) (ys ++ zs) := by
  obtain ⟨before, after, rfl, rfl⟩ := h
  exact ⟨before, after ++ zs, by simp, by simp⟩

theorem flatMap (f : α → List β) (h : DifferByBlock b b' xs ys) :
    DifferByBlock (b.flatMap f) (b'.flatMap f) (xs.flatMap f) (ys.flatMap f) := by
  obtain ⟨before, after, rfl, rfl⟩ := h
  exact ⟨before.flatMap f, after.flatMap f, by simp, by simp⟩

theorem map (f : α → β) (h : DifferByBlock b b' xs ys) :
    DifferByBlock (b.map f) (b'.map f) (xs.map f) (ys.map f) := by
  obtain ⟨before, after, rfl, rfl⟩ := h
  exact ⟨before.map f, after.map f, by simp, by simp⟩

theorem filter (p : α → Bool) (h : DifferByBlock b b' xs ys) :
    DifferByBlock (b.filter p) (b'.filter p) (xs.filter p) (ys.filter p) := by
  obtain ⟨before, after, rfl, rfl⟩ := h
  exact ⟨before.filter p, after.filter p, by simp, by simp⟩

/-- Lists of which one member is exchanged, each member with its place. -/
theorem zipIdx_set {i : Nat} {x : α} (hx : xs[i]? = some x) (y : α) :
    DifferByBlock [(x, i)] [(y, i)] xs.zipIdx (xs.set i y).zipIdx := by
  obtain ⟨hi, rfl⟩ := List.getElem?_eq_some_iff.1 hx
  obtain ⟨before, after, hxs, rfl, hset⟩ := @List.exists_of_set _ _ y _ hi
  refine ⟨before.zipIdx, after.zipIdx (before.length + 1), ?_, ?_⟩
  · conv_lhs => rw [hxs]
    simp [List.zipIdx_append]
  · rw [hset]
    simp [List.zipIdx_append]

/-- Blocks that differ by smaller blocks. -/
theorem trans (h : DifferByBlock b b' xs ys) (hb : DifferByBlock c c' b b') :
    DifferByBlock c c' xs ys := by
  obtain ⟨before, after, rfl, rfl⟩ := h
  exact (hb.append_left before).append_right after

theorem nil_of_eq (h : xs = ys) : DifferByBlock [] [] xs ys :=
  ⟨xs, [], by simp, by simp [h]⟩

theorem eq (h : DifferByBlock b b xs ys) : xs = ys := by
  obtain ⟨before, after, rfl, rfl⟩ := h
  rfl

/-- Walks over one list with two functions that differ at one place of it. -/
theorem of_flatMap {f g : β → List α} {before after : List β} {x : β}
    (h : ∀ y ∈ before ++ after, f y = g y) :
    DifferByBlock (f x) (g x) ((before ++ x :: after).flatMap f)
      ((before ++ x :: after).flatMap g) := by
  refine ⟨before.flatMap f, after.flatMap f, by simp, ?_⟩
  rw [List.flatMap_append, List.flatMap_cons, List.append_assoc,
    List.flatMap_congr fun y hy ↦ h y (List.mem_append_left _ hy),
    List.flatMap_congr fun y hy ↦ h y (List.mem_append_right _ hy)]

end DifferByBlock

/-! ## Functions that agree but for one annotation -/

/-- Whether two functions are the same but for the annotation at a key, which either may lack. -/
structure FunctionDecl.AgreeBut (key : AnnotationKey) (f g : FunctionDecl) : Prop where
  id : f.id = g.id
  name : f.name = g.name
  params : f.params = g.params
  convention : f.convention = g.convention
  annotation : ∀ other ≠ key, f.annotation? other = g.annotation? other

namespace FunctionDecl.AgreeBut

variable {key : AnnotationKey} {f g : FunctionDecl}

theorem isKernel_eq (h : f.AgreeBut key g) : f.isKernel = g.isKernel := by
  rw [FunctionDecl.isKernel, FunctionDecl.isKernel, h.convention]

/-- Marking writes the same to both. -/
theorem asKernel (h : f.AgreeBut key g) : f.asKernel.AgreeBut key g.asKernel := by
  refine ⟨h.id, h.name, h.params, rfl, fun other hother ↦ ?_⟩
  have hannotation := h.annotation other hother
  cases other with
  | attr name => exact hannotation
  | metadata name =>
    simp only [FunctionDecl.annotation?, get?_metadata_asKernel, KernelArgs.describe,
      h.params] at hannotation ⊢
    split_ifs
    · rfl
    · rfl
    · rfl
    · exact hannotation

end FunctionDecl.AgreeBut

/-! ## One rule -/

namespace Rule

variable {r : Rule} {key : AnnotationKey} {f g : FunctionDecl}

theorem recordsOn_congr (hr : r.key ≠ key) (h : f.AgreeBut key g) :
    r.recordsOn f = r.recordsOn g := by
  rw [recordsOn, recordsOn, h.annotation _ hr, h.id]

theorem skippedOn?_congr (hr : r.key ≠ key) (h : f.AgreeBut key g) :
    r.skippedOn? f = r.skippedOn? g := by
  rw [skippedOn?, skippedOn?, h.annotation _ hr, h.name]

end Rule

/-! ## Walks over groups, functions and rules -/

namespace RuleGroup

/-- No two rules look at the same annotation. -/
theorem nodup_keys : ((all.flatMap rules).map Rule.key).Nodup := by
  decide

/-- Walks through groups, functions and rules, collecting what each rule yields. -/
def walk {α : Type} (c : Rule → FunctionDecl → List α) (fs : List FunctionDecl) : List α :=
  all.flatMap fun g ↦ fs.flatMap fun f ↦ g.rules.flatMap fun r ↦ c r f

/-- In the tables as they stand, the rules before and after a rule look at other annotations. -/
theorem key_ne_of_split {g : RuleGroup} {r : Rule} {gs₁ gs₂ : List RuleGroup} {rs₁ rs₂ : List Rule}
    (hall : all = gs₁ ++ g :: gs₂) (hrules : g.rules = rs₁ ++ r :: rs₂) :
    ∀ r' ∈ gs₁.flatMap rules ++ rs₁ ++ (rs₂ ++ gs₂.flatMap rules), r'.key ≠ r.key := by
  have hsplit : all.flatMap rules =
      gs₁.flatMap rules ++ rs₁ ++ r :: (rs₂ ++ gs₂.flatMap rules) := by
    rw [hall, List.flatMap_append, List.flatMap_cons, hrules]
    simp
  have hnodup := nodup_keys
  rw [hsplit, List.map_append, List.map_cons, List.nodup_middle, ← List.map_append,
    List.nodup_cons] at hnodup
  intro r' hr' heq
  exact hnodup.1 (heq ▸ List.mem_map_of_mem hr')

variable {α : Type} {c : Rule → FunctionDecl → List α} {g : RuleGroup} {r : Rule}
  {f f' : FunctionDecl} {fs fs' : List FunctionDecl}

/-- **A walk notices an annotation in one place.** Where two lists of functions differ in one
function, and only one rule makes a difference between the two functions, the walks differ by what
this rule yields on them. -/
theorem differByBlock_walk (hg : g ∈ all) (hr : r ∈ g.rules)
    (hc : ∀ r' : Rule, r'.key ≠ r.key → c r' f = c r' f')
    (hfs : DifferByBlock [f] [f'] fs fs') :
    DifferByBlock (c r f) (c r f') (walk c fs) (walk c fs') := by
  obtain ⟨gs₁, gs₂, hall⟩ := List.append_of_mem hg
  obtain ⟨rs₁, rs₂, hrules⟩ := List.append_of_mem hr
  have hother := key_ne_of_split hall hrules
  simp only [List.mem_append, List.mem_flatMap] at hother
  -- what one group yields differs by what it yields on the one function
  have hgroup : ∀ g' : RuleGroup,
      DifferByBlock (g'.rules.flatMap fun r ↦ c r f) (g'.rules.flatMap fun r ↦ c r f')
        (fs.flatMap fun f ↦ g'.rules.flatMap fun r ↦ c r f)
        (fs'.flatMap fun f ↦ g'.rules.flatMap fun r ↦ c r f) := by
    intro g'
    simpa using hfs.flatMap fun f ↦ g'.rules.flatMap fun r ↦ c r f
  rw [walk, walk, hall]
  refine (DifferByBlock.of_flatMap fun g' hg' ↦ ?_).trans ((hgroup g).trans ?_)
  · have hsame : (g'.rules.flatMap fun r ↦ c r f) = g'.rules.flatMap fun r ↦ c r f' := by
      refine List.flatMap_congr fun r' hr' ↦ hc r' (hother r' ?_)
      rcases List.mem_append.1 hg' with hg' | hg'
      · exact .inl (.inl ⟨g', hg', hr'⟩)
      · exact .inr (.inr ⟨g', hg', hr'⟩)
    have hblock := hgroup g'
    rw [hsame] at hblock
    exact hblock.eq
  · rw [hrules]
    refine DifferByBlock.of_flatMap fun r' hr' ↦ hc r' (hother r' ?_)
    rcases List.mem_append.1 hr' with hr' | hr'
    · exact .inl (.inr hr')
    · exact .inr (.inl hr')

theorem walk_recordsOn (m : DeviceModule) : walk Rule.recordsOn m.entryPoints = m.modes := by
  rw [walk, all, List.flatMap_cons, List.flatMap_cons, List.flatMap_nil, List.append_nil]
  rfl

theorem walk_skippedOn (m : DeviceModule) :
    walk (fun r f ↦ (r.skippedOn? f).toList) m.entryPoints = m.skips := by
  have hgroup : ∀ g : RuleGroup, (fun f ↦ g.rules.flatMap fun r ↦ (r.skippedOn? f).toList) =
      g.skippedOn := by
    intro g
    funext f
    rw [skippedOn, List.filterMap_eq_flatMap_toList]
  simp only [walk, all, List.flatMap_cons, List.flatMap_nil, List.append_nil, hgroup]
  rfl

end RuleGroup

namespace DeviceModule

variable {options : Options} {m : DeviceModule} {t : Target} {i : Nat} {key : AnnotationKey}
  {f g : FunctionDecl}

/-! ## Two modules that agree but for one annotation -/

/-- A module with another function at a place. -/
def withFunction (m : DeviceModule) (i : Nat) (f : FunctionDecl) : DeviceModule :=
  { m with functions := m.functions.set i f }

/-- Whether a place is that of a kernel or of a function that is marked. -/
def EntryAt (m : DeviceModule) (i : Nat) : Prop :=
  (∃ f ∈ m.functions[i]?, f.isKernel = true) ∨ m.MarkedAt i

instance (m : DeviceModule) (i : Nat) : Decidable (m.EntryAt i) :=
  inferInstanceAs (Decidable ((∃ f ∈ m.functions[i]?, _) ∨ _))

/-- The block of execution modes that a rule yields on the function at a place. -/
def recordsAt (m : DeviceModule) (r : Rule) (i : Nat) : List KernelMode :=
  if m.EntryAt i then m.functions[i]?.toList.flatMap r.recordsOn else []

/-- The report of a rule on the function at a place. -/
def skippedAt? (m : DeviceModule) (r : Rule) (i : Nat) : Option SkippedRule :=
  if m.EntryAt i then m.functions[i]?.bind r.skippedOn? else none

theorem map_id_withFunction (hf : m.functions[i]? = some f) (h : f.id = g.id) :
    (m.withFunction i g).functions.map FunctionDecl.id = m.functions.map FunctionDecl.id := by
  refine List.ext_getElem? fun j ↦ ?_
  rw [withFunction, List.map_set, List.getElem?_set']
  split_ifs with hij
  · subst hij
    rw [List.getElem?_map, hf, ← h]
    rfl
  · rfl

theorem markedAt_withFunction (hf : m.functions[i]? = some f) (h : f.id = g.id) (j : Nat) :
    (m.withFunction i g).MarkedAt j ↔ m.MarkedAt j :=
  markedAt_congr (map_id_withFunction hf h) (fun _ _ ↦ Iff.rfl) j

theorem getElem?_withFunction (hf : m.functions[i]? = some f) :
    (m.withFunction i g).functions[i]? = some g :=
  List.getElem?_set_self (List.getElem?_eq_some_iff.1 hf).1

theorem entryAt_iff (hf : m.functions[i]? = some f) :
    m.EntryAt i ↔ f.isKernel = true ∨ m.MarkedAt i := by
  rw [EntryAt, hf]
  simp

/-- The entry points of two modules that agree but for one function agree but for that function. -/
theorem differByBlock_entryPoints (hf : m.functions[i]? = some f) (h : f.AgreeBut key g) :
    DifferByBlock (if m.EntryAt i then [f] else []) (if m.EntryAt i then [g] else [])
      m.entryPoints (m.withFunction i g).entryPoints := by
  have hblock := ((DifferByBlock.zipIdx_set hf g).filter
    fun x ↦ x.1.isKernel || decide (m.MarkedAt x.2)).map Prod.fst
  have hentry : (f.isKernel || decide (m.MarkedAt i)) = decide (m.EntryAt i) := by
    rw [Bool.eq_iff_iff, decide_eq_true_iff, entryAt_iff hf]
    simp
  have hone : ∀ f' : FunctionDecl, f'.isKernel = f.isKernel →
      ([(f', i)].filter fun x ↦ x.1.isKernel || decide (m.MarkedAt x.2)).map Prod.fst =
        if m.EntryAt i then [f'] else [] := by
    intro f' hkernel
    rw [List.filter_singleton, hkernel, hentry]
    by_cases hi : m.EntryAt i <;> simp [hi]
  rw [hone f rfl, hone g h.isKernel_eq.symm] at hblock
  simp only [entryPoints, markedAt_withFunction hf h.id]
  exact hblock

theorem entryAt_withFunction (hf : m.functions[i]? = some f) (h : f.AgreeBut key g) :
    (m.withFunction i g).EntryAt i ↔ m.EntryAt i := by
  rw [entryAt_iff (getElem?_withFunction hf), entryAt_iff hf, h.isKernel_eq,
    markedAt_withFunction hf h.id]

theorem recordsAt_eq (hf : m.functions[i]? = some f) (r : Rule) :
    m.recordsAt r i = if m.EntryAt i then r.recordsOn f else [] := by
  rw [recordsAt, hf]
  simp

theorem skippedAt?_eq (hf : m.functions[i]? = some f) (r : Rule) :
    m.skippedAt? r i = if m.EntryAt i then r.skippedOn? f else none := by
  rw [skippedAt?, hf]
  rfl

variable {group : RuleGroup} {r : Rule}

/-- What a walk collects from two modules that agree but for one annotation. -/
theorem differByBlock_walk_entryPoints {α : Type} {c : Rule → FunctionDecl → List α}
    (hgroup : group ∈ RuleGroup.all) (hr : r ∈ group.rules) (hf : m.functions[i]? = some f)
    (h : f.AgreeBut r.key g)
    (hc : ∀ r' : Rule, r'.key ≠ r.key → c r' f = c r' g) :
    DifferByBlock (if m.EntryAt i then c r f else []) (if m.EntryAt i then c r g else [])
      (RuleGroup.walk c m.entryPoints)
      (RuleGroup.walk c (m.withFunction i g).entryPoints) := by
  have hentry := differByBlock_entryPoints hf h
  split_ifs at hentry ⊢
  · exact RuleGroup.differByBlock_walk hgroup hr hc hentry
  · exact .nil_of_eq (congrArg _ hentry.eq)

theorem differByBlock_modes (hgroup : group ∈ RuleGroup.all) (hr : r ∈ group.rules)
    (hf : m.functions[i]? = some f) (h : f.AgreeBut r.key g) :
    DifferByBlock (m.recordsAt r i) ((m.withFunction i g).recordsAt r i) m.modes
      (m.withFunction i g).modes := by
  have hwalk := differByBlock_walk_entryPoints hgroup hr hf h fun _ hr' ↦ Rule.recordsOn_congr hr' h
  rw [RuleGroup.walk_recordsOn, RuleGroup.walk_recordsOn] at hwalk
  simpa only [recordsAt_eq hf, recordsAt_eq (getElem?_withFunction hf),
    entryAt_withFunction hf h] using hwalk

theorem differByBlock_skips (hgroup : group ∈ RuleGroup.all) (hr : r ∈ group.rules)
    (hf : m.functions[i]? = some f) (h : f.AgreeBut r.key g) :
    DifferByBlock (m.skippedAt? r i).toList ((m.withFunction i g).skippedAt? r i).toList m.skips
      (m.withFunction i g).skips := by
  have hwalk := differByBlock_walk_entryPoints (c := fun r f ↦ (r.skippedOn? f).toList)
    hgroup hr hf h fun _ hr' ↦ congrArg Option.toList (Rule.skippedOn?_congr hr' h)
  rw [RuleGroup.walk_skippedOn, RuleGroup.walk_skippedOn] at hwalk
  rw [skippedAt?_eq hf, skippedAt?_eq (getElem?_withFunction hf)]
  simp only [entryAt_withFunction hf h]
  split_ifs at hwalk ⊢
  · exact hwalk
  · exact hwalk

theorem map_id_entryPoints_withFunction (hf : m.functions[i]? = some f) (h : f.AgreeBut key g) :
    (m.withFunction i g).entryPoints.map FunctionDecl.id =
      m.entryPoints.map FunctionDecl.id := by
  have hentry := (differByBlock_entryPoints hf h).map FunctionDecl.id
  split_ifs at hentry
  · rw [List.map_singleton, List.map_singleton, h.id] at hentry
    exact hentry.eq.symm
  · exact hentry.eq.symm

/-! ## The two results -/

/-- A function as a run leaves it behind, marked or not. -/
def runFunction (m : DeviceModule) (i : Nat) (f : FunctionDecl) : FunctionDecl :=
  if m.MarkedAt i then f.asKernel else f

theorem agreeBut_runFunction (m : DeviceModule) (i : Nat) (h : f.AgreeBut key g) :
    (m.runFunction i f).AgreeBut key (m.runFunction i g) := by
  rw [runFunction, runFunction]
  split_ifs
  · exact h.asKernel
  · exact h

theorem annotation?_runFunction (m : DeviceModule) (i : Nat) (f : FunctionDecl)
    (hkey : key.name ∉ FunctionDecl.argumentKeys) :
    (m.runFunction i f).annotation? key = f.annotation? key := by
  rw [runFunction]
  split_ifs
  · exact f.annotation?_asKernel hkey
  · rfl

theorem getElem?_markedFunctions (hf : m.functions[i]? = some f) :
    m.markedFunctions[i]? = some (m.runFunction i f) := by
  rw [markedFunctions, getElem?_changeMarked, hf]
  rfl

theorem markedFunctions_withFunction (hf : m.functions[i]? = some f) (h : f.id = g.id) :
    (m.withFunction i g).markedFunctions = m.markedFunctions.set i (m.runFunction i g) := by
  simp only [markedFunctions, changeMarked, markedAt_withFunction hf h]
  rw [withFunction, List.mapIdx_set, runFunction]

/-- **Rules do not interfere.** Where one annotation that a rule looks at is exchanged on one
function, both runs succeed or both fail alike. If they succeed, the execution modes of the two
results are the same but for the block that the rule yields on this function, and the skipped rules
are the same but for the report of the rule on it. The kernels and all other lists are the same, and
so are the functions but for the annotation, which both runs leave as it was. -/
theorem rules_do_not_interfere (options : Options) (hgroup : group ∈ RuleGroup.all)
    (hr : r ∈ group.rules) (hf : m.functions[i]? = some f) (h : f.AgreeBut r.key g) :
    let n := m.withFunction i g
    (∀ e, (m.transcribe options).outcome = .error e ↔ (n.transcribe options).outcome = .error e) ∧
      ∀ report, (m.transcribe options).outcome = .ok report →
        ∃ report', (n.transcribe options).outcome = .ok report' ∧
          (∃ ns ns', (m.transcribe options).result.list? Vocabulary.executionModes = some ns ∧
            (n.transcribe options).result.list? Vocabulary.executionModes = some ns' ∧
            DifferByBlock ((m.recordsAt r i).map KernelMode.node)
              ((n.recordsAt r i).map KernelMode.node) ns ns') ∧
          DifferByBlock (m.skippedAt? r i).toList (n.skippedAt? r i).toList report.skipped
            report'.skipped ∧
          report'.kernels = report.kernels ∧
          (∀ name ≠ Vocabulary.executionModes,
            (n.transcribe options).result.list? name = (m.transcribe options).result.list? name) ∧
          ∃ f' g', (m.transcribe options).result.functions[i]? = some f' ∧
            (n.transcribe options).result.functions =
              (m.transcribe options).result.functions.set i g' ∧
            f'.AgreeBut r.key g' ∧ f'.annotation? r.key = f.annotation? r.key ∧
            g'.annotation? r.key = g.annotation? r.key := by
  intro n
  refine ⟨fun e ↦ ?_, fun report hreport ↦ ?_⟩
  · rw [outcome_eq_error_iff, outcome_eq_error_iff]
    exact refused_congr rfl rfl
  · obtain ⟨t, hm⟩ := exists_isFor_of_outcome hreport
    have htriple : n.triple = m.triple := rfl
    have hlists : ∀ name, n.list? name = m.list? name := fun _ ↦ rfl
    have hn : n.IsFor t := hm.congr htriple (congrArg Option.isSome (hlists _))
    have hkey : r.key.name ∉ FunctionDecl.argumentKeys := RuleGroup.name_key_notMem hgroup hr
    refine ⟨_, outcome_of_isFor options hn, ⟨_, _, list?_result_executionModes options hm,
      list?_result_executionModes options hn, ?_⟩, ?_, ?_, fun name hname ↦ ?_,
      m.runFunction i f, m.runFunction i g, ?_, ?_, agreeBut_runFunction m i h,
      annotation?_runFunction m i f hkey, annotation?_runFunction m i g hkey⟩
    · exact ((differByBlock_modes hgroup hr hf h).map _).append_left _
    · rw [report_eq hreport]
      exact differByBlock_skips hgroup hr hf h
    · rw [report_eq hreport]
      exact map_id_entryPoints_withFunction hf h
    · have hwritten : n.written t name = m.written t name :=
        written_congr (fun heq ↦ absurd heq hname) (hlists _)
      rw [list?_result options hn, list?_result options hm, hwritten, nodes, nodes, hlists]
    · rw [functions_result options hm]
      exact getElem?_markedFunctions hf
    · rw [functions_result options hn, functions_result options hm]
      exact markedFunctions_withFunction hf h.id

/-- A kernel that two rules concern, with its required size of a work group. -/
def blur (size : Node) : FunctionDecl :=
  ⟨⟨2⟩, "blur", [], .spirKernel, NameMap.ofList [("VCSLMSize", "0x400")],
    (NameMap.ofList [("max_global_work_dim", .ofWords [2])]).insert "reqd_work_group_size" size⟩

/-- A module in which it stands between two other kernels. -/
def blurBetween (size : Node) : DeviceModule where
  triple := some "spir64"
  functions := [
    ⟨⟨1⟩, "scale", [], .spirKernel, .empty,
      NameMap.ofList [("max_global_work_dim", .ofStrings ["3"])]⟩,
    blur size,
    ⟨⟨3⟩, "sum", [], .spirKernel, .empty,
      NameMap.ofList [("reqd_work_group_size", .ofWords [16, 1, 1])]⟩]
  lists := .empty

/-- A size that cannot be read costs its own record only. -/
theorem rules_do_not_interfere_blurBetween :
    ∃ report report' before after,
      ((blurBetween (.ofWords [64, 1, 1])).transcribe .default).outcome = .ok report ∧
      ((blurBetween (.ofStrings ["64"])).transcribe .default).outcome = .ok report' ∧
      ((blurBetween (.ofWords [64, 1, 1])).transcribe .default).result.list?
          Vocabulary.executionModes =
        some (before ++ [⟨[.function ⟨2⟩, .word 17, .word 64, .word 1, .word 1]⟩] ++ after) ∧
      ((blurBetween (.ofStrings ["64"])).transcribe .default).result.list?
          Vocabulary.executionModes = some (before ++ [] ++ after) ∧
      DifferByBlock [] [⟨"blur", "local-size", .tooFewOperands 3 1⟩] report.skipped
        report'.skipped := by
  have hagree : (blur (.ofWords [64, 1, 1])).AgreeBut Rule.localSize.key
      (blur (.ofStrings ["64"])) := by
    refine ⟨rfl, rfl, rfl, rfl, fun other hother ↦ ?_⟩
    cases other with
    | attr name => rfl
    | metadata name =>
      have hname : "reqd_work_group_size" ≠ name := fun heq ↦ hother (heq ▸ rfl)
      simp only [FunctionDecl.annotation?, blur, NameMap.get?_insert_of_ne _ hname]
  obtain ⟨t, ht⟩ : ∃ t, (blurBetween (.ofWords [64, 1, 1])).IsFor t :=
    ⟨⟨.spir64, "spir64"⟩, rfl, fun harch ↦ by cases harch⟩
  have hreport := outcome_of_isFor .default ht
  obtain ⟨report', hreport', ⟨_, _, hmodes, hmodes', before, after, rfl, rfl⟩, hskipped, -⟩ :=
    (rules_do_not_interfere (i := 1) .default RuleGroup.openCL_mem_all List.mem_cons_self rfl
      hagree).2 _ hreport
  exact ⟨_, report', before, after, hreport, hreport', hmodes, hmodes', hskipped⟩

end DeviceModule

end KernelMetadata
