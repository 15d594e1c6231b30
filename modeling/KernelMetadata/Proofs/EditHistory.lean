import KernelMetadata.Proofs.Marking
import Mathlib.Data.List.DropRight

/-!
# What a run of edits leaves behind

A run of edits is described by its history instead of by its steps. What a named list holds depends
on the edits after its last erasure (`Edit.sinceErasure`): the nodes of the drafts that were
finished there, in that order, after the original nodes if there was no erasure. What a function
carries under a key, and how it is called, is what the last edit that sets it says, and what it was
if there is no such edit (`Edit.lastNode?`, `Edit.lastConvention?`). Only the first function with an
identity is reached by edits, so an edit whose target no function has might as well be left out.

One edit is followed on one list and on one function; a run is followed from its end, since it is
the last erasure and the last setting that count.
-/

namespace KernelMetadata

open DeviceModule

namespace Edit

/-! ## Lists -/

/-- The edits after the last one that erases a list, and all edits if none does. -/
def sinceErasure (list : String) (es : List Edit) : List Edit := es.rtakeWhile (· ≠ .erase list)

/-- The nodes that an edit adds to a list: those of its drafts that are finished. -/
def finished (list : String) : Edit → List Node
  | write list' drafts => if list' = list then (drafts.filter Draft.finished).map Draft.node else []
  | erase _ | setMetadata .. | setConvention .. => []

theorem sinceErasure_append_erase (list : String) (es : List Edit) :
    sinceErasure list (es ++ [.erase list]) = [] :=
  List.rtakeWhile_concat_neg _ _ _ (by simp)

theorem sinceErasure_append {list : String} {e : Edit} (h : e ≠ .erase list) (es : List Edit) :
    sinceErasure list (es ++ [e]) = sinceErasure list es ++ [e] :=
  List.rtakeWhile_concat_pos _ _ _ (by simpa using h)

/-- One edit on the presence of a list. -/
theorem isSome_onList (e : Edit) (list : String) (ns : Option (List Node)) :
    (e.onList list ns).isSome = true ↔
      (ns.isSome = true ∧ e ≠ .erase list) ∨ ∃ drafts, e = .write list drafts := by
  cases e with
  | write list' drafts =>
    by_cases h : list = list'
    · simp [onList, h]
    · simp [onList, h, Ne.symm h]
  | erase list' =>
    by_cases h : list = list'
    · simp [onList, h]
    · simp [onList, h, Ne.symm h]
  | setMetadata | setConvention => simp [onList]

/-- One edit on the nodes of a list. -/
theorem getD_onList (e : Edit) (list : String) (ns : Option (List Node)) :
    (e.onList list ns).getD [] =
      (if e = .erase list then [] else ns.getD []) ++ e.finished list := by
  cases e with
  | write list' drafts =>
    by_cases h : list = list'
    · simp [onList, finished, h, Draft.filterMap_committed?]
    · simp [onList, finished, h, Ne.symm h]
  | erase list' =>
    by_cases h : list = list'
    · simp [onList, finished, h]
    · simp [onList, finished, h, Ne.symm h]
  | setMetadata | setConvention => simp [onList, finished]

/-- **The presence of a list** after a run of edits. -/
theorem isSome_foldl_onList (list : String) (ns : Option (List Node)) (es : List Edit) :
    (es.foldl (onList list) ns).isSome = true ↔
      (ns.isSome = true ∧ .erase list ∉ es) ∨
        ∃ drafts, .write list drafts ∈ sinceErasure list es := by
  induction es using List.reverseRecOn with
  | nil => simp [sinceErasure]
  | append_singleton es e ih =>
    rw [List.foldl_append, List.foldl_cons, List.foldl_nil, isSome_onList, ih]
    by_cases he : e = .erase list
    · -- nothing that came before an erasure counts
      subst he
      simp [sinceErasure_append_erase]
    · rw [sinceErasure_append he]
      simp only [List.mem_append, List.mem_singleton, Ne.symm he, or_false, he, ne_eq,
        not_false_eq_true, and_true, eq_comm (a := e), exists_or, or_assoc]

/-- **The nodes of a list** after a run of edits. -/
theorem getD_foldl_onList (list : String) (ns : Option (List Node)) (es : List Edit) :
    (es.foldl (onList list) ns).getD [] =
      (if .erase list ∈ es then [] else ns.getD []) ++
        (sinceErasure list es).flatMap (finished list) := by
  induction es using List.reverseRecOn with
  | nil => simp [sinceErasure]
  | append_singleton es e ih =>
    rw [List.foldl_append, List.foldl_cons, List.foldl_nil, getD_onList, ih]
    by_cases he : e = .erase list
    · subst he
      simp [sinceErasure_append_erase, finished]
    · have hmem : .erase list ∈ es ++ [e] ↔ .erase list ∈ es := by
        simp [Ne.symm he]
      rw [sinceErasure_append he, if_neg he, List.flatMap_append, List.flatMap_singleton,
        List.append_assoc]
      simp only [hmem]

/-! ## Functions -/

/-- What an edit makes of a function that it may reach. -/
def onFunction (f : FunctionDecl) : Edit → FunctionDecl
  | write .. | erase _ => f
  | setMetadata target key node =>
    if f.id = target then { f with metadata := f.metadata.insert key node } else f
  | setConvention target convention =>
    if f.id = target then { f with convention := convention } else f

/-- The node that an edit puts under a key of the function with an identity. -/
def node? (id : FunctionId) (key : String) : Edit → Option Node
  | setMetadata target key' node => if target = id ∧ key' = key then some node else none
  | write .. | erase _ | setConvention .. => none

/-- The convention that an edit gives to the function with an identity. -/
def convention? (id : FunctionId) : Edit → Option CallingConvention
  | setConvention target convention => if target = id then some convention else none
  | write .. | erase _ | setMetadata .. => none

/-- The node that the last of the edits that set a key of a function puts there. -/
def lastNode? (id : FunctionId) (key : String) (es : List Edit) : Option Node :=
  (es.filterMap (node? id key)).getLast?

/-- The convention that the last of the edits that set the convention of a function gives to it. -/
def lastConvention? (id : FunctionId) (es : List Edit) : Option CallingConvention :=
  (es.filterMap (convention? id)).getLast?

/-- What no edit reaches in a function. -/
def declaration (f : FunctionDecl) : FunctionId × String × List Param × NameMap String :=
  (f.id, f.name, f.params, f.attributes)

theorem declaration_onFunction (f : FunctionDecl) (e : Edit) :
    declaration (onFunction f e) = declaration f := by
  cases e <;> simp only [onFunction] <;> split_ifs <;> rfl

theorem declaration_foldl_onFunction (f : FunctionDecl) (es : List Edit) :
    declaration (es.foldl onFunction f) = declaration f := by
  induction es generalizing f with
  | nil => rfl
  | cons e es ih => rw [List.foldl_cons, ih, declaration_onFunction]

theorem id_onFunction (f : FunctionDecl) (e : Edit) : (onFunction f e).id = f.id :=
  congrArg Prod.fst (declaration_onFunction f e)

theorem id_foldl_onFunction (f : FunctionDecl) (es : List Edit) :
    (es.foldl onFunction f).id = f.id :=
  congrArg Prod.fst (declaration_foldl_onFunction f es)

private theorem getLast?_filterMap_append {α : Type} (g : Edit → Option α) (es : List Edit)
    (e : Edit) : ((es ++ [e]).filterMap g).getLast? = (g e).or (es.filterMap g).getLast? := by
  rw [List.filterMap_append, List.getLast?_append]
  cases h : g e <;> simp [h]

theorem lastNode?_append (id : FunctionId) (key : String) (es : List Edit) (e : Edit) :
    lastNode? id key (es ++ [e]) = (node? id key e).or (lastNode? id key es) :=
  getLast?_filterMap_append _ es e

theorem lastConvention?_append (id : FunctionId) (es : List Edit) (e : Edit) :
    lastConvention? id (es ++ [e]) = (convention? id e).or (lastConvention? id es) :=
  getLast?_filterMap_append _ es e

theorem convention_onFunction (f : FunctionDecl) (e : Edit) :
    (onFunction f e).convention = (convention? f.id e).getD f.convention := by
  cases e with
  | setConvention target convention =>
    by_cases h : f.id = target
    · simp [onFunction, convention?, h]
    · simp [onFunction, convention?, h, Ne.symm h]
  | setMetadata target key node =>
    rw [onFunction]
    split_ifs <;> rfl
  | write | erase => rfl

theorem get?_metadata_onFunction (f : FunctionDecl) (e : Edit) (key : String) :
    (onFunction f e).metadata.get? key = (node? f.id key e).or (f.metadata.get? key) := by
  cases e with
  | setMetadata target key' node =>
    by_cases h : f.id = target
    · by_cases hkey : key' = key
      · simp [onFunction, node?, h, hkey]
      · simp [onFunction, node?, h, hkey, NameMap.get?_insert]
    · simp [onFunction, node?, h, Ne.symm h]
  | setConvention target convention =>
    rw [onFunction]
    split_ifs <;> rfl
  | write | erase => rfl

/-- **The convention of a function** after a run of edits. -/
theorem convention_foldl_onFunction (f : FunctionDecl) (es : List Edit) :
    (es.foldl onFunction f).convention = (lastConvention? f.id es).getD f.convention := by
  induction es using List.reverseRecOn with
  | nil => rfl
  | append_singleton es e ih =>
    rw [List.foldl_append, List.foldl_cons, List.foldl_nil, convention_onFunction,
      id_foldl_onFunction, ih, lastConvention?_append]
    cases convention? f.id e <;> rfl

/-- **The metadata of a function** after a run of edits. -/
theorem get?_metadata_foldl_onFunction (f : FunctionDecl) (es : List Edit) (key : String) :
    (es.foldl onFunction f).metadata.get? key =
      (lastNode? f.id key es).or (f.metadata.get? key) := by
  induction es using List.reverseRecOn with
  | nil => rfl
  | append_singleton es e ih =>
    rw [List.foldl_append, List.foldl_cons, List.foldl_nil, get?_metadata_onFunction,
      id_foldl_onFunction, ih, lastNode?_append, Option.or_assoc]

/-- An edit reaches the first function with its target as identity, and no other. -/
theorem getElem?_onFunctions (fs : List FunctionDecl) (e : Edit) (i : Nat) :
    (onFunctions fs e)[i]? =
      fs[i]?.map fun f ↦ if FreshAt fs i f.id then onFunction f e else f := by
  have hmodify : ∀ (target : FunctionId) (change : FunctionDecl → FunctionDecl),
      (modifyFirst target change fs)[i]? = fs[i]?.map fun f ↦
        if FreshAt fs i f.id then if f.id = target then change f else f else f := by
    intro target change
    rw [getElem?_modifyFirst]
    refine congrArg (fun c ↦ fs[i]?.map c) (funext fun f ↦ ?_)
    by_cases h : f.id = target
    · simp [h]
    · simp [h]
  cases e with
  | write | erase => simp [onFunctions, onFunction]
  | setMetadata target key node => exact hmodify target _
  | setConvention target convention => exact hmodify target _

theorem map_id_onFunctions (fs : List FunctionDecl) (e : Edit) :
    (onFunctions fs e).map FunctionDecl.id = fs.map FunctionDecl.id := by
  refine List.ext_getElem? fun i ↦ ?_
  rw [List.getElem?_map, List.getElem?_map, getElem?_onFunctions, Option.map_map]
  refine congrArg (fun c ↦ fs[i]?.map c) (funext fun f ↦ ?_)
  rw [Function.comp_apply]
  split_ifs
  · exact id_onFunction f e
  · rfl

theorem map_id_foldl_onFunctions (fs : List FunctionDecl) (es : List Edit) :
    (es.foldl onFunctions fs).map FunctionDecl.id = fs.map FunctionDecl.id := by
  induction es generalizing fs with
  | nil => rfl
  | cons e es ih => rw [List.foldl_cons, ih, map_id_onFunctions]

/-- **The functions** after a run of edits: those that are the first with their identity have
followed the edits, and the others are as they were. -/
theorem getElem?_foldl_onFunctions (fs : List FunctionDecl) (es : List Edit) (i : Nat) :
    (es.foldl onFunctions fs)[i]? = fs[i]?.map fun f ↦
      if FreshAt fs i f.id then es.foldl onFunction f else f := by
  induction es generalizing fs with
  | nil => simp
  | cons e es ih =>
    rw [List.foldl_cons, ih, getElem?_onFunctions, Option.map_map]
    refine congrArg (fun c ↦ fs[i]?.map c) (funext fun f ↦ ?_)
    rw [Function.comp_apply]
    simp only [freshAt_congr (map_id_onFunctions fs e)]
    by_cases h : FreshAt fs i f.id
    · simp [h, id_onFunction]
    · simp [h]

/-! ## Targets -/

/-- The function that an edit is meant for. -/
def target? : Edit → Option FunctionId
  | write .. | erase _ => none
  | setMetadata target .. | setConvention target _ => some target

theorem modifyFirst_of_notMem {id : FunctionId} {change : FunctionDecl → FunctionDecl}
    {fs : List FunctionDecl} (h : ∀ f ∈ fs, f.id ≠ id) : modifyFirst id change fs = fs := by
  induction fs with
  | nil => rfl
  | cons f fs ih =>
    rw [List.forall_mem_cons] at h
    rw [modifyFirst, if_neg h.1, ih h.2]

/-- An edit whose target no function has changes nothing. -/
theorem apply_of_not_defines {m : DeviceModule} {e : Edit} {id : FunctionId}
    (he : e.target? = some id) (hid : m.defines id = false) : e.apply m = m := by
  have hmodify : ∀ change, m.modifyFunction id change = m := by
    intro change
    rw [modifyFunction, modifyFirst_of_notMem]
    intro f hf hfid
    have hdefines : m.defines id = true := function?_isSome_iff.2 ⟨f, hf, hfid⟩
    simp [hid] at hdefines
  cases e with
  | write | erase => cases he
  | setMetadata | setConvention =>
    cases he
    exact hmodify _

theorem defines_apply (m : DeviceModule) (e : Edit) : (e.apply m).defines = m.defines := by
  funext id
  rw [Bool.eq_iff_iff, defines_iff, defines_iff, functions_apply, map_id_onFunctions]

end Edit

namespace DeviceModule

/-- Edits whose target no function has can be left out of a run. -/
theorem replay_filter (m : DeviceModule) (es : List Edit) :
    (m.replay (es.filter fun e ↦ e.target?.all m.defines)).value = (m.replay es).value := by
  rw [value_replay, value_replay]
  induction es generalizing m with
  | nil => rfl
  | cons e es ih =>
    rw [List.foldl_cons, ← ih, Edit.defines_apply, List.filter_cons]
    split_ifs with he
    · rw [List.foldl_cons]
    · rw [Option.all_eq_true, not_forall] at he
      obtain ⟨id, hid⟩ := he
      rw [Classical.not_imp, Bool.not_eq_true] at hid
      rw [Edit.apply_of_not_defines hid.1 hid.2]

/-- **A run of edits leaves behind what its history says.** -/
theorem replay_history (m : DeviceModule) (es : List Edit) :
    let after := (m.replay es).value
    after.triple = m.triple ∧
      (∀ name,
        ((after.list? name).isSome = true ↔
          (m.list? name).isSome = true ∧ .erase name ∉ es ∨
            ∃ drafts, .write name drafts ∈ Edit.sinceErasure name es) ∧
        after.nodes name = (if .erase name ∈ es then [] else m.nodes name) ++
          (Edit.sinceErasure name es).flatMap (Edit.finished name)) ∧
      after.functions.length = m.functions.length ∧
      (∀ i f, m.functions[i]? = some f → ∃ g, after.functions[i]? = some g ∧
        g.id = f.id ∧ g.name = f.name ∧ g.params = f.params ∧ g.attributes = f.attributes ∧
        (FreshAt m.functions i f.id →
          g.convention = (Edit.lastConvention? f.id es).getD f.convention ∧
          ∀ key, g.metadata.get? key = (Edit.lastNode? f.id key es).or (f.metadata.get? key)) ∧
        (¬ FreshAt m.functions i f.id → g = f)) ∧
      (m.replay (es.filter fun e ↦ e.target?.all m.defines)).value = after := by
  intro after
  refine ⟨triple_replay m es, fun name ↦ ⟨?_, ?_⟩, ?_, fun i f hf ↦ ?_, replay_filter m es⟩
  · rw [list?_replay]
    exact Edit.isSome_foldl_onList name (m.list? name) es
  · rw [nodes, list?_replay]
    exact Edit.getD_foldl_onList name (m.list? name) es
  · have hids := congrArg List.length (Edit.map_id_foldl_onFunctions m.functions es)
    rwa [List.length_map, List.length_map, ← functions_replay] at hids
  · have hg := Edit.getElem?_foldl_onFunctions m.functions es i
    rw [hf, Option.map_some, ← functions_replay] at hg
    refine ⟨_, hg, ?_⟩
    split_ifs with hfresh
    · have hkept := Edit.declaration_foldl_onFunction f es
      simp only [Edit.declaration, Prod.mk.injEq] at hkept
      obtain ⟨hid, hname, hparams, hattributes⟩ := hkept
      exact ⟨hid, hname, hparams, hattributes,
        fun _ ↦ ⟨Edit.convention_foldl_onFunction f es, Edit.get?_metadata_foldl_onFunction f es⟩,
        fun h ↦ absurd hfresh h⟩
    · exact ⟨rfl, rfl, rfl, rfl, fun h ↦ absurd h hfresh, fun _ ↦ rfl⟩

/-- Two functions with one identity, and a list. -/
def twins : DeviceModule where
  triple := none
  functions := [⟨⟨1⟩, "first", [], .c, .empty, .empty⟩, ⟨⟨1⟩, "second", [], .c, .empty, .empty⟩]
  lists := NameMap.ofList [("log", [.ofStrings ["old"]])]

/-- Edits that come back to what they have done. The last but one is meant for no function, and the
list that was erased is opened again for one entry that is abandoned and one that is finished. -/
def secondThoughts : List Edit := [
  .write "log" [.ofNode (.ofStrings ["early"])],
  .erase "log",
  .setMetadata ⟨1⟩ "note" (.ofStrings ["first"]),
  .write "log" [⟨[.add (.string "abandoned")], false⟩,
    ⟨[.add (.string "late"), .extend [.word 1, .word 2]], true⟩],
  .setConvention ⟨7⟩ .spirKernel,
  .setMetadata ⟨1⟩ "note" (.ofStrings ["last"])]

theorem replay_history_secondThoughts :
    let after := (twins.replay secondThoughts).value
    after.nodes "log" = [⟨[.string "late", .word 1, .word 2]⟩] ∧
      (∃ g, after.functions[0]? = some g ∧ g.convention = .c ∧
        g.metadata.get? "note" = some (.ofStrings ["last"])) ∧
      after.functions[1]? = twins.functions[1]? ∧
      (twins.replay (secondThoughts.eraseIdx 4)).value = after := by
  obtain ⟨-, hlists, -, hfunctions, hfilter⟩ := replay_history twins secondThoughts
  obtain ⟨f, hf, -, -, -, -, hfirst, -⟩ := hfunctions 0 _ rfl
  obtain ⟨hconvention, hmetadata⟩ := hfirst (by decide)
  obtain ⟨g, hg, -, -, -, -, -, hsecond⟩ := hfunctions 1 _ rfl
  refine ⟨?_, ⟨f, hf, hconvention, ?_⟩, ?_, hfilter⟩
  · rw [(hlists "log").2]
    decide +kernel
  · rw [hmetadata]
    decide +kernel
  · rw [hg, hsecond (by decide)]
    rfl

end DeviceModule

end KernelMetadata
