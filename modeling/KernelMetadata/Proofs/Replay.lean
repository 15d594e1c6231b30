import KernelMetadata.Record

/-!
# What edits do to a module

An edit concerns either one named list or the functions, never both, and never the triple. So a
replay can be followed on each part by itself: on one named list by `Edit.onList`, on the functions
by `Edit.onFunctions`. `DeviceModule.list?_replay` and `DeviceModule.functions_replay` say that this
is all there is to it.

Edits that write records are the case met most: a run of records appends their nodes to the lists
that hold them, in the order of the records, and creates no other list.
-/

namespace KernelMetadata

namespace Edit

/-- What an edit makes of one named list, which may be absent. -/
def onList (name : String) (ns : Option (List Node)) : Edit → Option (List Node)
  | write list drafts =>
    if name = list then some (ns.getD [] ++ drafts.filterMap Draft.committed?) else ns
  | erase list => if name = list then none else ns
  | setMetadata .. | setConvention .. => ns

theorem onList_erase (name list : String) (ns : Option (List Node)) :
    (erase list).onList name ns = if name = list then none else ns := rfl

/-- Opening a list creates it, and changes it no further. -/
theorem onList_write_nil (name list : String) (ns : Option (List Node)) :
    (write list []).onList name ns = if name = list then some (ns.getD []) else ns := by
  rw [onList, List.filterMap_nil, List.append_nil]

/-- What an edit makes of the functions. -/
def onFunctions (fs : List FunctionDecl) : Edit → List FunctionDecl
  | write .. | erase .. => fs
  | setMetadata target key node =>
    DeviceModule.modifyFirst target (fun f ↦ { f with metadata := f.metadata.insert key node }) fs
  | setConvention target convention =>
    DeviceModule.modifyFirst target (fun f ↦ { f with convention := convention }) fs

theorem triple_apply (m : DeviceModule) (e : Edit) : (e.apply m).triple = m.triple := by
  cases e <;> rfl

theorem functions_apply (m : DeviceModule) (e : Edit) :
    (e.apply m).functions = e.onFunctions m.functions := by
  cases e <;> rfl

theorem list?_apply (m : DeviceModule) (e : Edit) (name : String) :
    (e.apply m).list? name = e.onList name (m.list? name) := by
  cases e with
  | write list drafts =>
    rw [apply, onList, DeviceModule.list?, DeviceModule.appendNodes, NameMap.get?_insert]
    by_cases h : name = list
    · subst h
      rw [if_pos rfl, if_pos rfl]
      rfl
    · rw [if_neg h, if_neg (Ne.symm h)]
      rfl
  | erase list =>
    rw [apply, onList, DeviceModule.list?, DeviceModule.eraseList, NameMap.get?_erase]
    simp only [eq_comm (a := list)]
    rfl
  | setMetadata => rfl
  | setConvention => rfl

end Edit

/-! ## Runs of edits -/

namespace DeviceModule

theorem triple_replay (m : DeviceModule) (es : List Edit) :
    (m.replay es).value.triple = m.triple := by
  rw [value_replay]
  induction es generalizing m with
  | nil => rfl
  | cons e es ih => rw [List.foldl_cons, ih, Edit.triple_apply]

/-- **A replay on the functions.** -/
theorem functions_replay (m : DeviceModule) (es : List Edit) :
    (m.replay es).value.functions = es.foldl Edit.onFunctions m.functions := by
  rw [value_replay]
  induction es generalizing m with
  | nil => rfl
  | cons e es ih => rw [List.foldl_cons, ih, Edit.functions_apply, List.foldl_cons]

/-- **A replay on one named list.** -/
theorem list?_replay (m : DeviceModule) (es : List Edit) (name : String) :
    (m.replay es).value.list? name = es.foldl (Edit.onList name) (m.list? name) := by
  rw [value_replay]
  induction es generalizing m with
  | nil => rfl
  | cons e es ih => rw [List.foldl_cons, ih, Edit.list?_apply, List.foldl_cons]

end DeviceModule

/-! ## Records -/

namespace Record

/-- Writing records changes no function. -/
theorem functions_replay_edit (m : DeviceModule) (rs : List Record) :
    (m.replay (rs.map edit)).value.functions = m.functions := by
  rw [DeviceModule.functions_replay]
  induction rs with
  | nil => rfl
  | cons r rs ih => rw [List.map_cons, List.foldl_cons, edit, Edit.onFunctions, ih]

theorem onList_edit (r : Record) (name : String) (ns : Option (List Node)) :
    r.edit.onList name ns = if name = r.listName then some (ns.getD [] ++ r.nodes) else ns := by
  rw [edit, Edit.onList, Draft.filterMap_committed?_ofNode]

/-- Records that another list holds leave a list alone. -/
theorem foldl_onList_of_ne {rs : List Record} {name : String} (h : ∀ r ∈ rs, name ≠ r.listName)
    (ns : Option (List Node)) : (rs.map edit).foldl (Edit.onList name) ns = ns := by
  induction rs with
  | nil => rfl
  | cons r rs ih =>
    rw [List.map_cons, List.foldl_cons, onList_edit, if_neg (h r List.mem_cons_self)]
    exact ih fun r' hr' ↦ h r' (List.mem_cons_of_mem _ hr')

/-- Records that one list holds go to its end one after the other. -/
theorem foldl_onList_of_eq {rs : List Record} {name : String} (h : ∀ r ∈ rs, name = r.listName)
    (ns : List Node) :
    (rs.map edit).foldl (Edit.onList name) (some ns) = some (ns ++ rs.flatMap nodes) := by
  induction rs generalizing ns with
  | nil => rw [List.flatMap_nil, List.append_nil]; rfl
  | cons r rs ih =>
    rw [List.map_cons, List.foldl_cons, onList_edit, if_pos (h r List.mem_cons_self),
      Option.getD_some, ih (fun r' hr' ↦ h r' (List.mem_cons_of_mem _ hr')), List.flatMap_cons,
      List.append_assoc]

end Record

end KernelMetadata
