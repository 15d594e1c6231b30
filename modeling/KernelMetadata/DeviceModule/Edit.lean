import KernelMetadata.Event

/-!
# Edits of modules

A module is changed by edits, of which none can fail: what does not apply changes nothing. Opening a
named list creates it if it is absent; entries are then drafted one after another, and those that
are finished are added at the end, while abandoned ones leave no trace.
-/

namespace KernelMetadata

/-- One step in drafting an entry: an operand, or several. -/
inductive DraftStep where
  | add (operand : Operand)
  | extend (operands : List Operand)
  deriving DecidableEq

/-- An entry of a named list in the making. -/
structure Draft where
  steps : List DraftStep
  finished : Bool
  deriving DecidableEq

namespace Draft

/-- The node that the steps of a draft build. -/
def node (d : Draft) : Node :=
  ⟨d.steps.flatMap fun
    | .add o => [o]
    | .extend os => os⟩

/-- The node that a draft adds to its list, if it is finished. -/
def committed? (d : Draft) : Option Node := if d.finished then some d.node else none

/-- The finished draft of a node. -/
def ofNode (n : Node) : Draft := ⟨n.operands.map .add, true⟩

@[simp] theorem committed?_ofNode (n : Node) : (ofNode n).committed? = some n := by
  have h : (n.operands.map DraftStep.add).flatMap
      (fun | .add o => [o] | .extend os => os) = n.operands := by
    induction n.operands with
    | nil => rfl
    | cons o os ih => rw [List.map_cons, List.flatMap_cons, ih]; rfl
  rw [committed?, ofNode, if_pos rfl, node, h]

theorem filterMap_committed? (ds : List Draft) :
    ds.filterMap committed? = (ds.filter finished).map node := by
  induction ds with
  | nil => rfl
  | cons d ds ih => cases hd : d.finished <;> simp [committed?, hd, ih]

theorem filterMap_committed?_ofNode (ns : List Node) :
    (ns.map ofNode).filterMap committed? = ns := by
  have hsome : committed? ∘ ofNode = some := funext committed?_ofNode
  rw [List.filterMap_map, hsome, List.filterMap_some]

end Draft

/-- A change of a module. -/
inductive Edit where
  | write (list : String) (drafts : List Draft)
  | erase (list : String)
  | setMetadata (target : FunctionId) (key : String) (node : Node)
  | setConvention (target : FunctionId) (convention : CallingConvention)
  deriving DecidableEq

namespace Edit

/-- Makes one change. -/
def apply (m : DeviceModule) : Edit → DeviceModule
  | write list drafts => m.appendNodes list (drafts.filterMap Draft.committed?)
  | erase list => m.eraseList list
  | setMetadata target key node =>
    m.modifyFunction target fun f ↦ { f with metadata := f.metadata.insert key node }
  | setConvention target convention =>
    m.modifyFunction target fun f ↦ { f with convention := convention }

/-- What making a change tells. -/
def event? (m : DeviceModule) : Edit → Option Event
  | write .. => none
  | erase list => (m.list? list).map fun _ ↦ .listErased list
  | setMetadata target key node =>
    match m.function? target with
    | some f => some (.metadataAttached key node f.name)
    | none => some (.metadataWithoutFunction key target)
  | setConvention target _ =>
    match m.function? target with
    | some _ => none
    | none => some (.conventionWithoutFunction target)

end Edit

namespace DeviceModule

/-- Makes one change and tells of it. -/
def edit (m : DeviceModule) (e : Edit) : Logged DeviceModule := ⟨e.apply m, (e.event? m).toList⟩

/-- Makes changes one after another. -/
def replay (m : DeviceModule) : List Edit → Logged DeviceModule
  | [] => pure m
  | e :: es => do
    let m ← m.edit e
    m.replay es

@[simp] theorem value_edit (m : DeviceModule) (e : Edit) : (m.edit e).value = e.apply m := rfl

theorem value_replay (m : DeviceModule) (es : List Edit) :
    (m.replay es).value = es.foldl Edit.apply m := by
  induction es generalizing m with
  | nil => rfl
  | cons e es ih => rw [replay, Logged.value_bind, ih, List.foldl_cons, value_edit]

end DeviceModule

end KernelMetadata
