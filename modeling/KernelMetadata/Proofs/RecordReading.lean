import KernelMetadata.Proofs.EditHistory
import KernelMetadata.Proofs.WordReading

/-!
# Records are read back

Records are lowered to nodes in one place, and nodes are decoded in others. What is read here from a
list that records were written to is read with nothing but these decoders: windows of words, the
members of numbered vocabularies, and the strings among the operands. A record is read back from the
node that it was lowered to (`KernelMode.ofNode?_node`, `Node.pair?_ofWords`), and so a whole run of
records is read back, list by list and in order, from what it adds to the lists
(`DeviceModule.records_read_back`).

Writing records is a run of edits without an erasure, so what it leaves in a list is the original
nodes and then all that is written there.
-/

namespace KernelMetadata

/-! ## Decoding nodes -/

/-- Reads a node of two words. -/
def Node.pair? (n : Node) : Option (UInt32 × UInt32) :=
  match n.words 2 with
  | .ok [a, b] => some (a, b)
  | _ => none

@[simp] theorem Node.pair?_ofWords (a b : UInt32) : (Node.ofWords [a, b]).pair? = some (a, b) := by
  have h : (Node.ofWords [a, b]).words 2 = .ok [a, b] := readWords_map_word 0 [a, b]
  rw [Node.pair?, h]

/-- Reads a memory model. -/
def Node.memoryModel? (n : Node) : Option (AddressingModel × MemoryModel) := do
  let (a, b) ← n.pair?
  let addressing ← Numbered.ofCode? a
  let memory ← Numbered.ofCode? b
  pure (addressing, memory)

theorem Node.memoryModel?_ofWords (addressing : AddressingModel) (memory : MemoryModel) :
    (Node.ofWords [Numbered.code addressing, Numbered.code memory]).memoryModel? =
      some (addressing, memory) := by
  simp [Node.memoryModel?]

/-- Reads an execution mode: the function that comes first, and all operands after it as words, of
which the first is the number of the mode. -/
def KernelMode.ofNode? (n : Node) : Option KernelMode :=
  match n.operands.head?, n.window 1 (n.operands.length - 1) with
  | some (.function target), .ok (code :: operands) =>
    (Numbered.ofCode? code).map fun mode ↦ ⟨target, ⟨mode, operands⟩⟩
  | _, _ => none

/-- **An execution mode is read back**, whatever its operands are. -/
theorem KernelMode.ofNode?_node (k : KernelMode) : ofNode? k.node = some k := by
  have hwindow : k.node.window 1 (k.node.operands.length - 1) =
      .ok (Numbered.code k.entry.mode :: k.entry.operands) := by
    have hlength : k.node.operands.length - 1 = k.entry.operands.length + 1 := by
      simp [KernelMode.node]
    have hlong : ¬ k.node.operands.length < 1 + (k.entry.operands.length + 1) := by
      simp [KernelMode.node, Nat.add_comm 1]
    rw [hlength, Node.window, if_neg hlong, KernelMode.node, List.drop_one,
      List.tail_cons, ← List.map_cons, List.take_of_length_le (by simp), readWords_map_word]
  have hhead : k.node.operands.head? = some (.function k.target) := rfl
  rw [ofNode?, hhead, hwindow]
  simp

/-! ## Records of one kind -/

namespace Record

/-- The execution mode that a record is. -/
def executionMode? : Record → Option KernelMode
  | executionMode mode => some mode
  | memoryModel .. | sourceExtensions _ | version .. => none

/-- The memory model that a record is. -/
def memoryModel? : Record → Option (AddressingModel × MemoryModel)
  | memoryModel addressing memory => some (addressing, memory)
  | executionMode _ | sourceExtensions _ | version .. => none

/-- The version of a language that a record is. -/
def version? (list : VersionList) : Record → Option (UInt32 × UInt32)
  | version list' major minor => if list' = list then some (major, minor) else none
  | executionMode _ | memoryModel .. | sourceExtensions _ => none

/-- The extensions that a record names. -/
def extensionNames : Record → List String
  | sourceExtensions names => names
  | executionMode _ | memoryModel .. | version .. => []

/-- The nodes that records add to a list, one record after the other. -/
def nodesIn (name : String) (rs : List Record) : List Node :=
  rs.flatMap fun r ↦ if r.listName = name then r.nodes else []

/-- Records of a kind that has a list for itself, and one node for each record, are read back if
each is read back from its node. -/
private theorem mapM_nodesIn {α : Type} {name : String} {part? : Record → Option α}
    {read? : Node → Option α} (node : α → Node)
    (hnodes : ∀ r : Record, (if r.listName = name then r.nodes else []) =
      ((part? r).map node).toList)
    (hread : ∀ a, read? (node a) = some a) (rs : List Record) :
    (nodesIn name rs).mapM read? = some (rs.filterMap part?) := by
  induction rs with
  | nil => rfl
  | cons r rs ih =>
    rw [nodesIn] at ih
    rw [nodesIn, List.flatMap_cons, hnodes, List.mapM_append, ih]
    cases hr : part? r with
    | none => simp [hr]
    | some a => simp [hr, hread]

theorem mapM_nodesIn_executionModes (rs : List Record) :
    (nodesIn Vocabulary.executionModes rs).mapM KernelMode.ofNode? =
      some (rs.filterMap executionMode?) := by
  refine mapM_nodesIn KernelMode.node (fun r ↦ ?_) KernelMode.ofNode?_node rs
  rcases r with _ | _ | _ | ⟨_ | _, _, _⟩ <;> rfl

theorem mapM_nodesIn_memoryModel (rs : List Record) :
    (nodesIn Vocabulary.memoryModel rs).mapM Node.memoryModel? =
      some (rs.filterMap memoryModel?) := by
  refine mapM_nodesIn (fun model ↦ .ofWords [Numbered.code model.1, Numbered.code model.2])
    (fun r ↦ ?_) (fun model ↦ Node.memoryModel?_ofWords model.1 model.2) rs
  rcases r with _ | _ | _ | ⟨_ | _, _, _⟩ <;> rfl

theorem mapM_nodesIn_versions (list : VersionList) (rs : List Record) :
    (nodesIn list.name rs).mapM Node.pair? = some (rs.filterMap (version? list)) := by
  refine mapM_nodesIn (fun pair ↦ .ofWords [pair.1, pair.2]) (fun r ↦ ?_)
    (fun pair ↦ Node.pair?_ofWords pair.1 pair.2) rs
  rcases r with _ | _ | _ | ⟨_ | _, _, _⟩ <;> cases list <;> rfl

theorem flatMap_strings_nodesIn_sourceExtensions (rs : List Record) :
    (nodesIn Vocabulary.sourceExtensions rs).flatMap Node.strings = rs.flatMap extensionNames := by
  rw [nodesIn, List.flatMap_assoc]
  refine List.flatMap_congr fun r _ ↦ ?_
  rcases r with _ | _ | names | ⟨_ | _, _, _⟩
  case sourceExtensions =>
    rw [listName, if_pos rfl, nodes, List.flatMap_map]
    exact List.flatMap_singleton' names
  all_goals rfl

/-! ## Runs of records -/

theorem erase_notMem_map_edit (name : String) (rs : List Record) : .erase name ∉ rs.map edit := by
  simp [edit]

theorem sinceErasure_map_edit (name : String) (rs : List Record) :
    Edit.sinceErasure name (rs.map edit) = rs.map edit := by
  rw [Edit.sinceErasure, List.rtakeWhile_eq_self_iff]
  simp [edit]

theorem flatMap_finished_map_edit (name : String) (rs : List Record) :
    (rs.map edit).flatMap (Edit.finished name) = nodesIn name rs := by
  rw [List.flatMap_map, nodesIn]
  refine List.flatMap_congr fun r _ ↦ ?_
  rw [edit, Edit.finished, ← Draft.filterMap_committed?, Draft.filterMap_committed?_ofNode]

/-- What a list holds after a run of records. -/
theorem nodes_replay_edit (m : DeviceModule) (rs : List Record) (name : String) :
    (m.replay (rs.map edit)).value.nodes name = m.nodes name ++ nodesIn name rs := by
  rw [DeviceModule.nodes, DeviceModule.list?_replay, Edit.getD_foldl_onList,
    if_neg (erase_notMem_map_edit name rs), sinceErasure_map_edit, flatMap_finished_map_edit]
  rfl

/-- Which lists there are after a run of records. -/
theorem isSome_list?_replay_edit (m : DeviceModule) (rs : List Record) (name : String) :
    ((m.replay (rs.map edit)).value.list? name).isSome = true ↔
      (m.list? name).isSome = true ∨ ∃ r ∈ rs, r.listName = name := by
  have hwrite : (∃ drafts, .write name drafts ∈ rs.map edit) ↔ ∃ r ∈ rs, r.listName = name := by
    simp only [List.mem_map, edit, Edit.write.injEq]
    constructor
    · rintro ⟨_, r, hr, hname, -⟩
      exact ⟨r, hr, hname⟩
    · rintro ⟨r, hr, hname⟩
      exact ⟨_, r, hr, hname, rfl⟩
  rw [DeviceModule.list?_replay, Edit.isSome_foldl_onList, sinceErasure_map_edit, hwrite,
    and_iff_left (erase_notMem_map_edit name rs)]

theorem list?_replay_edit_of_ne (m : DeviceModule) {rs : List Record} {name : String}
    (h : ∀ r ∈ rs, r.listName ≠ name) :
    (m.replay (rs.map edit)).value.list? name = m.list? name := by
  rw [DeviceModule.list?_replay, foldl_onList_of_ne fun r hr ↦ (h r hr).symm]

end Record

/-- **A run of records is read back** from what it adds to the named lists, each list for itself and
in the order of the run. A list is there if it was or if a record belongs to it, and a run of
records leaves alone everything else. -/
theorem DeviceModule.records_read_back (m : DeviceModule) (rs : List Record) :
    let after := (m.replay (rs.map Record.edit)).value
    (∀ name, after.nodes name = m.nodes name ++ Record.nodesIn name rs) ∧
      (Record.nodesIn Vocabulary.executionModes rs).mapM KernelMode.ofNode? =
        some (rs.filterMap Record.executionMode?) ∧
      (Record.nodesIn Vocabulary.memoryModel rs).mapM Node.memoryModel? =
        some (rs.filterMap Record.memoryModel?) ∧
      (∀ list : VersionList, (Record.nodesIn list.name rs).mapM Node.pair? =
        some (rs.filterMap (Record.version? list))) ∧
      (Record.nodesIn Vocabulary.sourceExtensions rs).flatMap Node.strings =
        rs.flatMap Record.extensionNames ∧
      (∀ name, (after.list? name).isSome = true ↔
        (m.list? name).isSome = true ∨ ∃ r ∈ rs, r.listName = name) ∧
      (∀ name, (∀ r ∈ rs, r.listName ≠ name) → after.list? name = m.list? name) ∧
      after.functions = m.functions ∧ after.triple = m.triple :=
  ⟨Record.nodes_replay_edit m rs, Record.mapM_nodesIn_executionModes rs,
    Record.mapM_nodesIn_memoryModel rs, fun list ↦ Record.mapM_nodesIn_versions list rs,
    Record.flatMap_strings_nodesIn_sourceExtensions rs, Record.isSome_list?_replay_edit m rs,
    fun _ h ↦ Record.list?_replay_edit_of_ne m h, Record.functions_replay_edit m rs,
    triple_replay m _⟩

/-- Records of all kinds, for functions that there are and for one that there is not. -/
def mixedRecords : List Record := [
  .version .spir 2 0, .executionMode ⟨⟨1⟩, ⟨.localSize, [8, 4, 1]⟩⟩,
  .sourceExtensions ["second", "first"], .version .openCL 3 0, .memoryModel .physical64 .openCL,
  .executionMode ⟨⟨7⟩, ⟨.denormPreserve, []⟩⟩, .version .spir 1 2]

theorem DeviceModule.records_read_back_mixedRecords :
    let after := (twins.replay (mixedRecords.map Record.edit)).value
    (∃ ns, after.nodes Vocabulary.executionModes = ns ∧ ns.mapM KernelMode.ofNode? =
        some [⟨⟨1⟩, ⟨.localSize, [8, 4, 1]⟩⟩, ⟨⟨7⟩, ⟨.denormPreserve, []⟩⟩]) ∧
      (∃ ns, after.nodes Vocabulary.spirVersion = ns ∧
        ns.mapM Node.pair? = some [(2, 0), (1, 2)]) ∧
      (∃ ns, after.nodes Vocabulary.sourceExtensions = ns ∧
        ns.flatMap Node.strings = ["second", "first"]) ∧
      after.list? "log" = twins.list? "log" := by
  obtain ⟨hnodes, hmodes, -, hversions, hextensions, -, hothers, -⟩ :=
    records_read_back twins mixedRecords
  exact ⟨⟨_, hnodes _, hmodes⟩, ⟨_, hnodes _, hversions .spir⟩, ⟨_, hnodes _, hextensions⟩,
    hothers "log" (by decide)⟩

end KernelMetadata
