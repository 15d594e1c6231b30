import KernelMetadata.Proofs.Text.ByteOrder
import KernelMetadata.Proofs.Wellformedness

/-!
# Which fault is the first

Verification goes through a module and stops at the first fault. What it goes through is said here
without going: a node stands at a *site*, sites are ordered (`Site.Before`), and a fault is the
first one if no site before it has one (`DeviceModule.FirstFault`). Lists come by name, and what a
function carries by key, in the order of the bytes of these names; everything else comes in the
order of the module. Repeated names of functions are faults before any reference is.

A site tells functions apart by their place, while a fault is reported with the name of the
function. The two are kept side by side (`DeviceModule.NodeAt`), since only the sites are in an
order and only the locations are reported.
-/

namespace KernelMetadata

/-! ## First members of lists -/

/-- The first repetition is the member before which nothing is repeated and which is itself among
what is before it. -/
theorem firstRepeat?_eq_some_iff {α : Type} [DecidableEq α] {seen xs : List α} {x : α} :
    firstRepeat? seen xs = some x ↔ ∃ i, xs[i]? = some x ∧ (x ∈ seen ∨ x ∈ xs.take i) ∧
      (xs.take i).Nodup ∧ ∀ y ∈ xs.take i, y ∉ seen := by
  induction xs generalizing seen with
  | nil => simp [firstRepeat?]
  | cons y xs ih =>
    rw [firstRepeat?]
    split_ifs with hy
    · constructor
      · intro h
        cases h
        exact ⟨0, rfl, .inl hy, List.nodup_nil, by simp⟩
      · rintro ⟨i, hx, -, -, hseen⟩
        cases i with
        | zero => simpa using hx
        | succ i => exact absurd hy (hseen y (by simp))
    · -- the members of `y :: seen` are those of `seen` and of what is before place `i + 1`
      rw [ih]
      constructor
      · rintro ⟨i, hx, hrepeated, hnodup, hseen⟩
        refine ⟨i + 1, by simpa using hx, ?_, ?_, ?_⟩
        · rw [List.take_succ_cons, List.mem_cons]
          rw [List.mem_cons] at hrepeated
          tauto
        · rw [List.take_succ_cons, List.nodup_cons]
          exact ⟨fun hmem ↦ hseen y hmem List.mem_cons_self, hnodup⟩
        · rw [List.take_succ_cons, List.forall_mem_cons]
          exact ⟨hy, fun z hz hmem ↦ hseen z hz (List.mem_cons_of_mem _ hmem)⟩
      · rintro ⟨i, hx, hrepeated, hnodup, hseen⟩
        cases i with
        | zero =>
          obtain rfl : y = x := by simpa using hx
          simp [hy] at hrepeated
        | succ i =>
          rw [List.take_succ_cons] at hrepeated hnodup hseen
          rw [List.nodup_cons] at hnodup
          rw [List.forall_mem_cons] at hseen
          refine ⟨i, by simpa using hx, ?_, hnodup.2, fun z hz hmem ↦ ?_⟩
          · rw [List.mem_cons] at hrepeated ⊢
            tauto
          · rcases List.mem_cons.1 hmem with rfl | hmem
            · exact hnodup.1 hz
            · exact hseen.2 z hz hmem

/-- In a list that is sorted, the first member that yields something is the one before which, in the
order, none does. -/
private theorem findSome?_eq_some_iff_of_pairwise {α β : Type} {r : α → α → Prop} {f : α → Option β}
    {xs : List α} {y : β} (hasymm : ∀ {a b}, r a b → ¬ r b a) (hxs : xs.Pairwise r) :
    xs.findSome? f = some y ↔ ∃ x ∈ xs, f x = some y ∧ ∀ x' ∈ xs, r x' x → f x' = none := by
  induction xs with
  | nil => simp
  | cons x xs ih =>
    rw [List.pairwise_cons] at hxs
    have hirrefl : ¬ r x x := fun h ↦ hasymm h h
    rw [List.findSome?_cons]
    cases hx : f x with
    | some z =>
      simp only [List.mem_cons]
      constructor
      · rintro h
        cases h
        refine ⟨x, .inl rfl, hx, ?_⟩
        rintro x' (rfl | hx') hlt
        · exact absurd hlt hirrefl
        · exact absurd hlt (hasymm (hxs.1 x' hx'))
      · rintro ⟨x', rfl | hx', hy, hfirst⟩
        · rwa [← hx]
        · have hnone := hfirst x (.inl rfl) (hxs.1 x' hx')
          rw [hx] at hnone
          cases hnone
    | none =>
      simp only [ih hxs.2, List.mem_cons]
      constructor
      · rintro ⟨x', hx', hy, hfirst⟩
        refine ⟨x', .inr hx', hy, ?_⟩
        rintro x'' (rfl | hx'') hlt
        · exact hx
        · exact hfirst x'' hx'' hlt
      · rintro ⟨x', rfl | hx', hy, hfirst⟩
        · rw [hx] at hy
          cases hy
        · exact ⟨x', hx', hy, fun x'' hx'' ↦ hfirst x'' (.inr hx'')⟩

/-! ## Sites -/

/-- Where a node stands in a module: in a named list at an index, or under a key of the function at
an index. -/
inductive Site where
  | list (name : String) (index : Nat)
  | function (index : Nat) (key : String)

/-- The order of verification: named lists before functions, lists by name and keys by name in the
order of their bytes, all else by index. -/
def Site.Before : Site → Site → Prop
  | list name i, list name' i' => Text.utf8 name < Text.utf8 name' ∨ name = name' ∧ i < i'
  | list .., function .. => True
  | function .., list .. => False
  | function i key, function i' key' => i < i' ∨ i = i' ∧ Text.utf8 key < Text.utf8 key'

theorem Site.Before.asymm {s s' : Site} (h : s.Before s') : ¬ s'.Before s := by
  cases s <;> cases s' <;> simp only [Site.Before, Text.utf8_lt_iff] at h ⊢
  case list.list name i name' i' =>
    rcases h with h | ⟨rfl, h⟩
    · rintro (h' | ⟨rfl, -⟩)
      · exact String.lt_asymm h h'
      · exact String.lt_irrefl _ h
    · rintro (h' | ⟨-, h'⟩)
      · exact String.lt_irrefl _ h'
      · omega
  case list.function => exact not_false
  case function.function i key i' key' =>
    rcases h with h | ⟨rfl, h⟩
    · rintro (h' | ⟨rfl, -⟩) <;> omega
    · rintro (h' | ⟨-, h'⟩)
      · omega
      · exact String.lt_asymm h h'

namespace DeviceModule

variable {m : DeviceModule}

/-- Whether a node stands at a site, which is reported as a location. -/
inductive NodeAt (m : DeviceModule) : Site → Location → Node → Prop
  | list {name : String} {i : Nat} {n : Node} (h : (m.nodes name)[i]? = some n) :
      m.NodeAt (.list name i) (.list name i) n
  | function {i : Nat} {f : FunctionDecl} {key : String} {n : Node} (hf : m.functions[i]? = some f)
      (h : f.metadata.get? key = some n) : m.NodeAt (.function i key) (.function f.name key) n

/-- The nodes of a named list with their sites. -/
private def listSites (name : String) (ns : List Node) : List (Site × Location × Node) :=
  ns.zipIdx.map fun n ↦ (.list name n.2, .list name n.2, n.1)

/-- The nodes that a function at an index carries, with their sites. -/
private def functionSites (i : Nat) (f : FunctionDecl) : List (Site × Location × Node) :=
  f.metadata.entries.map fun a ↦ (.function i a.1, .function f.name a.1, a.2)

/-- The nodes of a module with their sites, in the order in which verification goes through them. -/
private def sitedNodes (m : DeviceModule) : List (Site × Location × Node) :=
  (m.lists.entries.flatMap fun l ↦ listSites l.1 l.2) ++
    m.functions.zipIdx.flatMap fun f ↦ functionSites f.2 f.1

private theorem map_snd_sitedNodes (m : DeviceModule) : m.sitedNodes.map Prod.snd = m.sites := by
  have hlists : ∀ l : String × List Node,
      (listSites l.1 l.2).map Prod.snd = l.2.zipIdx.map fun n ↦ (.list l.1 n.2, n.1) := by
    intro l
    rw [listSites, List.map_map]
    rfl
  have hfunctions : ∀ f : FunctionDecl × Nat, (functionSites f.2 f.1).map Prod.snd =
      f.1.metadata.entries.map fun a ↦ (.function f.1.name a.1, a.2) := by
    intro f
    rw [functionSites, List.map_map]
    rfl
  rw [sitedNodes, sites, List.map_append, List.map_flatMap, List.map_flatMap]
  simp only [hlists, hfunctions]
  -- the functions are gone through with their indices, which no location mentions
  rw [← List.flatMap_map Prod.fst fun f : FunctionDecl ↦
    f.metadata.entries.map fun a ↦ ((.function f.name a.1, a.2) : Location × Node),
    List.zipIdx_map_fst]

private theorem mem_sitedNodes {s : Site} {l : Location} {n : Node} :
    (s, l, n) ∈ m.sitedNodes ↔ m.NodeAt s l n := by
  simp only [sitedNodes, listSites, functionSites, List.mem_append, List.mem_flatMap, List.mem_map,
    Prod.exists, Prod.mk.injEq, NameMap.mem_entries_iff, List.mem_zipIdx_iff_getElem?]
  constructor
  · rintro (⟨name, ns, hns, n, i, hn, rfl, rfl, rfl⟩ | ⟨f, i, hf, key, n, hn, rfl, rfl, rfl⟩)
    · refine .list ?_
      rw [nodes, list?, hns]
      exact hn
    · exact .function hf hn
  · rintro (@⟨name, i, n, h⟩ | @⟨i, f, key, n, hf, h⟩)
    · rw [nodes, list?] at h
      cases hns : m.lists.get? name with
      | none => simp [hns] at h
      | some ns =>
        rw [hns] at h
        exact .inl ⟨name, ns, hns, n, i, h, rfl, rfl, rfl⟩
    · exact .inr ⟨f, i, hf, key, n, h, rfl, rfl, rfl⟩

private theorem pairwise_zipIdx {α : Type} (xs : List α) :
    xs.zipIdx.Pairwise fun a b ↦ a.2 < b.2 := by
  have h : (xs.zipIdx.map Prod.snd).Pairwise (· < ·) := by
    rw [List.zipIdx_map_snd]
    exact List.pairwise_lt_range'
  exact List.pairwise_map.1 h

/-- **Verification goes through a module in the order of its sites.** -/
private theorem pairwise_sitedNodes (m : DeviceModule) :
    m.sitedNodes.Pairwise fun a b ↦ a.1.Before b.1 := by
  have hlists : (m.lists.entries.flatMap fun l ↦ listSites l.1 l.2).Pairwise
      fun a b ↦ a.1.Before b.1 := by
    rw [List.pairwise_flatMap]
    refine ⟨fun l _ ↦ ?_, m.lists.sorted.imp fun {l l'} hlt x hx y hy ↦ ?_⟩
    · exact List.pairwise_map.2 ((pairwise_zipIdx l.2).imp fun h ↦ .inr ⟨rfl, h⟩)
    · obtain ⟨n, -, rfl⟩ := List.mem_map.1 hx
      obtain ⟨n', -, rfl⟩ := List.mem_map.1 hy
      exact .inl (Text.utf8_lt_iff.2 hlt)
  have hfunctions : (m.functions.zipIdx.flatMap fun f ↦ functionSites f.2 f.1).Pairwise
      fun a b ↦ a.1.Before b.1 := by
    rw [List.pairwise_flatMap]
    refine ⟨fun f _ ↦ ?_, (pairwise_zipIdx m.functions).imp fun {f f'} hlt x hx y hy ↦ ?_⟩
    · exact List.pairwise_map.2
        (f.1.metadata.sorted.imp fun h ↦ .inr ⟨rfl, Text.utf8_lt_iff.2 h⟩)
    · obtain ⟨a, -, rfl⟩ := List.mem_map.1 hx
      obtain ⟨a', -, rfl⟩ := List.mem_map.1 hy
      exact .inl hlt
  rw [sitedNodes, List.pairwise_append]
  refine ⟨hlists, hfunctions, fun x hx y hy ↦ ?_⟩
  obtain ⟨l, -, hx⟩ := List.mem_flatMap.1 hx
  obtain ⟨n, -, rfl⟩ := List.mem_map.1 hx
  obtain ⟨f, -, hy⟩ := List.mem_flatMap.1 hy
  obtain ⟨a, -, rfl⟩ := List.mem_map.1 hy
  exact trivial

/-! ## The first fault -/

/-- Of the references in a node, the one furthest left that does not resolve is dangling. -/
theorem dangling?_eq_some_iff {n : Node} {id : FunctionId} :
    m.dangling? n = some id ↔ ∃ left right, n.operands = left ++ .function id :: right ∧
      m.function? id = none ∧ m.Resolves ⟨left⟩ := by
  have hnone : ∀ id, id ∉ m.functions.map FunctionDecl.id ↔ m.function? id = none := by
    intro id
    rw [← defines_iff, defines, Option.not_isSome_iff_eq_none]
  have hresolves : ∀ left : List Operand, (∀ o ∈ left, (!o.function?.any fun id ↦
      decide (id ∉ m.functions.map FunctionDecl.id)) = true) ↔ m.Resolves ⟨left⟩ := by
    intro left
    simp only [Resolves, Node.mem_functions, defines_iff]
    constructor
    · intro h id hid
      simpa [Operand.function?] using h _ hid
    · intro h o ho
      cases o with
      | function id => simpa [Operand.function?] using h id ho
      | int _ | string _ | undef _ => rfl
  rw [dangling?, Node.functions, List.find?_filterMap, Option.bind_eq_some_iff]
  simp only [List.find?_eq_some_iff_append, hresolves, Operand.function?_eq_some_iff]
  constructor
  · rintro ⟨o, ⟨ho, left, right, hoperands, hleft⟩, rfl⟩
    exact ⟨left, right, hoperands, (hnone id).1 (by simpa [Operand.function?] using ho), hleft⟩
  · rintro ⟨left, right, hoperands, hid, hleft⟩
    have ho : id ∉ m.functions.map FunctionDecl.id := (hnone id).2 hid
    exact ⟨.function id, ⟨by simpa [Operand.function?] using ho, left, right, hoperands, hleft⟩,
      rfl⟩

/-- A module without a fault: no two functions share a name, and all references resolve. -/
structure WellFormed (m : DeviceModule) : Prop where
  names : (m.functions.map FunctionDecl.name).Nodup
  lists : ∀ name, ∀ n ∈ m.nodes name, m.Resolves n
  functions : ∀ f ∈ m.functions, ∀ key, ∀ n ∈ f.metadata.get? key, m.Resolves n

/-- The first fault of a module. A repeated name is the first one if it is the first repetition; a
reference that does not resolve is the first one if no name is repeated and all references to the
left of it in its node, and all at sites before it, resolve. -/
inductive FirstFault (m : DeviceModule) : Violation → Prop
  | duplicateName {i : Nat} {f : FunctionDecl} (hf : m.functions[i]? = some f)
      (hrepeated : ∃ g ∈ m.functions.take i, g.name = f.name)
      (hfirst : ((m.functions.take i).map FunctionDecl.name).Nodup) :
      m.FirstFault (.duplicateName f.name)
  | danglingReference {s : Site} {l : Location} {n : Node} {left right : List Operand}
      {id : FunctionId} (hnames : (m.functions.map FunctionDecl.name).Nodup)
      (hnode : m.NodeAt s l n) (hoperands : n.operands = left ++ .function id :: right)
      (hid : m.function? id = none) (hleft : m.Resolves ⟨left⟩)
      (hbefore : ∀ s' l' n', m.NodeAt s' l' n' → s'.Before s → m.Resolves n') :
      m.FirstFault (.danglingReference l id)

theorem violation?_eq_none_iff_wellFormed : m.violation? = none ↔ m.WellFormed := by
  rw [violation?_eq_none_iff]
  exact ⟨fun ⟨hnames, hlists, hfunctions⟩ ↦ ⟨hnames, hlists, hfunctions⟩,
    fun h ↦ ⟨h.names, h.lists, h.functions⟩⟩

/-- The name that is reported first is that of the first function whose name came before. -/
private theorem firstRepeat?_names_eq_some_iff {name : String} :
    firstRepeat? [] (m.functions.map FunctionDecl.name) = some name ↔
      ∃ i f, m.functions[i]? = some f ∧ (∃ g ∈ m.functions.take i, g.name = f.name) ∧
        ((m.functions.take i).map FunctionDecl.name).Nodup ∧ f.name = name := by
  rw [firstRepeat?_eq_some_iff]
  simp only [List.getElem?_map, Option.map_eq_some_iff, ← List.map_take, List.mem_map,
    List.not_mem_nil, false_or, not_false_eq_true, implies_true, and_true]
  constructor
  · rintro ⟨i, ⟨f, hf, rfl⟩, hrepeated, hfirst⟩
    exact ⟨i, f, hf, hrepeated, hfirst, rfl⟩
  · rintro ⟨i, f, hf, hrepeated, hfirst, rfl⟩
    exact ⟨i, ⟨f, hf, rfl⟩, hrepeated, hfirst⟩

/-- The first dangling reference is at the first site that has one. -/
private theorem findSome?_sites_eq_some_iff {v : Violation} :
    m.sites.findSome? (fun s ↦ (m.dangling? s.2).map (.danglingReference s.1)) = some v ↔
      ∃ s l n, m.NodeAt s l n ∧ (∃ id, m.dangling? n = some id ∧ .danglingReference l id = v) ∧
        ∀ s' l' n', m.NodeAt s' l' n' → s'.Before s → m.Resolves n' := by
  rw [← map_snd_sitedNodes, List.findSome?_map,
    findSome?_eq_some_iff_of_pairwise (fun h ↦ Site.Before.asymm h) m.pairwise_sitedNodes]
  simp only [Prod.exists, Prod.forall, mem_sitedNodes, Function.comp_apply, Option.map_eq_some_iff,
    Option.map_eq_none_iff, dangling?_eq_none_iff]

theorem violation?_eq_some_iff {v : Violation} : m.violation? = some v ↔ m.FirstFault v := by
  rw [violation?, Option.or_eq_some_iff, Option.map_eq_some_iff, Option.map_eq_none_iff,
    firstRepeat?_eq_none_iff, findSome?_sites_eq_some_iff]
  simp only [firstRepeat?_names_eq_some_iff, dangling?_eq_some_iff]
  constructor
  · rintro (⟨_, ⟨i, f, hf, hrepeated, hfirst, rfl⟩, rfl⟩ |
      ⟨⟨hnames, -⟩, s, l, n, hnode, ⟨id, ⟨left, right, hoperands, hid, hleft⟩, rfl⟩, hbefore⟩)
    · exact .duplicateName hf hrepeated hfirst
    · exact .danglingReference hnames hnode hoperands hid hleft hbefore
  · intro h
    cases h with
    | duplicateName hf hrepeated hfirst =>
      exact .inl ⟨_, ⟨_, _, hf, hrepeated, hfirst, rfl⟩, rfl⟩
    | danglingReference hnames hnode hoperands hid hleft hbefore =>
      exact .inr ⟨⟨hnames, by simp⟩, _, _, _, hnode, ⟨_, ⟨_, _, hoperands, hid, hleft⟩, rfl⟩,
        hbefore⟩

/-- **Verification is exact.** It finds no fault exactly in well-formed modules, and otherwise
reports the first fault. A dangling reference is reported with the list and the index, or with the
function and the key, of the node that holds it. -/
theorem first_fault_reported (m : DeviceModule) :
    (m.verify.value = none ↔ m.WellFormed) ∧ (∀ v, m.verify.value = some v ↔ m.FirstFault v) ∧
      (∀ name index, (Location.list name index).text =
        "!" ++ name ++ "[" ++ Text.decimal index ++ "]") ∧
      ∀ name key, (Location.function name key).text = "@" ++ name ++ " !" ++ key := by
  rw [value_verify]
  exact ⟨violation?_eq_none_iff_wellFormed, fun v ↦ violation?_eq_some_iff, fun _ _ ↦ rfl,
    fun _ _ ↦ rfl⟩

/-- Of the dangling references of `leftovers`, the one in the list whose name comes first. -/
theorem first_fault_reported_leftovers :
    leftovers.FirstFault (.danglingReference (.list "nvvmir.version" 0) ⟨6⟩) ∧
      ¬ leftovers.WellFormed ∧ twoKernels.WellFormed := by
  have h : leftovers.verify.value = some (.danglingReference (.list "nvvmir.version" 0) ⟨6⟩) := by
    decide +kernel
  have hnone : twoKernels.verify.value = none := by decide +kernel
  obtain ⟨hwell, hfirst, -⟩ := first_fault_reported leftovers
  refine ⟨(hfirst _).1 h, fun hwellFormed ↦ ?_, (first_fault_reported twoKernels).1.1 hnone⟩
  rw [hwell.2 hwellFormed] at h
  cases h

end DeviceModule

end KernelMetadata
