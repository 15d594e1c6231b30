import KernelMetadata.NameMap
import Mathlib.Data.List.Induction

/-!
# What the entries of a map contribute

The entries of a map are its look-ups, and a map is restored from its entries in whatever order they
are inserted (`ofList_eq_of_perm`).

Reports about a module walk through the entries of its maps in the order of their names. What such a
walk yields is decided by look-ups alone: `flatMap_entries_congr` says that two maps yield the same
as soon as every name yields the same in both, whether or not the values under it agree, and whether
or not a name without a yield is there at all.

The walk is compared through its list of names with a nonempty yield, which is again sorted by name,
so that `NameMap.eq_of_lookup_eq` applies to it.
-/

namespace KernelMetadata.NameMap

variable {α β γ : Type}

/-! ## Entries and look-ups -/

theorem mem_of_lookup_eq_some {key : String} {value : α} {es : List (String × α)}
    (h : lookup key es = some value) : (key, value) ∈ es := by
  induction es with
  | nil => simp [lookup] at h
  | cons head rest ih =>
    obtain ⟨k, v⟩ := head
    rw [lookup] at h
    split at h
    · next hk =>
      cases h
      subst hk
      exact List.mem_cons_self
    · exact List.mem_cons_of_mem _ (ih h)

theorem lookup_eq_some_of_mem {key : String} {value : α} {es : List (String × α)}
    (hes : es.Pairwise fun a b ↦ a.1 < b.1) (h : (key, value) ∈ es) :
    lookup key es = some value := by
  induction es with
  | nil => simp at h
  | cons head rest ih =>
    obtain ⟨k, v⟩ := head
    rw [List.pairwise_cons] at hes
    rcases List.mem_cons.1 h with heq | hmem
    · cases heq
      rw [lookup, if_pos rfl]
    · have hlt : k < key := hes.1 _ hmem
      have hne : k ≠ key := fun heq ↦ String.lt_irrefl _ (heq ▸ hlt)
      rw [lookup, if_neg hne, ih hes.2 hmem]

/-- The entries of a map are its look-ups. -/
theorem mem_entries_iff {m : NameMap α} {key : String} {value : α} :
    (key, value) ∈ m.entries ↔ m.get? key = some value :=
  ⟨lookup_eq_some_of_mem m.sorted, mem_of_lookup_eq_some⟩

theorem get?_foldl_erase (m : NameMap α) (keys : List String) (key : String) :
    (keys.foldl erase m).get? key = if key ∈ keys then none else m.get? key := by
  induction keys generalizing m with
  | nil => rfl
  | cons key' keys ih =>
    rw [List.foldl_cons, ih, get?_erase]
    by_cases hkey : key ∈ keys
    · rw [if_pos hkey, if_pos (List.mem_cons_of_mem _ hkey)]
    · by_cases heq : key' = key
      · rw [if_neg hkey, if_pos heq, if_pos (List.mem_cons.2 (.inl heq.symm))]
      · have hnot : key ∉ key' :: keys := by
          rw [List.mem_cons, not_or]
          exact ⟨Ne.symm heq, hkey⟩
        rw [if_neg hkey, if_neg heq, if_neg hnot]

/-- The names of the map of a list are those of its entries. -/
theorem mem_keys_ofList {es : List (String × α)} {key : String} :
    key ∈ (ofList es).keys ↔ key ∈ es.map Prod.fst := by
  have hkeys : ∀ m : NameMap α, key ∈ m.keys ↔ (m.get? key).isSome = true := by
    intro m
    simp only [keys, List.mem_map, Prod.exists, exists_and_right, exists_eq_right, mem_entries_iff,
      Option.isSome_iff_exists]
  have hfold : ∀ m : NameMap α, ((es.foldl (fun m e ↦ m.insert e.1 e.2) m).get? key).isSome = true ↔
      (m.get? key).isSome = true ∨ key ∈ es.map Prod.fst := by
    induction es with
    | nil => simp
    | cons e es ih =>
      intro m
      rw [List.foldl_cons, ih, get?_insert, List.map_cons, List.mem_cons, ← or_assoc]
      refine or_congr_left ?_
      by_cases h : e.1 = key
      · simp [h]
      · simp [h, Ne.symm h]
  rw [hkeys, ofList, hfold, get?_empty]
  simp

theorem nodup_keys (m : NameMap α) : m.keys.Nodup := by
  refine m.pairwise_keys.imp ?_
  rintro a b hlt rfl
  exact String.lt_irrefl a hlt

theorem ofList_append_singleton (es : List (String × α)) (e : String × α) :
    ofList (es ++ [e]) = (ofList es).insert e.1 e.2 := by
  rw [ofList, List.foldl_append, List.foldl_cons, List.foldl_nil, ofList]

/-- Changing the values of a list of entries changes the values of its map. -/
theorem get?_ofList_map (f : α → β) (es : List (String × α)) (key : String) :
    (ofList (es.map fun e ↦ (e.1, f e.2))).get? key = ((ofList es).get? key).map f := by
  induction es using List.reverseRecOn with
  | nil => rfl
  | append_singleton es e ih =>
    rw [List.map_append, List.map_singleton, ofList_append_singleton, ofList_append_singleton,
      get?_insert, get?_insert, ih]
    split <;> rfl

/-- Where no two entries have the same name, the map of a list holds its entries. -/
theorem get?_ofList_eq_some_iff {key : String} {value : α} {es : List (String × α)}
    (hnodup : (es.map Prod.fst).Nodup) :
    (ofList es).get? key = some value ↔ (key, value) ∈ es := by
  -- the last entry is inserted last
  induction es using List.reverseRecOn with
  | nil => simp [ofList]
  | append_singleton es e ih =>
    rw [List.map_append, List.map_singleton, List.nodup_append] at hnodup
    rw [ofList_append_singleton, get?_insert, List.mem_append, List.mem_singleton, Prod.ext_iff]
    by_cases hkey : e.1 = key
    · have hnot : (key, value) ∉ es := by
        intro hmem
        exact hnodup.2.2 key (List.mem_map_of_mem hmem) e.1 (List.mem_singleton_self _) hkey.symm
      simp [hkey, hnot, eq_comm]
    · simp [hkey, Ne.symm hkey, ih hnodup.1]

/-- A map is restored from its entries in any order. -/
theorem ofList_eq_of_perm {m : NameMap α} {es : List (String × α)} (h : es.Perm m.entries) :
    ofList es = m := by
  have hnodup : (es.map Prod.fst).Nodup := (h.map Prod.fst).nodup_iff.2 m.nodup_keys
  refine ext fun key ↦ Option.ext fun value ↦ ?_
  rw [get?_ofList_eq_some_iff hnodup, h.mem_iff, mem_entries_iff]

/-! ## Yields -/

/-- The names with what they yield, without those that yield nothing. -/
private def yields (g : String → α → List γ) (es : List (String × α)) : List (String × List γ) :=
  (es.map fun e ↦ (e.1, g e.1 e.2)).filter fun e ↦ !e.2.isEmpty

private theorem sorted_yields (g : String → α → List γ) {es : List (String × α)}
    (hes : es.Pairwise fun a b ↦ a.1 < b.1) :
    (yields g es).Pairwise fun a b ↦ a.1 < b.1 := by
  refine List.Pairwise.filter _ (List.pairwise_map.2 ?_)
  exact hes

private theorem flatMap_yields (g : String → α → List γ) (es : List (String × α)) :
    (yields g es).flatMap Prod.snd = es.flatMap fun e ↦ g e.1 e.2 := by
  induction es with
  | nil => rfl
  | cons head rest ih =>
    rw [List.flatMap_cons, ← ih, yields, List.map_cons, List.filter_cons]
    split
    · rfl
    · next hempty =>
      have hnil : g head.1 head.2 = [] := by simpa using hempty
      rw [hnil, List.nil_append, yields]

private theorem lookup_yields (g : String → α → List γ) (key : String) {es : List (String × α)}
    (hes : es.Pairwise fun a b ↦ a.1 < b.1) :
    lookup key (yields g es) = ((lookup key es).map (g key)).filter fun c ↦ !c.isEmpty := by
  induction es with
  | nil => rfl
  | cons head rest ih =>
    obtain ⟨k, v⟩ := head
    rw [List.pairwise_cons] at hes
    have htail := ih hes.2
    rw [yields] at htail ⊢
    rw [List.map_cons, List.filter_cons]
    by_cases hk : k = key
    · subst hk
      have hnone : lookup k rest = none := lookup_eq_none_of_lt fun e he ↦ hes.1 e he
      rw [hnone] at htail
      -- the name cannot come back later, so a head that yields nothing settles the look-up
      rw [lookup, if_pos rfl, Option.map_some, Option.filter_some]
      by_cases hempty : (g k v).isEmpty = true
      · simpa [hempty] using htail
      · simp [lookup, hempty]
    · by_cases hempty : (g k v).isEmpty = true
      · simpa [lookup, hempty, hk] using htail
      · simpa [lookup, hempty, hk] using htail

/-- **Look-ups decide a walk through the entries.** The values may differ, and names without a yield
may be present in one map and absent in the other. -/
theorem flatMap_entries_congr {m : NameMap α} {n : NameMap β} {g : String → α → List γ}
    {h : String → β → List γ}
    (heq : ∀ key, ((m.get? key).map (g key)).getD [] = ((n.get? key).map (h key)).getD []) :
    (m.entries.flatMap fun e ↦ g e.1 e.2) = n.entries.flatMap fun e ↦ h e.1 e.2 := by
  have hlookup : ∀ key, lookup key (yields g m.entries) = lookup key (yields h n.entries) := by
    intro key
    rw [lookup_yields g key m.sorted, lookup_yields h key n.sorted]
    have hkey := heq key
    rw [get?, get?] at hkey
    cases hm : lookup key m.entries <;> cases hn : lookup key n.entries <;>
      simp_all [Option.filter]
  rw [← flatMap_yields g, ← flatMap_yields h,
    eq_of_lookup_eq (sorted_yields g m.sorted) (sorted_yields h n.sorted) hlookup]

end KernelMetadata.NameMap
