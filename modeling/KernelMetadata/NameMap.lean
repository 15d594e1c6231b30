/-!
# Maps keyed by names

A `NameMap α` is a finite map from strings to `α` that lists its entries by increasing key. Strings
are compared by code point, which is also the order of their UTF-8 bytes. The order is part of the
type, so a map has one representation: two maps with the same look-ups are equal (`NameMap.ext`).
-/

namespace KernelMetadata

/-- A finite map from strings, kept as its list of entries by strictly increasing key. -/
structure NameMap (α : Type) where
  /-- The entries, by strictly increasing key. -/
  entries : List (String × α)
  sorted : entries.Pairwise fun a b ↦ a.1 < b.1
  deriving DecidableEq

namespace NameMap

variable {α : Type}

/-! ## Sorted lists of entries -/

/-- The value stored under `key`. -/
def lookup (key : String) : List (String × α) → Option α
  | [] => none
  | (k, v) :: rest => if k = key then some v else lookup key rest

/-- Puts a value under `key` in its place, instead of what stood there. -/
def place (key : String) (value : α) : List (String × α) → List (String × α)
  | [] => [(key, value)]
  | (k, v) :: rest =>
    if key < k then (key, value) :: (k, v) :: rest
    else if key = k then (key, value) :: rest
    else (k, v) :: place key value rest

theorem mem_place {key : String} {value : α} {es : List (String × α)} {e : String × α}
    (h : e ∈ place key value es) : e = (key, value) ∨ e ∈ es := by
  induction es with
  | nil => simpa [place] using h
  | cons head rest ih =>
    obtain ⟨k, v⟩ := head
    rw [place] at h
    split at h
    · simpa using h
    · split at h
      · rcases List.mem_cons.1 h with rfl | h
        · exact .inl rfl
        · exact .inr (List.mem_cons_of_mem _ h)
      · rcases List.mem_cons.1 h with rfl | h
        · exact .inr List.mem_cons_self
        · exact (ih h).imp_right (List.mem_cons_of_mem _)

theorem sorted_place (key : String) (value : α) {es : List (String × α)}
    (h : es.Pairwise fun a b ↦ a.1 < b.1) :
    (place key value es).Pairwise fun a b ↦ a.1 < b.1 := by
  induction es with
  | nil => simp [place]
  | cons head rest ih =>
    obtain ⟨k, v⟩ := head
    rw [List.pairwise_cons] at h
    rw [place]
    split
    · next hlt =>
      rw [List.pairwise_cons, List.pairwise_cons]
      refine ⟨fun e he ↦ ?_, h⟩
      rcases List.mem_cons.1 he with rfl | he
      · exact hlt
      · exact String.lt_trans hlt (h.1 e he)
    · next hlt =>
      split
      · next heq =>
        subst heq
        exact List.pairwise_cons.2 h
      · next hne =>
        refine List.pairwise_cons.2 ⟨fun e he ↦ ?_, ih h.2⟩
        rcases mem_place he with rfl | he
        · exact Classical.byContradiction fun hle ↦
            hne (String.le_antisymm (String.not_lt.1 hle) (String.not_lt.1 hlt))
        · exact h.1 e he

theorem lookup_place (key key' : String) (value : α) (es : List (String × α)) :
    lookup key' (place key value es) = if key = key' then some value else lookup key' es := by
  induction es with
  | nil => simp [place, lookup]
  | cons head rest ih =>
    obtain ⟨k, v⟩ := head
    rw [place]
    split
    · rw [lookup]
    · split
      · next heq =>
        subst heq
        by_cases h : key = key' <;> simp [lookup, h]
      · next hne =>
        rw [lookup, ih, lookup]
        by_cases h : key = key'
        · subst h
          simp [Ne.symm hne]
        · simp [h]

theorem lookup_eq_none_of_lt {key : String} {es : List (String × α)}
    (h : ∀ e ∈ es, key < e.1) : lookup key es = none := by
  induction es with
  | nil => rfl
  | cons head rest ih =>
    obtain ⟨k, v⟩ := head
    have hk : key < k := h (k, v) List.mem_cons_self
    rw [lookup, if_neg, ih fun e he ↦ h e (List.mem_cons_of_mem _ he)]
    rintro rfl
    exact String.lt_irrefl _ hk

theorem lookup_filter_ne (key key' : String) (es : List (String × α)) :
    lookup key' (es.filter fun e ↦ e.1 != key) = if key = key' then none else lookup key' es := by
  induction es with
  | nil => simp [lookup]
  | cons head rest ih =>
    obtain ⟨k, v⟩ := head
    rw [List.filter_cons]
    by_cases hk : k = key
    · subst hk
      by_cases h : k = key'
      · subst h
        simpa using ih
      · simpa [lookup, h] using ih
    · by_cases h : k = key'
      · subst h
        simp [lookup, hk, Ne.symm hk]
      · simpa [lookup, hk, h] using ih

/-- Sorted lists with the same look-ups are the same. -/
theorem eq_of_lookup_eq {es fs : List (String × α)}
    (hes : es.Pairwise fun a b ↦ a.1 < b.1) (hfs : fs.Pairwise fun a b ↦ a.1 < b.1)
    (h : ∀ key, lookup key es = lookup key fs) : es = fs := by
  induction es generalizing fs with
  | nil =>
    cases fs with
    | nil => rfl
    | cons head rest => simpa [lookup] using h head.1
  | cons head rest ih =>
    obtain ⟨k, v⟩ := head
    cases fs with
    | nil => simpa [lookup] using h k
    | cons head' rest' =>
      obtain ⟨k', v'⟩ := head'
      rw [List.pairwise_cons] at hes hfs
      have hkk : k = k' := by
        refine String.le_antisymm (String.not_lt.1 fun hlt ↦ ?_) (String.not_lt.1 fun hlt ↦ ?_)
        · have hnone : lookup k' ((k, v) :: rest) = none := by
            refine lookup_eq_none_of_lt fun e he ↦ ?_
            rcases List.mem_cons.1 he with rfl | he
            · exact hlt
            · exact String.lt_trans hlt (hes.1 e he)
          rw [h k'] at hnone
          simp [lookup] at hnone
        · have hnone : lookup k ((k', v') :: rest') = none := by
            refine lookup_eq_none_of_lt fun e he ↦ ?_
            rcases List.mem_cons.1 he with rfl | he
            · exact hlt
            · exact String.lt_trans hlt (hfs.1 e he)
          rw [← h k] at hnone
          simp [lookup] at hnone
      subst hkk
      have hv : v = v' := by simpa [lookup] using h k
      subst hv
      congr 1
      refine ih hes.2 hfs.2 fun key ↦ ?_
      by_cases hkey : k = key
      · subst hkey
        rw [lookup_eq_none_of_lt fun e he ↦ hes.1 e he, lookup_eq_none_of_lt fun e he ↦ hfs.1 e he]
      · simpa [lookup, hkey] using h key

/-! ## The map -/

/-- The map without entries. -/
def empty : NameMap α := ⟨[], List.Pairwise.nil⟩

instance : Inhabited (NameMap α) := ⟨empty⟩

/-- The value stored under a name. -/
def get? (m : NameMap α) (key : String) : Option α := lookup key m.entries

/-- Whether something is stored under a name. -/
def contains (m : NameMap α) (key : String) : Bool := (m.get? key).isSome

/-- Stores a value under a name, instead of what stood there. -/
def insert (m : NameMap α) (key : String) (value : α) : NameMap α :=
  ⟨place key value m.entries, sorted_place key value m.sorted⟩

/-- Removes what is stored under a name. -/
def erase (m : NameMap α) (key : String) : NameMap α :=
  ⟨m.entries.filter fun e ↦ e.1 != key, m.sorted.filter _⟩

/-- The names under which something is stored, in increasing order. -/
def keys (m : NameMap α) : List String := m.entries.map Prod.fst

/-- The number of entries. -/
def size (m : NameMap α) : Nat := m.entries.length

/-- The map of a list of entries; of two entries with one name the later counts. -/
def ofList (es : List (String × α)) : NameMap α :=
  es.foldl (fun m e ↦ m.insert e.1 e.2) empty

@[simp] theorem get?_empty (key : String) : (empty : NameMap α).get? key = none := rfl

theorem get?_insert (m : NameMap α) (key key' : String) (value : α) :
    (m.insert key value).get? key' = if key = key' then some value else m.get? key' :=
  lookup_place key key' value m.entries

@[simp] theorem get?_insert_self (m : NameMap α) (key : String) (value : α) :
    (m.insert key value).get? key = some value := by
  rw [get?_insert, if_pos rfl]

theorem get?_insert_of_ne (m : NameMap α) {key key' : String} (h : key ≠ key') (value : α) :
    (m.insert key value).get? key' = m.get? key' := by
  rw [get?_insert, if_neg h]

theorem get?_erase (m : NameMap α) (key key' : String) :
    (m.erase key).get? key' = if key = key' then none else m.get? key' :=
  lookup_filter_ne key key' m.entries

@[simp] theorem get?_erase_self (m : NameMap α) (key : String) : (m.erase key).get? key = none := by
  rw [get?_erase, if_pos rfl]

theorem get?_erase_of_ne (m : NameMap α) {key key' : String} (h : key ≠ key') :
    (m.erase key).get? key' = m.get? key' := by
  rw [get?_erase, if_neg h]

/-- Maps with the same look-ups are equal. -/
theorem ext {m n : NameMap α} (h : ∀ key, m.get? key = n.get? key) : m = n := by
  obtain ⟨es, hes⟩ := m
  obtain ⟨fs, hfs⟩ := n
  have : es = fs := eq_of_lookup_eq hes hfs h
  subst this
  rfl

/-- The names of a map increase strictly. -/
theorem pairwise_keys (m : NameMap α) : m.keys.Pairwise (· < ·) :=
  List.pairwise_map.2 m.sorted

end NameMap

end KernelMetadata
