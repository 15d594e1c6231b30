import KernelMetadata.Ty.Order
import Mathlib.Data.List.Lex
import Mathlib.Order.Defs.LinearOrder

/-!
# The order of types is total

Comparing two types the other way round gives the opposite answer (`Ty.compare_swap`), and what is
less than something less is less (`Ty.compare_lt_trans`). With the fact that only equal types
compare as equal, the types are thereby ordered totally (`Ty.ordered_totally`).

Everything but the aggregates is put together from numbers: integer types and formats are compared
by a number, pointers and vectors part by part, and the laws for such comparisons are instances. An
aggregate holds types again, so its laws are proved from those of its elements, by induction on the
type: of two lists of types the lesser one is the lesser one lexicographically
(`Ty.compareElements_eq_lt_iff`), and the lexicographic order is transitive as far as the order of
the members is (`lex_trans_of_mem`).
-/

namespace KernelMetadata

/-- A lexicographic order is transitive on lists on the members of which its relation is. -/
theorem lex_trans_of_mem {α : Type} {r : α → α → Prop} {as bs cs : List α}
    (hr : ∀ a ∈ as, ∀ b c, r a b → r b c → r a c) (hab : List.Lex r as bs)
    (hbc : List.Lex r bs cs) : List.Lex r as cs := by
  induction hab generalizing cs with
  | nil => cases hbc <;> exact .nil
  | rel h =>
    cases hbc with
    | rel h' => exact .rel (hr _ List.mem_cons_self _ _ h h')
    | cons _ => exact .rel h
  | cons _ ih =>
    cases hbc with
    | rel h' => exact .rel h'
    | cons h' => exact .cons (ih (fun a ha ↦ hr a (List.mem_cons_of_mem _ ha)) h')

/-! ## The parts of types -/

instance : Std.TransCmp IntType.compare :=
  inferInstanceAs (Std.TransCmp (compareOn fun t : IntType ↦ t.bits.toNat))

instance : Std.TransCmp FloatFormat.compare :=
  inferInstanceAs (Std.TransCmp (compareOn FloatFormat.rank))

/-- The place of a kind of scalar in the order of kinds. -/
def Scalar.rank : Scalar → Nat
  | int _ => 0
  | float _ => 1

/-- The number by which a scalar is compared with others of its kind. -/
def Scalar.number : Scalar → Nat
  | int t => t.bits.toNat
  | float f => f.rank

theorem Scalar.compare_eq_compareLex :
    compare = compareLex (compareOn Scalar.rank) (compareOn Scalar.number) := by
  funext a b
  cases a <;> cases b <;> rfl

instance : Std.TransCmp Scalar.compare := by
  rw [Scalar.compare_eq_compareLex]
  infer_instance

instance {α : Type} {cmp : α → α → Ordering} [h : Std.TransCmp cmp] :
    Std.TransCmp (compareOption cmp) := by
  let order : Ord α := ⟨cmp⟩
  have horder : Std.TransOrd α := h
  have heq : compareOption cmp = Ord.compare := by
    funext x y
    cases x <;> cases y <;> rfl
  rw [heq]
  infer_instance

instance : Std.TransCmp PointerType.compare :=
  inferInstanceAs (Std.TransCmp (compareLex (compareOn fun p : PointerType ↦ p.addressSpace.toNat)
    (Ordering.byKey PointerType.pointee (compareOption Scalar.compare))))

instance : Std.TransCmp VectorType.compare :=
  inferInstanceAs (Std.TransCmp (compareLex (Ordering.byKey VectorType.component Scalar.compare)
    (compareOn fun v : VectorType ↦ v.length.toNat)))

/-! ## Types -/

namespace Ty

variable {a b c : Ty} {as bs : List Ty}

/-- Types of different kinds compare as their kinds do, whatever else there is to them. -/
theorem compare_of_rank_ne (h : a.rank ≠ b.rank) : compare a b = Ord.compare a.rank b.rank := by
  rw [compare.eq_def]
  split
  case h_6 => rfl
  all_goals exact absurd rfl h

theorem compare_of_rank_lt (h : a.rank < b.rank) : compare a b = .lt := by
  rw [compare_of_rank_ne (Nat.ne_of_lt h), Nat.compare_eq_lt.2 h]

theorem rank_le_of_compare_eq_lt (h : compare a b = .lt) : a.rank ≤ b.rank := by
  by_contra hlt
  rw [compare_of_rank_ne (by omega), Nat.compare_eq_lt] at h
  omega

/-- Of two lists of types, the lesser one is the lesser one lexicographically. -/
theorem compareElements_eq_lt_iff :
    compareElements as bs = .lt ↔ List.Lex (fun a b ↦ compare a b = .lt) as bs := by
  induction as generalizing bs with
  | nil =>
    cases bs with
    | nil => simp [compareElements]
    | cons b bs => exact iff_of_true rfl .nil
  | cons a as ih =>
    cases bs with
    | nil => simp [compareElements]
    | cons b bs =>
      rw [compareElements, Ordering.then_eq_lt, compare_eq_iff, ih, List.cons_lex_cons_iff]

theorem compareElements_swap (h : ∀ a ∈ as, ∀ b, compare b a = (compare a b).swap) :
    compareElements bs as = (compareElements as bs).swap := by
  induction as generalizing bs with
  | nil => cases bs <;> rfl
  | cons a as ih =>
    cases bs with
    | nil => rfl
    | cons b bs =>
      rw [compareElements, compareElements, Ordering.swap_then, h a List.mem_cons_self,
        ih fun a ha ↦ h a (List.mem_cons_of_mem _ ha)]

/-- **The other way round, the answer is the opposite.** -/
theorem compare_swap (a b : Ty) : compare b a = (compare a b).swap := by
  induction a generalizing b with
  | int t =>
    cases b with
    | int u =>
      rw [compare, compare]
      exact Std.OrientedCmp.eq_swap
    | _ => rfl
  | float f =>
    cases b with
    | float g =>
      rw [compare, compare]
      exact Std.OrientedCmp.eq_swap
    | _ => rfl
  | pointer p =>
    cases b with
    | pointer q =>
      rw [compare, compare]
      exact Std.OrientedCmp.eq_swap
    | _ => rfl
  | vector v =>
    cases b with
    | vector w =>
      rw [compare, compare]
      exact Std.OrientedCmp.eq_swap
    | _ => rfl
  | aggregate as ih =>
    cases b with
    | aggregate bs => exact compareElements_swap ih
    | _ => rfl

/-- Kinds decide unless all three types are of one kind. -/
theorem compare_lt_trans_of_rank_ne (h : a.rank ≠ b.rank ∨ b.rank ≠ c.rank)
    (hab : compare a b = .lt) (hbc : compare b c = .lt) : compare a c = .lt := by
  have hrank := rank_le_of_compare_eq_lt hab
  have hrank' := rank_le_of_compare_eq_lt hbc
  exact compare_of_rank_lt (by omega)

/-- **Less than something less is less.** -/
theorem compare_lt_trans (hab : compare a b = .lt) (hbc : compare b c = .lt) :
    compare a c = .lt := by
  induction a generalizing b c with
  | int _ =>
    cases b with
    | int _ =>
      cases c with
      | int _ =>
        rw [compare] at hab hbc ⊢
        exact Std.TransCmp.lt_trans hab hbc
      | _ => exact compare_lt_trans_of_rank_ne (.inr (by simp [rank])) hab hbc
    | _ => exact compare_lt_trans_of_rank_ne (.inl (by simp [rank])) hab hbc
  | float _ =>
    cases b with
    | float _ =>
      cases c with
      | float _ =>
        rw [compare] at hab hbc ⊢
        exact Std.TransCmp.lt_trans hab hbc
      | _ => exact compare_lt_trans_of_rank_ne (.inr (by simp [rank])) hab hbc
    | _ => exact compare_lt_trans_of_rank_ne (.inl (by simp [rank])) hab hbc
  | pointer _ =>
    cases b with
    | pointer _ =>
      cases c with
      | pointer _ =>
        rw [compare] at hab hbc ⊢
        exact Std.TransCmp.lt_trans hab hbc
      | _ => exact compare_lt_trans_of_rank_ne (.inr (by simp [rank])) hab hbc
    | _ => exact compare_lt_trans_of_rank_ne (.inl (by simp [rank])) hab hbc
  | vector _ =>
    cases b with
    | vector _ =>
      cases c with
      | vector _ =>
        rw [compare] at hab hbc ⊢
        exact Std.TransCmp.lt_trans hab hbc
      | _ => exact compare_lt_trans_of_rank_ne (.inr (by simp [rank])) hab hbc
    | _ => exact compare_lt_trans_of_rank_ne (.inl (by simp [rank])) hab hbc
  | aggregate as ih =>
    cases b with
    | aggregate bs =>
      cases c with
      | aggregate cs =>
        rw [compare, compareElements_eq_lt_iff] at hab hbc ⊢
        exact lex_trans_of_mem (fun a ha b c ↦ ih a ha) hab hbc
      | _ => exact compare_lt_trans_of_rank_ne (.inr (by simp [rank])) hab hbc
    | _ => exact compare_lt_trans_of_rank_ne (.inl (by simp [rank])) hab hbc

instance : Std.OrientedCmp compare where
  eq_swap {a b} := compare_swap b a

instance : Std.TransCmp compare where
  isLE_trans {a b c} hab hbc := by
    rw [Ordering.isLE_iff_eq_lt_or_eq_eq, compare_eq_iff] at hab hbc ⊢
    rcases hab with hab | rfl
    · rcases hbc with hbc | rfl
      · exact .inl (compare_lt_trans hab hbc)
      · exact .inl hab
    · exact hbc

instance : Std.LawfulEqCmp compare where
  compare_self {a} := (compare_eq_iff a a).2 rfl
  eq_of_compare {a b} := (compare_eq_iff a b).1

/-! ## Lists of types -/

/-- What two lists begin with makes no difference. -/
theorem compareElements_append (ts as bs : List Ty) :
    compareElements (ts ++ as) (ts ++ bs) = compareElements as bs := by
  induction ts with
  | nil => rfl
  | cons t ts ih =>
    rw [List.cons_append, List.cons_append, compareElements, (compare_eq_iff t t).2 rfl, ih]
    rfl

/-- The first elements decide if they are different. -/
theorem compareElements_cons_of_ne (h : a ≠ b) (as bs : List Ty) :
    compareElements (a :: as) (b :: bs) = compare a b := by
  rw [compareElements]
  cases hab : compare a b with
  | eq => exact absurd ((compare_eq_iff a b).1 hab) h
  | lt => rfl
  | gt => rfl

/-- **The order of types is total, and equality is its equality.** Different types compare as
different, the other way round the opposite way, and never in circles. The kinds of types come in
the order in which they are declared, whatever is in them; of two aggregates the first elements that
differ decide, and one that ends before any differ is less; and in an address space the opaque
pointer is less than all others. -/
theorem ordered_totally :
    (∀ a b, compare a b = .eq ↔ a = b) ∧
    (∀ a b, compare b a = (compare a b).swap) ∧
    (∀ a b c, compare a b ≠ .gt → compare b c ≠ .gt → compare a c ≠ .gt) ∧
    (∀ ts a b as bs, a ≠ b →
      compare (.aggregate (ts ++ a :: as)) (.aggregate (ts ++ b :: bs)) = compare a b) ∧
    (∀ ts b bs, compare (.aggregate ts) (.aggregate (ts ++ b :: bs)) = .lt) ∧
    (∀ t f p v ts, [int t, float f, pointer p, vector v, aggregate ts].Pairwise
      fun a b ↦ compare a b = .lt) ∧
    (∀ space pointee,
      compare (.pointer ⟨space, none⟩) (.pointer ⟨space, some pointee⟩) = .lt) := by
  refine ⟨compare_eq_iff, compare_swap, fun a b c ↦ Std.TransCmp.le_trans, ?_, ?_, ?_, ?_⟩
  · intro ts a b as bs h
    rw [compare, compareElements_append, compareElements_cons_of_ne h]
  · intro ts b bs
    have happend := compareElements_append ts [] (b :: bs)
    rw [List.append_nil] at happend
    rw [compare, happend, compareElements]
  · intro t f p v ts
    have hrank : [int t, float f, pointer p, vector v, aggregate ts].Pairwise
        fun a b ↦ a.rank < b.rank := by
      simp [rank]
    exact hrank.imp compare_of_rank_lt
  · intro space pointee
    rw [compare, PointerType.compare, Nat.compare_eq_eq.2 rfl]
    rfl

/-- A record of two halves and of an inner record of some types. -/
def halvesAnd (elements : List Ty) : Ty :=
  .aggregate [.vector ⟨.float .half, 2⟩, .aggregate elements]

/-- The inner records decide: a pointer of which less is known makes a record less, and a further
element makes it greater. -/
theorem ordered_totally_halvesAnd :
    compare (halvesAnd [.pointer ⟨1, none⟩]) (halvesAnd [.pointer ⟨1, some (.int .i32)⟩]) ≠ .gt ∧
      compare (halvesAnd [.pointer ⟨1, some (.int .i32)⟩])
        (halvesAnd [.pointer ⟨1, some (.int .i32)⟩, .int ⟨8⟩]) ≠ .gt ∧
      compare (halvesAnd [.pointer ⟨1, none⟩])
        (halvesAnd [.pointer ⟨1, some (.int .i32)⟩, .int ⟨8⟩]) ≠ .gt ∧
      aggregate [.pointer ⟨1, none⟩] ≠ aggregate [.pointer ⟨1, some (.int .i32)⟩] ∧
      compare (halvesAnd [.pointer ⟨1, none⟩]) (halvesAnd [.pointer ⟨1, some (.int .i32)⟩]) =
        compare (aggregate [.pointer ⟨1, none⟩]) (aggregate [.pointer ⟨1, some (.int .i32)⟩]) := by
  obtain ⟨-, -, htrans, hdiffer, -⟩ := ordered_totally
  have hfirst : compare (halvesAnd [.pointer ⟨1, none⟩])
      (halvesAnd [.pointer ⟨1, some (.int .i32)⟩]) ≠ .gt := by decide
  have hsecond : compare (halvesAnd [.pointer ⟨1, some (.int .i32)⟩])
      (halvesAnd [.pointer ⟨1, some (.int .i32)⟩, .int ⟨8⟩]) ≠ .gt := by decide
  have hne : aggregate [.pointer ⟨1, none⟩] ≠ aggregate [.pointer ⟨1, some (.int .i32)⟩] := by
    decide
  exact ⟨hfirst, hsecond, htrans _ _ _ hfirst hsecond, hne,
    hdiffer [.vector ⟨.float .half, 2⟩] _ _ [] [] hne⟩

end Ty

end KernelMetadata
