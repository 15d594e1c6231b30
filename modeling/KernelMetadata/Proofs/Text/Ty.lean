import KernelMetadata.Proofs.Text.Tells
import KernelMetadata.Ty.Order
import KernelMetadata.Ty.Text

/-!
# The text of a type tells the type

Types are told by their text if a comma follows, or a space that does not begin an address space
(`Ty.tells_text`): everything that is written after a type begins in one of these ways.

Types without brackets have a text in three parts (`Ty.Parts`), a name, an address space and a star,
of which the last two may be missing. The parts tell the type, and no part can be taken for the next
one. Vectors and aggregates are told from them and from each other by their opening brackets, and
aggregates element by element.
-/

namespace KernelMetadata

open Text

/-! ## The name of a type without brackets -/

theorem IntType.toList_text (t : IntType) :
    t.text.toList = 'i' :: Nat.toDigits 10 t.bits.toNat := by
  rw [text, String.toList_append, toList_decimal]
  rfl

theorem IntType.text_injective : Function.Injective IntType.text := by
  rintro ⟨a⟩ ⟨b⟩ h
  rw [text, text, String.append_right_inj] at h
  have hbits : a = b := UInt32.toNat_inj.1 (decimal_injective h)
  rw [hbits]

/-- The name of a scalar, or what an opaque pointer is called. -/
def baseText : Option Scalar → String
  | some s => s.text
  | none => "ptr"

theorem isAlphanum_of_mem_baseText (s : Option Scalar) :
    ∀ c ∈ (baseText s).toList, c.isAlphanum = true := by
  cases s with
  | none => exact List.all_eq_true.1 (by decide)
  | some s =>
    cases s with
    | float f => cases f <;> exact List.all_eq_true.1 (by decide)
    | int t =>
      rw [baseText, Scalar.text, IntType.toList_text, List.forall_mem_cons]
      exact ⟨rfl, (denotes_toDigits (by omega) (by omega) _).isAlphanum⟩

theorem head?_baseText_int (t : IntType) :
    (baseText (some (.int t))).toList.head? = some 'i' := by
  rw [baseText, Scalar.text, IntType.toList_text]
  rfl

theorem begins_baseText (s : Option Scalar) : Begins Char.isAlphanum (baseText s).toList := by
  rcases s with _ | t | f
  · exact begins_cons rfl
  · exact ⟨'i', head?_baseText_int t, rfl⟩
  · cases f <;> exact begins_cons rfl

theorem baseText_injective : Function.Injective baseText := by
  -- no other name begins as those of integers do
  have hint : ∀ (t : IntType) (s : Option Scalar), baseText (some (.int t)) = baseText s →
      some (.int t) = s := by
    intro t s h
    have hhead := head?_baseText_int t
    rcases s with _ | t' | f
    · rw [h] at hhead
      exact absurd hhead (by decide)
    · rw [IntType.text_injective h]
    · rw [h] at hhead
      cases f <;> exact absurd hhead (by decide)
  intro a b h
  rcases a with _ | t | f
  · rcases b with _ | t' | f'
    · rfl
    · exact (hint t' none h.symm).symm
    · cases f' <;> exact absurd h (by decide)
  · exact hint t b h
  · rcases b with _ | t' | f'
    · cases f <;> exact absurd h (by decide)
    · exact (hint t' (some (.float f)) h.symm).symm
    · cases f <;> cases f' <;> first | rfl | exact absurd h (by decide)

theorem tells_baseText (a b : Option Scalar) :
    Tells (BeginsOutside Char.isAlphanum) (baseText a).toList (baseText b).toList (a = b) :=
  (tells_word (isAlphanum_of_mem_baseText a) (isAlphanum_of_mem_baseText b)).imp fun h ↦
    baseText_injective (String.toList_inj.1 h)

/-! ## Types without brackets -/

/-- What may follow a type: a comma, or a space that does not begin an address space. -/
def AfterType : List Char → Prop
  | ',' :: _ => True
  | ' ' :: c :: _ => c ≠ 'a'
  | _ => False

/-- The text of an address space. -/
def spaceText (n : UInt32) : String :=
  if n = 0 then "" else " addrspace(" ++ decimal n.toNat ++ ")"

/-- The text of a star, if there is one. -/
def starText (starred : Bool) : String := if starred then "*" else ""

/-- What may follow an address space: a star, or what may follow a type. -/
def AfterSpace (s : List Char) : Prop := s.head? = some '*' ∨ AfterType s

theorem AfterType.beginsOutside {s : List Char} (h : AfterType s) :
    BeginsOutside Char.isAlphanum s := by
  rw [AfterType.eq_def] at h
  split at h
  · exact beginsOutside_cons rfl
  · exact beginsOutside_cons rfl
  · exact h.elim

theorem AfterSpace.beginsOutside {s : List Char} (h : AfterSpace s) :
    BeginsOutside Char.isAlphanum s := by
  rcases h with h | h
  · intro c hc
    rw [h] at hc
    obtain rfl : '*' = c := Option.some_inj.1 hc
    rfl
  · exact h.beginsOutside

theorem tells_starText (a b : Bool) :
    Tells AfterType (starText a).toList (starText b).toList (a = b) := by
  have hmissing : Tells AfterType (starText false).toList (starText true).toList
      (false = true) := Tells.of_nil fun _ hs ↦ hs
  cases a with
  | false =>
    cases b with
    | false => exact Tells.rfl.imp fun _ ↦ rfl
    | true => exact hmissing
  | true =>
    cases b with
    | false => exact hmissing.symm.imp Eq.symm
    | true => exact Tells.rfl.imp fun _ ↦ rfl

theorem toList_spaceText {n : UInt32} (hn : n ≠ 0) : (spaceText n).toList =
    ' ' :: ("addrspace(".toList ++ ((decimal n.toNat).toList ++ [')'])) := by
  rw [spaceText, if_neg hn, String.toList_append, String.toList_append, List.append_assoc]
  rfl

theorem tells_spaceText (m n : UInt32) :
    Tells AfterSpace (spaceText m).toList (spaceText n).toList (m = n) := by
  have hmissing : ∀ n : UInt32, n ≠ 0 →
      Tells AfterSpace (spaceText 0).toList (spaceText n).toList (0 = n) := by
    intro n hn
    rw [toList_spaceText hn]
    refine Tells.of_nil fun s hs ↦ ?_
    rcases hs with hs | hs
    · cases hs
    · exact absurd rfl hs
  by_cases hm : m = 0
  · subst hm
    by_cases hn : n = 0
    · subst hn
      exact Tells.rfl.imp fun _ ↦ rfl
    · exact hmissing n hn
  · by_cases hn : n = 0
    · subst hn
      exact (hmissing m hm).symm.imp Eq.symm
    · rw [toList_spaceText hm, toList_spaceText hn]
      exact (((tells_decimal m.toNat n.toNat).append_right [')']
        fun _ ↦ beginsOutside_cons rfl).append_left (' ' :: _)).imp UInt32.toNat_inj.1

theorem afterSpace_starText (starred : Bool) {s : List Char} (h : AfterType s) :
    AfterSpace ((starText starred).toList ++ s) := by
  cases starred with
  | false => exact .inr h
  | true => exact .inl rfl

theorem beginsOutside_spaceText (n : UInt32) {s : List Char} (h : AfterSpace s) :
    BeginsOutside Char.isAlphanum ((spaceText n).toList ++ s) := by
  by_cases hn : n = 0
  · subst hn
    exact h.beginsOutside
  · rw [toList_spaceText hn]
    exact beginsOutside_cons rfl

namespace Ty

/-- The parts of the text of a type without brackets: the name, the address space and the star. -/
structure Parts where
  base : Option Scalar
  space : UInt32
  starred : Bool

namespace Parts

def text (p : Parts) : List Char :=
  (baseText p.base).toList ++ ((spaceText p.space).toList ++ (starText p.starred).toList)

/-- The type of some parts. -/
def type : Parts → Ty
  | ⟨base, space, true⟩ => pointer ⟨space, base⟩
  | ⟨none, space, false⟩ => pointer ⟨space, none⟩
  | ⟨some (.int t), _, false⟩ => int t
  | ⟨some (.float f), _, false⟩ => float f

theorem begins_text (p : Parts) : Begins Char.isAlphanum p.text :=
  (begins_baseText p.base).append _

theorem tells_text (p q : Parts) : Tells AfterType p.text q.text (p = q) := by
  -- the name ends before the address space, and the address space before the star
  have hspace : Tells AfterType ((spaceText p.space).toList ++ (starText p.starred).toList)
      ((spaceText q.space).toList ++ (starText q.starred).toList)
      (p.space = q.space ∧ p.starred = q.starred) :=
    (tells_spaceText p.space q.space).append (fun _ ↦ tells_starText p.starred q.starred)
      (fun _ ↦ afterSpace_starText p.starred) fun _ ↦ afterSpace_starText q.starred
  have hname : ∀ (r : Parts) (s : List Char), AfterType s → BeginsOutside Char.isAlphanum
      (((spaceText r.space).toList ++ (starText r.starred).toList) ++ s) := by
    intro r s hs
    rw [List.append_assoc]
    exact beginsOutside_spaceText r.space (afterSpace_starText r.starred hs)
  refine ((tells_baseText p.base q.base).append (fun _ ↦ hspace) (hname p) (hname q)).imp ?_
  rintro ⟨hbase, hspace, hstarred⟩
  obtain ⟨base, space, starred⟩ := p
  obtain ⟨base', space', starred'⟩ := q
  obtain rfl : base = base' := hbase
  obtain rfl : space = space' := hspace
  obtain rfl : starred = starred' := hstarred
  rfl

end Parts

/-- The parts of a type without brackets. -/
def parts? : Ty → Option Parts
  | int t => some ⟨some (.int t), 0, false⟩
  | float f => some ⟨some (.float f), 0, false⟩
  | pointer p => some ⟨p.pointee, p.addressSpace, p.pointee.isSome⟩
  | vector _ | aggregate _ => none

variable {next : List Char → Prop} {P : Prop} {a b : Ty} {p q : Parts}

theorem parts?_cases (t : Ty) :
    (∃ p, t.parts? = some p) ∨ (∃ v, t = vector v) ∨ ∃ ts, t = aggregate ts := by
  cases t with
  | int t => exact .inl ⟨_, rfl⟩
  | float f => exact .inl ⟨_, rfl⟩
  | pointer p => exact .inl ⟨_, rfl⟩
  | vector v => exact .inr (.inl ⟨v, rfl⟩)
  | aggregate ts => exact .inr (.inr ⟨ts, rfl⟩)

theorem type_of_parts? (h : a.parts? = some p) : p.type = a := by
  cases a with
  | int t =>
    cases h
    rfl
  | float f =>
    cases h
    rfl
  | pointer p =>
    obtain ⟨space, _ | s⟩ := p <;> cases h <;> rfl
  | vector v => cases h
  | aggregate ts => cases h

theorem toList_text_of_parts? (h : a.parts? = some p) : a.text.toList = p.text := by
  cases a with
  | int t =>
    cases h
    exact (List.append_nil _).symm
  | float f =>
    cases h
    exact (List.append_nil _).symm
  | pointer p =>
    obtain ⟨space, pointee⟩ := p
    cases h
    rw [text, PointerType.text, String.toList_append, String.toList_append, List.append_assoc]
    cases pointee <;> rfl
  | vector v => cases h
  | aggregate ts => cases h

theorem tells_text_of_parts? (ha : a.parts? = some p) (hb : b.parts? = some q) :
    Tells AfterType a.text.toList b.text.toList (a = b) := by
  rw [toList_text_of_parts? ha, toList_text_of_parts? hb]
  refine (p.tells_text q).imp ?_
  rintro rfl
  rw [← type_of_parts? ha, ← type_of_parts? hb]

/-! ## All types -/

theorem begins_text_of_parts? (h : a.parts? = some p) : Begins Char.isAlphanum a.text.toList := by
  rw [toList_text_of_parts? h]
  exact p.begins_text

theorem toList_text_vector (v : VectorType) : (vector v).text.toList = '<' ::
    ((decimal v.length.toNat).toList ++
      (" x ".toList ++ ((baseText (some v.component)).toList ++ ['>']))) := by
  rw [text, VectorType.text]
  simp only [String.toList_append, List.append_assoc]
  rfl

theorem toList_text_aggregate (ts : List Ty) : (aggregate ts).text.toList = '{' :: ' ' ::
    (", ".toList.intercalate (ts.map fun t ↦ t.text.toList) ++ [' ', '}']) := by
  rw [text, texts_eq_map, String.toList_append, String.toList_append, String.toList_intercalate,
    List.map_map]
  rfl

/-- Whether a type can begin with a character: as a name does, or with the bracket of a vector or of
an aggregate. -/
def beginsType (c : Char) : Bool := c.isAlphanum || c == '<' || c == '{'

theorem begins_text (t : Ty) : Begins beginsType t.text.toList := by
  rcases parts?_cases t with ⟨p, ht⟩ | ⟨v, rfl⟩ | ⟨ts, rfl⟩
  · refine (begins_text_of_parts? ht).imp fun c hc ↦ ?_
    rw [beginsType, hc]
    rfl
  · rw [toList_text_vector]
    exact begins_cons rfl
  · rw [toList_text_aggregate]
    exact begins_cons rfl

theorem tells_text_vector (v w : VectorType) :
    Tells next (vector v).text.toList (vector w).text.toList (vector v = vector w) := by
  have hcomponent : Tells next ((baseText (some v.component)).toList ++ ['>'])
      ((baseText (some w.component)).toList ++ ['>']) (some v.component = some w.component) :=
    (tells_baseText _ _).append_right ['>'] fun _ ↦ beginsOutside_cons rfl
  rw [toList_text_vector, toList_text_vector]
  refine (((tells_decimal v.length.toNat w.length.toNat).append
    (fun _ ↦ hcomponent.append_left " x ".toList) (fun _ _ ↦ beginsOutside_cons rfl)
      fun _ _ ↦ beginsOutside_cons rfl).append_left ['<']).imp ?_
  rintro ⟨hlength, hcomponent⟩
  obtain ⟨component, length⟩ := v
  obtain ⟨component', length'⟩ := w
  obtain rfl : component = component' := Option.some_inj.1 hcomponent
  obtain rfl : length = length' := UInt16.toNat_inj.1 hlength
  rfl

theorem tells_text_vector_aggregate (v : VectorType) (ts : List Ty) :
    Tells next (vector v).text.toList (aggregate ts).text.toList P := by
  rw [toList_text_vector, toList_text_aggregate]
  exact tells_of_head_ne rfl rfl (by decide)

/-- Types without brackets are told from all types. -/
theorem tells_text_of_parts?_left (ha : a.parts? = some p) (b : Ty) :
    Tells AfterType a.text.toList b.text.toList (a = b) := by
  rcases parts?_cases b with ⟨q, hb⟩ | ⟨v, rfl⟩ | ⟨ts, rfl⟩
  · exact tells_text_of_parts? ha hb
  · rw [toList_text_vector]
    exact (begins_text_of_parts? ha).tells rfl rfl
  · rw [toList_text_aggregate]
    exact (begins_text_of_parts? ha).tells rfl rfl

/-- Aggregates are told element by element, if their elements are. -/
theorem tells_text_aggregate {ts us : List Ty}
    (h : ∀ t ∈ ts, ∀ u : Ty, Tells AfterType t.text.toList u.text.toList (t = u)) :
    Tells next (aggregate ts).text.toList (aggregate us).text.toList
      (aggregate ts = aggregate us) := by
  have hnext : ∀ s, ", ".toList <+: s ∨ [' ', '}'] <+: s → AfterType s := by
    rintro s (⟨r, rfl⟩ | ⟨r, rfl⟩)
    · exact trivial
    · show '}' ≠ 'a'
      decide
  have helements : Tells next _ _ (List.Forall₂ (· = ·) ts us) :=
    tells_listed (by decide) rfl (fun t _ ↦ t.begins_text) (fun u _ ↦ u.begins_text)
      fun t ht u _ ↦ (h t ht u).of_next hnext
  rw [toList_text_aggregate, toList_text_aggregate]
  refine (helements.append_left ['{', ' ']).imp fun h ↦ ?_
  rw [List.forall₂_eq_eq_eq] at h
  rw [h]

/-- **Types** are told by their texts. -/
theorem tells_text (a b : Ty) : Tells AfterType a.text.toList b.text.toList (a = b) := by
  induction a generalizing b with
  | int t => exact tells_text_of_parts?_left rfl b
  | float f => exact tells_text_of_parts?_left rfl b
  | pointer p => exact tells_text_of_parts?_left rfl b
  | vector v =>
    rcases parts?_cases b with ⟨q, hb⟩ | ⟨w, rfl⟩ | ⟨us, rfl⟩
    · exact (tells_text_of_parts?_left hb (vector v)).symm.imp Eq.symm
    · exact tells_text_vector v w
    · exact tells_text_vector_aggregate v us
  | aggregate ts ih =>
    rcases parts?_cases b with ⟨q, hb⟩ | ⟨w, rfl⟩ | ⟨us, rfl⟩
    · exact (tells_text_of_parts?_left hb (aggregate ts)).symm.imp Eq.symm
    · exact (tells_text_vector_aggregate w ts).symm
    · exact tells_text_aggregate ih

/-- Types with the same text are the same, as a comma after both shows. -/
theorem text_injective : Function.Injective text := by
  intro a b h
  exact (tells_text a b).of_eq [','] trivial (congrArg String.toList h)

end Ty

end KernelMetadata
