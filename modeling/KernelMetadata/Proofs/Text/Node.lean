import KernelMetadata.Node
import KernelMetadata.Proofs.Text.Ty

/-!
# The text of a node tells the node

The text of a node tells its operands, in whatever way references are resolved to names
(`Node.tells_render`). Where references are resolved, the text shows a name and not the identity
that has it: the operands are then the same up to references that are written alike
(`Operand.SameUpTo`, `SameReference`). A reference that resolves to nothing is told for certain, as
the hyphens in it are no part of any name.

Integers and undefined values are told from each other by what comes after the type, which is a
number for the ones and a fixed word for the others.

Where no reference is resolved, the text of a node tells the node itself
(`Node.texts_unambiguous`).
-/

namespace KernelMetadata

open Text

variable {next : List Char → Prop} {nameOf nameOf' : FunctionId → Option String}

/-! ## Names and references -/

/-- Whether names may be made of a character. -/
def isNameChar (c : Char) : Bool := c.isAlphanum || c == '_' || c == '.'

/-- Whether a string is made of the characters of names only. -/
def IsName (s : String) : Prop := ∀ c ∈ s.toList, isNameChar c = true

instance (s : String) : Decidable (IsName s) := List.decidableBAll _ _

theorem IsName.tells {s t : String} (hs : IsName s) (ht : IsName t) :
    Tells (BeginsOutside isNameChar) s.toList t.toList (s = t) :=
  (tells_word hs ht).imp String.toList_inj.1

/-- Whether references may be made of a character: names may, and identities. -/
def isReferenceChar (c : Char) : Bool := isNameChar c || c == '-'

/-- What is written for a reference. -/
def referenceText (nameOf : FunctionId → Option String) (f : FunctionId) : String :=
  (nameOf f).getD f.hyphenated

/-- Whether references are resolved to the same name, or are the same and resolved to none. -/
def SameReference (nameOf nameOf' : FunctionId → Option String) (f g : FunctionId) : Prop :=
  nameOf f = nameOf' g ∧ (nameOf f = none → f = g)

/-- Whether references are resolved to names only. -/
def ResolvesToNames (nameOf : FunctionId → Option String) : Prop :=
  ∀ f, ∀ name ∈ nameOf f, IsName name

theorem SameReference.referenceText_eq {f g : FunctionId} (h : SameReference nameOf nameOf' f g) :
    referenceText nameOf f = referenceText nameOf' g := by
  rw [referenceText, referenceText, ← h.1]
  cases hf : nameOf f with
  | none => rw [h.2 hf]
  | some name => rw [Option.getD_some, Option.getD_some]

/-- Among names, the hyphens of an identity show that it has not been resolved. -/
theorem sameReference_of_referenceText_eq (h : ResolvesToNames nameOf)
    (h' : ResolvesToNames nameOf') {f g : FunctionId}
    (heq : referenceText nameOf f = referenceText nameOf' g) :
    SameReference nameOf nameOf' f g := by
  have hhyphen : ∀ f name, IsName name → name ≠ FunctionId.hyphenated f := by
    rintro f name hname rfl
    exact absurd (hname _ f.hyphen_mem_hyphenated) (by decide)
  rw [referenceText, referenceText] at heq
  cases hf : nameOf f with
  | none =>
    rw [hf, Option.getD_none] at heq
    cases hg : nameOf' g with
    | none =>
      rw [hg, Option.getD_none] at heq
      exact ⟨by rw [hf, hg], fun _ ↦ FunctionId.hyphenated_injective heq⟩
    | some name =>
      rw [hg, Option.getD_some] at heq
      exact absurd heq.symm (hhyphen f name (h' g name hg))
  | some name =>
    rw [hf, Option.getD_some] at heq
    cases hg : nameOf' g with
    | none =>
      rw [hg, Option.getD_none] at heq
      exact absurd heq (hhyphen g name (h f name hf))
    | some name' =>
      rw [hg, Option.getD_some] at heq
      refine ⟨by rw [hf, hg, heq], fun hnone ↦ ?_⟩
      rw [hf] at hnone
      cases hnone

theorem isReferenceChar_of_mem (h : ResolvesToNames nameOf) (f : FunctionId) :
    ∀ c ∈ (referenceText nameOf f).toList, isReferenceChar c = true := by
  intro c hc
  rw [referenceText] at hc
  cases hf : nameOf f with
  | some name =>
    rw [hf, Option.getD_some] at hc
    rw [isReferenceChar, h f name hf c hc, Bool.true_or]
  | none =>
    rw [hf, Option.getD_none] at hc
    rcases FunctionId.isAlphanum_or_hyphen_of_mem hc with hclass | rfl
    · rw [isReferenceChar, isNameChar, hclass, Bool.true_or, Bool.true_or, Bool.true_or]
    · rfl

theorem tells_referenceText (h : ResolvesToNames nameOf) (h' : ResolvesToNames nameOf')
    (f g : FunctionId) :
    Tells (BeginsOutside isReferenceChar) (referenceText nameOf f).toList
      (referenceText nameOf' g).toList (SameReference nameOf nameOf' f g) :=
  (tells_word (isReferenceChar_of_mem h f) (isReferenceChar_of_mem h' g)).imp fun heq ↦
    sameReference_of_referenceText_eq h h' (String.toList_inj.1 heq)

/-! ## Operands -/

namespace Operand

/-- Whether operands are the same up to related references. -/
inductive SameUpTo (r : FunctionId → FunctionId → Prop) : Operand → Operand → Prop where
  | int (c : IntConst) : SameUpTo r (.int c) (.int c)
  | string (s : String) : SameUpTo r (.string s) (.string s)
  | function {f g : FunctionId} (h : r f g) : SameUpTo r (.function f) (.function g)
  | undef (t : Ty) : SameUpTo r (.undef t) (.undef t)

theorem SameUpTo.imp {r r' : FunctionId → FunctionId → Prop} (hr : ∀ f g, r f g → r' f g)
    {a b : Operand} (h : SameUpTo r a b) : SameUpTo r' a b := by
  cases h with
  | int c => exact .int c
  | string s => exact .string s
  | undef t => exact .undef t
  | function hfg => exact .function (hr _ _ hfg)

theorem render_function (nameOf : FunctionId → Option String) (f : FunctionId) :
    (function f).render nameOf = "@" ++ referenceText nameOf f := by
  rw [render, referenceText]
  cases nameOf f <;> rfl

/-- Operands that are the same up to references that are written alike are written alike. -/
theorem SameUpTo.render_eq {a b : Operand} (h : SameUpTo (SameReference nameOf nameOf') a b) :
    a.render nameOf = b.render nameOf' := by
  cases h with
  | int c => rfl
  | string s => rfl
  | undef t => rfl
  | function hfg => rw [render_function, render_function, hfg.referenceText_eq]

/-- What may follow an operand. -/
def After (s : List Char) : Prop := ", ".toList <+: s ∨ ['}'] <+: s

theorem After.beginsOutside {p : Char → Bool} (hcomma : p ',' = false) (hbrace : p '}' = false)
    {s : List Char} (h : After s) : BeginsOutside p s := by
  rcases h with ⟨r, rfl⟩ | ⟨r, rfl⟩
  · exact beginsOutside_cons hcomma
  · exact beginsOutside_cons hbrace

/-- The type of an integer or undefined value, and what comes after it. -/
def typed? : Operand → Option (Ty × String)
  | int c => some (.int c.type, decimal c.value.toNat)
  | undef t => some (t, "undef")
  | string _ | function _ => none

theorem cases_typed? (o : Operand) :
    (∃ p, o.typed? = some p) ∨ (∃ s, o = string s) ∨ ∃ f, o = function f := by
  cases o with
  | int c => exact .inl ⟨_, rfl⟩
  | string s => exact .inr (.inl ⟨s, rfl⟩)
  | function f => exact .inr (.inr ⟨f, rfl⟩)
  | undef t => exact .inl ⟨_, rfl⟩

variable {a b : Operand} {p q : Ty × String} {r : FunctionId → FunctionId → Prop}

theorem sameUpTo_of_typed? (ha : a.typed? = some p) (hb : b.typed? = some p) : a.SameUpTo r b := by
  -- the word for an undefined value has no digit in it
  have hword : ∀ n : Nat, decimal n ≠ "undef" := by
    intro n h
    have hu : 'u' ∈ (decimal n).toList := by
      rw [h]
      decide
    exact absurd (isDigit_of_mem_decimal hu) (by decide)
  cases a with
  | int c =>
    cases ha
    cases b with
    | int d =>
      obtain ⟨type, value⟩ := c
      obtain ⟨type', value'⟩ := d
      simp only [typed?, Option.some_inj, Prod.mk.injEq, Ty.int.injEq] at hb
      obtain ⟨rfl, hvalue⟩ := hb
      obtain rfl : value' = value := UInt64.toNat_inj.1 (decimal_injective hvalue)
      exact .int _
    | undef t =>
      simp only [typed?, Option.some_inj, Prod.mk.injEq] at hb
      exact absurd hb.2.symm (hword _)
    | string s => cases hb
    | function f => cases hb
  | undef t =>
    cases ha
    cases b with
    | int d =>
      simp only [typed?, Option.some_inj, Prod.mk.injEq] at hb
      exact absurd hb.2 (hword _)
    | undef u =>
      cases hb
      exact .undef _
    | string s => cases hb
    | function f => cases hb
  | string s => cases ha
  | function f => cases ha

theorem toList_render_of_typed? (h : a.typed? = some p) :
    (a.render nameOf).toList = p.1.text.toList ++ ' ' :: p.2.toList := by
  cases a with
  | int c =>
    cases h
    rw [render, IntConst.text, String.toList_append, String.toList_append, List.append_assoc]
    rfl
  | undef t =>
    cases h
    have hword : " undef".toList = ' ' :: "undef".toList := by decide
    rw [render, String.toList_append, hword]
  | string s => cases h
  | function f => cases h

theorem toList_render_function (f : FunctionId) :
    ((function f).render nameOf).toList = '@' :: (referenceText nameOf f).toList := by
  rw [render_function, String.toList_append]
  rfl

theorem toList_render_string (s : String) :
    ((string s).render nameOf).toList = '!' :: (quote s).toList := by
  rw [render, String.toList_append]
  rfl

/-- What comes after a type is a word that cannot be taken for an address space. -/
theorem word_of_typed? (h : a.typed? = some p) :
    (∀ c ∈ p.2.toList, c.isAlphanum = true) ∧ ∃ c, p.2.toList.head? = some c ∧ c ≠ 'a' := by
  cases a with
  | int c =>
    cases h
    refine ⟨?_, ?_⟩
    · rw [toList_decimal]
      exact (denotes_toDigits (by omega) (by omega) _).isAlphanum
    · have hdigit : ∀ d ∈ (decimal c.value.toNat).toList, d.isDigit = true :=
        fun d ↦ isDigit_of_mem_decimal
      cases hdigits : (decimal c.value.toNat).toList with
      | nil => exact absurd (toList_decimal _ ▸ hdigits) Nat.toDigits_ne_nil
      | cons d ds =>
        refine ⟨d, rfl, ?_⟩
        rintro rfl
        exact absurd (hdigit 'a' (hdigits ▸ List.mem_cons_self)) (by decide)
  | undef t =>
    have hword : (∀ c ∈ "undef".toList, c.isAlphanum = true) ∧
        ∃ c, "undef".toList.head? = some c ∧ c ≠ 'a' :=
      ⟨List.all_eq_true.1 (by decide), 'u', by decide, by decide⟩
    cases h
    exact hword
  | string s => cases h
  | function f => cases h

theorem afterType_of_typed? (h : a.typed? = some p) (s : List Char) :
    AfterType (' ' :: p.2.toList ++ s) := by
  obtain ⟨-, c, hc, hne⟩ := word_of_typed? h
  cases hword : p.2.toList with
  | nil =>
    rw [hword] at hc
    cases hc
  | cons d ds =>
    rw [hword] at hc
    obtain rfl : d = c := Option.some_inj.1 hc
    exact hne

theorem tells_render_of_typed? (ha : a.typed? = some p) (hb : b.typed? = some q) :
    Tells After (a.render nameOf).toList (b.render nameOf').toList (a.SameUpTo r b) := by
  have hword : Tells After (' ' :: p.2.toList) (' ' :: q.2.toList) (p.2 = q.2) :=
    (((tells_word (word_of_typed? ha).1 (word_of_typed? hb).1).of_next fun _ ↦
      After.beginsOutside rfl rfl).append_left [' ']).imp String.toList_inj.1
  rw [toList_render_of_typed? ha, toList_render_of_typed? hb]
  refine ((Ty.tells_text p.1 q.1).append (fun _ ↦ hword) (fun s _ ↦ afterType_of_typed? ha s)
    fun s _ ↦ afterType_of_typed? hb s).imp fun h ↦ ?_
  exact sameUpTo_of_typed? ha (Prod.ext h.1 h.2 ▸ hb)

theorem begins_render_of_typed? (h : a.typed? = some p) :
    Begins Ty.beginsType (a.render nameOf).toList := by
  rw [toList_render_of_typed? h]
  exact p.1.begins_text.append _

/-- Whether an operand can begin with a character: as a type does, or with a mark. -/
def beginsOperand (c : Char) : Bool := Ty.beginsType c || c == '!' || c == '@'

theorem begins_render (nameOf : FunctionId → Option String) (o : Operand) :
    Begins beginsOperand (o.render nameOf).toList := by
  rcases o.cases_typed? with ⟨p, h⟩ | ⟨s, rfl⟩ | ⟨f, rfl⟩
  · refine (begins_render_of_typed? h).imp fun c hc ↦ ?_
    rw [beginsOperand, hc]
    rfl
  · rw [toList_render_string]
    exact begins_cons rfl
  · rw [toList_render_function]
    exact begins_cons rfl

/-- **Operands** are told by their texts. -/
theorem tells_render (h : ResolvesToNames nameOf) (h' : ResolvesToNames nameOf') (a b : Operand) :
    Tells After (a.render nameOf).toList (b.render nameOf').toList
      (a.SameUpTo (SameReference nameOf nameOf') b) := by
  -- operands of different kinds are told from each other by their first characters
  rcases a.cases_typed? with ⟨p, ha⟩ | ⟨s, rfl⟩ | ⟨f, rfl⟩
  · rcases b.cases_typed? with ⟨q, hb⟩ | ⟨s, rfl⟩ | ⟨f, rfl⟩
    · exact tells_render_of_typed? ha hb
    · rw [toList_render_string]
      exact (begins_render_of_typed? ha).tells rfl rfl
    · rw [toList_render_function]
      exact (begins_render_of_typed? ha).tells rfl rfl
  · rw [toList_render_string]
    rcases b.cases_typed? with ⟨q, hb⟩ | ⟨s', rfl⟩ | ⟨f, rfl⟩
    · exact ((begins_render_of_typed? hb).tells rfl rfl).symm
    · rw [toList_render_string]
      refine ((tells_quote s s').append_left ['!']).imp ?_
      rintro rfl
      exact .string s
    · rw [toList_render_function]
      exact tells_of_head_ne rfl rfl (by decide)
  · rw [toList_render_function]
    rcases b.cases_typed? with ⟨q, hb⟩ | ⟨s, rfl⟩ | ⟨g, rfl⟩
    · exact ((begins_render_of_typed? hb).tells rfl rfl).symm
    · rw [toList_render_string]
      exact tells_of_head_ne rfl rfl (by decide)
    · rw [toList_render_function]
      exact (((tells_referenceText h h' f g).of_next fun _ ↦
        After.beginsOutside rfl rfl).append_left ['@']).imp SameUpTo.function

end Operand

/-! ## Nodes -/

namespace Node

/-- Whether nodes are the same up to related references. -/
def SameUpTo (r : FunctionId → FunctionId → Prop) (a b : Node) : Prop :=
  List.Forall₂ (Operand.SameUpTo r) a.operands b.operands

theorem SameUpTo.imp {r r' : FunctionId → FunctionId → Prop} (hr : ∀ f g, r f g → r' f g)
    {a b : Node} (h : SameUpTo r a b) : SameUpTo r' a b :=
  List.Forall₂.imp (fun _ _ ↦ Operand.SameUpTo.imp hr) h

theorem toList_render (nameOf : FunctionId → Option String) (n : Node) :
    (n.render nameOf).toList = '!' :: '{' ::
      (", ".toList.intercalate (n.operands.map fun o ↦ (o.render nameOf).toList) ++ ['}']) := by
  rw [render, String.toList_append, String.toList_append, String.toList_intercalate, List.map_map]
  rfl

theorem SameUpTo.render_eq {a b : Node} (h : SameUpTo (SameReference nameOf nameOf') a b) :
    a.render nameOf = b.render nameOf' := by
  have hoperands : a.operands.map (Operand.render nameOf) =
      b.operands.map (Operand.render nameOf') :=
    map_eq_map_of_forall₂ h fun _ _ ↦ Operand.SameUpTo.render_eq
  rw [render, render, hoperands]

/-- **Nodes** are told by their texts, whatever follows them. -/
theorem tells_render (h : ResolvesToNames nameOf) (h' : ResolvesToNames nameOf') (a b : Node) :
    Tells next (a.render nameOf).toList (b.render nameOf').toList
      (a.SameUpTo (SameReference nameOf nameOf') b) := by
  rw [toList_render, toList_render]
  exact (tells_listed (by decide) rfl (fun o _ ↦ o.begins_render nameOf)
    (fun o _ ↦ o.begins_render nameOf') fun o _ o' _ ↦
      Operand.tells_render h h' o o').append_left ['!', '{']

end Node

/-! ## References left as identities -/

theorem resolvesToNames_none : ResolvesToNames fun _ ↦ none := by
  intro f name hname
  cases hname

theorem eq_of_sameReference_none {f g : FunctionId}
    (h : SameReference (fun _ ↦ none) (fun _ ↦ none) f g) : f = g := h.2 rfl

theorem Operand.SameUpTo.eq {a b : Operand} (h : a.SameUpTo Eq b) : a = b := by
  cases h with
  | int c => rfl
  | string s => rfl
  | undef t => rfl
  | function hfg => rw [hfg]

theorem Node.SameUpTo.eq {a b : Node} (h : a.SameUpTo Eq b) : a = b := by
  have hoperands : List.Forall₂ Eq a.operands b.operands :=
    List.Forall₂.imp (fun _ _ ↦ Operand.SameUpTo.eq) h
  rw [List.forall₂_eq_eq_eq] at hoperands
  cases a
  cases b
  rw [Node.mk.injEq]
  exact hoperands

theorem Operand.text_injective : Function.Injective Operand.text := by
  intro a b h
  have hsame := (tells_render resolvesToNames_none resolvesToNames_none a b).of_eq ['}']
    (.inr (List.prefix_refl _)) (congrArg String.toList h)
  exact (hsame.imp fun _ _ ↦ eq_of_sameReference_none).eq

theorem Node.text_injective : Function.Injective Node.text := by
  intro a b h
  -- whatever follows, a node ends with its bracket
  have htells : Tells (fun _ ↦ True) a.text.toList b.text.toList (a.SameUpTo _ b) :=
    tells_render resolvesToNames_none resolvesToNames_none a b
  have hsame := htells.of_eq [] trivial (congrArg String.toList h)
  exact (hsame.imp fun _ _ ↦ eq_of_sameReference_none).eq

/-- **Texts are unambiguous.** Two nodes have the same text with references left as identities only
if they are the same, however many operands they have and of whatever kinds. So it is with single
operands and with types, nested to any depth. -/
theorem Node.texts_unambiguous :
    (∀ a b : Node, a.text = b.text ↔ a = b) ∧ (∀ a b : Operand, a.text = b.text ↔ a = b) ∧
      ∀ t u : Ty, t.text = u.text ↔ t = u :=
  ⟨fun _ _ ↦ text_injective.eq_iff, fun _ _ ↦ Operand.text_injective.eq_iff,
    fun _ _ ↦ Ty.text_injective.eq_iff⟩

end KernelMetadata
