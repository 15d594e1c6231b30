import KernelMetadata.DeviceModule.Text
import KernelMetadata.Proofs.Text.Node

/-!
# The line of a function tells the function

The line of a function tells all of it but its identity, which is not written
(`FunctionDecl.tells_render`). The names in it stand without quotation marks and are assumed to be
made of letters, digits, underscores and periods (`FunctionDecl.Printable`): a name could otherwise
contain what separates it from the next part of the line. Attributes are quoted and may be anything.
-/

namespace KernelMetadata

open Text

variable {next : List Char → Prop} {nameOf nameOf' : FunctionId → Option String}

/-! ## Functions up to identities -/

/-- Whether maps have related values under the same keys. -/
def NameMap.Related {α β : Type} (R : α → β → Prop) (a : NameMap α) (b : NameMap β) : Prop :=
  List.Forall₂ (fun x y ↦ x.1 = y.1 ∧ R x.2 y.2) a.entries b.entries

theorem NameMap.Related.imp {α β : Type} {R R' : α → β → Prop} (hR : ∀ x y, R x y → R' x y)
    {a : NameMap α} {b : NameMap β} (h : a.Related R b) : a.Related R' b :=
  List.Forall₂.imp (fun _ _ ↦ And.imp_right (hR _ _)) h

namespace FunctionDecl

/-- Whether functions are the same up to their identities and up to related references. -/
structure SameUpTo (r : FunctionId → FunctionId → Prop) (f g : FunctionDecl) : Prop where
  name : f.name = g.name
  params : f.params = g.params
  convention : f.convention = g.convention
  attributes : f.attributes = g.attributes
  metadata : f.metadata.Related (Node.SameUpTo r) g.metadata

theorem SameUpTo.imp {r r' : FunctionId → FunctionId → Prop} (hr : ∀ f g, r f g → r' f g)
    {f g : FunctionDecl} (h : f.SameUpTo r g) : f.SameUpTo r' g :=
  { h with metadata := h.metadata.imp fun _ _ ↦ Node.SameUpTo.imp hr }

/-- Functions that are the same up to references that are written alike are written alike. -/
theorem SameUpTo.render_eq {f g : FunctionDecl} (h : f.SameUpTo (SameReference nameOf nameOf') g) :
    f.render nameOf = g.render nameOf' := by
  have hmetadata : f.metadata.entries.map (fun a ↦ " !" ++ a.1 ++ " " ++ a.2.render nameOf) =
      g.metadata.entries.map (fun a ↦ " !" ++ a.1 ++ " " ++ a.2.render nameOf') :=
    map_eq_map_of_forall₂ h.metadata fun a b hab ↦ by rw [hab.1, hab.2.render_eq]
  delta render
  rw [h.convention, h.name, h.params, h.attributes, hmetadata]

/-- Whether what is written of a function without quotation marks are names. -/
structure Printable (f : FunctionDecl) : Prop where
  name : IsName f.name
  params : ∀ p ∈ f.params, IsName p.name
  metadata : ∀ key ∈ f.metadata.keys, IsName key

instance (f : FunctionDecl) : Decidable f.Printable :=
  decidable_of_iff (IsName f.name ∧ (∀ p ∈ f.params, IsName p.name) ∧
      ∀ key ∈ f.metadata.keys, IsName key)
    ⟨fun ⟨hn, hp, hm⟩ ↦ ⟨hn, hp, hm⟩, fun ⟨hn, hp, hm⟩ ↦ ⟨hn, hp, hm⟩⟩

end FunctionDecl

/-! ## Conventions and parameters -/

namespace CallingConvention

theorem toList_text_numbered (n : UInt32) : (numbered n).text.toList =
    "Numbered(".toList ++ ((decimal n.toNat).toList ++ [')']) := by
  rw [text, String.toList_append, String.toList_append, List.append_assoc]
  rfl

theorem text_injective : Function.Injective text := by
  -- no other convention begins as those with numbers do
  have hnumbered : ∀ (n : UInt32) (cc : CallingConvention), (numbered n).text = cc.text →
      numbered n = cc := by
    intro n cc h
    cases cc with
    | numbered n' =>
      have hlist := congrArg String.toList h
      rw [toList_text_numbered, toList_text_numbered, List.append_cancel_left_eq,
        List.append_cancel_right_eq, String.toList_inj] at hlist
      rw [UInt32.toNat_inj.1 (decimal_injective hlist)]
    | c | fast | cold | spirFunction | spirKernel | ptxKernel | ptxDevice =>
      have hhead : (numbered n).text.toList.head? = some 'N' := by
        rw [toList_text_numbered]
        rfl
      rw [h] at hhead
      exact absurd hhead (by decide)
  intro a b h
  cases b with
  | numbered n => exact (hnumbered n a h.symm).symm
  | c | fast | cold | spirFunction | spirKernel | ptxKernel | ptxDevice =>
    cases a with
    | numbered n => exact hnumbered n _ h
    | c | fast | cold | spirFunction | spirKernel | ptxKernel | ptxDevice =>
      first
      | rfl
      | exact absurd h (by decide)

theorem ne_space_of_mem_text (cc : CallingConvention) :
    ∀ c ∈ cc.text.toList, (c != ' ') = true := by
  cases cc with
  | numbered n =>
    have hword : "Numbered(".toList.all (· != ' ') = true := by decide
    intro c hc
    rw [toList_text_numbered, List.mem_append, List.mem_append, List.mem_singleton] at hc
    rcases hc with hc | hc | rfl
    · exact List.all_eq_true.1 hword c hc
    · rw [bne_iff_ne]
      rintro rfl
      exact absurd (isDigit_of_mem_decimal hc) (by decide)
    · rfl
  | c | fast | cold | spirFunction | spirKernel | ptxKernel | ptxDevice =>
    exact List.all_eq_true.1 (by decide)

theorem tells_text (a b : CallingConvention) :
    Tells (BeginsOutside (· != ' ')) a.text.toList b.text.toList (a = b) :=
  (tells_word a.ne_space_of_mem_text b.ne_space_of_mem_text).imp fun h ↦
    text_injective (String.toList_inj.1 h)

end CallingConvention

namespace Param

/-- What may follow a parameter. -/
def After (s : List Char) : Prop := ", ".toList <+: s ∨ [')'] <+: s

theorem toList_text (p : Param) :
    p.text.toList = p.type.text.toList ++ (" %".toList ++ p.name.toList) := by
  rw [text, String.toList_append, String.toList_append, List.append_assoc]

theorem begins_text (p : Param) : Begins Ty.beginsType p.text.toList := by
  rw [toList_text]
  exact p.type.begins_text.append _

theorem tells_text {p q : Param} (hp : IsName p.name) (hq : IsName q.name) :
    Tells After p.text.toList q.text.toList (p = q) := by
  have hname : Tells After (" %".toList ++ p.name.toList) (" %".toList ++ q.name.toList)
      (p.name = q.name) := by
    refine ((hp.tells hq).of_next fun s hs ↦ ?_).append_left _
    rcases hs with ⟨s, rfl⟩ | ⟨s, rfl⟩
    · exact beginsOutside_cons rfl
    · exact beginsOutside_cons rfl
  have htype : ∀ (l s : List Char), AfterType ((" %".toList ++ l) ++ s) := fun l s ↦ by
    show '%' ≠ 'a'
    decide
  rw [toList_text, toList_text]
  refine ((Ty.tells_text p.type q.type).append (fun _ ↦ hname) (fun _ _ ↦ htype _ _)
    fun _ _ ↦ htype _ _).imp fun h ↦ ?_
  obtain ⟨name, type⟩ := p
  obtain ⟨name', type'⟩ := q
  obtain ⟨rfl, rfl⟩ : type = type' ∧ name = name' := h
  rfl

/-- Parameter lists, with the bracket that closes them. -/
theorem tells_list {ps qs : List Param} (hp : ∀ p ∈ ps, IsName p.name)
    (hq : ∀ q ∈ qs, IsName q.name) :
    Tells next (", ".toList.intercalate (ps.map fun p ↦ p.text.toList) ++ [')'])
      (", ".toList.intercalate (qs.map fun q ↦ q.text.toList) ++ [')']) (ps = qs) := by
  refine (tells_listed (R := (· = ·)) (by decide) rfl (fun p _ ↦ p.begins_text)
    (fun q _ ↦ q.begins_text) fun p hpmem q hqmem ↦
      tells_text (hp p hpmem) (hq q hqmem)).imp fun h ↦ ?_
  rwa [List.forall₂_eq_eq_eq] at h

end Param

/-! ## Lines -/

namespace FunctionDecl

/-- The text of an attribute. -/
def attributeText (a : String × String) : List Char :=
  [' '] ++ ((quote a.1).toList ++ (['='] ++ (quote a.2).toList))

/-- The text of a metadata node. -/
def metadataText (nameOf : FunctionId → Option String) (a : String × Node) : List Char :=
  [' ', '!'] ++ (a.1.toList ++ ([' '] ++ (a.2.render nameOf).toList))

theorem tells_attributeText (a b : String × String) :
    Tells next (attributeText a) (attributeText b) (a = b) := by
  have hkey : Tells (fun _ ↦ True) (quote a.1).toList (quote b.1).toList (a.1 = b.1) :=
    tells_quote a.1 b.1
  have hvalue : Tells next (quote a.2).toList (quote b.2).toList (a.2 = b.2) :=
    tells_quote a.2 b.2
  exact ((hkey.append (fun _ ↦ hvalue.append_left ['=']) (fun _ _ ↦ trivial)
    fun _ _ ↦ trivial).append_left [' ']).imp fun h ↦ Prod.ext h.1 h.2

theorem tells_metadataText (h : ResolvesToNames nameOf) (h' : ResolvesToNames nameOf')
    {a b : String × Node} (ha : IsName a.1) (hb : IsName b.1) :
    Tells next (metadataText nameOf a) (metadataText nameOf' b)
      (a.1 = b.1 ∧ a.2.SameUpTo (SameReference nameOf nameOf') b.2) := by
  have hnode : Tells next (a.2.render nameOf).toList (b.2.render nameOf').toList
      (a.2.SameUpTo (SameReference nameOf nameOf') b.2) := Node.tells_render h h' a.2 b.2
  exact ((ha.tells hb).append (fun _ ↦ hnode.append_left [' ']) (fun _ _ ↦ beginsOutside_cons rfl)
    fun _ _ ↦ beginsOutside_cons rfl).append_left [' ', '!']

theorem toList_render (nameOf : FunctionId → Option String) (f : FunctionDecl) :
    (f.render nameOf).toList = "define ".toList ++ (f.convention.text.toList ++ (" @".toList ++
      (f.name.toList ++ (['('] ++ ((", ".toList.intercalate (f.params.map fun p ↦ p.text.toList) ++
        [')']) ++ (f.attributes.entries.flatMap attributeText ++
          f.metadata.entries.flatMap (metadataText nameOf))))))) := by
  have hattributes : (String.join (f.attributes.entries.map fun a ↦
      " " ++ quote a.1 ++ "=" ++ quote a.2)).toList =
        f.attributes.entries.flatMap attributeText := by
    rw [String.toList_join, List.flatMap_map]
    simp only [String.toList_append, List.append_assoc]
    rfl
  have hmetadata : (String.join (f.metadata.entries.map fun a ↦
      " !" ++ a.1 ++ " " ++ a.2.render nameOf)).toList =
        f.metadata.entries.flatMap (metadataText nameOf) := by
    rw [String.toList_join, List.flatMap_map]
    simp only [String.toList_append, List.append_assoc]
    rfl
  delta render
  rw [String.toList_append, String.toList_append, hattributes, hmetadata]
  simp only [String.toList_append, String.toList_intercalate, List.append_assoc, List.map_map]
  rfl

theorem prefix_attributeText (a : String × String) (s : List Char) :
    [' ', '"'] <+: attributeText a ++ s := by
  rw [attributeText, toList_quote]
  exact ⟨_, rfl⟩

theorem prefix_metadataText (nameOf : FunctionId → Option String) (a : String × Node)
    (s : List Char) : [' ', '!'] <+: metadataText nameOf a ++ s := ⟨_, rfl⟩

/-- What comes after the parameters of a function tells its attributes and its metadata. -/
theorem tells_annotations (h : ResolvesToNames nameOf) (h' : ResolvesToNames nameOf')
    {f g : FunctionDecl} (hf : f.Printable) (hg : g.Printable) :
    Tells (['\n'] <+: ·)
      (f.attributes.entries.flatMap attributeText ++
        f.metadata.entries.flatMap (metadataText nameOf))
      (g.attributes.entries.flatMap attributeText ++
        g.metadata.entries.flatMap (metadataText nameOf'))
      (f.attributes = g.attributes ∧
        f.metadata.Related (Node.SameUpTo (SameReference nameOf nameOf')) g.metadata) := by
  have hattributes : Tells (¬ [' ', '"'] <+: ·) (f.attributes.entries.flatMap attributeText)
      (g.attributes.entries.flatMap attributeText)
      (List.Forall₂ (· = ·) f.attributes.entries g.attributes.entries) :=
    tells_flatMap (fun _ hs hitem ↦ hs hitem) (fun a _ ↦ prefix_attributeText a)
      (fun a _ ↦ prefix_attributeText a) fun a _ b _ ↦ tells_attributeText a b
  have hline : ∀ s, ['\n'] <+: s → ¬ [' ', '!'] <+: s := by
    rintro s ⟨r, rfl⟩ hitem
    exact absurd (List.cons_prefix_cons.1 hitem).1 (by decide)
  have hmetadata : Tells (['\n'] <+: ·) (f.metadata.entries.flatMap (metadataText nameOf))
      (g.metadata.entries.flatMap (metadataText nameOf'))
      (f.metadata.Related (Node.SameUpTo (SameReference nameOf nameOf')) g.metadata) :=
    tells_flatMap hline (fun a _ ↦ prefix_metadataText nameOf a)
      (fun a _ ↦ prefix_metadataText nameOf' a) fun a ha b hb ↦
        tells_metadataText h h' (hf.metadata a.1 (List.mem_map_of_mem ha))
          (hg.metadata b.1 (List.mem_map_of_mem hb))
  -- neither metadata nor the end of the line is taken for an attribute
  have hafter : ∀ nameOf (f : FunctionDecl) s, ['\n'] <+: s →
      ¬ [' ', '"'] <+: f.metadata.entries.flatMap (metadataText nameOf) ++ s := by
    intro nameOf f s hs hitem
    have hrest := item_or_next_flatMap
      (fun a (_ : a ∈ f.metadata.entries) ↦ prefix_metadataText nameOf a) hs
    rcases hrest with ⟨r, hr⟩ | ⟨r, hr⟩
    · rw [← hr] at hitem
      exact absurd (List.cons_prefix_cons.1 (List.cons_prefix_cons.1 hitem).2).1 (by decide)
    · rw [← hr] at hitem
      exact absurd (List.cons_prefix_cons.1 hitem).1 (by decide)
  refine (hattributes.append (fun _ ↦ hmetadata) (hafter _ _) (hafter _ _)).imp fun hboth ↦
    ⟨?_, hboth.2⟩
  rw [List.forall₂_eq_eq_eq] at hboth
  exact NameMap.ext fun key ↦ congrArg (NameMap.lookup key) hboth.1

/-- **Functions** are told by their lines, but for their identities. -/
theorem tells_render (h : ResolvesToNames nameOf) (h' : ResolvesToNames nameOf')
    {f g : FunctionDecl} (hf : f.Printable) (hg : g.Printable) :
    Tells (['\n'] <+: ·) (f.render nameOf).toList (g.render nameOf').toList
      (f.SameUpTo (SameReference nameOf nameOf') g) := by
  have hlist : Tells (fun _ ↦ True) _ _ (f.params = g.params) :=
    Param.tells_list hf.params hg.params
  have hparams := hlist.append (fun _ ↦ tells_annotations h h' hf hg) (fun _ _ ↦ trivial)
    fun _ _ ↦ trivial
  have hname := (hf.name.tells hg.name).append (fun _ ↦ hparams.append_left ['('])
    (fun _ _ ↦ beginsOutside_cons rfl) fun _ _ ↦ beginsOutside_cons rfl
  have hconvention := (CallingConvention.tells_text f.convention g.convention).append
    (fun _ ↦ hname.append_left " @".toList) (fun _ _ ↦ beginsOutside_cons rfl)
      fun _ _ ↦ beginsOutside_cons rfl
  rw [toList_render, toList_render]
  exact (hconvention.append_left "define ".toList).imp fun ⟨hc, hn, hp, ha, hm⟩ ↦
    ⟨hn, hp, hc, ha, hm⟩

end FunctionDecl

end KernelMetadata
