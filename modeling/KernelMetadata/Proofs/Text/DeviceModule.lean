import KernelMetadata.Proofs.Text.FunctionDecl
import Mathlib.Data.List.Nodup

/-!
# The text of a module tells the module

Two modules have the same text exactly if they are the same up to the identities of their functions
(`DeviceModule.text_eq_iff`). What is written without quotation marks are assumed to be names, and
functions to differ in name and in identity (`DeviceModule.Printable`): a reference that is written
by name could otherwise be one to either of two functions.

The text is read twice. Reading it part by part tells everything but the identities, and of two
references it tells that they are written alike (`DeviceModule.tells_text`). With that the names of
the functions are known, and then references that are written alike turn out to be references to
functions in the same place, or one reference to nothing (`DeviceModule.sameReference_iff`).
-/

namespace KernelMetadata

open Text

namespace DeviceModule

variable {next : List Char → Prop} {nameOf nameOf' : FunctionId → Option String}
  {r : FunctionId → FunctionId → Prop} {m n : DeviceModule}

/-! ## Modules up to identities -/

/-- Whether modules are the same up to the identities of functions and up to related references. -/
structure SameUpTo (r : FunctionId → FunctionId → Prop) (m n : DeviceModule) : Prop where
  triple : m.triple = n.triple
  functions : List.Forall₂ (FunctionDecl.SameUpTo r) m.functions n.functions
  lists : m.lists.Related (List.Forall₂ (Node.SameUpTo r)) n.lists

theorem SameUpTo.imp {r r' : FunctionId → FunctionId → Prop} (hr : ∀ f g, r f g → r' f g)
    (h : m.SameUpTo r n) : m.SameUpTo r' n where
  triple := h.triple
  functions := h.functions.imp fun _ _ ↦ FunctionDecl.SameUpTo.imp hr
  lists := h.lists.imp fun _ _ ↦ List.Forall₂.imp fun _ _ ↦ Node.SameUpTo.imp hr

theorem SameUpTo.map_name_eq (h : m.SameUpTo r n) :
    m.functions.map FunctionDecl.name = n.functions.map FunctionDecl.name :=
  map_eq_map_of_forall₂ h.functions fun _ _ ↦ FunctionDecl.SameUpTo.name

/-- Modules that are the same up to references that are written alike are written alike. -/
theorem SameUpTo.text_eq (h : m.SameUpTo (SameReference m.nameOf n.nameOf) n) :
    m.text = n.text := by
  have hfunctions : m.functions.map (FunctionDecl.render m.nameOf) =
      n.functions.map (FunctionDecl.render n.nameOf) :=
    map_eq_map_of_forall₂ h.functions fun _ _ ↦ FunctionDecl.SameUpTo.render_eq
  have hnodes : ∀ {ns ns' : List Node},
      List.Forall₂ (Node.SameUpTo (SameReference m.nameOf n.nameOf)) ns ns' →
        ns.map (Node.render m.nameOf) = ns'.map (Node.render n.nameOf) :=
    fun hns ↦ map_eq_map_of_forall₂ hns fun _ _ ↦ Node.SameUpTo.render_eq
  have hlists : m.lists.entries.map (fun l ↦ m.listText l.1 l.2) =
      n.lists.entries.map (fun l ↦ n.listText l.1 l.2) :=
    map_eq_map_of_forall₂ h.lists fun k l hkl ↦ by
      rw [listText, listText, hkl.1, hnodes hkl.2]
  rw [text, text, textLines, textLines, h.triple, hfunctions, hlists]

/-- Whether two references are to functions in the same place, or are one reference to nothing. -/
def Corresponds (m n : DeviceModule) (f g : FunctionId) : Prop :=
  (∃ i : Nat, (m.functions.map FunctionDecl.id)[i]? = some f ∧
    (n.functions.map FunctionDecl.id)[i]? = some g) ∨
      m.defines f = false ∧ n.defines g = false ∧ f = g

/-- Whether modules are the same but for the identities of their functions, which are exchanged
place by place. -/
def EqUpToRenaming (m n : DeviceModule) : Prop := m.SameUpTo (m.Corresponds n) n

/-- Whether what is written without quotation marks are names, and functions differ in their names
and in their identities. -/
structure Printable (m : DeviceModule) : Prop where
  functions : ∀ f ∈ m.functions, f.Printable
  lists : ∀ name ∈ m.lists.keys, IsName name
  nodup_names : (m.functions.map FunctionDecl.name).Nodup
  nodup_ids : (m.functions.map FunctionDecl.id).Nodup

instance (m : DeviceModule) : Decidable m.Printable :=
  decidable_of_iff ((∀ f ∈ m.functions, f.Printable) ∧ (∀ name ∈ m.lists.keys, IsName name) ∧
      (m.functions.map FunctionDecl.name).Nodup ∧ (m.functions.map FunctionDecl.id).Nodup)
    ⟨fun ⟨hf, hl, hn, hi⟩ ↦ ⟨hf, hl, hn, hi⟩, fun ⟨hf, hl, hn, hi⟩ ↦ ⟨hf, hl, hn, hi⟩⟩

/-! ## Lines -/

/-- The line of the triple, if there is one. -/
def tripleLine (triple : Option String) : List Char :=
  triple.elim [] fun t ↦ "target triple = ".toList ++ ((quote t).toList ++ ['\n'])

theorem tripleLine_none : tripleLine none = [] := rfl

theorem tripleLine_some (t : String) :
    tripleLine (some t) = "target triple = ".toList ++ ((quote t).toList ++ ['\n']) := rfl

/-- The line of a function. -/
def functionLine (nameOf : FunctionId → Option String) (f : FunctionDecl) : List Char :=
  (f.render nameOf).toList ++ ['\n']

/-- The line of a named list. -/
def listLine (nameOf : FunctionId → Option String) (l : String × List Node) : List Char :=
  ['!'] ++ (l.1.toList ++ (" = !\x7b".toList ++
    (", ".toList.intercalate (l.2.map fun n ↦ (n.render nameOf).toList) ++ ['}', '\n'])))

theorem toList_text (m : DeviceModule) : m.text.toList = tripleLine m.triple ++
    (m.functions.flatMap (functionLine m.nameOf) ++
      m.lists.entries.flatMap (listLine m.nameOf)) := by
  have hend : ∀ line : String, (line ++ "\n").toList = line.toList ++ ['\n'] := by
    intro line
    rw [String.toList_append]
    rfl
  have htriple : (m.triple.map fun t ↦ "target triple = " ++ quote t).toList.flatMap
      (fun line ↦ (line ++ "\n").toList) = tripleLine m.triple := by
    cases m.triple with
    | none => rw [Option.map_none, Option.toList_none, List.flatMap_nil, tripleLine_none]
    | some t =>
      rw [Option.map_some, Option.toList_some, List.flatMap_singleton, hend, String.toList_append,
        List.append_assoc, tripleLine_some]
  have hfunction : ∀ f : FunctionDecl,
      (f.render m.nameOf ++ "\n").toList = functionLine m.nameOf f := fun f ↦ hend _
  have hlist : ∀ l : String × List Node,
      (m.listText l.1 l.2 ++ "\n").toList = listLine m.nameOf l := by
    intro l
    rw [hend, listText]
    simp only [String.toList_append, String.toList_intercalate, List.append_assoc, List.map_map]
    rfl
  rw [text, String.toList_join, List.flatMap_map, textLines, List.flatMap_append,
    List.flatMap_append, htriple, List.append_assoc, List.flatMap_map, List.flatMap_map]
  simp only [hfunction, hlist]

/-- What may follow the lists of a module: nothing. -/
def AfterLists (s : List Char) : Prop := s = []

/-- What may follow the functions of a module: its lists, or what follows them. -/
def AfterFunctions (s : List Char) : Prop := ['!'] <+: s ∨ AfterLists s

/-- What may follow the triple of a module: its functions, or what follows them. -/
def AfterTriple (s : List Char) : Prop := ['d'] <+: s ∨ AfterFunctions s

theorem tells_tripleLine (a b : Option String) :
    Tells AfterTriple (tripleLine a) (tripleLine b) (a = b) := by
  have hmissing : ∀ t, Tells AfterTriple (tripleLine none) (tripleLine (some t))
      (none = some t) := by
    refine fun t ↦ Tells.of_nil fun s hs ↦ ?_
    rcases hs with hs | hs | hs
    · exact absurd (List.cons_prefix_cons.1 hs).1 (by decide)
    · exact absurd (List.cons_prefix_cons.1 hs).1 (by decide)
    · cases hs
  cases a with
  | none =>
    cases b with
    | none => exact Tells.rfl.imp fun _ ↦ rfl
    | some t => exact hmissing t
  | some t =>
    cases b with
    | none => exact (hmissing t).symm.imp Eq.symm
    | some t' =>
      have hquote : Tells (fun _ ↦ True) (quote t).toList (quote t').toList (t = t') :=
        tells_quote t t'
      exact ((hquote.append_right ['\n'] fun _ ↦ trivial).append_left
        "target triple = ".toList).imp (congrArg some)

theorem prefix_functionLine (nameOf : FunctionId → Option String) (f : FunctionDecl)
    (s : List Char) : ['d'] <+: functionLine nameOf f ++ s := by
  rw [functionLine, FunctionDecl.toList_render]
  exact ⟨_, rfl⟩

theorem prefix_listLine (nameOf : FunctionId → Option String) (l : String × List Node)
    (s : List Char) : ['!'] <+: listLine nameOf l ++ s := ⟨_, rfl⟩

theorem tells_functionLine (h : ResolvesToNames nameOf) (h' : ResolvesToNames nameOf')
    {f g : FunctionDecl} (hf : f.Printable) (hg : g.Printable) :
    Tells next (functionLine nameOf f) (functionLine nameOf' g)
      (f.SameUpTo (SameReference nameOf nameOf') g) :=
  (FunctionDecl.tells_render h h' hf hg).append_right ['\n'] fun s ↦ ⟨s, rfl⟩

theorem tells_listLine (h : ResolvesToNames nameOf) (h' : ResolvesToNames nameOf')
    {k l : String × List Node} (hk : IsName k.1) (hl : IsName l.1) :
    Tells next (listLine nameOf k) (listLine nameOf' l)
      (k.1 = l.1 ∧ List.Forall₂ (Node.SameUpTo (SameReference nameOf nameOf')) k.2 l.2) := by
  have hhead : ∀ nameOf (n : Node), Begins (· == '!') (n.render nameOf).toList := by
    intro nameOf n
    rw [Node.toList_render]
    exact begins_cons rfl
  have hnodes : Tells next
      (", ".toList.intercalate (k.2.map fun n ↦ (n.render nameOf).toList) ++ ['}', '\n'])
      (", ".toList.intercalate (l.2.map fun n ↦ (n.render nameOf').toList) ++ ['}', '\n'])
      (List.Forall₂ (Node.SameUpTo (SameReference nameOf nameOf')) k.2 l.2) :=
    tells_listed (by decide) rfl (fun n _ ↦ hhead nameOf n) (fun n _ ↦ hhead nameOf' n)
      fun n _ n' _ ↦ Node.tells_render h h' n n'
  exact ((hk.tells hl).append (fun _ ↦ hnodes.append_left " = !\x7b".toList)
    (fun _ _ ↦ beginsOutside_cons rfl) fun _ _ ↦ beginsOutside_cons rfl).append_left ['!']

/-! ## The first reading -/

theorem Printable.resolvesToNames (h : m.Printable) : ResolvesToNames m.nameOf := by
  intro f name hname
  obtain ⟨g, hg, rfl⟩ := Option.map_eq_some_iff.1 hname
  exact (h.functions g (List.mem_of_find?_eq_some hg)).name

/-- **The first reading.** Modules are told by their texts but for the identities of functions. -/
theorem tells_text (hm : m.Printable) (hn : n.Printable) :
    Tells AfterLists m.text.toList n.text.toList
      (m.SameUpTo (SameReference m.nameOf n.nameOf) n) := by
  have hm' := hm.resolvesToNames
  have hn' := hn.resolvesToNames
  have hlists : Tells AfterLists (m.lists.entries.flatMap (listLine m.nameOf))
      (n.lists.entries.flatMap (listLine n.nameOf))
      (m.lists.Related (List.Forall₂ (Node.SameUpTo (SameReference m.nameOf n.nameOf)))
        n.lists) := by
    have hend : ∀ s, AfterLists s → ¬ ['!'] <+: s := by
      rintro s rfl hitem
      exact absurd (List.prefix_nil.1 hitem) (by decide)
    exact tells_flatMap hend (fun l _ ↦ prefix_listLine m.nameOf l)
      (fun l _ ↦ prefix_listLine n.nameOf l) fun k hk l hl ↦
        tells_listLine hm' hn' (hm.lists k.1 (List.mem_map_of_mem hk))
          (hn.lists l.1 (List.mem_map_of_mem hl))
  have hfunctions : Tells AfterFunctions (m.functions.flatMap (functionLine m.nameOf))
      (n.functions.flatMap (functionLine n.nameOf))
      (List.Forall₂ (FunctionDecl.SameUpTo (SameReference m.nameOf n.nameOf)) m.functions
        n.functions) := by
    have hend : ∀ s, AfterFunctions s → ¬ ['d'] <+: s := by
      rintro s (⟨r, rfl⟩ | rfl) hitem
      · exact absurd (List.cons_prefix_cons.1 hitem).1 (by decide)
      · exact absurd (List.prefix_nil.1 hitem) (by decide)
    exact tells_flatMap hend (fun f _ ↦ prefix_functionLine m.nameOf f)
      (fun f _ ↦ prefix_functionLine n.nameOf f) fun f hf g hg ↦
        tells_functionLine hm' hn' (hm.functions f hf) (hn.functions g hg)
  have hafter : ∀ (k : DeviceModule) s, AfterLists s →
      AfterFunctions (k.lists.entries.flatMap (listLine k.nameOf) ++ s) := by
    intro k s hs
    exact item_or_next_flatMap (fun l _ ↦ prefix_listLine k.nameOf l) hs
  have hafterTriple : ∀ (k : DeviceModule) s, AfterLists s →
      AfterTriple ((k.functions.flatMap (functionLine k.nameOf) ++
        k.lists.entries.flatMap (listLine k.nameOf)) ++ s) := by
    intro k s hs
    rw [List.append_assoc]
    exact item_or_next_flatMap (fun f _ ↦ prefix_functionLine k.nameOf f) (hafter k s hs)
  rw [toList_text, toList_text]
  refine ((tells_tripleLine m.triple n.triple).append (fun _ ↦ hfunctions.append (fun _ ↦ hlists)
    (hafter m) (hafter n)) (hafterTriple m) (hafterTriple n)).imp ?_
  rintro ⟨htriple, hfunctions, hlists⟩
  exact ⟨htriple, hfunctions, hlists⟩

/-! ## The second reading -/

theorem nameOf_eq_none_iff (f : FunctionId) : m.nameOf f = none ↔ m.defines f = false := by
  rw [nameOf, defines, Option.map_eq_none_iff, Option.isSome_eq_false_iff,
    Option.isNone_iff_eq_none]

/-- Where identities are different, names and identities go together by place. -/
theorem nameOf_eq_some_iff (h : (m.functions.map FunctionDecl.id).Nodup) {f : FunctionId}
    {name : String} : m.nameOf f = some name ↔ ∃ i : Nat,
      (m.functions.map FunctionDecl.id)[i]? = some f ∧
        (m.functions.map FunctionDecl.name)[i]? = some name := by
  simp only [List.getElem?_map, Option.map_eq_some_iff, nameOf]
  constructor
  · rintro ⟨d, hd, rfl⟩
    obtain ⟨i, hi⟩ := List.mem_iff_getElem?.1 (List.mem_of_find?_eq_some hd)
    have hid : d.id = f := by simpa using List.find?_some hd
    exact ⟨i, ⟨d, hi, hid⟩, d, hi, rfl⟩
  · rintro ⟨i, ⟨d, hi, rfl⟩, d', hi', rfl⟩
    obtain rfl : d = d' := Option.some_inj.1 (hi.symm.trans hi')
    have hmem : d ∈ m.functions := List.mem_of_getElem? hi
    -- the identity resolves to some function that has it, and there is only one
    obtain ⟨g, hg⟩ := Option.isSome_iff_exists.1 (function?_isSome_iff.2 ⟨d, hmem, rfl⟩)
    have hid : g.id = d.id := by simpa using List.find?_some hg
    have hgd : g = d := List.inj_on_of_nodup_map h (List.mem_of_find?_eq_some hg) hmem hid
    exact ⟨g, hg, by rw [hgd]⟩

/-- **The second reading.** Once the names of the functions are known to be the same, references
that are written alike are references to functions in the same place, or one reference to
nothing. -/
theorem sameReference_iff (hm : m.Printable) (hn : n.Printable)
    (hnames : m.functions.map FunctionDecl.name = n.functions.map FunctionDecl.name)
    (f g : FunctionId) : SameReference m.nameOf n.nameOf f g ↔ m.Corresponds n f g := by
  constructor
  · rintro ⟨hsame, hnone⟩
    cases hf : m.nameOf f with
    | none =>
      rw [hf] at hsame
      exact .inr ⟨(nameOf_eq_none_iff f).1 hf, (nameOf_eq_none_iff g).1 hsame.symm, hnone hf⟩
    | some name =>
      rw [hf] at hsame
      obtain ⟨i, hif, hi⟩ := (nameOf_eq_some_iff hm.nodup_ids).1 hf
      obtain ⟨j, hjg, hj⟩ := (nameOf_eq_some_iff hn.nodup_ids).1 hsame.symm
      -- names are different, so that the name is found in one place only
      have hlt : i < (m.functions.map FunctionDecl.name).length :=
        (List.getElem?_eq_some_iff.1 hi).1
      have hij : i = j := by
        rw [← hnames] at hj
        exact (List.getElem?_inj hlt hm.nodup_names).1 (hi.trans hj.symm)
      subst hij
      exact .inl ⟨i, hif, hjg⟩
  · rintro (⟨i, hif, hig⟩ | ⟨hf, hg, rfl⟩)
    · have hlt : i < (m.functions.map FunctionDecl.name).length := by
        rw [List.length_map]
        simpa using (List.getElem?_eq_some_iff.1 hif).1
      obtain ⟨name, hname⟩ : ∃ name, (m.functions.map FunctionDecl.name)[i]? = some name :=
        ⟨_, List.getElem?_eq_getElem hlt⟩
      have hf := (nameOf_eq_some_iff hm.nodup_ids).2 ⟨i, hif, hname⟩
      rw [hnames] at hname
      have hg := (nameOf_eq_some_iff hn.nodup_ids).2 ⟨i, hig, hname⟩
      refine ⟨hf.trans hg.symm, fun hnone ↦ ?_⟩
      rw [hf] at hnone
      cases hnone
    · rw [← nameOf_eq_none_iff] at hf hg
      exact ⟨by rw [hf, hg], fun _ ↦ rfl⟩

/-- **Faithful text.** Modules have the same text exactly if they are the same but for the
identities of their functions: they have the same triple or none, in the same order functions with
the same names, parameters, conventions, attributes and metadata, and the same lists with the same
nodes, where references to functions correspond by place and references to nothing are the same. -/
theorem text_eq_iff (hm : m.Printable) (hn : n.Printable) :
    m.text = n.text ↔ m.EqUpToRenaming n := by
  constructor
  · intro h
    have heq : m.text.toList ++ [] = n.text.toList ++ [] := by rw [h]
    have hsame := (tells_text hm hn rfl rfl heq).1
    exact hsame.imp fun f g ↦ (sameReference_iff hm hn hsame.map_name_eq f g).1
  · intro h
    have hsame : m.SameUpTo (SameReference m.nameOf n.nameOf) n :=
      h.imp fun f g ↦ (sameReference_iff hm hn h.map_name_eq f g).2
    exact hsame.text_eq

/-- Two functions, of which the first refers to the second and to one that is not there. -/
def referring (first second absent : FunctionId) : DeviceModule where
  triple := some "spir64-\"unknown\""
  functions := [
    ⟨first, "scale", [⟨"x", .pointer ⟨1, some (.float .single)⟩⟩,
      ⟨"s", .aggregate [.int .i32, .aggregate []]⟩], .spirKernel,
      NameMap.ofList [("VC\"=\"", "0x400\n")],
      NameMap.ofList [("calls", ⟨[.function second, .function absent]⟩)]⟩,
    ⟨second, "blur", [], .numbered 7, .empty, .empty⟩]
  lists := NameMap.ofList [
    ("opencl.kernels", [⟨[.function first, .undef (.vector ⟨.float .half, 4⟩), .word 4]⟩, .empty])]

/-- Defined functions may be renamed, but those that are not there may not. -/
theorem text_eq_iff_referring :
    (referring ⟨1⟩ ⟨2⟩ ⟨3⟩).EqUpToRenaming (referring ⟨5⟩ ⟨4⟩ ⟨3⟩) ∧
      ¬ (referring ⟨1⟩ ⟨2⟩ ⟨3⟩).EqUpToRenaming (referring ⟨1⟩ ⟨2⟩ ⟨4⟩) := by
  have hm : (referring ⟨1⟩ ⟨2⟩ ⟨3⟩).Printable := by decide +kernel
  have hn : (referring ⟨5⟩ ⟨4⟩ ⟨3⟩).Printable := by decide +kernel
  have hother : (referring ⟨1⟩ ⟨2⟩ ⟨4⟩).Printable := by decide +kernel
  refine ⟨(text_eq_iff hm hn).1 (by decide +kernel), fun h ↦ ?_⟩
  exact absurd ((text_eq_iff hm hother).2 h) (by decide +kernel)

end DeviceModule

end KernelMetadata
