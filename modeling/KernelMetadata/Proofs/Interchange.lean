import KernelMetadata.DeviceModule.Verify
import KernelMetadata.Interchange.DeviceModule
import KernelMetadata.Proofs.NameMap
import KernelMetadata.Proofs.Text.Numeral
import Mathlib.Data.List.Nodup
import Mathlib.Data.List.Perm.Basic

/-!
# What is written as JSON is read back

Modules and all that they are made of are read back from the JSON values that are written for them
(`DeviceModule.interchange_round_trip`). The members of an object are in no order that counts: those
who pass a value on may sort them. So what is read back need not be the value that was written, but
may be any value that differs from it in the order of members, at any depth (`Json.Rearranged`).

Each reader is held against its writer by one statement (`Json.Reads`), which says what the reader
makes of a written value however it is rearranged. Records are read by the names of their fields and
choices by the name of what is chosen, and maps are read entry by entry, where the order of the
entries does not matter since no two have the same name.
-/

namespace KernelMetadata

namespace Json

variable {α β : Type} {name : String} {content value j : Json} {values : List Json}
  {ms ns : List (String × Json)} {read : Json → Option α} {write : α → Json} {a : α}

/-! ## Values up to the order of members -/

/-- Whether two values are the same but for the order of the members of objects in them. -/
inductive Rearranged : Json → Json → Prop where
  | null : Rearranged null null
  | bool (b : Bool) : Rearranged (bool b) (bool b)
  | integer (n : Int) : Rearranged (integer n) (integer n)
  | fraction (m : Int) (p : Nat) : Rearranged (fraction m p) (fraction m p)
  | string (s : String) : Rearranged (string s) (string s)
  | array {xs ys : List Json} (h : List.Forall₂ Rearranged xs ys) : Rearranged (array xs) (array ys)
  | object {ms ns ns' : List (String × Json)} (hnames : ms.map Prod.fst = ns.map Prod.fst)
      (hvalues : List.Forall₂ Rearranged (ms.map Prod.snd) (ns.map Prod.snd))
      (hperm : ns.Perm ns') : Rearranged (object ms) (object ns')

namespace Rearranged

protected theorem refl (j : Json) : j.Rearranged j :=
  @Json.rec (fun j ↦ j.Rearranged j) (fun js ↦ List.Forall₂ Rearranged js js)
    (fun ms ↦ List.Forall₂ Rearranged (ms.map Prod.snd) (ms.map Prod.snd))
    (fun m ↦ m.2.Rearranged m.2) .null .bool .integer .fraction .string (fun _ h ↦ .array h)
    (fun _ h ↦ .object rfl h (.refl _)) .nil (fun _ _ h hs ↦ .cons h hs) .nil
    (fun _ _ h hs ↦ .cons h hs) (fun _ _ h ↦ h) j

/-- A choice stays a choice of the same. -/
theorem choice (h : (choice name content).Rearranged j) :
    ∃ content', j = Json.choice name content' ∧ content.Rearranged content' := by
  cases h with
  | @object _ ns _ hnames hvalues hperm =>
    obtain ⟨⟨name', content'⟩, rfl⟩ : ∃ n, ns = [n] :=
      List.length_eq_one_iff.1 (by simpa using (congrArg List.length hnames).symm)
    obtain rfl := List.perm_singleton.1 hperm.symm
    obtain rfl : name = name' := by simpa using hnames
    exact ⟨content', rfl, by simpa using hvalues⟩

end Rearranged

theorem member_eq_of_mem (hnodup : (ns.map Prod.fst).Nodup) (h : (name, value) ∈ ns) :
    member name ns = value := by
  have hfound : (ns.find? fun n ↦ n.1 = name).isSome = true :=
    List.find?_isSome.2 ⟨(name, value), h, decide_eq_true rfl⟩
  obtain ⟨n, hn⟩ := Option.isSome_iff_exists.1 hfound
  have hname : n.1 = name := by simpa using List.find?_some hn
  have heq : n = (name, value) :=
    List.inj_on_of_nodup_map hnodup (List.mem_of_find?_eq_some hn) h hname
  rw [member, hn, heq]
  rfl

/-- The fields of a record are found by their names, in whatever order they are. -/
theorem Rearranged.fields? (h : (Json.object ms).Rearranged j) (names : List String)
    (hnames : ms.map Prod.fst = names) (hnodup : names.Nodup) :
    ∃ values, j.fields? names = some values ∧
      List.Forall₂ Rearranged (ms.map Prod.snd) values := by
  subst hnames
  cases h with
  | @object _ ns ns' hnames hvalues hperm =>
    refine ⟨ns.map Prod.snd, ?_, hvalues⟩
    rw [hnames] at hnodup ⊢
    rw [Json.fields?, List.map_map]
    refine congrArg some (List.map_congr_left fun n hn ↦ ?_)
    exact member_eq_of_mem ((hperm.map Prod.fst).nodup_iff.1 hnodup) (hperm.mem_iff.1 hn)

/-! ## Reading what was written -/

/-- Whether a value is read as `a`, however it is rearranged. -/
def Reads (read : Json → Option α) (j : Json) (a : α) : Prop :=
  ∀ ⦃j'⦄, j.Rearranged j' → read j' = some a

theorem Reads.eq (h : Reads read j a) : read j = some a := h (.refl j)

theorem Reads.map (h : Reads read j a) (f : α → β) : Reads (fun j ↦ (read j).map f) j (f a) := by
  intro j' hj
  exact Option.map_eq_some_iff.2 ⟨a, h hj, rfl⟩

theorem reads_string (s : String) : Reads string? (string s) s := by
  intro j hj
  cases hj
  rfl

/-- A choice is read by reading its content. -/
theorem reads_choice {readChoice : Json → Option β} {f : α → β}
    (hchoice : ∀ content, readChoice (Json.choice name content) = (read content).map f)
    (h : Reads read content a) : Reads readChoice (Json.choice name content) (f a) := by
  intro j hj
  obtain ⟨content', rfl, hcontent⟩ := hj.choice
  rw [hchoice, h hcontent, Option.map_some]

theorem reads_natural {bound n : Nat} (h : n < bound) : Reads (natural? bound) (ofNat n) n := by
  intro j hj
  cases hj
  exact natural?_ofNat h

theorem reads_uint16 (w : UInt16) : Reads uint16? (ofNat w.toNat) w := by
  have h := (reads_natural w.toNat_lt_size).map UInt16.ofNat
  rw [UInt16.ofNat_toNat] at h
  exact h

theorem reads_uint32 (w : UInt32) : Reads uint32? (ofNat w.toNat) w := by
  have h := (reads_natural w.toNat_lt_size).map UInt32.ofNat
  rw [UInt32.ofNat_toNat] at h
  exact h

theorem reads_uint64 (w : UInt64) : Reads uint64? (ofNat w.toNat) w := by
  have h := (reads_natural w.toNat_lt_size).map UInt64.ofNat
  rw [UInt64.ofNat_toNat] at h
  exact h

/-- Arrays are read element by element. -/
theorem reads_list {as : List α} (h : ∀ a ∈ as, Reads read (write a) a) :
    Reads (list? read) (array (as.map write)) as := by
  intro j hj
  cases hj with
  | @array _ js hjs =>
    rw [list?, mapM_eq_some_iff_forall₂]
    induction as generalizing js with
    | nil =>
      cases hjs
      exact .nil
    | cons a as ih =>
      obtain ⟨ha, has⟩ := List.forall_mem_cons.1 h
      cases hjs with
      | cons hj hjs => exact .cons (ha hj) (ih has hjs)

/-- Null is told from whatever the reader reads. -/
theorem reads_optional (hnull : read null = none) (h : ∀ a, Reads read (write a) a)
    (o : Option α) : Reads (optional? read) ((o.map write).getD null) o := by
  intro j hj
  cases o with
  | none =>
    cases hj
    rfl
  | some a =>
    have hread : read j = some a := h a hj
    rw [optional?.eq_def]
    split
    · rw [hnull] at hread
      cases hread
    · rw [hread]
      rfl

/-- The members of an object are read as the entries that they were written for. -/
theorem mapM_members {es : List (String × α)} (h : ∀ a, Reads read (write a) a)
    (hnames : es.map Prod.fst = ns.map Prod.fst)
    (hvalues : List.Forall₂ Rearranged (es.map fun e ↦ write e.2) (ns.map Prod.snd)) :
    ns.mapM (fun n ↦ (read n.2).map fun a ↦ (n.1, a)) = some es := by
  rw [mapM_eq_some_iff_forall₂]
  induction es generalizing ns with
  | nil =>
    obtain rfl : ns = [] := by simpa using hnames.symm
    exact .nil
  | cons e es ih =>
    cases ns with
    | nil => cases hvalues
    | cons n ns =>
      obtain ⟨hname, hnames⟩ := List.cons.inj hnames
      obtain ⟨hvalue, hvalues⟩ := List.forall₂_cons.1 hvalues
      refine .cons ?_ (ih hnames hvalues)
      rw [h e.2 hvalue, Option.map_some, ← hname]

/-- Maps are read entry by entry, in whatever order the entries are. -/
theorem reads_nameMap (h : ∀ a, Reads read (write a) a) (m : NameMap α) :
    Reads (NameMap.ofJson? read) (m.toJson write) m := by
  intro j hj
  cases hj with
  | @object _ ns ns' hnames hvalues hperm =>
    rw [List.map_map] at hnames hvalues
    have hread := mapM_eq_some_iff_forall₂.1 (mapM_members h hnames hvalues)
    obtain ⟨es, hes, hentries⟩ := List.perm_comp_forall₂ hperm.symm hread
    rw [NameMap.ofJson?, members?, Option.bind_eq_bind, Option.bind_some,
      mapM_eq_some_iff_forall₂.2 hes, Option.bind_eq_bind, Option.bind_some,
      NameMap.ofList_eq_of_perm hentries]
    rfl

end Json

open Json

/-! ## Types -/

theorem IntType.reads_toJson (t : IntType) : Reads ofJson? t.toJson t := by
  intro j hj
  obtain ⟨_, hfields, _ | ⟨hbits, _ | _⟩⟩ := hj.fields? ["num_bits"] rfl (by decide)
  rw [ofJson?, hfields]
  exact (reads_uint32 t.bits).map mk hbits

theorem FloatFormat.reads_toJson (f : FloatFormat) : Reads ofJson? f.toJson f := by
  intro j hj
  cases hj
  exact ofJsonName?_jsonName f

theorem Scalar.reads_toJson (s : Scalar) : Reads ofJson? s.toJson s := by
  cases s with
  | int t => exact reads_choice (fun _ ↦ rfl) t.reads_toJson
  | float f => exact reads_choice (fun _ ↦ rfl) f.reads_toJson

theorem PointerType.reads_toJson (p : PointerType) : Reads ofJson? p.toJson p := by
  intro j hj
  obtain ⟨_, hfields, _ | ⟨hspace, _ | ⟨hpointee, _ | _⟩⟩⟩ :=
    hj.fields? ["address_space", "pointee"] rfl (by decide)
  simp only [ofJson?, hfields, reads_uint32 _ hspace,
    reads_optional rfl Scalar.reads_toJson _ hpointee]
  rfl

theorem VectorType.reads_toJson (v : VectorType) : Reads ofJson? v.toJson v := by
  intro j hj
  obtain ⟨_, hfields, _ | ⟨hcomponent, _ | ⟨hlength, _ | _⟩⟩⟩ :=
    hj.fields? ["ty", "num_elements"] rfl (by decide)
  simp only [ofJson?, hfields, v.component.reads_toJson hcomponent, reads_uint16 _ hlength]
  rfl

theorem Ty.reads_toJson (t : Ty) : Reads ofJson? t.toJson t := by
  induction t with
  | int t => exact reads_choice (fun _ ↦ rfl) t.reads_toJson
  | float f => exact reads_choice (fun _ ↦ rfl) f.reads_toJson
  | pointer p => exact reads_choice (fun _ ↦ rfl) p.reads_toJson
  | vector v => exact reads_choice (fun _ ↦ rfl) v.reads_toJson
  | aggregate ts ih =>
    rw [toJson, elementsToJson_eq_map]
    exact reads_choice ofJson?_struct (reads_list ih)

/-! ## Nodes -/

theorem FunctionId.reads_toJson (f : FunctionId) : Reads ofJson? f.toJson f := by
  intro j hj
  rw [ofJson?, reads_string f.hyphenated hj, Option.bind_some, parse?_hyphenated]

theorem IntConst.reads_toJson (c : IntConst) : Reads ofJson? c.toJson c := by
  intro j hj
  obtain ⟨_, hfields, _ | ⟨htype, _ | ⟨hvalue, _ | _⟩⟩⟩ :=
    hj.fields? ["ty", "value"] rfl (by decide)
  simp only [ofJson?, hfields, c.type.reads_toJson htype, reads_uint64 _ hvalue]
  rfl

theorem Operand.reads_toJson (o : Operand) : Reads ofJson? o.toJson o := by
  cases o with
  | int c => exact reads_choice (fun _ ↦ rfl) c.reads_toJson
  | string s => exact reads_choice (fun _ ↦ rfl) (reads_string s)
  | function f => exact reads_choice (fun _ ↦ rfl) f.reads_toJson
  | undef t => exact reads_choice (fun _ ↦ rfl) t.reads_toJson

theorem Node.reads_toJson (n : Node) : Reads ofJson? n.toJson n := by
  intro j hj
  obtain ⟨_, hfields, _ | ⟨hoperands, _ | _⟩⟩ := hj.fields? ["operands"] rfl (by decide)
  rw [ofJson?, hfields]
  exact (reads_list fun o _ ↦ o.reads_toJson).map mk hoperands

theorem Node.reads_listToJson (ns : List Node) : Reads listOfJson? (listToJson ns) ns := by
  intro j hj
  obtain ⟨_, hfields, _ | ⟨hnodes, _ | _⟩⟩ := hj.fields? ["nodes"] rfl (by decide)
  rw [listOfJson?, hfields]
  exact reads_list (fun n _ ↦ n.reads_toJson) hnodes

/-! ## Functions and modules -/

theorem Param.reads_toJson (p : Param) : Reads ofJson? p.toJson p := by
  intro j hj
  obtain ⟨_, hfields, _ | ⟨hname, _ | ⟨htype, _ | _⟩⟩⟩ :=
    hj.fields? ["name", "ty"] rfl (by decide)
  simp only [ofJson?, hfields, reads_string _ hname, p.type.reads_toJson htype]
  rfl

theorem CallingConvention.reads_toJson (cc : CallingConvention) : Reads ofJson? cc.toJson cc := by
  cases cc with
  | numbered n => exact reads_choice (fun _ ↦ rfl) (reads_uint32 n)
  | c | fast | cold | spirFunction | spirKernel | ptxKernel | ptxDevice =>
    intro j hj
    cases hj
    rfl

theorem FunctionDecl.reads_toJson (f : FunctionDecl) : Reads ofJson? f.toJson f := by
  intro j hj
  obtain ⟨_, hfields, _ | ⟨hid, _ | ⟨hname, _ | ⟨hparams, _ | ⟨hconvention, _ | ⟨hattributes,
    _ | ⟨hmetadata, _ | _⟩⟩⟩⟩⟩⟩⟩ :=
    hj.fields? ["uuid", "name", "params", "cconv", "attributes", "metadata"] rfl (by decide)
  simp only [ofJson?, hfields, f.id.reads_toJson hid, reads_string _ hname,
    reads_list (fun p _ ↦ p.reads_toJson) hparams, f.convention.reads_toJson hconvention,
    reads_nameMap reads_string _ hattributes, reads_nameMap Node.reads_toJson _ hmetadata]
  rfl

namespace DeviceModule

theorem reads_toJson (m : DeviceModule) : Reads ofJson? m.toJson m := by
  intro j hj
  obtain ⟨_, hfields, _ | ⟨htriple, _ | ⟨hfunctions, _ | ⟨hlists, _ | _⟩⟩⟩⟩ :=
    hj.fields? ["target_triple", "functions", "named_metadata"] rfl (by decide)
  simp only [ofJson?, hfields, reads_optional rfl reads_string _ htriple,
    reads_list (fun f _ ↦ f.reads_toJson) hfunctions, reads_nameMap Node.reads_listToJson _ hlists]
  rfl

end DeviceModule

end KernelMetadata
