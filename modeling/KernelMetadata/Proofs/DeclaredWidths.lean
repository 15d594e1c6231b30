import KernelMetadata.Proofs.Interchange

/-!
# The widths of what is read

Integer types stand everywhere in a module: under constants, in the types of parameters, as the
components of vectors and behind pointers, and in aggregates to any depth. Which of them a module
has is collected by `intTypes`, and which widths a JSON value declares for them by `declaredWidths`,
which looks where the readers look: fields of records are found by name or by place, of two members
of a map with one name the later counts, and members that nothing reads declare nothing.

A reader takes over the widths that its value declares, each as it stands (`Json.Faithful`). So the
widths of a module that is read are those that are declared for it, whether or not they are widths
that an integer may have (`DeviceModule.widths_as_declared`).
-/

namespace KernelMetadata

/-- The width of an integer type as a number. -/
def IntType.width (t : IntType) : Int := t.bits.toNat

theorem IntType.inRange_iff {t : IntType} :
    t.InRange ↔ 1 ≤ t.width ∧ t.width ≤ maxBits.toNat := by
  rw [InRange, UInt32.le_iff_toNat_le, UInt32.le_iff_toNat_le, width]
  exact and_congr Nat.one_le_cast.symm Nat.cast_le.symm

theorem IntType.width_nonneg (t : IntType) : 0 ≤ t.width := Int.natCast_nonneg _

theorem IntType.width_lt (t : IntType) : t.width < 2 ^ 32 := Int.ofNat_lt.2 t.bits.toNat_lt

/-! ## Reading widths -/

namespace Json

variable {α β : Type} {j content : Json} {read : Json → Option α} {types : α → List IntType}
  {declared : Json → List Int}

/-- Whether the integer types of whatever is read have the widths that are declared for them. -/
def Faithful (read : Json → Option α) (types : α → List IntType) (declared : Json → List Int) :
    Prop :=
  ∀ ⦃j a⦄, read j = some a → (types a).map IntType.width = declared j

/-- A value in whose place no integer type stands. -/
def declaresNothing (_ : Json) : List Int := []

/-- A value that is a width itself. -/
def integers : Json → List Int
  | integer w => [w]
  | _ => []

/-- What the elements of an array declare. -/
def elementWidths (declared : Json → List Int) : Json → List Int
  | array elements => elements.flatMap declared
  | _ => []

/-- What the values of a map declare. -/
def entryWidths (declared : Json → List Int) : Json → List Int
  | object members => (NameMap.ofList members).entries.flatMap fun e ↦ declared e.2
  | _ => []

/-- What the fields of a record declare. -/
def fieldWidths (fields : List (String × (Json → List Int))) (j : Json) : List Int :=
  match j.fields? (fields.map Prod.fst) with
  | some values => (List.zipWith (fun field value ↦ field.2 value) fields values).flatten
  | none => []

/-- What the content of a choice declares, if that choice declares anything. -/
def contentWidths (choices : List (String × (Json → List Int))) (name : String) (content : Json) :
    List Int :=
  ((choices.lookup name).getD declaresNothing) content

/-- What a choice declares. -/
def choiceWidths (choices : List (String × (Json → List Int))) (j : Json) : List Int :=
  match j.choice? with
  | some (name, content) => contentWidths choices name content
  | none => []

theorem fieldWidths_eq {fields : List (String × (Json → List Int))} {names : List String}
    {values : List Json} (h : j.fields? names = some values)
    (hnames : fields.map Prod.fst = names) :
    fieldWidths fields j =
      (List.zipWith (fun field value ↦ field.2 value) fields values).flatten := by
  rw [fieldWidths, hnames, h]

theorem choiceWidths_eq {choices : List (String × (Json → List Int))} {name : String}
    (h : j.choice? = some (name, content)) :
    choiceWidths choices j = contentWidths choices name content := by
  rw [choiceWidths, h]

theorem integers_eq {w : UInt32} (h : j.uint32? = some w) : j.integers = [(w.toNat : Int)] := by
  obtain ⟨n, hn, rfl⟩ := Option.map_eq_some_iff.1 h
  rw [natural?.eq_def] at hn
  split at hn
  · next n =>
    obtain ⟨⟨hnonneg, hlt⟩, hn⟩ := Option.ite_none_right_eq_some.1 hn
    cases hn
    have hword : n.toNat < UInt32.size := by omega
    rw [integers, UInt32.toNat_ofNat_of_lt' hword, Int.toNat_of_nonneg hnonneg]
  · cases hn

theorem Faithful.of_map (h : Faithful read types declared) {f : α → β} {b : β}
    {types' : β → List IntType} (hread : (read j).map f = some b)
    (hf : ∀ a, types' (f a) = types a) : (types' b).map IntType.width = declared j := by
  obtain ⟨a, ha, rfl⟩ := Option.map_eq_some_iff.1 hread
  rw [hf, h ha]

theorem map_width_flatMap {js : List Json} {as : List α}
    (h : List.Forall₂ (fun j a ↦ (types a).map IntType.width = declared j) js as) :
    (as.flatMap types).map IntType.width = js.flatMap declared := by
  induction h with
  | nil => rfl
  | cons hj _ ih => rw [List.flatMap_cons, List.map_append, hj, ih, List.flatMap_cons]

theorem Faithful.list (h : Faithful read types declared) :
    Faithful (list? read) (List.flatMap types) (elementWidths declared) := by
  intro j as hread
  cases j with
  | array js => exact map_width_flatMap ((mapM_eq_some_iff_forall₂.1 hread).imp fun _ _ hj ↦ h hj)
  | null | bool | integer | fraction | string | object => cases hread

theorem Faithful.optional (h : Faithful read types declared) (hnull : declared null = []) :
    Faithful (optional? read) (fun o ↦ o.toList.flatMap types) declared := by
  intro j o hread
  rw [optional?.eq_def] at hread
  split at hread
  · cases hread
    exact hnull.symm
  · obtain ⟨a, ha, rfl⟩ := Option.map_eq_some_iff.1 hread
    exact (congrArg _ (List.flatMap_singleton types a)).trans (h ha)

/-- The later of two members with one name is read, and its widths are those that count. -/
theorem Faithful.nameMap (h : Faithful read types declared) :
    Faithful (NameMap.ofJson? read) (fun m ↦ m.entries.flatMap fun e ↦ types e.2)
      (entryWidths declared) := by
  intro j m hread
  cases j with
  | object members =>
    obtain ⟨es, hes, hread⟩ := Option.bind_eq_some_iff.1 hread
    cases hread
    -- entry by entry, both sides list the same widths under the same names
    have hwidths : (es.map fun e ↦ (e.1, (types e.2).map IntType.width)) =
        members.map fun e ↦ (e.1, declared e.2) := by
      rw [mapM_eq_some_iff_forall₂] at hes
      clear hread
      induction hes with
      | nil => rfl
      | cons hj _ ih =>
        obtain ⟨a, ha, rfl⟩ := Option.map_eq_some_iff.1 hj
        rw [List.map_cons, List.map_cons, ih, h ha]
    rw [List.map_flatMap]
    refine NameMap.flatMap_entries_congr (g := fun _ a ↦ (types a).map IntType.width)
      (h := fun _ v ↦ declared v) fun key ↦ ?_
    rw [← NameMap.get?_ofList_map, ← NameMap.get?_ofList_map, hwidths]
  | null | bool | integer | fraction | string | array => cases hread

end Json

open Json

/-! ## Types -/

namespace IntType

/-- The width that a JSON value declares for an integer type. -/
def declaredWidths (j : Json) : List Int := fieldWidths [("num_bits", integers)] j

theorem faithful : Faithful ofJson? (fun t ↦ [t]) declaredWidths := by
  intro j t h
  rw [ofJson?] at h
  split at h
  · next bits hfields =>
    obtain ⟨w, hw, rfl⟩ := Option.map_eq_some_iff.1 h
    rw [declaredWidths, fieldWidths_eq hfields rfl]
    exact congrArg (· ++ []) (integers_eq hw).symm
  · cases h

end IntType

namespace Scalar

/-- The integer types in a scalar. -/
def intTypes : Scalar → List IntType
  | int t => [t]
  | float _ => []

/-- The widths that a JSON value declares for the integer types in a scalar. -/
def declaredWidths (j : Json) : List Int := choiceWidths [("Int", IntType.declaredWidths)] j

theorem faithful : Faithful ofJson? intTypes declaredWidths := by
  intro j s h
  rw [ofJson?] at h
  split at h
  · next content hchoice =>
    rw [declaredWidths, choiceWidths_eq hchoice]
    exact IntType.faithful.of_map h fun _ ↦ rfl
  · next content hchoice =>
    obtain ⟨f, -, rfl⟩ := Option.map_eq_some_iff.1 h
    rw [declaredWidths, choiceWidths_eq hchoice]
    rfl
  · cases h

end Scalar

namespace PointerType

/-- The integer types behind a pointer. -/
def intTypes (p : PointerType) : List IntType := p.pointee.toList.flatMap Scalar.intTypes

/-- The widths that a JSON value declares for the integer types behind a pointer. -/
def declaredWidths (j : Json) : List Int :=
  fieldWidths [("address_space", declaresNothing), ("pointee", Scalar.declaredWidths)] j

theorem faithful : Faithful ofJson? intTypes declaredWidths := by
  intro j p h
  rw [ofJson?] at h
  split at h
  · next space pointee hfields =>
    obtain ⟨w, -, h⟩ := Option.bind_eq_some_iff.1 h
    obtain ⟨o, ho, h⟩ := Option.bind_eq_some_iff.1 h
    cases h
    rw [declaredWidths, fieldWidths_eq hfields rfl]
    simpa [declaresNothing, intTypes] using Scalar.faithful.optional rfl ho
  · cases h

end PointerType

namespace VectorType

/-- The integer types in a vector type. -/
def intTypes (v : VectorType) : List IntType := v.component.intTypes

/-- The widths that a JSON value declares for the integer types in a vector type. -/
def declaredWidths (j : Json) : List Int :=
  fieldWidths [("ty", Scalar.declaredWidths), ("num_elements", declaresNothing)] j

theorem faithful : Faithful ofJson? intTypes declaredWidths := by
  intro j v h
  rw [ofJson?] at h
  split at h
  · next component length hfields =>
    obtain ⟨s, hs, h⟩ := Option.bind_eq_some_iff.1 h
    obtain ⟨w, -, h⟩ := Option.bind_eq_some_iff.1 h
    cases h
    rw [declaredWidths, fieldWidths_eq hfields rfl]
    simpa [declaresNothing, intTypes] using Scalar.faithful hs
  · cases h

end VectorType

namespace Ty

mutual

/-- The integer types in a type, from left to right. -/
def intTypes : Ty → List IntType
  | int t => [t]
  | float _ => []
  | pointer p => p.intTypes
  | vector v => v.intTypes
  | aggregate elements => elementIntTypes elements

/-- The integer types in a list of types. -/
def elementIntTypes : List Ty → List IntType
  | [] => []
  | t :: ts => intTypes t ++ elementIntTypes ts

end

theorem elementIntTypes_eq_flatMap (ts : List Ty) : elementIntTypes ts = ts.flatMap intTypes := by
  induction ts with
  | nil => rfl
  | cons t ts ih => rw [elementIntTypes, ih, List.flatMap_cons]

/-- What the content of a type that is no aggregate declares, by the kind of the type. -/
def leafWidths : List (String × (Json → List Int)) :=
  [("Int", IntType.declaredWidths), ("Ptr", PointerType.declaredWidths),
    ("Vc", VectorType.declaredWidths)]

mutual

/-- The widths that a JSON value declares for the integer types in a type. -/
def declaredWidths : Json → List Int
  | .object [("Struct", .array elements)] => elementDeclaredWidths elements
  | .object [(kind, content)] => contentWidths leafWidths kind content
  | _ => []

/-- The widths that JSON values declare for the integer types in types. -/
def elementDeclaredWidths : List Json → List Int
  | [] => []
  | j :: js => declaredWidths j ++ elementDeclaredWidths js

end

theorem elementDeclaredWidths_eq_flatMap (js : List Json) :
    elementDeclaredWidths js = js.flatMap declaredWidths := by
  induction js with
  | nil => rfl
  | cons j js ih => rw [elementDeclaredWidths, ih, List.flatMap_cons]

theorem faithful_leaf (kind : String) :
    Faithful (leafOfJson? kind) intTypes (contentWidths leafWidths kind) := by
  intro content t h
  rw [leafOfJson?.eq_def] at h
  split at h
  · exact IntType.faithful.of_map h fun _ ↦ rfl
  · obtain ⟨f, -, rfl⟩ := Option.map_eq_some_iff.1 h
    rfl
  · exact PointerType.faithful.of_map h fun _ ↦ rfl
  · exact VectorType.faithful.of_map h fun _ ↦ rfl
  · cases h

/-- Unless it is read from an array of types, a type is read from what tells its kind. -/
theorem map_width_eq_or_eq_aggregate {j : Json} {t : Ty} (h : ofJson? j = some t) :
    t.intTypes.map IntType.width = declaredWidths j ∨
      ∃ js ts, j = .object [("Struct", .array js)] ∧ t = aggregate ts ∧
        List.Forall₂ (fun j t ↦ ofJson? j = some t) js ts := by
  unfold ofJson? at h
  split at h
  · next js =>
    obtain ⟨ts, hts, rfl⟩ := Option.map_eq_some_iff.1 h
    rw [elementsOfJson?_eq_mapM, mapM_eq_some_iff_forall₂] at hts
    exact .inr ⟨js, ts, rfl, rfl, hts⟩
  · next kind content hkind =>
    left
    rw [faithful_leaf kind h, declaredWidths]
    exact hkind
  · cases h

theorem faithful : Faithful ofJson? intTypes declaredWidths := by
  intro j t h
  induction t generalizing j with
  | aggregate ts ih =>
    rcases map_width_eq_or_eq_aggregate h with h | ⟨js, _, rfl, heq, hjs⟩
    · exact h
    · cases heq
      have hwidths := ((List.forall₂_and_left _ _).2 ⟨ih, hjs.flip⟩).flip
      rw [intTypes, elementIntTypes_eq_flatMap, declaredWidths, elementDeclaredWidths_eq_flatMap]
      exact map_width_flatMap (hwidths.imp fun _ _ hj ↦ hj.1 hj.2)
  | int | float | pointer | vector =>
    rcases map_width_eq_or_eq_aggregate h with h | ⟨_, _, _, heq, _⟩
    · exact h
    · cases heq

end Ty

/-! ## Nodes -/

namespace IntConst

/-- The widths that a JSON value declares for the type of a constant. -/
def declaredWidths (j : Json) : List Int :=
  fieldWidths [("ty", IntType.declaredWidths), ("value", declaresNothing)] j

theorem faithful : Faithful ofJson? (fun c ↦ [c.type]) declaredWidths := by
  intro j c h
  rw [ofJson?] at h
  split at h
  · next type value hfields =>
    obtain ⟨t, ht, h⟩ := Option.bind_eq_some_iff.1 h
    obtain ⟨w, -, h⟩ := Option.bind_eq_some_iff.1 h
    cases h
    rw [declaredWidths, fieldWidths_eq hfields rfl]
    simpa [declaresNothing] using IntType.faithful ht
  · cases h

end IntConst

namespace Operand

/-- The integer types in an operand. -/
def intTypes : Operand → List IntType
  | int c => [c.type]
  | undef t => t.intTypes
  | string _ | function _ => []

/-- The widths that a JSON value declares for the integer types in an operand. -/
def declaredWidths (j : Json) : List Int :=
  choiceWidths [("Int", IntConst.declaredWidths), ("Undef", Ty.declaredWidths)] j

theorem faithful : Faithful ofJson? intTypes declaredWidths := by
  intro j o h
  rw [ofJson?] at h
  split at h
  · next content hchoice =>
    rw [declaredWidths, choiceWidths_eq hchoice]
    exact IntConst.faithful.of_map h fun _ ↦ rfl
  · next content hchoice =>
    obtain ⟨s, -, rfl⟩ := Option.map_eq_some_iff.1 h
    rw [declaredWidths, choiceWidths_eq hchoice]
    rfl
  · next content hchoice =>
    obtain ⟨f, -, rfl⟩ := Option.map_eq_some_iff.1 h
    rw [declaredWidths, choiceWidths_eq hchoice]
    rfl
  · next content hchoice =>
    rw [declaredWidths, choiceWidths_eq hchoice]
    exact Ty.faithful.of_map h fun _ ↦ rfl
  · cases h

end Operand

namespace Node

/-- The integer types in a node, from left to right. -/
def intTypes (n : Node) : List IntType := n.operands.flatMap Operand.intTypes

/-- The widths that a JSON value declares for the integer types in a node. -/
def declaredWidths (j : Json) : List Int :=
  fieldWidths [("operands", elementWidths Operand.declaredWidths)] j

/-- The widths that a JSON value declares for the integer types in the nodes of a named list. -/
def listDeclaredWidths (j : Json) : List Int :=
  fieldWidths [("nodes", elementWidths declaredWidths)] j

theorem faithful : Faithful ofJson? intTypes declaredWidths := by
  intro j n h
  rw [ofJson?] at h
  split at h
  · next operands hfields =>
    rw [declaredWidths, fieldWidths_eq hfields rfl]
    simpa using Operand.faithful.list.of_map h fun _ ↦ rfl
  · cases h

theorem faithful_list : Faithful listOfJson? (List.flatMap intTypes) listDeclaredWidths := by
  intro j ns h
  rw [listOfJson?] at h
  split at h
  · next nodes hfields =>
    rw [listDeclaredWidths, fieldWidths_eq hfields rfl]
    simpa using faithful.list h
  · cases h

end Node

/-! ## Functions and modules -/

namespace Param

/-- The widths that a JSON value declares for the integer types in a parameter. -/
def declaredWidths (j : Json) : List Int :=
  fieldWidths [("name", declaresNothing), ("ty", Ty.declaredWidths)] j

theorem faithful : Faithful ofJson? (fun p ↦ p.type.intTypes) declaredWidths := by
  intro j p h
  rw [ofJson?] at h
  split at h
  · next name type hfields =>
    obtain ⟨s, -, h⟩ := Option.bind_eq_some_iff.1 h
    obtain ⟨t, ht, h⟩ := Option.bind_eq_some_iff.1 h
    cases h
    rw [declaredWidths, fieldWidths_eq hfields rfl]
    simpa [declaresNothing] using Ty.faithful ht
  · cases h

end Param

namespace FunctionDecl

/-- The integer types in a function: those of its parameters, and those in its metadata. -/
def intTypes (f : FunctionDecl) : List IntType :=
  (f.params.flatMap fun p ↦ p.type.intTypes) ++ f.metadata.entries.flatMap fun e ↦ e.2.intTypes

/-- The widths that a JSON value declares for the integer types in a function. -/
def declaredWidths (j : Json) : List Int :=
  fieldWidths [("uuid", declaresNothing), ("name", declaresNothing),
    ("params", elementWidths Param.declaredWidths), ("cconv", declaresNothing),
    ("attributes", declaresNothing), ("metadata", entryWidths Node.declaredWidths)] j

theorem faithful : Faithful ofJson? intTypes declaredWidths := by
  intro j f h
  rw [ofJson?] at h
  split at h
  · next id name params convention attributes metadata hfields =>
    simp only [Option.bind_eq_bind, Option.bind_eq_some_iff] at h
    obtain ⟨_, -, _, -, ps, hparams, _, -, _, -, md, hmetadata, h⟩ := h
    cases h
    rw [declaredWidths, fieldWidths_eq hfields rfl, intTypes, List.map_append,
      Param.faithful.list hparams, Node.faithful.nameMap hmetadata]
    simp [declaresNothing]
  · cases h

end FunctionDecl

namespace DeviceModule

/-- The integer types in a module: those in its functions, and those in its named lists. -/
def intTypes (m : DeviceModule) : List IntType :=
  m.functions.flatMap FunctionDecl.intTypes ++
    m.lists.entries.flatMap fun e ↦ e.2.flatMap Node.intTypes

/-- The widths that a JSON value declares for the integer types in a module. -/
def declaredWidths (j : Json) : List Int :=
  fieldWidths [("target_triple", declaresNothing),
    ("functions", elementWidths FunctionDecl.declaredWidths),
    ("named_metadata", entryWidths Node.listDeclaredWidths)] j

theorem faithful : Faithful ofJson? intTypes declaredWidths := by
  intro j m h
  rw [ofJson?] at h
  split at h
  · next triple functions lists hfields =>
    simp only [Option.bind_eq_bind, Option.bind_eq_some_iff] at h
    obtain ⟨_, -, fs, hfunctions, ls, hlists, h⟩ := h
    cases h
    rw [declaredWidths, fieldWidths_eq hfields rfl, intTypes, List.map_append,
      FunctionDecl.faithful.list hfunctions, Node.faithful_list.nameMap hlists]
    simp [declaresNothing]
  · cases h

/-- **A module has the widths that are declared for it**, in the same order. All that is asked of a
width is that it is a 32-bit word. So the integer types of a module that is read have widths that
integers may have exactly if only such widths are declared. -/
theorem widths_as_declared {j : Json} {m : DeviceModule} (h : ofJson? j = some m) :
    m.intTypes.map IntType.width = declaredWidths j ∧
      (∀ w ∈ declaredWidths j, 0 ≤ w ∧ w < 2 ^ 32) ∧
      ((∀ t ∈ m.intTypes, t.InRange) ↔
        ∀ w ∈ declaredWidths j, 1 ≤ w ∧ w ≤ IntType.maxBits.toNat) := by
  rw [← faithful h]
  refine ⟨rfl, fun w hw ↦ ?_, ?_⟩
  · obtain ⟨t, -, rfl⟩ := List.mem_map.1 hw
    exact ⟨t.width_nonneg, t.width_lt⟩
  · rw [List.forall_mem_map]
    exact forall₂_congr fun t _ ↦ t.inRange_iff

/-- A value that declares a width in every place where an integer type may stand; a member that
nothing reads and the first of two lists with one name declare none. -/
def everywhere : Json :=
  let int (bits : Int) : Json := .choice "Int" (.object [("num_bits", .integer bits)])
  let constant (bits : Int) : Json := .choice "Int" (.array [.array [.integer bits], .integer 1])
  let node (operands : List Json) : Json := .object [("operands", .array operands)]
  .object [("named_metadata", .object [
      ("l", .object [("nodes", .array [node [constant 1]])]),
      ("l", .object [("nodes", .array [node [constant 0, .choice "Undef" (int 4294967295)]])])]),
    ("functions", .array [.object [("uuid", .string "00000000-0000-0000-0000-000000000007"),
      ("name", .string "f"), ("cconv", .string "C"), ("attributes", .object []),
      ("num_bits", .integer 5),
      ("params", .array [.object [("name", .string "p"), ("ty", .choice "Struct" (.array [
        int 8388608, .choice "Struct" (.array [.choice "Vc" (.array [int 0, .integer 2]),
          .choice "Ptr" (.object [("address_space", .integer 1), ("pointee", int 8)])])]))]]),
      ("metadata", .object [("k", node [constant 16])])]])]

/-- Widths on both sides of the range are read, at any depth. -/
theorem widths_as_declared_everywhere : ∃ m : DeviceModule,
    ofJson? everywhere = some m ∧
      m.intTypes.map IntType.width = [8388608, 0, 8, 16, 0, 4294967295] ∧
      ¬∀ t ∈ m.intTypes, t.InRange := by
  obtain ⟨m, hm⟩ : ∃ m, ofJson? everywhere = some m :=
    Option.isSome_iff_exists.1 (by decide +kernel)
  have hdeclared : declaredWidths everywhere = [8388608, 0, 8, 16, 0, 4294967295] := by
    decide +kernel
  obtain ⟨hwidths, -, hrange⟩ := widths_as_declared hm
  refine ⟨m, hm, hwidths.trans hdeclared, ?_⟩
  rw [hrange, hdeclared]
  decide

/-- An integer type without width is read. -/
theorem zeroWidth_read : ∃ m : DeviceModule,
    ofJson? (.object [("target_triple", .null), ("functions", .array []), ("named_metadata",
      .object [("l", .object [("nodes", .array [.object [("operands", .array [.choice "Int" (.object
        [("ty", .object [("num_bits", .integer 0)]), ("value", .integer 1)])])]])])])]) = some m ∧
      ⟨0⟩ ∈ m.intTypes ∧ ¬(⟨0⟩ : IntType).InRange := by
  refine ⟨⟨none, [], NameMap.ofList [("l", [⟨[.int ⟨⟨0⟩, 1⟩]⟩])]⟩, ?_, ?_, ?_⟩
  · decide +kernel
  · decide
  · decide

end DeviceModule

end KernelMetadata
