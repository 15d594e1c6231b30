import KernelMetadata.DeviceModule.Basic

/-!
# Well-formedness of modules

A module is well formed when no two of its functions share a name and every function that its
metadata refers to is defined in it. `DeviceModule.violation?` finds the first fault: repeated names
come before dangling references, references in named lists before references in function metadata,
and otherwise the order of the module decides.
-/

namespace KernelMetadata

/-- Where a metadata node stands in a module. -/
inductive Location where
  | list (name : String) (index : Nat)
  | function (name : String) (key : String)
  deriving DecidableEq

/-- The text of a location. -/
def Location.text : Location → String
  | list name index => "!" ++ name ++ "[" ++ Text.decimal index ++ "]"
  | function name key => "@" ++ name ++ " !" ++ key

/-- A fault of a module. -/
inductive Violation where
  | duplicateName (name : String)
  | danglingReference (location : Location) (target : FunctionId)
  deriving DecidableEq

/-- The message for a fault. -/
def Violation.message : Violation → String
  | duplicateName name =>
    "Function name `" ++ name ++ "` is defined more than once within the module."
  | danglingReference location target =>
    "Metadata `" ++ location.text ++ "` refers to function `" ++ target.hyphenated ++
      "` which is not defined within the module."

/-- The first member of a list that occurs earlier in it or in `seen`. -/
def firstRepeat? {α : Type} [DecidableEq α] (seen : List α) : List α → Option α
  | [] => none
  | x :: xs => if x ∈ seen then some x else firstRepeat? (x :: seen) xs

theorem firstRepeat?_eq_none_iff {α : Type} [DecidableEq α] {seen xs : List α} :
    firstRepeat? seen xs = none ↔ xs.Nodup ∧ ∀ x ∈ xs, x ∉ seen := by
  induction xs generalizing seen with
  | nil => simp [firstRepeat?]
  | cons x xs ih =>
    rw [firstRepeat?]
    by_cases h : x ∈ seen
    · simp [h]
    · simp only [if_neg h, ih, List.nodup_cons, List.mem_cons, not_or]
      constructor
      · rintro ⟨hnd, hseen⟩
        refine ⟨⟨fun hx ↦ (hseen x hx).1 rfl, hnd⟩, fun y hy ↦ ?_⟩
        rcases hy with rfl | hy
        · exact h
        · exact (hseen y hy).2
      · rintro ⟨⟨hx, hnd⟩, hseen⟩
        exact ⟨hnd, fun y hy ↦ ⟨fun hyx ↦ hx (hyx ▸ hy), hseen y (.inr hy)⟩⟩

namespace DeviceModule

/-- The metadata nodes of a module with their places: those of the named lists by name and index,
then those of the functions in module order, by key. -/
def sites (m : DeviceModule) : List (Location × Node) :=
  (m.lists.entries.flatMap fun l ↦ l.2.zipIdx.map fun n ↦ (.list l.1 n.2, n.1)) ++
    m.functions.flatMap fun f ↦ f.metadata.entries.map fun a ↦ (.function f.name a.1, a.2)

/-- The first reference of a node to an identity that no function has. -/
def dangling? (m : DeviceModule) (n : Node) : Option FunctionId :=
  n.functions.find? fun id ↦ id ∉ m.functions.map FunctionDecl.id

/-- The first fault of a module. -/
def violation? (m : DeviceModule) : Option Violation :=
  ((firstRepeat? [] (m.functions.map FunctionDecl.name)).map Violation.duplicateName).or
    (m.sites.findSome? fun s ↦ (m.dangling? s.2).map (Violation.danglingReference s.1))

end DeviceModule

end KernelMetadata
