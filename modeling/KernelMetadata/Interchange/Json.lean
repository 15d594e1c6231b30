/-!
# JSON values

The values in which modules are interchanged. Numbers without a fraction are kept as integers, of
any size; readers of machine words accept those that fit.

A record with named fields is read either from an object, where unknown members are ignored, or from
an array of exactly its fields in order (`Json.fields?`). A choice is read from an object with one
member, whose name is the choice and whose value is its content, and a choice without content also
from its bare name (`Json.choice?`).
-/

namespace KernelMetadata

/-- A JSON value. -/
inductive Json where
  | null
  | bool (value : Bool)
  | integer (value : Int)
  | fraction (mantissa : Int) (places : Nat)
  | string (value : String)
  | array (elements : List Json)
  | object (members : List (String × Json))

namespace Json

/-! ## Words and strings -/

/-- The JSON value of a natural number. -/
def ofNat (n : Nat) : Json := integer n

/-- Reads a natural number below a bound. -/
def natural? (bound : Nat) : Json → Option Nat
  | integer n => if 0 ≤ n ∧ n < bound then some n.toNat else none
  | _ => none

/-- Reads a 16-bit word. -/
def uint16? (j : Json) : Option UInt16 := (j.natural? UInt16.size).map UInt16.ofNat

/-- Reads a 32-bit word. -/
def uint32? (j : Json) : Option UInt32 := (j.natural? UInt32.size).map UInt32.ofNat

/-- Reads a 64-bit word. -/
def uint64? (j : Json) : Option UInt64 := (j.natural? UInt64.size).map UInt64.ofNat

/-- Reads a string. -/
def string? : Json → Option String
  | string s => some s
  | _ => none

theorem natural?_ofNat {bound n : Nat} (h : n < bound) : (ofNat n).natural? bound = some n := by
  rw [ofNat, natural?, if_pos]
  · rfl
  · omega

/-! ## Structures -/

/-- Reads an array by reading its elements. -/
def list? {α : Type} (read : Json → Option α) : Json → Option (List α)
  | array elements => elements.mapM read
  | _ => none

/-- Reads an absent or null value as nothing, and anything else by the reader. -/
def optional? {α : Type} (read : Json → Option α) : Json → Option (Option α)
  | null => some none
  | j => (read j).map some

/-- The members of an object. -/
def members? : Json → Option (List (String × Json))
  | object members => some members
  | _ => none

/-- The value of the first member with a name; null stands for an absent one. -/
def member (name : String) (members : List (String × Json)) : Json :=
  ((members.find? fun m ↦ m.1 = name).map Prod.snd).getD null

/-- The values of the named fields of a record. -/
def fields? (names : List String) : Json → Option (List Json)
  | array elements => if elements.length = names.length then some elements else none
  | object members => some (names.map fun name ↦ member name members)
  | _ => none

/-- The name and the content of a choice. -/
def choice? : Json → Option (String × Json)
  | string name => some (name, null)
  | object [(name, content)] => some (name, content)
  | _ => none

/-- The JSON value of a choice with content. -/
def choice (name : String) (content : Json) : Json := object [(name, content)]

end Json

end KernelMetadata
