import KernelMetadata.Toml.Scalar

/-!
# Tables of TOML

A document is a table whose entries are values, tables and arrays of tables. How a table came to be
decides what may still be added to it: a table opened by a header, or only implied by the header of
a table inside it, is not extended by dotted keys, a table made by dotted keys is not opened by a
header, and a table written inline is complete.

An array of tables stands, on the way to its entries, for the last table in it.
-/

namespace KernelMetadata.Toml

/-- How a table came to be. -/
inductive Origin where
  | implied
  | dotted
  | header
  | inline
  deriving DecidableEq

/-- What stands under a key. -/
inductive Item where
  | string (value : String)
  | scalar (value : Scalar)
  | array (elements : List Item)
  | table (origin : Origin) (entries : List (String × Item))
  | tables (earlier : List (List (String × Item))) (last : List (String × Item))

/-- The entries of a table. -/
abbrev Entries := List (String × Item)

namespace Entries

/-- The item under a key. -/
def get? (es : Entries) (key : String) : Option Item := (es.find? fun e ↦ e.1 = key).map Prod.snd

/-- Adds an item under a new key. -/
def add (es : Entries) (key : String) (item : Item) : Entries := es ++ [(key, item)]

/-- Replaces the item under a key. -/
def replace (es : Entries) (key : String) (item : Item) : Entries :=
  es.map fun e ↦ if e.1 = key then (key, item) else e

/-- Puts an item under a path of keys. Tables on the way are made if they are missing. The table
that takes the item is either the one at the start of the path, or one that was made by a dotted
key: `fresh` says whether this one may take it. -/
def assign (fresh : Bool) : List String → Item → Entries → Option Entries
  | [], _, _ => none
  | [key], item, es => if fresh && (es.get? key).isNone then some (es.add key item) else none
  | key :: keys, item, es =>
    match es.get? key with
    | none => (assign true keys item []).map fun sub ↦ es.add key (.table .dotted sub)
    | some (.table .dotted sub) =>
      (assign true keys item sub).map fun sub ↦ es.replace key (.table .dotted sub)
    | some (.table .implied sub) =>
      (assign false keys item sub).map fun sub ↦ es.replace key (.table .implied sub)
    | some (.tables earlier last) =>
      (assign false keys item last).map fun last ↦ es.replace key (.tables earlier last)
    | some _ => none

/-- Changes the table that the keys of a header lead to. Tables on the way are made if they are
missing. -/
def descend (change : Entries → Option Entries) : List String → Entries → Option Entries
  | [], es => change es
  | key :: keys, es =>
    match es.get? key with
    | none => (descend change keys []).map fun sub ↦ es.add key (.table .implied sub)
    | some (.table .inline _) => none
    | some (.table origin sub) =>
      (descend change keys sub).map fun sub ↦ es.replace key (.table origin sub)
    | some (.tables earlier last) =>
      (descend change keys last).map fun last ↦ es.replace key (.tables earlier last)
    | some _ => none

/-- Opens a table by a header: a new one, or one that was only implied so far. -/
def openTable (key : String) (es : Entries) : Option Entries :=
  match es.get? key with
  | none => some (es.add key (.table .header []))
  | some (.table .implied sub) => some (es.replace key (.table .header sub))
  | some _ => none

/-- Opens one more table of an array of tables. -/
def openElement (key : String) (es : Entries) : Option Entries :=
  match es.get? key with
  | none => some (es.add key (.tables [] []))
  | some (.tables earlier last) => some (es.replace key (.tables (earlier ++ [last]) []))
  | some _ => none

end Entries

end KernelMetadata.Toml
