import KernelMetadata.Toml.Table

/-!
# TOML documents

A document is read line by line: assignments, headers of tables, and headers of elements of arrays
of tables. Each assignment belongs to the table of the last header before it. Values are strings,
scalars, and, nested up to `maxDepth`, arrays and inline tables.
-/

namespace KernelMetadata.Toml

/-! ## Values -/

/-- How deeply arrays and inline tables may be nested. -/
def maxDepth : Nat := 80

/-- Reads items with commas between them, and perhaps after the last, up to a closing mark. Blanks,
comments and line ends may stand around each; `fuel` bounds the number of items. -/
def readItems {α : Type} (read : Reader α) (closing : Char) : Nat → Reader (List α)
  | 0, _ => none
  | fuel + 1, cs =>
    match skipSpace cs with
    | [] => none
    | c :: rest =>
      if c = closing then some ([], rest)
      else do
        let (item, rest) ← read (c :: rest)
        match skipSpace rest with
        | ',' :: rest => do
          let (items, rest) ← readItems read closing fuel rest
          pure (item :: items, rest)
        | c :: rest => if c = closing then some ([item], rest) else none
        | [] => none

/-- Reads a key, an equals sign and a value. -/
def readAssignment (readValue : Reader Item) : Reader (List String × Item) := fun cs ↦ do
  let (path, rest) ← readKey cs
  match rest with
  | '=' :: rest => do
    let (item, rest) ← readValue (skipBlanks rest)
    pure ((path, item), rest)
  | _ => none

/-- The entries of an inline table. -/
def inlineEntries? (assignments : List (List String × Item)) : Option Entries :=
  assignments.foldlM (fun es a ↦ Entries.assign true a.1 a.2 es) []

/-- Reads a value in which arrays and inline tables are nested up to a depth. -/
def readValue : Nat → Reader Item
  | depth, cs =>
    match cs with
    | '[' :: rest =>
      match depth with
      | 0 => none
      | depth + 1 => do
        let (items, rest) ← readItems (readValue depth) ']' (rest.length + 1) rest
        pure (.array items, rest)
    | '{' :: rest =>
      match depth with
      | 0 => none
      | depth + 1 => do
        let (assignments, rest) ←
          readItems (readAssignment (readValue depth)) '}' (rest.length + 1) rest
        let entries ← inlineEntries? assignments
        pure (.table .inline entries, rest)
    | '"' :: _ | '\'' :: _ => (readString cs).map fun r ↦ (.string r.1, r.2)
    | _ => (readScalar cs).map fun r ↦ (.scalar r.1, r.2)

/-! ## Lines -/

/-- A line that says something. -/
inductive Line where
  | assignment (path : List String) (item : Item)
  | table (path : List String)
  | element (path : List String)

/-- Reads the line ahead, without the blanks before it and what follows it. -/
def readLine : Reader Line
  | '[' :: '[' :: cs => do
    let (path, rest) ← readKey cs
    match rest with
    | ']' :: ']' :: rest => pure (.element path, rest)
    | _ => none
  | '[' :: cs => do
    let (path, rest) ← readKey cs
    match rest with
    | ']' :: rest => pure (.table path, rest)
    | _ => none
  | cs => do
    let ((path, item), rest) ← readAssignment (readValue maxDepth) cs
    pure (.assignment path item, rest)

/-- Reads lines up to the end; `fuel` bounds their number. -/
def readLines : Nat → List Char → Option (List Line)
  | 0, _ => none
  | fuel + 1, cs =>
    match skipSpace cs with
    | [] => some []
    | cs => do
      let (line, rest) ← readLine cs
      let rest ← skipLine? rest
      let lines ← readLines fuel rest
      pure (line :: lines)

/-! ## Documents -/

/-- A document as far as it has been read: its entries, and the keys of the last header. -/
structure Progress where
  entries : Entries
  header : List String

/-- Takes in one line. -/
def Progress.step (p : Progress) : Line → Option Progress
  | .assignment path item =>
    (p.entries.descend (Entries.assign true path item) p.header).map fun es ↦ ⟨es, p.header⟩
  | .table path => do
    let key ← path.getLast?
    let es ← p.entries.descend (Entries.openTable key) path.dropLast
    pure ⟨es, path⟩
  | .element path => do
    let key ← path.getLast?
    let es ← p.entries.descend (Entries.openElement key) path.dropLast
    pure ⟨es, path⟩

/-- The entries of a document, if it is well formed. A byte order mark may stand in front. -/
def parse? (s : String) : Option Entries := do
  let cs := match s.toList with
    | '\uFEFF' :: cs => cs
    | cs => cs
  let lines ← readLines (cs.length + 1) cs
  let done ← lines.foldlM Progress.step ⟨[], []⟩
  pure done.entries

end KernelMetadata.Toml
