import KernelMetadata.Options.Basic
import KernelMetadata.Toml.Document

/-!
# Options as a document

Options are kept in a TOML document, as the boolean `erase_legacy_metadata` of its top level. Where
it is missing the default counts; other entries do not matter, but the document has to be well
formed.
-/

namespace KernelMetadata.Options

/-- The key of the option. -/
def eraseKey : String := "erase_legacy_metadata"

/-- Reads options from a document. -/
def ofToml? (document : String) : Option Options := do
  let entries ← Toml.parse? document
  match entries.get? eraseKey with
  | none => some default
  | some (.scalar (.boolean erase)) => some ⟨erase⟩
  | some _ => none

/-- Options as a document. -/
def toToml (o : Options) : String :=
  eraseKey ++ " = " ++ (if o.eraseLegacy then "true" else "false") ++ "\n"

end KernelMetadata.Options
