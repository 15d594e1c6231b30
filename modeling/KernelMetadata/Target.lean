import KernelMetadata.Vocabulary.Names
import KernelMetadata.Vocabulary.Numbered

/-!
# Targets

The target triple of a module names an architecture, and perhaps a vendor, a system and an
environment after it, separated by hyphens. Only the architecture counts, and only four of them are
supported.
-/

namespace KernelMetadata

/-- Why a module cannot be transcribed at all. -/
inductive TranscriptionError where
  | missingTriple
  | unsupportedTriple (triple : String)
  | missingKernelAnnotations (triple : String)
  deriving DecidableEq

/-- The message for a failure. -/
def TranscriptionError.message : TranscriptionError → String
  | missingTriple =>
    "The module has no target triple. An addressing model cannot be chosen without one."
  | unsupportedTriple triple =>
    "Target triple `" ++ triple ++ "` is not supported. Expected one of `spir`, `spir64`, " ++
      "`nvptx` or `nvptx64` as architecture."
  | missingKernelAnnotations triple =>
    "Named metadata `!" ++ Vocabulary.nvptxAnnotations ++ "` is required for target `" ++ triple ++
      "`; kernel entry points cannot be inferred without it."

/-- A supported architecture. -/
inductive Arch where
  | spir
  | spir64
  | nvptx
  | nvptx64
  deriving DecidableEq

namespace Arch

/-- The architecture with a name. -/
def ofName? (name : String) : Option Arch :=
  if name = "spir" then some spir
  else if name = "spir64" then some spir64
  else if name = "nvptx" then some nvptx
  else if name = "nvptx64" then some nvptx64
  else none

/-- Whether pointers have 32 bits. -/
def is32Bit : Arch → Bool
  | spir | nvptx => true
  | spir64 | nvptx64 => false

/-- Whether kernels are marked by annotations, and not by their calling convention. -/
def isNvptx : Arch → Bool
  | nvptx | nvptx64 => true
  | spir | spir64 => false

/-- The addressing model that goes with the width of pointers. -/
def addressing (a : Arch) : AddressingModel := if a.is32Bit then .physical32 else .physical64

end Arch

/-- A recognised target triple. -/
structure Target where
  arch : Arch
  triple : String
  deriving DecidableEq

namespace Target

/-- The architecture part of a triple: what stands before the first hyphen. -/
def archName (triple : String) : String := String.ofList (triple.toList.takeWhile (· ≠ '-'))

/-- Recognises a triple. -/
def parse (triple : String) : Except TranscriptionError Target :=
  match Arch.ofName? (archName triple) with
  | some arch => .ok ⟨arch, triple⟩
  | none => .error (.unsupportedTriple triple)

/-- Recognises the triple of a module, which may be absent; an empty one counts as absent. -/
def ofTriple : Option String → Except TranscriptionError Target
  | none => .error .missingTriple
  | some triple => if triple = "" then .error .missingTriple else parse triple

theorem triple_of_parse {triple : String} {t : Target} (h : parse triple = .ok t) :
    t.triple = triple := by
  rw [parse] at h
  split at h
  · cases h
    rfl
  · cases h

end Target

end KernelMetadata
