/-!
# Options of a transcription

There is one choice: whether the lists that a transcription consumes are erased.
-/

namespace KernelMetadata

/-- The options of a transcription. -/
structure Options where
  /-- Whether the lists of extensions, of core features and of contraction are erased once they have
  been read. -/
  eraseLegacy : Bool
  deriving DecidableEq

namespace Options

/-- The options where nothing is said. -/
def default : Options := ⟨true⟩

instance : Inhabited Options := ⟨default⟩

end Options

end KernelMetadata
