import KernelMetadata.Annotation.Basic

/-!
# Vector type hints

A kernel may say in which type it is best vectorised, by a node of an undefined value of that type
and the signedness of its component. The hint is packed into one word: the low sixteen bits hold the
code of the component, the high ones the length of a vector, and zero for a scalar.
-/

namespace KernelMetadata.VectorHint

/-- The code of a component; not every scalar has one. -/
def componentCode? : Scalar → Option UInt32
  | .int ⟨8⟩ => some 0
  | .int ⟨16⟩ => some 1
  | .int ⟨32⟩ => some 2
  | .int ⟨64⟩ => some 3
  | .int _ => none
  | .float .half => some 4
  | .float .single => some 5
  | .float .double => some 6
  | .float .bfloat | .float .quadruple => none

/-- The component and the length that a hint of a type speaks of. -/
def shape? : Ty → Option (Scalar × UInt16)
  | .vector v => some (v.component, v.length)
  | t => t.scalar?.map fun s ↦ (s, 0)

/-- Packs the length of a vector above the code of its component. -/
def pack (code : UInt32) (length : UInt16) : UInt32 := length.toUInt32 <<< 16 ||| code

/-- The hint of a type. -/
def encode (t : Ty) : Except DecodeError UInt32 :=
  match (shape? t).bind fun s ↦ (componentCode? s.1).map fun code ↦ pack code s.2 with
  | some hint => .ok hint
  | none => .error (.unsupportedTypeHint t)

/-- Reads the hint from an annotation: a node of two operands, of which the first is an undefined
value of the hinted type. The second is not looked at. -/
def extract : Annotation → Except DecodeError (List UInt32)
  | .node ⟨[.undef t, _]⟩ => (encode t).map fun hint ↦ [hint]
  | _ => .error .malformedTypeHint

end KernelMetadata.VectorHint
