import KernelMetadata.Ty.Order
import KernelMetadata.Ty.Text

/-!
# Annotations that cannot be decoded

What can be wrong with one annotation. Such a fault concerns only the rule that reads the annotation
and the function that carries it.
-/

namespace KernelMetadata

/-- A fault of an annotation. -/
inductive DecodeError where
  | tooFewOperands (expected found : Nat)
  | notAnInteger (index : Nat)
  | integerOutOfRange (index : Nat) (value : UInt64)
  | invalidInteger (value : String)
  | malformedTypeHint
  | unsupportedTypeHint (type : Ty)
  deriving DecidableEq

/-- The message for a fault. -/
def DecodeError.message : DecodeError → String
  | tooFewOperands expected found =>
    "Expected at least " ++ Text.decimal expected ++ " operands but the node only has " ++
      Text.decimal found ++ "."
  | notAnInteger index =>
    "Operand #" ++ Text.decimal index ++ " is expected to be an integer constant."
  | integerOutOfRange index value =>
    "Operand #" ++ Text.decimal index ++ " holds " ++ Text.decimal value.toNat ++
      ", which does not fit in 32 bits."
  | invalidInteger value => "Attribute value `" ++ value ++ "` is not a valid 32-bit integer."
  | malformedTypeHint => "`vec_type_hint` must be `!\x7b<type> undef, i32 <signedness>\x7d`."
  | unsupportedTypeHint type =>
    "`" ++ type.text ++ "` is not a valid `vec_type_hint` component type."

end KernelMetadata
