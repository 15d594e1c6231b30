import KernelMetadata.Annotation.Integer
import KernelMetadata.Annotation.Window
import KernelMetadata.DeviceModule.Basic

/-!
# Annotations of functions

An annotation is either a metadata node or a string attribute of a function. Both can be read as
words: a node gives its first operands, an attribute the one integer that it holds.
-/

namespace KernelMetadata

/-- Where an annotation is found on a function. -/
inductive AnnotationKey where
  | metadata (name : String)
  | attr (name : String)
  deriving DecidableEq

/-- An annotation found on a function. -/
inductive Annotation where
  | node (node : Node)
  | attr (value : String)
  deriving DecidableEq

/-- The name under which an annotation is found. -/
def AnnotationKey.name : AnnotationKey → String
  | metadata name | attr name => name

/-- The annotation of a function at a key. -/
def FunctionDecl.annotation? (f : FunctionDecl) : AnnotationKey → Option Annotation
  | .metadata key => (f.metadata.get? key).map .node
  | .attr key => (f.attributes.get? key).map .attr

/-- Reads an annotation as a number of words. -/
def Annotation.words (count : Nat) : Annotation → Except DecodeError (List UInt32)
  | node n => n.words count
  | attr value =>
    match parseInteger value with
    | .error e => .error e
    | .ok w => if count = 1 then .ok [w] else .error (.tooFewOperands count 1)

/-- Reads an annotation of one word. -/
def Annotation.scalar (a : Annotation) : Except DecodeError (List UInt32) := a.words 1

/-- Reads an annotation of three words. -/
def Annotation.triple (a : Annotation) : Except DecodeError (List UInt32) := a.words 3

end KernelMetadata
