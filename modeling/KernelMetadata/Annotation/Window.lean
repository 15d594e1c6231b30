import KernelMetadata.Annotation.Error
import KernelMetadata.Node

/-!
# Words in nodes

A window of a node is a run of consecutive operands; decoding it reads them as 32-bit words. A node
too short for the window is the first fault to be reported, whatever the operands; after it, the
operand furthest left that is no integer or is too large. The declared widths of the integers do not
matter, nor do operands outside the window.
-/

namespace KernelMetadata

/-- Reads the operand at a place of a node as a word. -/
def Operand.readWord (index : Nat) : Operand → Except DecodeError UInt32
  | int c =>
    if c.value.toNat < UInt32.size then .ok c.value.toUInt32
    else .error (.integerOutOfRange index c.value)
  | string _ | function _ | undef _ => .error (.notAnInteger index)

/-- Reads operands that stand in a node from a place on, stopping at the first fault. -/
def readWords (index : Nat) : List Operand → Except DecodeError (List UInt32)
  | [] => .ok []
  | o :: os =>
    match o.readWord index with
    | .error e => .error e
    | .ok w =>
      match readWords (index + 1) os with
      | .error e => .error e
      | .ok ws => .ok (w :: ws)

namespace Node

/-- Reads a window of a node. -/
def window (n : Node) (offset count : Nat) : Except DecodeError (List UInt32) :=
  if n.operands.length < offset + count then
    .error (.tooFewOperands (offset + count) n.operands.length)
  else readWords offset ((n.operands.drop offset).take count)

/-- Reads the first operands of a node. -/
def words (n : Node) (count : Nat) : Except DecodeError (List UInt32) := n.window 0 count

/-- Reads a window given by a machine word. A window whose end is no machine word has no reading. -/
def windowAt? (n : Node) (offset : UInt64) (count : Nat) :
    Option (Except DecodeError (List UInt32)) :=
  if offset.toNat + count < UInt64.size then some (n.window offset.toNat count) else none

theorem window_of_short {n : Node} {offset count : Nat}
    (h : n.operands.length < offset + count) :
    n.window offset count = .error (.tooFewOperands (offset + count) n.operands.length) := by
  rw [window, if_pos h]

end Node

end KernelMetadata
