import KernelMetadata.Record

/-!
# Float control

A kernel may fix how it rounds, whether it uses the alternative floating-point mode, and for each
floating-point width whether denormals are kept. All of this is packed into one word: bit 0 chooses
the alternative mode, bits 4 and 5 the rounding, and bits 6, 7 and 10 keep the denormals of 64, 32
and 16 bits. The other bits say nothing.

The word expands into execution modes: for each of the widths 64, 32 and 16 the rounding, the
operation and the denormal mode.
-/

namespace KernelMetadata

/-- How results are rounded. -/
inductive Rounding where
  | toNearestEven
  | upward
  | downward
  | towardZero
  deriving DecidableEq

/-- How floating-point operations work. -/
inductive Operation where
  | ieee
  | alternative
  deriving DecidableEq

/-- What becomes of denormals. -/
inductive Denormals where
  | flushed
  | preserved
  deriving DecidableEq

/-- A floating-point width under float control. -/
inductive FloatWidth where
  | double
  | single
  | half
  deriving DecidableEq

/-- A packed float-control word. -/
structure FloatControl where
  bits : BitVec 32
  deriving DecidableEq

/-- The execution mode of a rounding. -/
def Rounding.mode : Rounding → ExecutionMode
  | toNearestEven => .roundingModeRTE
  | upward => .roundingModeRTP
  | downward => .roundingModeRTN
  | towardZero => .roundingModeRTZ

/-- The execution mode of an operation. -/
def Operation.mode : Operation → ExecutionMode
  | ieee => .floatingPointModeIEEE
  | alternative => .floatingPointModeALT

/-- The execution mode of a treatment of denormals. -/
def Denormals.mode : Denormals → ExecutionMode
  | flushed => .denormFlushToZero
  | preserved => .denormPreserve

namespace FloatWidth

/-- The widths in the order of their execution modes. -/
def all : List FloatWidth := [double, single, half]

/-- A width in bits. -/
def bits : FloatWidth → UInt32
  | double => 64
  | single => 32
  | half => 16

/-- The bit that keeps the denormals of a width. -/
def denormalBit : FloatWidth → Nat
  | double => 6
  | single => 7
  | half => 10

end FloatWidth

namespace FloatControl

/-- The bits that say something: 0, 4, 5, 6, 7 and 10. -/
def declared : BitVec 32 := 0x4f1#32

/-- The float control of a word. -/
def ofWord (w : UInt32) : FloatControl := ⟨w.toBitVec⟩

/-- The rounding that bits 4 and 5 choose. -/
def rounding (c : FloatControl) : Rounding :=
  match c.bits.getLsbD 5, c.bits.getLsbD 4 with
  | false, false => .toNearestEven
  | false, true => .upward
  | true, false => .downward
  | true, true => .towardZero

/-- The operation that bit 0 chooses. -/
def operation (c : FloatControl) : Operation :=
  if c.bits.getLsbD 0 then .alternative else .ieee

/-- What becomes of the denormals of a width. -/
def denormals (c : FloatControl) (w : FloatWidth) : Denormals :=
  if c.bits.getLsbD w.denormalBit then .preserved else .flushed

/-- Whether every bit that is set says something. -/
def isKnown (c : FloatControl) : Bool := c.bits &&& ~~~declared == 0#32

/-- The float control without the bits that say nothing. -/
def truncate (c : FloatControl) : FloatControl := ⟨c.bits &&& declared⟩

/-- The execution modes of one width. -/
def widthEntries (c : FloatControl) (w : FloatWidth) : List ModeEntry :=
  [⟨c.rounding.mode, [w.bits]⟩, ⟨c.operation.mode, [w.bits]⟩, ⟨(c.denormals w).mode, [w.bits]⟩]

/-- The execution modes that a float-control word expands into. -/
def entries (c : FloatControl) : List ModeEntry := FloatWidth.all.flatMap c.widthEntries

theorem length_entries (c : FloatControl) : c.entries.length = 9 := rfl

end FloatControl

end KernelMetadata
