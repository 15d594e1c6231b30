import KernelMetadata.Text.Numeral

/-!
# Function identities

A function is identified by a 128-bit number, never by its name or its place in a module. The number
is written in groups of 8, 4, 4, 4 and 12 lower-case hexadecimal digits joined by hyphens. Reading
is more liberal: the groups may also be run together, stand between braces, or follow `urn:uuid:` in
lower or upper case, and the digits may be of either case.
-/

namespace KernelMetadata

/-- The identity of a function. -/
structure FunctionId where
  bits : BitVec 128
  deriving DecidableEq

namespace FunctionId

/-- Identities are ordered as numbers. -/
def compare (a b : FunctionId) : Ordering := Ord.compare a.bits.toNat b.bits.toNat

instance : Ord FunctionId := ⟨compare⟩

/-! ## Writing -/

/-- The thirty-two hexadecimal digits of an identity. -/
def digits (f : FunctionId) : List Char := Text.paddedDigits 16 f.bits.toNat 32

theorem length_digits (f : FunctionId) : f.digits.length = 32 :=
  Text.length_paddedDigits 16 f.bits.toNat 32

/-- Digits in groups of 8, 4, 4, 4 and the rest, joined by hyphens. -/
def hyphenate (ds : List Char) : List Char :=
  ds.take 8 ++ '-' :: ((ds.drop 8).take 4 ++ '-' :: ((ds.drop 12).take 4 ++
    '-' :: ((ds.drop 16).take 4 ++ '-' :: ds.drop 20)))

/-- The hyphenated form of an identity. -/
def hyphenated (f : FunctionId) : String := String.ofList (hyphenate f.digits)

/-- An identity as a reference: the hyphenated form after an at sign. -/
def text (f : FunctionId) : String := "@" ++ f.hyphenated

/-! ## Reading -/

/-- Reads exactly thirty-two hexadecimal digits. -/
def ofDigits? (cs : List Char) : Option FunctionId :=
  if cs.length = 32 then (Text.readNumeral? 16 cs).map fun n ↦ ⟨BitVec.ofNat 128 n⟩ else none

/-- Reads the hyphenated form: hyphens in the four places where they belong, digits elsewhere. -/
def ofHyphenated? (cs : List Char) : Option FunctionId :=
  let ds := cs.take 8 ++ (cs.drop 9).take 4 ++ (cs.drop 14).take 4 ++ (cs.drop 19).take 4 ++
    cs.drop 24
  if cs = hyphenate ds then ofDigits? ds else none

/-- The text after one of two leading words. -/
def afterUrn? (cs : List Char) : Option (List Char) :=
  if cs.take 9 = "urn:uuid:".toList ∨ cs.take 9 = "URN:UUID:".toList then some (cs.drop 9) else none

/-- The text between braces. -/
def betweenBraces? : List Char → Option (List Char)
  | '{' :: rest => if rest.getLast? = some '}' then some rest.dropLast else none
  | _ => none

/-- Reads an identity in any of its four spellings. -/
def parse? (s : String) : Option FunctionId :=
  let cs := s.toList
  match betweenBraces? cs, afterUrn? cs with
  | some inner, _ => ofHyphenated? inner
  | none, some inner => ofHyphenated? inner
  | none, none => (ofDigits? cs).or (ofHyphenated? cs)

end FunctionId

end KernelMetadata
