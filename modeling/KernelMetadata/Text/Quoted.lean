import KernelMetadata.Text.Numeral
import KernelMetadata.Text.Plain

/-!
# Quoted text

The written form of an arbitrary string: between quotation marks, each plain character stands for
itself and every other one is escaped. The null character, tab, line ends, the quotation mark and
the backslash have short escapes; the rest is written `\u{…}` with the hexadecimal code point.
-/

namespace KernelMetadata.Text

/-- The written form of one character between quotation marks. -/
def escape (c : Char) : List Char :=
  if c = '\x00' then ['\\', '0']
  else if c = '\t' then ['\\', 't']
  else if c = '\r' then ['\\', 'r']
  else if c = '\n' then ['\\', 'n']
  else if c = '"' then ['\\', '"']
  else if c = '\\' then ['\\', '\\']
  else if isPlain c then [c]
  else ['\\', 'u', '{'] ++ Nat.toDigits 16 c.toNat ++ ['}']

/-- The characters of a string, each in its written form. -/
def escapeAll (cs : List Char) : List Char := cs.flatMap escape

@[simp] theorem escapeAll_nil : escapeAll [] = [] := rfl

@[simp] theorem escapeAll_cons (c : Char) (cs : List Char) :
    escapeAll (c :: cs) = escape c ++ escapeAll cs := rfl

/-- A string between quotation marks, with every character that needs it escaped. -/
def quote (s : String) : String := String.ofList ('"' :: (escapeAll s.toList ++ ['"']))

theorem toList_quote (s : String) : (quote s).toList = '"' :: (escapeAll s.toList ++ ['"']) :=
  String.toList_ofList

end KernelMetadata.Text
