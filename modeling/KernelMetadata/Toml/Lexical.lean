import KernelMetadata.Text.Numeral

/-!
# Words of TOML

The smallest parts of a TOML document: blanks, comments, line ends, strings and keys. A reader takes
the characters ahead and gives what it read with the characters that follow, or nothing where the
document is malformed.

Strings come in four kinds. Basic strings, between quotation marks, know escapes; literal ones,
between apostrophes, do not. Either may be tripled to span several lines. No string holds a control
character other than the tab, save for line ends where it may span lines.
-/

namespace KernelMetadata.Toml

/-- A reader: what it read and the characters that follow. -/
abbrev Reader (α : Type) := List Char → Option (α × List Char)

/-! ## Blanks and comments -/

/-- Whether a character is a blank within a line. -/
def isBlank (c : Char) : Bool := c = ' ' || c = '\t'

/-- Skips blanks. -/
def skipBlanks (cs : List Char) : List Char := cs.dropWhile isBlank

/-- Whether a character may stand in a comment or in a string of one line. -/
def isText (c : Char) : Bool := c = '\t' || (0x20 ≤ c.toNat && c.toNat ≠ 0x7f)

/-- Skips a line end: a line feed, perhaps after a carriage return. -/
def skipNewline? : List Char → Option (List Char)
  | '\n' :: cs => some cs
  | '\r' :: '\n' :: cs => some cs
  | _ => none

/-- Skips a comment if there is one, up to the first character that cannot belong to it. -/
def skipComment : List Char → List Char
  | '#' :: cs => cs.dropWhile isText
  | cs => cs

/-- Skips the rest of a line that holds nothing more but blanks and a comment, and its end. -/
def skipLine? (cs : List Char) : Option (List Char) :=
  match skipComment (skipBlanks cs) with
  | [] => some []
  | rest => skipNewline? rest

/-- Skips blanks, comments and line ends; `fuel` bounds the number of line ends. -/
def skipLines (fuel : Nat) (cs : List Char) : List Char :=
  let rest := skipComment (skipBlanks cs)
  match fuel with
  | 0 => rest
  | fuel + 1 =>
    match skipNewline? rest with
    | some rest => skipLines fuel rest
    | none => rest

/-- Skips blanks, comments and line ends. -/
def skipSpace (cs : List Char) : List Char := skipLines cs.length cs

/-! ## Strings -/

/-- The character with a code point, if there is one. -/
def charOfCode? (n : Nat) : Option Char := if n.isValidChar then some (Char.ofNat n) else none

/-- Reads a character given by a number of hexadecimal digits. -/
def readCode (digits : Nat) : Reader Char := fun cs ↦
  if (cs.take digits).length = digits then do
    let n ← Text.readNumeral? 16 (cs.take digits)
    let c ← charOfCode? n
    pure (c, cs.drop digits)
  else none

/-- Reads an escape, after its backslash. -/
def readEscape : Reader Char
  | 'b' :: cs => some ('\x08', cs)
  | 't' :: cs => some ('\t', cs)
  | 'n' :: cs => some ('\n', cs)
  | 'f' :: cs => some ('\x0c', cs)
  | 'r' :: cs => some ('\r', cs)
  | 'e' :: cs => some ('\x1b', cs)
  | '"' :: cs => some ('"', cs)
  | '\\' :: cs => some ('\\', cs)
  | 'x' :: cs => readCode 2 cs
  | 'u' :: cs => readCode 4 cs
  | 'U' :: cs => readCode 8 cs
  | _ => none

/-- Reads the inside of a basic string of one line and its closing mark; `fuel` bounds its length.
-/
def readBasicRest : Nat → Reader (List Char)
  | 0, _ => none
  | fuel + 1, cs =>
    match cs with
    | '"' :: rest => some ([], rest)
    | '\\' :: rest => do
      let (c, rest) ← readEscape rest
      let (text, rest) ← readBasicRest fuel rest
      pure (c :: text, rest)
    | c :: rest =>
      if isText c then do
        let (text, rest) ← readBasicRest fuel rest
        pure (c :: text, rest)
      else none
    | [] => none

/-- Reads the inside of a literal string of one line and its closing mark. -/
def readLiteralRest (cs : List Char) : Option (List Char × List Char) :=
  let inside := cs.takeWhile fun c ↦ isText c && c ≠ '\''
  match cs.drop inside.length with
  | '\'' :: rest => some (inside, rest)
  | _ => none

/-- Reads a closing mark of three quotes, of which up to two more before it belong to the string. -/
def readClosing? (quote : Char) (cs : List Char) : Option (List Char × List Char) :=
  let count := (cs.takeWhile (· = quote)).length
  if count < 3 then none
  else if count ≤ 5 then some (List.replicate (count - 3) quote, cs.drop count)
  else some (List.replicate 2 quote, cs.drop 5)

/-- Skips blanks and line ends; `fuel` bounds the number of line ends. -/
def skipBlankLines (fuel : Nat) (cs : List Char) : List Char :=
  match fuel, skipNewline? (skipBlanks cs) with
  | fuel + 1, some rest => skipBlankLines fuel rest
  | _, _ => skipBlanks cs

/-- Skips what an escaped line end hides: the blanks before it, and all blanks and line ends after.
-/
def skipContinuation? (cs : List Char) : Option (List Char) :=
  (skipNewline? (skipBlanks cs)).map (skipBlankLines cs.length)

/-- Reads the inside of a string of several lines and its closing mark; `fuel` bounds its length. -/
def readLinesRest (escapes : Bool) (quote : Char) : Nat → Reader (List Char)
  | 0, _ => none
  | fuel + 1, cs =>
    match readClosing? quote cs with
    | some closed => some closed
    | none =>
      match cs with
      | [] => none
      | '\r' :: '\n' :: rest => do
        let (text, rest) ← readLinesRest escapes quote fuel rest
        pure ('\r' :: '\n' :: text, rest)
      | c :: rest =>
        if escapes && c = '\\' then
          match skipContinuation? rest with
          | some rest => readLinesRest escapes quote fuel rest
          | none => do
            let (c, rest) ← readEscape rest
            let (text, rest) ← readLinesRest escapes quote fuel rest
            pure (c :: text, rest)
        else if isText c || c = '\n' then do
          let (text, rest) ← readLinesRest escapes quote fuel rest
          pure (c :: text, rest)
        else none

/-- Reads the inside of a string of several lines, which may begin with a line end that does not
count. -/
def readLinesString (escapes : Bool) (quote : Char) : Reader (List Char) := fun cs ↦
  let cs := (skipNewline? cs).getD cs
  readLinesRest escapes quote (cs.length + 1) cs

/-- Reads a string of any kind. -/
def readString : Reader String := fun cs ↦
  (match cs with
    | '"' :: '"' :: '"' :: rest => readLinesString true '"' rest
    | '"' :: rest => readBasicRest (rest.length + 1) rest
    | '\'' :: '\'' :: '\'' :: rest => readLinesString false '\'' rest
    | '\'' :: rest => readLiteralRest rest
    | _ => none : Option (List Char × List Char)).map fun r ↦ (String.ofList r.1, r.2)

/-! ## Keys -/

/-- Whether a character may stand in a bare key. -/
def isBareKey (c : Char) : Bool := c.isAlphanum || c = '-' || c = '_'

/-- Reads a key without dots: a bare word, or a string of one line. -/
def readSimpleKey : Reader String := fun cs ↦
  match cs with
  | '"' :: rest => (readBasicRest (rest.length + 1) rest).map fun r ↦ (String.ofList r.1, r.2)
  | '\'' :: rest => (readLiteralRest rest).map fun r ↦ (String.ofList r.1, r.2)
  | _ =>
    let word := cs.takeWhile isBareKey
    if word.isEmpty then none else some (String.ofList word, cs.drop word.length)

/-- Reads simple keys with dots between them and the blanks after them; `fuel` bounds their number.
-/
def readKeyParts : Nat → Reader (List String)
  | 0, _ => none
  | fuel + 1, cs => do
    let (key, rest) ← readSimpleKey (skipBlanks cs)
    match skipBlanks rest with
    | '.' :: rest => do
      let (keys, rest) ← readKeyParts fuel rest
      pure (key :: keys, rest)
    | rest => pure ([key], rest)

/-- Reads a key, which is a path of simple keys. -/
def readKey : Reader (List String) := fun cs ↦ readKeyParts (cs.length + 1) cs

end KernelMetadata.Toml
