import KernelMetadata.Toml.Lexical

/-!
# Scalars of TOML

Values written without quotes: booleans, integers, floating-point numbers, dates and times. A word
is recognised as a whole, by the first of these forms that it has (`classify?`).

Integers are limited to what 128 bits can hold, with or without a sign. A floating-point number may
not be so large that it rounds to infinity, and a date has to exist in the calendar.
-/

namespace KernelMetadata.Toml

/-- A value written without quotes. Floating-point numbers, dates and times are kept as written. -/
inductive Scalar where
  | boolean (value : Bool)
  | integer (value : Int)
  | float (text : String)
  | dateTime (text : String)
  deriving DecidableEq

/-! ## Integers -/

/-- The digits of a numeral in which single underscores may stand between digits. -/
def groupedDigits? (radix : Nat) (cs : List Char) : Option (List Char) :=
  let isDigit := fun c ↦ (Text.digit? radix c).isSome
  let rec afterDigit : List Char → Option (List Char)
    | [] => some []
    | '_' :: c :: cs => if isDigit c then (afterDigit cs).map (c :: ·) else none
    | c :: cs => if isDigit c then (afterDigit cs).map (c :: ·) else none
  match cs with
  | [] => none
  | c :: cs => if isDigit c then (afterDigit cs).map (c :: ·) else none

/-- The number of a numeral in which underscores may stand between digits. -/
def groupedNumber? (radix : Nat) (cs : List Char) : Option Nat :=
  (groupedDigits? radix cs).bind (Text.readNumeral? radix)

/-- The digits of a decimal numeral without needless zeros in front. -/
def decimalDigits? (cs : List Char) : Option (List Char) :=
  (groupedDigits? 10 cs).filter fun ds ↦ ds.head? ≠ some '0' || ds.length = 1

/-- A leading sign and what follows it. -/
def splitSign : List Char → Bool × List Char
  | '+' :: cs => (false, cs)
  | '-' :: cs => (true, cs)
  | cs => (false, cs)

/-- The integer that a word denotes, of any size. -/
def integer? (cs : List Char) : Option Int :=
  match cs with
  | '0' :: 'x' :: ds => (groupedNumber? 16 ds).map Int.ofNat
  | '0' :: 'o' :: ds => (groupedNumber? 8 ds).map Int.ofNat
  | '0' :: 'b' :: ds => (groupedNumber? 2 ds).map Int.ofNat
  | _ =>
    let (negative, ds) := splitSign cs
    ((decimalDigits? ds).bind (Text.readNumeral? 10)).map fun n ↦
      if negative then -(Int.ofNat n) else Int.ofNat n

/-- Whether an integer fits in 128 bits, with or without a sign. -/
def fits (n : Int) : Bool := -(Int.pow 2 127) ≤ n && n < Int.pow 2 128

/-! ## Floating-point numbers -/

/-- Digits before and after a point and an exponent, as a whole number and a power of ten. -/
structure Scientific where
  digits : List Char
  exponent : Int

/-- The whole number that the digits denote. -/
def Scientific.mantissa (s : Scientific) : Nat := (Text.readNumeral? 10 s.digits).getD 0

/-- The exponent of a floating-point number, after its mark. -/
def exponent? (cs : List Char) : Option Int :=
  let (negative, ds) := splitSign cs
  (groupedNumber? 10 ds).map fun n ↦ if negative then -(Int.ofNat n) else Int.ofNat n

/-- Reads a finite floating-point number without its sign: digits, and then a fraction, an exponent,
or both. -/
def scientific? (cs : List Char) : Option Scientific := do
  let isMark := fun c ↦ c = 'e' || c = 'E'
  let significand := cs.takeWhile fun c ↦ !isMark c
  let power := cs.drop significand.length
  let whole := significand.takeWhile (· ≠ '.')
  let fraction := significand.drop whole.length
  let wholeDigits ← decimalDigits? whole
  let fractionDigits ← if fraction.isEmpty then some [] else groupedDigits? 10 (fraction.drop 1)
  let exponent ← if power.isEmpty then some 0 else exponent? (power.drop 1)
  if fraction.isEmpty && power.isEmpty then none
  else some ⟨wholeDigits ++ fractionDigits, exponent - fractionDigits.length⟩

/-- The least number that rounds to infinity among the 64-bit floating-point numbers. -/
def overflowBound : Nat := Nat.pow 2 1024 - Nat.pow 2 970

/-- Whether a number rounds to infinity. Numbers far from the bound are told by their size alone. -/
def Scientific.overflows (s : Scientific) : Bool :=
  let digits := s.digits.dropWhile (· = '0')
  let size := (digits.length : Int) + s.exponent
  if digits.isEmpty || size < 300 then false
  else if 320 < size then true
  else if 0 ≤ s.exponent then overflowBound ≤ s.mantissa * Nat.pow 10 s.exponent.toNat
  else overflowBound * Nat.pow 10 (-s.exponent).toNat ≤ s.mantissa

/-- Whether a word is a floating-point number that does not round to infinity unless it says so. -/
def isFloat (cs : List Char) : Bool :=
  let (_, ds) := splitSign cs
  ds = "inf".toList || ds = "nan".toList || (scientific? ds).any fun s ↦ !s.overflows

/-! ## Dates and times -/

/-- Reads a number of exactly so many decimal digits. -/
def readFixed (digits : Nat) : Reader Nat := fun cs ↦
  if (cs.take digits).length = digits then
    (Text.readNumeral? 10 (cs.take digits)).map fun n ↦ (n, cs.drop digits)
  else none

/-- Reads a given character. -/
def readMark (mark : Char) : Reader Unit
  | c :: cs => if c = mark then some ((), cs) else none
  | [] => none

/-- Whether a year has a leap day. -/
def isLeapYear (year : Nat) : Bool := year % 4 = 0 && (year % 100 ≠ 0 || year % 400 = 0)

/-- The number of days of a month. -/
def daysInMonth (year month : Nat) : Nat :=
  if month = 2 then if isLeapYear year then 29 else 28
  else if month = 4 || month = 6 || month = 9 || month = 11 then 30
  else 31

/-- Reads a date of the calendar. -/
def readDate : Reader Unit := fun cs ↦ do
  let (year, cs) ← readFixed 4 cs
  let ((), cs) ← readMark '-' cs
  let (month, cs) ← readFixed 2 cs
  let ((), cs) ← readMark '-' cs
  let (day, cs) ← readFixed 2 cs
  if 1 ≤ month && month ≤ 12 && 1 ≤ day && day ≤ daysInMonth year month then some ((), cs)
  else none

/-- Reads hours and minutes. -/
def readClock : Reader Unit := fun cs ↦ do
  let (hour, cs) ← readFixed 2 cs
  let ((), cs) ← readMark ':' cs
  let (minute, cs) ← readFixed 2 cs
  if hour ≤ 23 && minute ≤ 59 then some ((), cs) else none

/-- Reads the fraction of a second, if there is one. -/
def readFraction : Reader Unit
  | '.' :: cs =>
    let digits := cs.takeWhile Char.isDigit
    if digits.isEmpty then none else some ((), cs.drop digits.length)
  | cs => some ((), cs)

/-- Reads a time of the day; its seconds may be missing, and may count to sixty. -/
def readTime : Reader Unit := fun cs ↦ do
  let ((), cs) ← readClock cs
  match cs with
  | ':' :: cs => do
    let (second, cs) ← readFixed 2 cs
    if second ≤ 60 then readFraction cs else none
  | cs => some ((), cs)

/-- Reads the offset of a time, if there is one. -/
def readOffset : Reader Unit
  | 'Z' :: cs | 'z' :: cs => some ((), cs)
  | '+' :: cs | '-' :: cs => readClock cs
  | cs => some ((), cs)

/-- Reads what may follow a date: a time, and then an offset. -/
def readAfterDate : Reader Unit
  | 'T' :: cs | 't' :: cs | ' ' :: cs => do
    let ((), cs) ← readTime cs
    readOffset cs
  | cs => some ((), cs)

/-- Whether a word is a date, a time, or both. -/
def isDateTime (cs : List Char) : Bool :=
  match readDate cs with
  | some ((), rest) => readAfterDate rest = some ((), [])
  | none => readTime cs = some ((), [])

/-! ## Words -/

/-- The scalar that a word denotes. -/
def classify? (cs : List Char) : Option Scalar :=
  if cs = "true".toList then some (.boolean true)
  else if cs = "false".toList then some (.boolean false)
  else
    match integer? cs with
    | some n => if fits n then some (.integer n) else none
    | none =>
      if isFloat cs then some (.float (String.ofList cs))
      else if isDateTime cs then some (.dateTime (String.ofList cs))
      else none

/-- Whether a character may stand in a word. -/
def isWordChar (c : Char) : Bool :=
  !(isBlank c || c = '\n' || c = '\r' || c = '#' || c = ',' || c = '=' || c = '[' || c = ']' ||
    c = '{' || c = '}' || c = '"' || c = '\'')

/-- The length of the word ahead. A date goes on after one blank if a digit follows. -/
def wordLength (cs : List Char) : Nat :=
  let first := cs.takeWhile isWordChar
  match readDate first, cs.drop first.length with
  | some ((), []), ' ' :: c :: rest =>
    if c.isDigit then first.length + 1 + ((c :: rest).takeWhile isWordChar).length
    else first.length
  | _, _ => first.length

/-- Reads a scalar. -/
def readScalar : Reader Scalar := fun cs ↦
  (classify? (cs.take (wordLength cs))).map fun s ↦ (s, cs.drop (wordLength cs))

end KernelMetadata.Toml
