import KernelMetadata.Annotation.Integer
import KernelMetadata.Proofs.Text.Numeral
import Mathlib.Data.List.Forall2
import Mathlib.Data.Nat.Digits.Lemmas

/-!
# How integers may be spelled

The reader of integer attributes looks at the beginning of a string for the radix and reads what
follows as a numeral. Its beginnings overlap, as a zero may be a prefix, a part of a prefix, a
leading digit or the whole number. What it accepts is said here as a grammar (`Annotation.Spells`)
in which no spelling is preferred to another, with the number that is spelled as the value of its
digits in their radix; and the reader accepts just what the grammar derives, if it fits in 32 bits
(`Annotation.integer_grammar`).

Digits are characters with a value (`Text.IsDigit`), and numerals are sequences of digits of any
positive length (`Text.IsNumeral`). Zeros in front of a numeral make it another numeral of the same
number, and so do capital letters, so that a number has infinitely many spellings.
-/

namespace KernelMetadata

namespace Text

variable {radix n d : Nat} {c : Char} {cs : List Char} {ds : List Nat}

/-! ## Digits -/

/-- Whether a character is the digit of a value in a radix of at most sixteen. The digits from ten
on are letters of either case. -/
def IsDigit (radix : Nat) (c : Char) (d : Nat) : Prop :=
  d < radix ∧ (c = Nat.digitChar d ∨ c = (Nat.digitChar d).toUpper)

theorem hexDigit?_toUpper_digitChar (h : d < 16) :
    hexDigit? (Nat.digitChar d).toUpper = some d := by
  have hall : ∀ d < 16, hexDigit? (Nat.digitChar d).toUpper = some d := by decide
  exact hall d h

/-- No digit comes after the letter f. -/
theorem toNat_lt_of_hexDigit? (h : hexDigit? c = some d) : c.toNat < 103 := by
  have hle : c ≤ 'f' := by
    rw [hexDigit?] at h
    split_ifs at h with hdecimal hlower hupper
    · exact Char.le_trans hdecimal.2 (by decide)
    · exact hlower.2
    · exact Char.le_trans hupper.2 (by decide)
  have hval : c.val.toNat ≤ 102 := UInt32.le_iff_toNat_le.1 hle
  exact Nat.lt_succ_of_le hval

theorem hexDigit?_eq_some_iff : hexDigit? c = some d ↔ IsDigit 16 c d := by
  constructor
  · intro h
    have hall : ∀ n < 103, ∀ d, hexDigit? (Char.ofNat n) = some d → d < 16 ∧
        (Char.ofNat n = Nat.digitChar d ∨ Char.ofNat n = (Nat.digitChar d).toUpper) := by decide
    have hc := hall c.toNat (toNat_lt_of_hexDigit? h) d
    rw [Char.ofNat_toNat] at hc
    exact hc h
  · rintro ⟨hd, rfl | rfl⟩
    · exact hexDigit?_digitChar hd
    · exact hexDigit?_toUpper_digitChar hd

theorem digit?_eq_some_iff (hradix : radix ≤ 16) : digit? radix c = some d ↔ IsDigit radix c d := by
  rw [digit?, Option.filter_eq_some_iff, hexDigit?_eq_some_iff, decide_eq_true_iff]
  constructor
  · rintro ⟨⟨-, hc⟩, hd⟩
    exact ⟨hd, hc⟩
  · rintro ⟨hd, hc⟩
    exact ⟨⟨by omega, hc⟩, hd⟩

theorem IsDigit.toUpper (hradix : radix ≤ 16) (h : IsDigit radix c d) :
    IsDigit radix c.toUpper d := by
  have hall : ∀ d < 16, (Nat.digitChar d).toUpper.toUpper = (Nat.digitChar d).toUpper := by decide
  obtain ⟨hd, rfl | rfl⟩ := h
  · exact ⟨hd, .inr rfl⟩
  · exact ⟨hd, .inr (hall d (by omega))⟩

/-! ## Numerals -/

/-- Whether characters are a numeral of a number, with the most significant digit first. -/
def IsNumeral (radix : Nat) (cs : List Char) (n : Nat) : Prop :=
  cs ≠ [] ∧ ∃ ds, List.Forall₂ (IsDigit radix) cs ds ∧ Nat.ofDigits radix ds.reverse = n

theorem positional_eq_ofDigits (radix : Nat) (ds : List Nat) :
    positional radix ds = Nat.ofDigits radix ds.reverse := by
  rw [positional, Nat.ofDigits_eq_foldr, List.foldr_reverse]
  refine congrArg (fun f ↦ ds.foldl f 0) ?_
  funext n d
  exact Nat.add_comm _ _

/-- **Reading a numeral** gives the number that it is a numeral of, and nothing else is read. -/
theorem readNumeral?_eq_some_iff_isNumeral (hradix : radix ≤ 16) :
    readNumeral? radix cs = some n ↔ IsNumeral radix cs n := by
  simp only [readNumeral?_eq_some_iff, IsNumeral, mapM_eq_some_iff_forall₂,
    digit?_eq_some_iff hradix, positional_eq_ofDigits]

theorem isNumeral_toDigits (hradix : radix ≤ 16) (hone : 1 < radix) (n : Nat) :
    IsNumeral radix (Nat.toDigits radix n) n :=
  (readNumeral?_eq_some_iff_isNumeral hradix).1 (readNumeral?_toDigits hradix hone n)

/-- A zero in front changes nothing. -/
theorem IsNumeral.cons_zero (hradix : 0 < radix) (h : IsNumeral radix cs n) :
    IsNumeral radix ('0' :: cs) n := by
  obtain ⟨-, ds, hds, hn⟩ := h
  refine ⟨List.cons_ne_nil _ _, 0 :: ds, .cons ⟨hradix, .inl rfl⟩ hds, ?_⟩
  rw [Nat.ofDigits_reverse_zero_cons, hn]

theorem IsNumeral.replicate_zero_append (hradix : 0 < radix) (h : IsNumeral radix cs n) (k : Nat) :
    IsNumeral radix (List.replicate k '0' ++ cs) n := by
  induction k with
  | zero => exact h
  | succ k ih => exact ih.cons_zero hradix

/-- Neither do capital letters. -/
theorem IsNumeral.map_toUpper (hradix : radix ≤ 16) (h : IsNumeral radix cs n) :
    IsNumeral radix (cs.map Char.toUpper) n := by
  obtain ⟨hne, ds, hds, hn⟩ := h
  refine ⟨fun hnil ↦ hne (List.map_eq_nil_iff.1 hnil), ds, ?_, hn⟩
  exact List.forall₂_map_left_iff.2 (hds.imp fun _ _ ↦ IsDigit.toUpper hradix)

/-- The usual numeral of a number other than zero does not begin with a zero. -/
theorem head?_toDigits_ne_zero (hradix : radix ≤ 16) (hone : 1 < radix) (hn : 0 < n) :
    (Nat.toDigits radix n).head? ≠ some '0' := by
  have hdigit : ∀ d < 16, 0 < d → Nat.digitChar d ≠ '0' := by decide
  induction n using Nat.strongRecOn with
  | ind n ih =>
    rcases Nat.lt_or_ge n radix with hlt | hge
    · rw [Nat.toDigits_of_lt_base hlt, List.head?_cons, ne_eq, Option.some_inj]
      exact hdigit n (by omega) hn
    · have hpos : 0 < n / radix := Nat.div_pos hge (by omega)
      have hhead := ih (n / radix) (Nat.div_lt_self hn hone) hpos
      rw [Nat.toDigits_of_base_le hone hge, List.head?_append_of_ne_nil _ Nat.toDigits_ne_nil]
      exact hhead

end Text

namespace Annotation

open Text

variable {n : Nat} {s : String} {cs : List Char}

/-! ## The grammar -/

/-- Which numbers characters spell. The prefixes of hexadecimal and binary numerals are of either
case, that of octal numerals is in lower case or just a zero, and a decimal numeral begins with a
zero only if it is zero. -/
inductive Spells : List Char → Nat → Prop where
  | hexadecimal {x : Char} {ds : List Char} {n : Nat} (hx : x = 'x' ∨ x = 'X')
      (h : IsNumeral 16 ds n) : Spells ('0' :: x :: ds) n
  | binary {b : Char} {ds : List Char} {n : Nat} (hb : b = 'b' ∨ b = 'B')
      (h : IsNumeral 2 ds n) : Spells ('0' :: b :: ds) n
  | octal {ds : List Char} {n : Nat} (h : IsNumeral 8 ds n) : Spells ('0' :: 'o' :: ds) n
  | leadingZero {ds : List Char} {n : Nat} (h : IsNumeral 8 ds n) : Spells ('0' :: ds) n
  | decimal {ds : List Char} {n : Nat} (h : IsNumeral 10 ds n)
      (hzero : ds = ['0'] ∨ ds.head? ≠ some '0') : Spells ds n

theorem splitRadix_fst_le (cs : List Char) : (splitRadix cs).1 ≤ 16 := by
  rw [splitRadix.eq_def]
  split <;> simp

/-- The letters that the second character of a prefix may be. -/
def prefixLetters : List Char := ['x', 'X', 'b', 'B', 'o']

theorem splitRadix_zero_cons {c : Char} (hc : c ∉ prefixLetters) (ds : List Char) :
    splitRadix ('0' :: c :: ds) = (8, c :: ds) := by
  simp only [prefixLetters, List.mem_cons, List.not_mem_nil, or_false, not_or] at hc
  rw [splitRadix.eq_def]
  split <;> simp_all

theorem splitRadix_of_head?_ne (h : cs.head? ≠ some '0') : splitRadix cs = (10, cs) := by
  rw [splitRadix.eq_def]
  split <;> simp_all

/-- The first digit of an octal numeral is no letter, so that a zero before it is no prefix. -/
theorem exists_cons_of_isNumeral_octal (h : IsNumeral 8 cs n) :
    ∃ c ds, cs = c :: ds ∧ c ∉ prefixLetters := by
  have hall : ∀ d < 8, Nat.digitChar d ∉ prefixLetters ∧
      (Nat.digitChar d).toUpper ∉ prefixLetters := by decide
  obtain ⟨hne, ds, hds, -⟩ := h
  cases hds with
  | nil => exact absurd rfl hne
  | cons hc _ =>
    obtain ⟨hd, rfl | rfl⟩ := hc
    · exact ⟨_, _, rfl, (hall _ hd).1⟩
    · exact ⟨_, _, rfl, (hall _ hd).2⟩

theorem spells_of_isNumeral_splitRadix :
    IsNumeral (splitRadix cs).1 (splitRadix cs).2 n → Spells cs n := by
  fun_cases splitRadix cs with
  | case1 ds => exact fun h ↦ .hexadecimal (.inl rfl) h
  | case2 ds => exact fun h ↦ .hexadecimal (.inr rfl) h
  | case3 ds => exact fun h ↦ .binary (.inl rfl) h
  | case4 ds => exact fun h ↦ .binary (.inr rfl) h
  | case5 ds => exact fun h ↦ .octal h
  | case6 d ds => exact fun h ↦ .leadingZero h
  | case7 _ _ _ _ _ _ hzero =>
    intro h
    refine .decimal h (or_iff_not_imp_right.2 fun hhead ↦ ?_)
    obtain ⟨ds, rfl⟩ := List.head?_eq_some_iff.1 (not_not.1 hhead)
    cases ds with
    | nil => rfl
    | cons d ds => exact (hzero d ds rfl).elim

theorem isNumeral_splitRadix_of_spells (h : Spells cs n) :
    IsNumeral (splitRadix cs).1 (splitRadix cs).2 n := by
  cases h with
  | hexadecimal hx h => rcases hx with rfl | rfl <;> exact h
  | binary hb h => rcases hb with rfl | rfl <;> exact h
  | octal h => exact h
  | leadingZero h =>
    obtain ⟨c, ds, rfl, hc⟩ := exists_cons_of_isNumeral_octal h
    rw [splitRadix_zero_cons hc]
    exact h
  | decimal h hzero =>
    rcases hzero with rfl | hhead
    · exact h
    · rw [splitRadix_of_head?_ne hhead]
      exact h

/-- **The grammar is what the reader follows.** -/
theorem integerValue?_eq_some_iff : integerValue? s = some n ↔ Spells s.toList n := by
  rw [integerValue?, readNumeral?_eq_some_iff_isNumeral (splitRadix_fst_le _)]
  exact ⟨spells_of_isNumeral_splitRadix, isNumeral_splitRadix_of_spells⟩

/-! ## The reader -/

theorem parseInteger_eq_ok_iff {w : UInt32} :
    parseInteger s = .ok w ↔ Spells s.toList w.toNat := by
  rw [← integerValue?_eq_some_iff, parseInteger]
  cases integerValue? s with
  | none => simp
  | some n =>
    by_cases hn : n < UInt32.size
    · simp only [if_pos hn, Except.ok.injEq, Option.some_inj]
      constructor
      · rintro rfl
        exact (UInt32.toNat_ofNat_of_lt' hn).symm
      · rintro rfl
        exact UInt32.ofNat_toNat
    · simp only [if_neg hn, reduceCtorEq, Option.some_inj, false_iff]
      rintro rfl
      exact hn w.toNat_lt_size

theorem parseInteger_eq_error_iff {e : DecodeError} : parseInteger s = .error e ↔
    e = .invalidInteger s ∧ ∀ n, Spells s.toList n → 2 ^ 32 ≤ n := by
  constructor
  · intro h
    refine ⟨parseInteger_eq_error h, fun n hn ↦ ?_⟩
    by_contra hlt
    have hsize : n < UInt32.size := Nat.lt_of_not_le hlt
    have hok : parseInteger s = .ok (UInt32.ofNat n) := by
      rw [parseInteger_eq_ok_iff, UInt32.toNat_ofNat_of_lt' hsize]
      exact hn
    rw [h] at hok
    cases hok
  · rintro ⟨rfl, hlarge⟩
    cases h : parseInteger s with
    | error e => rw [parseInteger_eq_error h]
    | ok w => exact absurd w.toNat_lt_size (hlarge _ (parseInteger_eq_ok_iff.1 h)).not_gt

/-- The numeral of a word in some radix, with zeros in front of it. -/
def paddedNumeral (zeros radix : Nat) (w : UInt32) : List Char :=
  List.replicate zeros '0' ++ Nat.toDigits radix w.toNat

theorem isNumeral_paddedNumeral {radix : Nat} (hradix : radix ≤ 16) (hone : 1 < radix)
    (zeros : Nat) (w : UInt32) : IsNumeral radix (paddedNumeral zeros radix w) w.toNat :=
  (isNumeral_toDigits hradix hone _).replicate_zero_append (by omega) zeros

/-- What stands behind a prefix is read if the two together spell a word. -/
theorem parseInteger_append {p : String} {w : UInt32} (h : Spells (p.toList ++ cs) w.toNat) :
    parseInteger (p ++ String.ofList cs) = .ok w := by
  rw [parseInteger_eq_ok_iff, String.toList_append, String.toList_ofList]
  exact h

theorem spells_decimal (n : Nat) : Spells (Text.decimal n).toList n := by
  rw [toList_decimal]
  refine .decimal (isNumeral_toDigits (by omega) (by omega) n) ?_
  rcases Nat.eq_zero_or_pos n with rfl | hn
  · exact .inl rfl
  · exact .inr (head?_toDigits_ne_zero (by omega) (by omega) hn)

/-- **Integers are read by their grammar.** A word is read exactly from the strings that spell it,
and every other string is refused with itself in the error: those that spell nothing, and those that
spell a number of more than 32 bits. So every word is read back from its decimal, hexadecimal,
binary and octal numerals, behind any of their prefixes, with any number of zeros in front and with
letters of either case. -/
theorem integer_grammar :
    (∀ s w, parseInteger s = .ok w ↔ ∃ n, Spells s.toList n ∧ n < 2 ^ 32 ∧ w = n.toUInt32) ∧
      (∀ s e, parseInteger s = .error e ↔
        e = .invalidInteger s ∧ ∀ n, Spells s.toList n → 2 ^ 32 ≤ n) ∧
      ∀ (w : UInt32) (zeros : Nat),
        parseInteger (Text.decimal w.toNat) = .ok w ∧
        (∀ p ∈ ["0x", "0X"],
          parseInteger (p ++ String.ofList (paddedNumeral zeros 16 w)) = .ok w ∧
          parseInteger (p ++ String.ofList ((paddedNumeral zeros 16 w).map Char.toUpper)) = .ok w) ∧
        (∀ p ∈ ["0b", "0B"],
          parseInteger (p ++ String.ofList (paddedNumeral zeros 2 w)) = .ok w) ∧
        ∀ p ∈ ["0o", "0"],
          parseInteger (p ++ String.ofList (paddedNumeral zeros 8 w)) = .ok w := by
  refine ⟨fun s w ↦ ?accepted, fun s e ↦ parseInteger_eq_error_iff, fun w zeros ↦
    ⟨parseInteger_eq_ok_iff.2 (spells_decimal _), ?hexadecimal, ?binary, ?octal⟩⟩
  case accepted =>
    rw [parseInteger_eq_ok_iff]
    constructor
    · intro h
      exact ⟨w.toNat, h, w.toNat_lt_size, UInt32.ofNat_toNat.symm⟩
    · rintro ⟨n, hn, hsize, rfl⟩
      have hword : n.toUInt32.toNat = n := UInt32.toNat_ofNat_of_lt' hsize
      rw [hword]
      exact hn
  case hexadecimal =>
    have hnumeral : IsNumeral 16 (paddedNumeral zeros 16 w) w.toNat :=
      isNumeral_paddedNumeral (by omega) (by omega) zeros w
    have hupper := hnumeral.map_toUpper (by omega)
    simp only [List.forall_mem_cons, List.not_mem_nil, false_imp_iff, implies_true, and_true]
    exact ⟨⟨parseInteger_append (.hexadecimal (.inl rfl) hnumeral),
        parseInteger_append (.hexadecimal (.inl rfl) hupper)⟩,
      parseInteger_append (.hexadecimal (.inr rfl) hnumeral),
      parseInteger_append (.hexadecimal (.inr rfl) hupper)⟩
  case binary =>
    have hnumeral : IsNumeral 2 (paddedNumeral zeros 2 w) w.toNat :=
      isNumeral_paddedNumeral (by omega) (by omega) zeros w
    simp only [List.forall_mem_cons, List.not_mem_nil, false_imp_iff, implies_true, and_true]
    exact ⟨parseInteger_append (.binary (.inl rfl) hnumeral),
      parseInteger_append (.binary (.inr rfl) hnumeral)⟩
  case octal =>
    have hnumeral : IsNumeral 8 (paddedNumeral zeros 8 w) w.toNat :=
      isNumeral_paddedNumeral (by omega) (by omega) zeros w
    simp only [List.forall_mem_cons, List.not_mem_nil, false_imp_iff, implies_true, and_true]
    exact ⟨parseInteger_append (.octal hnumeral), parseInteger_append (.leadingZero hnumeral)⟩

/-- Capital and small letters may be mixed, and a prefix that is none leaves nothing to read. -/
theorem integer_grammar_mixedCase :
    (∃ n, Spells "0X00fF".toList n ∧ n < 2 ^ 32 ∧ (255 : UInt32) = n.toUInt32) ∧
      (∀ n, Spells "0O17".toList n → 2 ^ 32 ≤ n) ∧
      "0X" ∈ ["0x", "0X"] ∧
      parseInteger ("0X" ++ String.ofList ((paddedNumeral 2 16 255).map Char.toUpper)) = .ok 255 ∧
      (paddedNumeral 2 16 255).map Char.toUpper = "00FF".toList := by
  obtain ⟨haccepted, hrefused, hread⟩ := integer_grammar
  have hmixed : parseInteger "0X00fF" = .ok 255 := by decide
  have hletter : parseInteger "0O17" = .error (.invalidInteger "0O17") := by decide
  have hmem : "0X" ∈ ["0x", "0X"] := by decide
  exact ⟨(haccepted _ _).1 hmixed, ((hrefused _ _).1 hletter).2, hmem,
    ((hread 255 2).2.1 _ hmem).2, by decide⟩

example : parseInteger "4294967296" = .error (.invalidInteger "4294967296") := by decide

end Annotation

end KernelMetadata
