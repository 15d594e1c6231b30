import KernelMetadata.FunctionId
import Mathlib.Data.List.Forall2
import Mathlib.Data.Nat.Digits.Defs
import Mathlib.Tactic.NormNum.Basic

/-!
# Numerals can be read back

Reading undoes writing, for numerals without leading zeros (`Text.readNumeral?_toDigits`) and for
those of a fixed width (`Text.readNumeral?_paddedDigits`), in every radix up to sixteen. Therefore
different numbers have different numerals, and different identities are written differently
(`FunctionId.hyphenated_injective`). The reader of identities accepts other spellings too, and takes
the hyphenated form for none of those (`FunctionId.parse?_hyphenated`).

Both ways of writing put the last digit behind the numeral of the quotient, and reading goes from
left to right: each induction is on the quotient and looks at the end of the numeral.
-/

namespace KernelMetadata

/-- What is read item by item is related to it item by item. -/
theorem mapM_eq_some_iff_forall₂ {α β : Type} {f : α → Option β} {xs : List α} {ys : List β} :
    xs.mapM f = some ys ↔ List.Forall₂ (fun x y ↦ f x = some y) xs ys := by
  induction xs generalizing ys with
  | nil => simp [eq_comm]
  | cons x xs ih =>
    simp only [List.mapM_cons, Option.bind_eq_bind, Option.bind_eq_some_iff, ih,
      List.forall₂_cons_left_iff]
    constructor
    · rintro ⟨y, hy, ys, hys, h⟩
      exact ⟨y, ys, hy, hys, (Option.some_inj.1 h).symm⟩
    · rintro ⟨y, ys, hy, hys, rfl⟩
      exact ⟨y, hy, ys, hys, rfl⟩

namespace Text

variable {radix n d width : Nat} {cs : List Char} {ds : List Nat}

/-! ## Digits -/

theorem hexDigit?_digitChar (h : d < 16) : hexDigit? (Nat.digitChar d) = some d := by
  have hall : ∀ d < 16, hexDigit? (Nat.digitChar d) = some d := by decide
  exact hall d h

theorem digit?_digitChar (hradix : radix ≤ 16) (h : d < radix) :
    digit? radix (Nat.digitChar d) = some d := by
  rw [digit?, hexDigit?_digitChar (by omega), Option.filter_some, if_pos (decide_eq_true h)]

/-! ## Numerals -/

/-- Whether characters are digits that denote a number. -/
def Denotes (radix : Nat) (cs : List Char) (n : Nat) : Prop :=
  ∃ ds, cs.mapM (digit? radix) = some ds ∧ positional radix ds = n

theorem readNumeral?_of_denotes (hne : cs ≠ []) (h : Denotes radix cs n) :
    readNumeral? radix cs = some n :=
  readNumeral?_eq_some_iff.2 ⟨hne, h⟩

theorem denotes_nil (radix : Nat) : Denotes radix [] 0 := ⟨[], rfl, rfl⟩

/-- A digit more makes a numeral of the quotient one of the number. -/
theorem Denotes.append_digitChar (hradix : radix ≤ 16) (hpos : 0 < radix)
    (h : Denotes radix cs (n / radix)) :
    Denotes radix (cs ++ [Nat.digitChar (n % radix)]) n := by
  obtain ⟨ds, hds, hn⟩ := h
  have hdigit : digit? radix (Nat.digitChar (n % radix)) = some (n % radix) :=
    digit?_digitChar hradix (Nat.mod_lt n hpos)
  refine ⟨ds ++ [n % radix], ?_, ?_⟩
  · rw [List.mapM_append, hds, List.mapM_cons, hdigit]
    rfl
  · rw [positional, List.foldl_append, List.foldl_cons, List.foldl_nil, ← positional, hn]
    exact Nat.div_add_mod n radix

theorem denotes_toDigits (hradix : radix ≤ 16) (hone : 1 < radix) (n : Nat) :
    Denotes radix (Nat.toDigits radix n) n := by
  induction n using Nat.strongRecOn with
  | ind n ih =>
    rcases Nat.lt_or_ge n radix with hlt | hge
    · have hnil : Denotes radix [] (n / radix) := by
        rw [Nat.div_eq_of_lt hlt]
        exact denotes_nil radix
      have hdigit := hnil.append_digitChar hradix (by omega)
      rwa [Nat.mod_eq_of_lt hlt, List.nil_append, ← Nat.toDigits_of_lt_base hlt] at hdigit
    · rw [Nat.toDigits_of_base_le hone hge]
      exact (ih (n / radix) (Nat.div_lt_self (by omega) hone)).append_digitChar hradix (by omega)

theorem denotes_paddedDigits (hradix : radix ≤ 16) (hpos : 0 < radix) (h : n < radix ^ width) :
    Denotes radix (paddedDigits radix n width) n := by
  induction width generalizing n with
  | zero =>
    obtain rfl : n = 0 := by simpa using h
    exact denotes_nil radix
  | succ width ih =>
    have hquotient : n / radix < radix ^ width := by
      rw [Nat.div_lt_iff_lt_mul hpos]
      rwa [Nat.pow_succ] at h
    rw [paddedDigits]
    exact (ih hquotient).append_digitChar hradix hpos

/-- **Reading a numeral** gives the number that it was written for. -/
theorem readNumeral?_toDigits (hradix : radix ≤ 16) (hone : 1 < radix) (n : Nat) :
    readNumeral? radix (Nat.toDigits radix n) = some n :=
  readNumeral?_of_denotes Nat.toDigits_ne_nil (denotes_toDigits hradix hone n)

theorem readNumeral?_paddedDigits (hradix : radix ≤ 16) (hpos : 0 < radix) (hwidth : 0 < width)
    (h : n < radix ^ width) : readNumeral? radix (paddedDigits radix n width) = some n := by
  refine readNumeral?_of_denotes (fun hnil ↦ ?_) (denotes_paddedDigits hradix hpos h)
  have hlength := length_paddedDigits radix n width
  rw [hnil, List.length_nil] at hlength
  omega

theorem toDigits_injective (hradix : radix ≤ 16) (hone : 1 < radix) :
    Function.Injective (Nat.toDigits radix) := by
  intro m n h
  have hread := readNumeral?_toDigits hradix hone m
  rw [h, readNumeral?_toDigits hradix hone, Option.some_inj] at hread
  exact hread.symm

theorem decimal_injective : Function.Injective decimal := by
  intro m n h
  rw [decimal, decimal, String.ofList_inj] at h
  exact toDigits_injective (by omega) (by omega) h

/-! ## The characters of numerals -/

theorem isAlphanum_of_digit? {c : Char} (h : digit? radix c = some d) : c.isAlphanum = true := by
  rw [digit?, Option.filter_eq_some_iff] at h
  have hdigit := h.1
  rw [hexDigit?] at hdigit
  delta Char.isAlphanum Char.isAlpha Char.isUpper Char.isLower Char.isDigit
  simp only [Bool.or_eq_true, Bool.and_eq_true, decide_eq_true_eq]
  split_ifs at hdigit with hdecimal hlower hupper
  · exact .inr hdecimal
  · exact .inl (.inr ⟨hlower.1, Char.le_trans hlower.2 (by decide)⟩)
  · exact .inl (.inl ⟨hupper.1, Char.le_trans hupper.2 (by decide)⟩)

theorem Denotes.isAlphanum (h : Denotes radix cs n) : ∀ c ∈ cs, c.isAlphanum = true := by
  obtain ⟨ds, hds, -⟩ := h
  rw [mapM_eq_some_iff_forall₂] at hds
  induction hds with
  | nil => exact List.forall_mem_nil _
  | cons hd _ ih => exact List.forall_mem_cons.2 ⟨isAlphanum_of_digit? hd, ih⟩

theorem toList_decimal (n : Nat) : (decimal n).toList = Nat.toDigits 10 n := String.toList_ofList

theorem isDigit_of_mem_decimal {c : Char} (h : c ∈ (decimal n).toList) : c.isDigit = true := by
  rw [toList_decimal] at h
  exact Nat.isDigit_of_mem_toDigits (by omega) (by omega) h

end Text

/-! ## Identities -/

namespace FunctionId

/-- Hyphens stand between groups of 8, 4, 4 and 4 digits and the rest. -/
theorem hyphenate_append {a b c d : List Char} (ha : a.length = 8) (hb : b.length = 4)
    (hc : c.length = 4) (hd : d.length = 4) (e : List Char) :
    hyphenate (a ++ (b ++ (c ++ (d ++ e)))) =
      a ++ '-' :: (b ++ '-' :: (c ++ '-' :: (d ++ '-' :: e))) := by
  simp [hyphenate, List.drop_append, List.drop_of_length_le, ha, hb, hc, hd]

/-- The hyphens of a hyphenated form can be taken out again. -/
theorem ofHyphenated?_hyphenate {ds : List Char} (h : ds.length = 32) :
    ofHyphenated? (hyphenate ds) = ofDigits? ds := by
  have hsplit : ∀ (n : Nat) (cs : List Char), n ≤ cs.length → ∃ a r, cs = a ++ r ∧ a.length = n :=
    fun n cs h ↦ ⟨cs.take n, cs.drop n, (List.take_append_drop n cs).symm, List.length_take_of_le h⟩
  obtain ⟨a, ds, rfl, ha⟩ := hsplit 8 ds (by omega)
  rw [List.length_append, ha] at h
  obtain ⟨b, ds, rfl, hb⟩ := hsplit 4 ds (by omega)
  rw [List.length_append, hb] at h
  obtain ⟨c, ds, rfl, hc⟩ := hsplit 4 ds (by omega)
  rw [List.length_append, hc] at h
  obtain ⟨d, e, rfl, hd⟩ := hsplit 4 ds (by omega)
  have hwithout : ∀ cs, cs = hyphenate (a ++ (b ++ (c ++ (d ++ e)))) →
      cs.take 8 ++ (cs.drop 9).take 4 ++ (cs.drop 14).take 4 ++ (cs.drop 19).take 4 ++ cs.drop 24 =
        a ++ (b ++ (c ++ (d ++ e))) := by
    rintro cs rfl
    rw [hyphenate_append ha hb hc hd]
    simp [List.drop_append, List.drop_of_length_le, ha, hb, hc, hd]
  rw [ofHyphenated?, hwithout _ rfl, if_pos rfl]

theorem toNat_bits_lt (f : FunctionId) : f.bits.toNat < 16 ^ 32 := f.bits.isLt

theorem ofDigits?_digits (f : FunctionId) : ofDigits? f.digits = some f := by
  rw [ofDigits?, if_pos f.length_digits, digits,
    Text.readNumeral?_paddedDigits (by omega) (by omega) (by omega) f.toNat_bits_lt,
    Option.map_some, BitVec.ofNat_toNat, BitVec.setWidth_eq]

/-- **Reading an identity** gives the identity that was written. -/
theorem ofHyphenated?_toList_hyphenated (f : FunctionId) :
    ofHyphenated? f.hyphenated.toList = some f := by
  rw [hyphenated, String.toList_ofList, ofHyphenated?_hyphenate f.length_digits, ofDigits?_digits]

theorem hyphenated_injective : Function.Injective hyphenated := by
  intro f g h
  have hread := f.ofHyphenated?_toList_hyphenated
  rw [h, ofHyphenated?_toList_hyphenated, Option.some_inj] at hread
  exact hread.symm

theorem hyphen_mem_hyphenated (f : FunctionId) : '-' ∈ f.hyphenated.toList := by
  rw [hyphenated, String.toList_ofList, hyphenate]
  simp

theorem mem_of_mem_hyphenate {ds : List Char} {c : Char} (h : c ∈ hyphenate ds) :
    c ∈ ds ∨ c = '-' := by
  simp only [hyphenate, List.mem_append, List.mem_cons] at h
  rcases h with h | rfl | h | rfl | h | rfl | h | rfl | h
  · exact .inl (List.mem_of_mem_take h)
  · exact .inr rfl
  · exact .inl (List.mem_of_mem_drop (List.mem_of_mem_take h))
  · exact .inr rfl
  · exact .inl (List.mem_of_mem_drop (List.mem_of_mem_take h))
  · exact .inr rfl
  · exact .inl (List.mem_of_mem_drop (List.mem_of_mem_take h))
  · exact .inr rfl
  · exact .inl (List.mem_of_mem_drop h)

theorem isAlphanum_or_hyphen_of_mem {f : FunctionId} {c : Char} (h : c ∈ f.hyphenated.toList) :
    c.isAlphanum = true ∨ c = '-' := by
  rw [hyphenated, String.toList_ofList] at h
  refine (mem_of_mem_hyphenate h).imp_left fun hc ↦ ?_
  exact (Text.denotes_paddedDigits (by omega) (by omega) f.toNat_bits_lt).isAlphanum c hc

theorem length_hyphenated (f : FunctionId) : f.hyphenated.toList.length = 36 := by
  rw [hyphenated, String.toList_ofList, hyphenate]
  simp [f.length_digits]

/-- The hyphenated form is told from the other spellings by its characters and by its length. -/
theorem parse?_hyphenated (f : FunctionId) : parse? f.hyphenated = some f := by
  have hnotMem : ∀ c : Char, (c.isAlphanum || c == '-') = false → c ∉ f.hyphenated.toList := by
    intro c hc hmem
    rcases isAlphanum_or_hyphen_of_mem hmem with hclass | rfl
    · rw [hclass] at hc
      cases hc
    · cases hc
  have hbraces : betweenBraces? f.hyphenated.toList = none := by
    rw [betweenBraces?.eq_def]
    split
    · next rest hcs => exact absurd (hcs ▸ List.mem_cons_self) (hnotMem '{' rfl)
    · rfl
  have hcolon : ∀ word : String, ':' ∈ word.toList → f.hyphenated.toList.take 9 ≠ word.toList := by
    intro word hmem htake
    rw [← htake] at hmem
    exact hnotMem ':' rfl (List.mem_of_mem_take hmem)
  have hurn : afterUrn? f.hyphenated.toList = none := by
    rw [afterUrn?, if_neg (not_or.2 ⟨hcolon _ (by decide), hcolon _ (by decide)⟩)]
  have hdigits : ofDigits? f.hyphenated.toList = none := by
    rw [ofDigits?, f.length_hyphenated]
    rfl
  simp only [parse?, hbraces, hurn, hdigits, Option.none_or, ofHyphenated?_toList_hyphenated]

end FunctionId

end KernelMetadata
