import KernelMetadata.Proofs.Text.Numeral
import KernelMetadata.Text.Quoted
import Mathlib.Data.List.TakeWhile
import Mathlib.Data.List.Forall2

/-!
# What the beginning of a text tells

Two values are written at the beginning of one text. What does this tell about them, if nothing is
known of how the text goes on but that it does so in an allowed way? `Tells next x y P` says that it
tells `P`, and that what comes after is the same in both readings. So it can be asked next what the
rest of the text tells, and this is how written forms are put together: one after the other
(`Tells.append`), in sequence (`tells_flatMap`), or between brackets and with commas
(`tells_listed`).

What is allowed to follow is what makes a form end where it ends. A word ends where a character
follows that words are not made of (`tells_word`); items of a sequence are told from what follows by
the way they begin; and quoted text needs nothing, since the closing quotation mark is not the
beginning of any character's written form (`tells_quote`).
-/

namespace KernelMetadata.Text

variable {next next' : List Char → Prop} {x x' y y' : List Char} {P Q : Prop}

/-- Whether two forms at the beginning of one text tell `P`, if both are continued as `next`
allows. -/
def Tells (next : List Char → Prop) (x y : List Char) (P : Prop) : Prop :=
  ∀ ⦃s t⦄, next s → next t → x ++ s = y ++ t → P ∧ s = t

namespace Tells

theorem imp (h : Tells next x y P) (hPQ : P → Q) : Tells next x y Q :=
  fun _ _ hs ht heq ↦ (h hs ht heq).imp_left hPQ

/-- Where less may follow, no less is told. -/
theorem of_next (h : Tells next x y P) (hnext : ∀ s, next' s → next s) : Tells next' x y P :=
  fun _ _ hs ht heq ↦ h (hnext _ hs) (hnext _ ht) heq

protected theorem symm (h : Tells next x y P) : Tells next y x P :=
  fun _ _ hs ht heq ↦ (h ht hs heq.symm).imp_right Eq.symm

protected theorem rfl : Tells next x x True :=
  fun _ _ _ _ heq ↦ ⟨trivial, List.append_cancel_left heq⟩

/-- One form after another. What the second one tells may depend on what the first one has told. -/
theorem append (h : Tells next x y P) (h' : P → Tells next' x' y' Q)
    (hx : ∀ s, next' s → next (x' ++ s)) (hy : ∀ s, next' s → next (y' ++ s)) :
    Tells next' (x ++ x') (y ++ y') (P ∧ Q) := by
  intro s t hs ht heq
  rw [List.append_assoc, List.append_assoc] at heq
  obtain ⟨hP, hrest⟩ := h (hx s hs) (hy t ht) heq
  obtain ⟨hQ, hst⟩ := h' hP hs ht hrest
  exact ⟨⟨hP, hQ⟩, hst⟩

/-- The same characters before both forms tell nothing more. -/
theorem append_left (l : List Char) (h : Tells next x y P) : Tells next (l ++ x) (l ++ y) P := by
  intro s t hs ht heq
  rw [List.append_assoc, List.append_assoc] at heq
  exact h hs ht (List.append_cancel_left heq)

/-- The same characters after both forms tell nothing more. -/
theorem append_right (l : List Char) (h : Tells next x y P) (hnext : ∀ s, next (l ++ s)) :
    Tells next' (x ++ l) (y ++ l) P :=
  (h.append (fun _ ↦ Tells.rfl) (fun s _ ↦ hnext s) fun s _ ↦ hnext s).imp And.left

/-- Equal forms tell what they tell, if anything may follow them at all. -/
theorem of_eq (h : Tells next x y P) (s : List Char) (hs : next s) (heq : x = y) : P :=
  (h hs hs (by rw [heq])).1

/-- Nothing is told from what may not follow. -/
theorem of_nil (h : ∀ s, ¬ next (y ++ s)) : Tells next [] y P := by
  intro s t hs _ heq
  rw [List.nil_append] at heq
  rw [heq] at hs
  exact absurd hs (h t)

end Tells

/-! ## Beginnings -/

/-- Whether a form begins with a character of a class, and so is not empty. -/
def Begins (p : Char → Bool) (x : List Char) : Prop := ∃ c, x.head? = some c ∧ p c = true

section Begins

variable {p : Char → Bool} {c d : Char}

theorem begins_cons (h : p c = true) : Begins p (c :: x) := ⟨c, rfl, h⟩

theorem Begins.append (h : Begins p x) (s : List Char) : Begins p (x ++ s) := by
  obtain ⟨c, hc, hp⟩ := h
  exact ⟨c, by rw [List.head?_append, hc, Option.some_or], hp⟩

theorem Begins.imp {q : Char → Bool} (h : Begins p x) (hpq : ∀ c, p c = true → q c = true) :
    Begins q x := by
  obtain ⟨c, hc, hp⟩ := h
  exact ⟨c, hc, hpq c hp⟩

theorem Begins.head?_ne (h : Begins p x) (hd : p d = false) : x.head? ≠ some d := by
  obtain ⟨c, hc, hp⟩ := h
  rw [hc, ne_eq, Option.some_inj]
  rintro rfl
  rw [hp] at hd
  cases hd

/-- Forms that begin differently do not begin one text. -/
theorem Begins.tells (hx : Begins p x) (hy : y.head? = some d) (hd : p d = false) :
    Tells next x y P := by
  intro s t _ _ heq
  have hhead : (x ++ s).head? = some d := by
    rw [heq, List.head?_append, hy, Option.some_or]
  exact absurd hhead ((hx.append s).head?_ne hd)

theorem tells_of_head_ne (hx : x.head? = some c) (hy : y.head? = some d) (hne : c ≠ d) :
    Tells next x y P := by
  have hbegins : Begins (· == c) x := ⟨c, hx, beq_self_eq_true c⟩
  exact hbegins.tells hy (beq_eq_false_iff_ne.2 hne.symm)

end Begins

/-! ## Words -/

/-- Whether a text does not begin with a character of a class. -/
def BeginsOutside (p : Char → Bool) (s : List Char) : Prop := ∀ c ∈ s.head?, p c = false

theorem beginsOutside_cons {p : Char → Bool} {c : Char} {s : List Char} (h : p c = false) :
    BeginsOutside p (c :: s) := by
  rintro _ ⟨rfl⟩
  exact h

theorem takeWhile_append_of_beginsOutside {p : Char → Bool} {s : List Char}
    (hx : ∀ c ∈ x, p c = true) (hs : BeginsOutside p s) : (x ++ s).takeWhile p = x := by
  rw [List.takeWhile_append_of_pos hx]
  cases s with
  | nil => rw [List.takeWhile_nil, List.append_nil]
  | cons c s =>
    have hc : p c = false := hs c rfl
    rw [List.takeWhile_cons_of_neg (by simp [hc]), List.append_nil]

/-- Two words that begin one text are the same. -/
theorem tells_word {p : Char → Bool} (hx : ∀ c ∈ x, p c = true) (hy : ∀ c ∈ y, p c = true) :
    Tells (BeginsOutside p) x y (x = y) := by
  intro s t hs ht heq
  have hword : x = y := by
    rw [← takeWhile_append_of_beginsOutside hx hs, heq, takeWhile_append_of_beginsOutside hy ht]
  subst hword
  exact ⟨rfl, List.append_cancel_left heq⟩

/-- Numerals, where no letter follows. -/
theorem tells_toDigits {radix : Nat} (hradix : radix ≤ 16) (hone : 1 < radix) (m n : Nat) :
    Tells (BeginsOutside Char.isAlphanum) (Nat.toDigits radix m) (Nat.toDigits radix n) (m = n) :=
  (tells_word (denotes_toDigits hradix hone m).isAlphanum
    (denotes_toDigits hradix hone n).isAlphanum).imp fun h ↦ toDigits_injective hradix hone h

theorem tells_decimal (m n : Nat) :
    Tells (BeginsOutside Char.isAlphanum) (decimal m).toList (decimal n).toList (m = n) := by
  rw [toList_decimal, toList_decimal]
  exact tells_toDigits (by omega) (by omega) m n

/-! ## Sequences -/

section Sequences

variable {α β : Type} {u : α → List Char} {w : β → List Char} {R : α → β → Prop} {xs : List α}
  {ys : List β}

/-- What follows an item of a sequence is another item or what follows the sequence. -/
theorem item_or_next_flatMap {item : List Char → Prop} {s : List Char}
    (hu : ∀ a ∈ xs, ∀ s, item (u a ++ s)) (hs : next s) :
    item (xs.flatMap u ++ s) ∨ next (xs.flatMap u ++ s) := by
  cases xs with
  | nil => exact .inr hs
  | cons a xs =>
    rw [List.flatMap_cons, List.append_assoc]
    exact .inl (hu a List.mem_cons_self _)

theorem tells_nil_flatMap_cons {item : List Char → Prop} {a : α} (hnext : ∀ s, next s → ¬ item s)
    (hu : ∀ s, item (u a ++ s)) : Tells next [] ((a :: xs).flatMap u) P := by
  refine Tells.of_nil fun s hs ↦ hnext _ hs ?_
  rw [List.flatMap_cons, List.append_assoc]
  exact hu _

/-- **Sequences.** If items can be told from what follows by the way they begin, two sequences of
items tell item by item what the items tell. -/
theorem tells_flatMap {item : List Char → Prop} (hnext : ∀ s, next s → ¬ item s)
    (hu : ∀ a ∈ xs, ∀ s, item (u a ++ s)) (hw : ∀ b ∈ ys, ∀ s, item (w b ++ s))
    (h : ∀ a ∈ xs, ∀ b ∈ ys, Tells (fun s ↦ item s ∨ next s) (u a) (w b) (R a b)) :
    Tells next (xs.flatMap u) (ys.flatMap w) (List.Forall₂ R xs ys) := by
  -- where one sequence ends the other does, since no item begins as what follows
  induction xs generalizing ys with
  | nil =>
    cases ys with
    | nil => exact Tells.rfl.imp fun _ ↦ .nil
    | cons b ys => exact tells_nil_flatMap_cons hnext (hw b List.mem_cons_self)
  | cons a xs ih =>
    cases ys with
    | nil => exact (tells_nil_flatMap_cons hnext (hu a List.mem_cons_self)).symm
    | cons b ys =>
      rw [List.forall_mem_cons] at hu hw
      have hhead := h a List.mem_cons_self b List.mem_cons_self
      have htail := ih hu.2 hw.2 fun a ha b hb ↦
        h a (List.mem_cons_of_mem _ ha) b (List.mem_cons_of_mem _ hb)
      rw [List.flatMap_cons, List.flatMap_cons]
      exact (hhead.append (fun _ ↦ htail) (fun _ ↦ item_or_next_flatMap hu.2)
        fun _ ↦ item_or_next_flatMap hw.2).imp fun hboth ↦ .cons hboth.1 hboth.2

/-- Items with separators between them are the first one, and then the others with a separator
before each. -/
theorem intercalate_map_cons (sep : List Char) (u : α → List Char) (a : α) (xs : List α) :
    sep.intercalate ((a :: xs).map u) = u a ++ xs.flatMap fun a ↦ sep ++ u a := by
  induction xs generalizing a with
  | nil => simp
  | cons b xs ih =>
    rw [List.map_cons, List.map_cons, List.intercalate_cons_cons, ← List.map_cons, ih,
      List.flatMap_cons, List.append_assoc, List.append_assoc]

theorem begins_intercalate {p : Char → Bool} {a : α} (hu : Begins p (u a)) (sep s : List Char) :
    Begins p (sep.intercalate ((a :: xs).map u) ++ s) := by
  rw [intercalate_map_cons, List.append_assoc]
  exact hu.append _

/-- **Lists between brackets.** Items with commas between them are told item by item, if neither a
comma nor an item begins as the closing bracket does. -/
theorem tells_listed {p : Char → Bool} {c : Char} {close : List Char} (hcomma : c ≠ ',')
    (hc : p c = false) (hu : ∀ a ∈ xs, Begins p (u a)) (hw : ∀ b ∈ ys, Begins p (w b))
    (h : ∀ a ∈ xs, ∀ b ∈ ys,
      Tells (fun s ↦ ", ".toList <+: s ∨ c :: close <+: s) (u a) (w b) (R a b)) :
    Tells next (", ".toList.intercalate (xs.map u) ++ c :: close)
      (", ".toList.intercalate (ys.map w) ++ c :: close) (List.Forall₂ R xs ys) := by
  cases xs with
  | nil =>
    cases ys with
    | nil => exact Tells.rfl.imp fun _ ↦ .nil
    | cons b ys =>
      exact ((begins_intercalate (hw b List.mem_cons_self) _ _).tells rfl hc).symm
  | cons a xs =>
    cases ys with
    | nil => exact (begins_intercalate (hu a List.mem_cons_self) _ _).tells rfl hc
    | cons b ys =>
      have hclose : ∀ s, c :: close <+: s → ¬ ", ".toList <+: s := by
        rintro s ⟨r, rfl⟩ hsep
        exact hcomma (List.cons_prefix_cons.1 hsep).1.symm
      have hsep : ∀ l s : List Char, ", ".toList <+: (", ".toList ++ l) ++ s := by
        intro l s
        rw [List.append_assoc]
        exact List.prefix_append _ _
      have hhead := h a List.mem_cons_self b List.mem_cons_self
      -- the other items, with the commas before them, are a sequence
      have htail : Tells (c :: close <+: ·) (xs.flatMap fun a ↦ ", ".toList ++ u a)
          (ys.flatMap fun b ↦ ", ".toList ++ w b) (List.Forall₂ R xs ys) :=
        tells_flatMap hclose (fun _ _ s ↦ hsep _ s) (fun _ _ s ↦ hsep _ s) fun a ha b hb ↦
          (h a (List.mem_cons_of_mem _ ha) b (List.mem_cons_of_mem _ hb)).append_left _
      have hall := hhead.append (fun _ ↦ htail)
        (fun _ ↦ item_or_next_flatMap fun _ _ s ↦ hsep _ s)
        fun _ ↦ item_or_next_flatMap fun _ _ s ↦ hsep _ s
      rw [intercalate_map_cons, intercalate_map_cons]
      exact (hall.append_right (c :: close) fun s ↦ List.prefix_append _ s).imp
        fun hboth ↦ .cons hboth.1 hboth.2

theorem map_eq_map_of_forall₂ {γ : Type} {f : α → γ} {g : β → γ} (h : List.Forall₂ R xs ys)
    (hfg : ∀ a b, R a b → f a = g b) : xs.map f = ys.map g := by
  rw [← List.forall₂_eq_eq_eq, List.forall₂_map_left_iff, List.forall₂_map_right_iff]
  exact h.imp hfg

end Sequences

/-! ## Quoted text -/

/-- The character that a short escape stands for, given by its second character. -/
def shortEscaped? : Char → Option Char
  | '0' => some '\x00'
  | 't' => some '\t'
  | 'r' => some '\r'
  | 'n' => some '\n'
  | '"' => some '"'
  | '\\' => some '\\'
  | _ => none

/-- What the written form of a character can be. -/
theorem escape_cases (c : Char) :
    (∃ e, shortEscaped? e = some c ∧ escape c = ['\\', e]) ∨
      (c ≠ '\\' ∧ c ≠ '"' ∧ escape c = [c]) ∨
        escape c = ['\\', 'u', '{'] ++ (Nat.toDigits 16 c.toNat ++ ['}']) := by
  rw [escape]
  split_ifs with h₀ ht hr hn hquote hbackslash hplain
  · exact .inl ⟨'0', congrArg some h₀.symm, rfl⟩
  · exact .inl ⟨'t', congrArg some ht.symm, rfl⟩
  · exact .inl ⟨'r', congrArg some hr.symm, rfl⟩
  · exact .inl ⟨'n', congrArg some hn.symm, rfl⟩
  · exact .inl ⟨'"', congrArg some hquote.symm, rfl⟩
  · exact .inl ⟨'\\', congrArg some hbackslash.symm, rfl⟩
  · exact .inr (.inl ⟨hbackslash, hquote, rfl⟩)
  · exact .inr (.inr rfl)

/-- No written form of a character begins with a quotation mark. -/
theorem begins_escape (c : Char) : Begins (· != '"') (escape c) := by
  rcases escape_cases c with ⟨e, -, h⟩ | ⟨-, hquote, h⟩ | h
  · rw [h]
    exact begins_cons rfl
  · rw [h]
    exact begins_cons (bne_iff_ne.2 hquote)
  · rw [h]
    exact begins_cons rfl

theorem tells_shortEscape {e e' a b : Char} (ha : shortEscaped? e = some a)
    (hb : shortEscaped? e' = some b) : Tells next ['\\', e] ['\\', e'] (a = b) := by
  intro s t _ _ heq
  simp only [List.cons_append, List.nil_append, List.cons.injEq, true_and] at heq
  obtain ⟨rfl, hst⟩ := heq
  exact ⟨Option.some_inj.1 (ha.symm.trans hb), hst⟩

theorem tells_hexEscape (a b : Char) :
    Tells next (['\\', 'u', '{'] ++ (Nat.toDigits 16 a.toNat ++ ['}']))
      (['\\', 'u', '{'] ++ (Nat.toDigits 16 b.toNat ++ ['}'])) (a = b) :=
  (((tells_toDigits (by omega) (by omega) a.toNat b.toNat).append_right ['}']
    fun _ ↦ beginsOutside_cons rfl).append_left _).imp Char.toNat_inj.1

/-- Short escapes are told from the others by their second character. -/
theorem tells_shortEscape_hexEscape {e a : Char} (ha : shortEscaped? e = some a) (l : List Char) :
    Tells next ['\\', e] (['\\', 'u', '{'] ++ l) P := by
  have hu : e ≠ 'u' := by
    rintro rfl
    cases ha
  exact Tells.append_left ['\\'] (tells_of_head_ne rfl rfl hu)

/-- **Characters** are told by their written forms, whatever follows. -/
theorem tells_escape (a b : Char) : Tells next (escape a) (escape b) (a = b) := by
  -- the backslash tells escapes from the characters that stand for themselves
  rcases escape_cases a with ⟨e, ha, h⟩ | ⟨hbackslash, -, h⟩ | h
  · rw [h]
    rcases escape_cases b with ⟨e', hb, h'⟩ | ⟨hbackslash, -, h'⟩ | h'
    · rw [h']
      exact tells_shortEscape ha hb
    · rw [h']
      exact tells_of_head_ne rfl rfl hbackslash.symm
    · rw [h']
      exact tells_shortEscape_hexEscape ha _
  · rw [h]
    rcases escape_cases b with ⟨e', -, h'⟩ | ⟨-, -, h'⟩ | h'
    · rw [h']
      exact tells_of_head_ne rfl rfl hbackslash
    · rw [h']
      intro s t _ _ heq
      exact List.cons.inj heq
    · rw [h']
      exact tells_of_head_ne rfl rfl hbackslash
  · rw [h]
    rcases escape_cases b with ⟨e', hb, h'⟩ | ⟨hbackslash, -, h'⟩ | h'
    · rw [h']
      exact (tells_shortEscape_hexEscape hb _).symm
    · rw [h']
      exact tells_of_head_ne rfl rfl hbackslash.symm
    · rw [h']
      exact tells_hexEscape a b

/-- **Quoted text** tells which string is quoted, whatever follows it. -/
theorem tells_quote (a b : String) : Tells next (quote a).toList (quote b).toList (a = b) := by
  have hmark : ∀ s, ['"'] <+: s → ¬ Begins (· != '"') s := by
    rintro s ⟨r, rfl⟩ hbegins
    exact hbegins.head?_ne rfl rfl
  have hall : Tells (['"'] <+: ·) (escapeAll a.toList) (escapeAll b.toList)
      (List.Forall₂ (· = ·) a.toList b.toList) :=
    tells_flatMap hmark (fun c _ ↦ (begins_escape c).append) (fun c _ ↦ (begins_escape c).append)
      fun c _ d _ ↦ tells_escape c d
  rw [toList_quote, toList_quote]
  refine ((hall.append_right ['"'] fun s ↦ ⟨s, rfl⟩).append_left ['"']).imp fun h ↦ ?_
  rw [List.forall₂_eq_eq_eq] at h
  exact String.toList_inj.1 h

end KernelMetadata.Text
