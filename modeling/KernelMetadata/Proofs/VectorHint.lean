import KernelMetadata.Proofs.Origin
import KernelMetadata.Proofs.RuleIndependence
import KernelMetadata.VectorHint
import Mathlib.Algebra.Group.Nat.Defs

/-!
# What vector type hints say

A hint packs the length of a vector above the code of its component. The components that have codes
are listed in the order of their codes (`VectorHint.components`), and a type has a hint just if it is
one of them or a vector of one of them (`VectorHint.Hintable`). Both halves are found again in a
hint, so that a hint tells its type but for one thing: a vector without elements has the hint of its
component (`VectorHint.hints_encoded`).

The node that carries a hint has a type first and its signedness second. The signedness is not part
of the hint, and it is not looked at: where an integer ought to stand, any operand is accepted
(`VectorHint.extract_eq_documented_iff`).
-/

namespace KernelMetadata

/-- The type of a scalar by itself. -/
def Scalar.toTy : Scalar → Ty
  | int t => .int t
  | float f => .float f

/-- The number of elements of a vector. All other types have none. -/
def Ty.elementCount : Ty → UInt16
  | vector v => v.length
  | int _ | float _ | pointer _ | aggregate _ => 0

theorem Ty.scalar?_eq_some_iff {t : Ty} {s : Scalar} :
    t.scalar? = some s ↔ t = s.toTy ∨ ∃ n, t = .vector ⟨s, n⟩ := by
  rcases t with t | f | p | ⟨component, n⟩ | ts <;> cases s <;> simp [scalar?, Scalar.toTy]

namespace VectorHint

variable {t : Ty} {s : Scalar} {a : Annotation} {e : DecodeError} {code hint : UInt32}
  {length : UInt16} {ws : List UInt32}

/-! ## Components -/

/-- The components that have codes, each at the place of its code. -/
def components : List Scalar :=
  [.int ⟨8⟩, .int ⟨16⟩, .int ⟨32⟩, .int ⟨64⟩, .float .half, .float .single, .float .double]

theorem componentCode?_eq_some_iff :
    componentCode? s = some code ↔ components[code.toNat]? = some s := by
  constructor
  · fun_cases componentCode? s <;> rintro ⟨⟩ <;> rfl
  · intro h
    have hall : ∀ k < components.length,
        components[k]?.bind componentCode? = some (UInt32.ofNat k) := by decide
    have hcode := hall code.toNat (List.getElem?_eq_some_iff.1 h).1
    rwa [h, Option.bind_some, UInt32.ofNat_toNat] at hcode

/-- Whether a type is a component that has a code, or a vector of such components. -/
def Hintable (t : Ty) : Prop := ∃ s ∈ components, t = s.toTy ∨ ∃ n, t = .vector ⟨s, n⟩

theorem hintable_iff : Hintable t ↔ ∃ s ∈ components, t.scalar? = some s := by
  simp only [Hintable, Ty.scalar?_eq_some_iff]

/-! ## Packing -/

theorem toNat_pack (h : code.toNat < 2 ^ 16) :
    (pack code length).toNat = length.toNat * 2 ^ 16 + code.toNat := by
  have hlength : length.toNat <<< 16 < 2 ^ 32 := by
    have hlt := length.toNat_lt
    rw [Nat.shiftLeft_eq]
    omega
  have hshift : (16 : UInt32).toNat % 32 = 16 := by decide
  rw [pack, UInt32.toNat_or, UInt32.toNat_shiftLeft, UInt16.toNat_toUInt32, hshift,
    Nat.mod_eq_of_lt hlength, ← Nat.shiftLeft_add_eq_or_of_lt h, Nat.shiftLeft_eq]

theorem toNat_shiftRight_pack (h : code.toNat < 2 ^ 16) :
    (pack code length >>> 16).toNat = length.toNat := by
  have hshift : (16 : UInt32).toNat % 32 = 16 := by decide
  rw [UInt32.toNat_shiftRight, hshift, toNat_pack h, Nat.shiftRight_eq_div_pow]
  omega

theorem pack_and (h : code.toNat < 2 ^ 16) : pack code length &&& 0xffff = code := by
  have hmask : (0xffff : UInt32).toNat = 2 ^ 16 - 1 := by decide
  rw [← UInt32.toNat_inj, UInt32.toNat_and, hmask, Nat.and_two_pow_sub_one_eq_mod, toNat_pack h]
  omega

/-! ## Encoding -/

theorem toNat_lt_of_components (h : components[code.toNat]? = some s) : code.toNat < 2 ^ 16 := by
  have hlt : code.toNat < 7 := (List.getElem?_eq_some_iff.1 h).1
  omega

theorem shape?_eq (t : Ty) : shape? t = t.scalar?.map fun s ↦ (s, t.elementCount) := by
  cases t <;> rfl

theorem encode_eq_ok_iff : encode t = .ok hint ↔ ∃ (s : Scalar) (code : UInt32),
    t.scalar? = some s ∧ components[code.toNat]? = some s ∧ hint = pack code t.elementCount := by
  simp only [← componentCode?_eq_some_iff]
  rw [encode, shape?_eq]
  cases t.scalar? with
  | none => simp
  | some s => cases hcode : componentCode? s <;> simp [hcode, eq_comm]

/-- Just the types that are made of one component with a code have hints. -/
theorem exists_encode_eq_ok_iff : (∃ hint, encode t = .ok hint) ↔ Hintable t := by
  simp only [encode_eq_ok_iff, hintable_iff]
  constructor
  · rintro ⟨hint, s, code, hs, hcode, rfl⟩
    exact ⟨s, List.mem_of_getElem? hcode, hs⟩
  · rintro ⟨s, hmem, hs⟩
    obtain ⟨k, hk⟩ := List.mem_iff_getElem?.1 hmem
    have hlt : k < UInt32.size := (List.getElem?_eq_some_iff.1 hk).1.trans (by decide)
    refine ⟨_, s, UInt32.ofNat k, hs, ?_, rfl⟩
    rw [UInt32.toNat_ofNat_of_lt' hlt, hk]

theorem encode_eq_error_iff : encode t = .error e ↔ e = .unsupportedTypeHint t ∧ ¬ Hintable t := by
  rw [← exists_encode_eq_ok_iff]
  cases h : encode t with
  | ok hint => simp
  | error e' =>
    rw [encode] at h
    split at h
    · cases h
    · simp [← Except.error.inj h, eq_comm]

/-- What a hint is made of is found again in it. -/
theorem parts_of_encode_eq_ok (h : encode t = .ok hint) : ∃ s code, t.scalar? = some s ∧
    components[code]? = some s ∧ hint.toNat = t.elementCount.toNat * 2 ^ 16 + code ∧
      (hint >>> 16).toNat = t.elementCount.toNat ∧ (hint &&& 0xffff).toNat = code := by
  obtain ⟨s, code, hs, hcode, rfl⟩ := encode_eq_ok_iff.1 h
  have hlt := toNat_lt_of_components hcode
  exact ⟨s, code.toNat, hs, hcode, toNat_pack hlt, toNat_shiftRight_pack hlt,
    congrArg UInt32.toNat (pack_and hlt)⟩

theorem scalar?_eq_of_encode {t t' : Ty} (h : encode t = .ok hint) (h' : encode t' = .ok hint) :
    t.scalar? = t'.scalar? ∧ t.elementCount = t'.elementCount := by
  obtain ⟨s, code, hs, hcode, -, hcount, hlow⟩ := parts_of_encode_eq_ok h
  obtain ⟨s', code', hs', hcode', -, hcount', hlow'⟩ := parts_of_encode_eq_ok h'
  rw [← hlow] at hcode
  rw [← hlow', hcode, ← hs, ← hs'] at hcode'
  exact ⟨hcode', UInt16.toNat_inj.1 (hcount.symm.trans hcount')⟩

/-- The shape of a type with a scalar is known from its number of elements, unless that is zero. -/
theorem eq_toTy_or_eq_vector (h : t.scalar? = some s) :
    (t = s.toTy ∧ t.elementCount = 0) ∨ t = .vector ⟨s, t.elementCount⟩ := by
  obtain rfl | ⟨n, rfl⟩ := Ty.scalar?_eq_some_iff.1 h
  · exact .inl ⟨rfl, by cases s <;> rfl⟩
  · exact .inr rfl

/-- **A hint tells its type.** The types that have hints are the components with codes and the
vectors of them, with any number of elements; for every other type there is an error that shows the
type. The high half of a hint is the number of elements, which is zero for a scalar, and the low
half is the code of the component, with nothing lost in packing the two. So two types with the same
hint have the same scalar and as many elements. They are the same type, unless one is a scalar and
the other a vector of no such scalars; these two always have the same hint. -/
theorem hints_encoded :
    (∀ t, (∃ hint, encode t = .ok hint) ↔ ∃ s ∈ components, t = s.toTy ∨ ∃ n, t = .vector ⟨s, n⟩) ∧
      (∀ t e, encode t = .error e ↔ e = .unsupportedTypeHint t ∧
        ¬ ∃ s ∈ components, t = s.toTy ∨ ∃ n, t = .vector ⟨s, n⟩) ∧
      (∀ t e, encode t = .error e →
        e.message = "`" ++ t.text ++ "` is not a valid `vec_type_hint` component type.") ∧
      (∀ t hint, encode t = .ok hint → ∃ s code, t.scalar? = some s ∧
        components[code]? = some s ∧ hint.toNat = t.elementCount.toNat * 2 ^ 16 + code ∧
        (hint >>> 16).toNat = t.elementCount.toNat ∧ (hint &&& 0xffff).toNat = code) ∧
      (∀ t t' hint, encode t = .ok hint → encode t' = .ok hint →
        t.scalar? = t'.scalar? ∧ t.elementCount = t'.elementCount ∧
          (t = t' ∨ ∃ s : Scalar, (t = s.toTy ∧ t' = .vector ⟨s, 0⟩) ∨
            (t = .vector ⟨s, 0⟩ ∧ t' = s.toTy))) ∧
      ∀ s ∈ components, ∃ hint, encode s.toTy = .ok hint ∧ encode (.vector ⟨s, 0⟩) = .ok hint := by
  refine ⟨fun t ↦ exists_encode_eq_ok_iff, fun t e ↦ encode_eq_error_iff, fun t e h ↦ ?message,
    fun t hint h ↦ parts_of_encode_eq_ok h, fun t t' hint h h' ↦ ?same, fun s hs ↦ ?empty⟩
  case message =>
    obtain ⟨rfl, -⟩ := encode_eq_error_iff.1 h
    rfl
  case same =>
    obtain ⟨s, code, hs, -⟩ := parts_of_encode_eq_ok h
    obtain ⟨hscalar, hcount⟩ := scalar?_eq_of_encode h h'
    refine ⟨hscalar, hcount, ?_⟩
    rcases eq_toTy_or_eq_vector hs with ⟨ht, hzero⟩ | ht <;>
      rcases eq_toTy_or_eq_vector (hscalar ▸ hs) with ⟨ht', hzero'⟩ | ht'
    · exact .inl (ht.trans ht'.symm)
    · exact .inr ⟨s, .inl ⟨ht, by rw [ht', ← hcount, hzero]⟩⟩
    · exact .inr ⟨s, .inr ⟨by rw [ht, hcount, hzero'], ht'⟩⟩
    · exact .inl (by rw [ht, ht', hcount])
  case empty =>
    obtain ⟨hint, h⟩ := exists_encode_eq_ok_iff.2 ⟨s, hs, .inl rfl⟩
    refine ⟨hint, h, ?_⟩
    rw [encode_eq_ok_iff] at h ⊢
    cases s <;> exact h

/-- Four floats have a hint that is read as such, and an aggregate of one has none. -/
theorem hints_encoded_float4 :
    encode (.vector ⟨.float .single, 4⟩) = .ok 0x40005 ∧
      ((0x40005 : UInt32) >>> 16).toNat = 4 ∧ ((0x40005 : UInt32) &&& 0xffff).toNat = 5 ∧
      (∀ t, encode t = .ok 0x40005 → t.scalar? = some (.float .single) ∧ t.elementCount = 4) ∧
      encode (.aggregate [.float .single]) =
        .error (.unsupportedTypeHint (.aggregate [.float .single])) ∧
      Scalar.float .single ∈ components ∧
      ∃ hint, encode (.float .single) = .ok hint ∧
        encode (.vector ⟨.float .single, 0⟩) = .ok hint := by
  obtain ⟨-, hrefused, -, hparts, hsame, hempty⟩ := hints_encoded
  have hfour : encode (.vector ⟨.float .single, 4⟩) = .ok 0x40005 := by decide
  have hmem : Scalar.float .single ∈ components := by decide
  obtain ⟨s, code, hs, hcode, -, hhigh, hlow⟩ := hparts _ _ hfour
  refine ⟨hfour, hhigh, by decide, fun t ht ↦ ?_, (hrefused _ _).2 ⟨rfl, ?_⟩, hmem, hempty _ hmem⟩
  · obtain ⟨hscalar, hcount, -⟩ := hsame t _ _ ht hfour
    exact ⟨hscalar, hcount⟩
  · rintro ⟨s, -, hs | ⟨n, hn⟩⟩
    · cases s <;> cases hs
    · cases hn

/-! ## Nodes -/

/-- The hint of a node of the documented shape: an undefined value of the type, and behind it the
signedness as an integer. -/
def documented : Annotation → Except DecodeError (List UInt32)
  | .node ⟨[.undef t, .int _]⟩ => (encode t).map fun hint ↦ [hint]
  | _ => .error .malformedTypeHint

theorem extract_eq_ok_iff : extract a = .ok ws ↔
    ∃ t o hint, a = .node ⟨[.undef t, o]⟩ ∧ encode t = .ok hint ∧ ws = [hint] := by
  fun_cases extract a with
  | case1 t o => cases h : encode t <;> simp [Except.map, h, eq_comm]
  | case2 a hshape =>
    refine iff_of_false nofun ?_
    rintro ⟨t, o, hint, rfl, -⟩
    exact hshape t o rfl

theorem extract_eq_error_iff : extract a = .error e ↔
    (∃ t o, a = .node ⟨[.undef t, o]⟩ ∧ encode t = .error e) ∨
      (∀ t o, a ≠ .node ⟨[.undef t, o]⟩) ∧ e = .malformedTypeHint := by
  fun_cases extract a with
  | case1 t o => cases h : encode t <;> simp [Except.map, h, eq_comm]
  | case2 a hshape =>
    rw [Except.error.injEq]
    constructor
    · rintro rfl
      exact .inr ⟨hshape, rfl⟩
    · rintro (⟨t, o, rfl, -⟩ | ⟨-, rfl⟩)
      · exact (hshape t o rfl).elim
      · rfl

/-- A node is not refused for its shape once a type stands first of two operands. -/
theorem extract_eq_malformed_iff :
    extract a = .error .malformedTypeHint ↔ ∀ t o, a ≠ .node ⟨[.undef t, o]⟩ := by
  rw [extract_eq_error_iff]
  simp [encode_eq_error_iff]

theorem extract_eq_unsupported_iff : extract a = .error (.unsupportedTypeHint t) ↔
    ∃ o, a = .node ⟨[.undef t, o]⟩ ∧ ¬ Hintable t := by
  rw [extract_eq_error_iff]
  simp [encode_eq_error_iff]

/-- The signedness has no part in what is read, so that the documented shape is not asked for in
full. -/
theorem extract_eq_documented_iff : extract a = documented a ↔
    ∀ t o, a = .node ⟨[.undef t, o]⟩ → ∃ c, o = .int c := by
  constructor
  · rintro h t o rfl
    by_contra hother
    have hmalformed : documented (.node ⟨[.undef t, o]⟩) = .error .malformedTypeHint := by
      cases o with
      | int c => exact (hother ⟨c, rfl⟩).elim
      | string _ | function _ | undef _ => rfl
    exact extract_eq_malformed_iff.1 (h.trans hmalformed) t o rfl
  · intro h
    by_cases hshape : ∃ t o, a = .node ⟨[.undef t, o]⟩
    · obtain ⟨t, o, rfl⟩ := hshape
      obtain ⟨c, rfl⟩ := h t o rfl
      rfl
    · rw [extract_eq_malformed_iff.2 fun t o ha ↦ hshape ⟨t, o, ha⟩, documented.eq_def]
      split
      · exact (hshape ⟨_, _, rfl⟩).elim
      · rfl

end VectorHint

/-! ## Runs -/

theorem FloatControl.mode_ne_vecTypeHint {c : FloatControl} {entry : ModeEntry}
    (h : entry ∈ c.entries) : entry.mode ≠ .vecTypeHint := by
  obtain ⟨w, -, hw⟩ := List.mem_flatMap.1 h
  simp only [widthEntries, List.mem_cons, List.not_mem_nil, or_false] at hw
  obtain rfl | rfl | rfl := hw
  · cases c.rounding <;> simp [Rounding.mode]
  · cases c.operation <;> simp [Operation.mode]
  · cases c.denormals w <;> simp [Denormals.mode]

namespace Rule

/-- No other rule yields the execution mode of a vector type hint. -/
theorem eq_vecTypeHint_of_mem_emit {g : RuleGroup} {r : Rule} {ws : List UInt32}
    {entry : ModeEntry} (hg : g ∈ RuleGroup.all) (hr : r ∈ g.rules) (h : entry ∈ r.emit ws)
    (hmode : entry.mode = .vecTypeHint) : r = vecTypeHint := by
  have hsingle : ∀ mode, entry ∈ single mode ws → mode = .vecTypeHint := by
    intro mode hmem
    rw [← hmode, List.mem_singleton.1 hmem]
  have hopenCL : ∀ r ∈ RuleGroup.openCL.rules, ∃ mode, r.emit = single mode ∧
      (mode = .vecTypeHint → r = vecTypeHint) := by
    simp only [RuleGroup.openCL, List.forall_mem_cons, List.not_mem_nil, false_imp_iff,
      implies_true, and_true]
    exact ⟨⟨_, rfl, nofun⟩, ⟨_, rfl, nofun⟩, ⟨_, rfl⟩, ⟨_, rfl, nofun⟩, ⟨_, rfl, nofun⟩,
      ⟨_, rfl, nofun⟩, ⟨_, rfl, nofun⟩⟩
  have hfloat : entry ∉ emitFloatControl ws := by
    rw [emitFloatControl.eq_def]
    split
    · exact fun hmem ↦ FloatControl.mode_ne_vecTypeHint hmem hmode
    · exact List.not_mem_nil
  simp only [RuleGroup.all, List.mem_cons, List.not_mem_nil, or_false] at hg
  obtain rfl | rfl := hg
  · obtain ⟨mode, hemit, hunique⟩ := hopenCL r hr
    exact hunique (hsingle mode (hemit ▸ h))
  · simp only [RuleGroup.vectorCompute, List.mem_cons, List.not_mem_nil, or_false] at hr
    obtain rfl | rfl := hr
    · exact (hfloat h).elim
    · cases hsingle _ h

end Rule

namespace DeviceModule

variable {options : Options} {m : DeviceModule} {f : FunctionDecl} {i : Nat}

theorem mem_entryPoints_of_entryAt (hf : m.functions[i]? = some f) (h : m.EntryAt i) :
    f ∈ m.entryPoints := by
  refine List.mem_map.2 ⟨(f, i), List.mem_filter.2 ⟨?_, ?_⟩, rfl⟩
  · rwa [List.mem_zipIdx_iff_getElem?]
  · simpa using (entryAt_iff hf).1 h

/-- A rule that cannot read the annotation of an entry point is reported as skipped. -/
theorem mem_skips {g : RuleGroup} {r : Rule} {a : Annotation} {e : DecodeError}
    (hg : g ∈ RuleGroup.all) (hr : r ∈ g.rules) (hf : m.functions[i]? = some f) (h : m.EntryAt i)
    (ha : f.annotation? r.key = some a) (he : r.extract a = .error e) :
    ⟨f.name, r.name, e⟩ ∈ m.skips := by
  have hskipped : r.skippedOn? f = some ⟨f.name, r.name, e⟩ := by
    simp only [Rule.skippedOn?, ha, he]
  rw [skips_eq_flatMap]
  exact List.mem_flatMap.2 ⟨g, hg, List.mem_flatMap.2 ⟨f, mem_entryPoints_of_entryAt hf h,
    List.mem_filterMap.2 ⟨r, hr, hskipped⟩⟩⟩

/-- A kernel whose hint cannot be read has no such execution mode. -/
theorem mode_ne_vecTypeHint {m : DeviceModule} {a : Annotation} {e : DecodeError}
    (hf : m.functions[i]? = some f) (ha : f.annotation? Rule.vecTypeHint.key = some a)
    (he : VectorHint.extract a = .error e) {o : Origin} (ho : o ∈ m.origins) (hi : o.place = i) :
    o.mode.entry.mode ≠ .vecTypeHint := by
  intro hmode
  obtain ⟨⟨g, hg, hr⟩, f', hf', -, -, a', ws, ha', hws, hmem⟩ := mem_origins_iff.1 ho
  rw [hi, hf, Option.some_inj] at hf'
  subst hf'
  rw [Rule.eq_vecTypeHint_of_mem_emit hg hr hmem hmode] at ha' hws
  rw [ha, Option.some_inj] at ha'
  subst ha'
  cases he.symm.trans hws

end DeviceModule

namespace VectorHint

/-- **Hints are read by the shape of their nodes.** What is read from an annotation is what the
documented shape asks for, just if no type stands before something that is no integer: the second of
two operands is not looked at. A hint is read from a node of two operands, of which the first is an
undefined value of a type that has a hint. If the type has none, this is the error, and it shows the
type; every annotation of another shape is refused for its shape. In a run, a kernel whose
annotation is refused gets no such execution mode, and the rule is reported as skipped on it. -/
theorem hint_nodes_recognised (a : Annotation) :
    (extract a = documented a ↔ ∀ t o, a = .node ⟨[.undef t, o]⟩ → ∃ c, o = .int c) ∧
      (∀ ws, extract a = .ok ws ↔
        ∃ t o hint, a = .node ⟨[.undef t, o]⟩ ∧ encode t = .ok hint ∧ ws = [hint]) ∧
      (∀ t, extract a = .error (.unsupportedTypeHint t) ↔
        ∃ o, a = .node ⟨[.undef t, o]⟩ ∧ ¬ ∃ hint, encode t = .ok hint) ∧
      (extract a = .error .malformedTypeHint ↔ ∀ t o, a ≠ .node ⟨[.undef t, o]⟩) ∧
      ∀ (options : Options) (m : DeviceModule) (report : Report),
        (m.transcribe options).outcome = .ok report → ∀ i f e, m.functions[i]? = some f →
          m.EntryAt i → f.annotation? Rule.vecTypeHint.key = some a → extract a = .error e →
            let after := (m.transcribe options).result
            after.list? Vocabulary.executionModes = some (m.nodes Vocabulary.executionModes ++
                after.origins.map fun o ↦ o.mode.node) ∧
              (∀ o ∈ after.origins, o.place = i → o.mode.entry.mode ≠ .vecTypeHint) ∧
              ⟨f.name, Rule.vecTypeHint.name, e⟩ ∈ report.skipped := by
  refine ⟨extract_eq_documented_iff, fun ws ↦ extract_eq_ok_iff, fun t ↦ ?unsupported,
    extract_eq_malformed_iff, fun options m report h i f e hf hentry ha he ↦ ?run⟩
  case unsupported =>
    rw [exists_encode_eq_ok_iff]
    exact extract_eq_unsupported_iff
  case run =>
    obtain ⟨t, ht⟩ := DeviceModule.exists_isFor_of_outcome h
    have hrule : Rule.vecTypeHint ∈ RuleGroup.openCL.rules := by simp [RuleGroup.openCL]
    refine ⟨?_, fun o ho hi ↦ ?_, ?_⟩
    · rw [DeviceModule.list?_result_executionModes options ht,
        ← DeviceModule.map_mode_origins_result options ht, List.map_map]
      rfl
    · have hafter : (m.transcribe options).result.functions[i]? = some (m.runFunction i f) := by
        rw [DeviceModule.functions_result options ht, DeviceModule.getElem?_markedFunctions hf]
      rw [← m.annotation?_runFunction i f (by decide)] at ha
      exact DeviceModule.mode_ne_vecTypeHint hafter ha he ho hi
    · rw [DeviceModule.report_eq h]
      exact DeviceModule.mem_skips RuleGroup.openCL_mem_all hrule hf hentry ha he

/-- A module of one kernel, which carries a hint. -/
def hintedKernel (hint : Node) : DeviceModule where
  triple := some "spir64"
  functions := [⟨⟨1⟩, "blur", [], .spirKernel, .empty, NameMap.ofList [("vec_type_hint", hint)]⟩]
  lists := .empty

/-- The node of a hint in which the type is given by a name. -/
def namedHint : Node := ⟨[.string "float", .word 1]⟩

/-- The hint of the kernel is refused, and the run leaves it out. -/
theorem hint_nodes_recognised_namedHint :
    extract (.node namedHint) = .error .malformedTypeHint ∧
      ((hintedKernel namedHint).transcribe .default).outcome =
        .ok ⟨[⟨1⟩], 0, [⟨"blur", "vec-type-hint", .malformedTypeHint⟩], none⟩ ∧
      (hintedKernel namedHint).EntryAt 0 ∧
      ∀ o ∈ ((hintedKernel namedHint).transcribe .default).result.origins, o.place = 0 →
        o.mode.entry.mode ≠ .vecTypeHint := by
  obtain ⟨-, -, -, hmalformed, hrun⟩ := hint_nodes_recognised (.node namedHint)
  have hrefused : extract (.node namedHint) = .error .malformedTypeHint := hmalformed.2 nofun
  have houtcome : ((hintedKernel namedHint).transcribe .default).outcome =
      .ok ⟨[⟨1⟩], 0, [⟨"blur", "vec-type-hint", .malformedTypeHint⟩], none⟩ := by decide +kernel
  have hentry : (hintedKernel namedHint).EntryAt 0 := .inl ⟨_, rfl, rfl⟩
  have hannotation : ((hintedKernel namedHint).functions[0]?.bind fun f ↦
      f.annotation? Rule.vecTypeHint.key) = some (.node namedHint) := by decide +kernel
  exact ⟨hrefused, houtcome, hentry,
    (hrun _ _ _ houtcome 0 _ _ rfl hentry hannotation hrefused).2.1⟩

/-- A string in the place of the signedness is no reason to refuse a hint. -/
theorem hint_without_signedness :
    extract (.node ⟨[.undef (.int ⟨16⟩), .string "x"]⟩) = .ok [1] ∧
      documented (.node ⟨[.undef (.int ⟨16⟩), .string "x"]⟩) = .error .malformedTypeHint ∧
      ∀ c, Operand.string "x" ≠ .int c :=
  ⟨by decide, by decide, nofun⟩

end VectorHint

end KernelMetadata
