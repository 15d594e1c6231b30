import KernelMetadata.Proofs.Collection
import Mathlib.Data.List.Forall2

/-!
# Tables of rules

What holds of a group of rules whatever its table is: any rules in any order, with any names and
keys, also several of one name or key, and with any functions to read annotations and to emit modes.

Collecting is here a pair of loops (`RuleGroup.gather`): an outer one over the kernels, an inner one
over the rules, both of which add to the records and to the reports collected so far and tell of
what they do. One turn enters what was attempted on one function by one rule
(`RuleGroup.turn_eq_enter`), hence the inner loop enters the attempts of the rules, the outer one
those on all kernels, and what is collected is what the attempts of a group come to
(`RuleGroup.gather_eq_collect`).

A pair of a kernel and a rule has its share in the collection (`Rule.Yields`): nothing if the
annotation of the rule is absent, else records or a report. The collection consists of the shares
one after the other and of nothing else (`RuleGroup.collected_pair_by_pair`).
-/

namespace KernelMetadata

namespace Collection

/-- One collection after another. -/
instance : Append Collection where
  append c d := ⟨c.records ++ d.records, c.skipped ++ d.skipped⟩

theorem append_def (c d : Collection) :
    c ++ d = ⟨c.records ++ d.records, c.skipped ++ d.skipped⟩ := rfl

/-- The collection of what attempts came to. -/
def ofAttempts (as : List Attempt) : Collection :=
  ⟨as.flatMap Attempt.records, as.filterMap Attempt.skipped?⟩

theorem ofAttempts_append (as bs : List Attempt) :
    ofAttempts (as ++ bs) = ofAttempts as ++ ofAttempts bs := by
  rw [ofAttempts, List.flatMap_append, List.filterMap_append]
  rfl

theorem append_assoc (c d e : Collection) : c ++ d ++ e = c ++ (d ++ e) := by
  simp [append_def]

theorem append_ofAttempts_nil (c : Collection) : c ++ ofAttempts [] = c := by
  simp [append_def, ofAttempts]

theorem append_ofAttempts_ok (c : Collection) (f : FunctionDecl) (r : Rule)
    (ks : List KernelMode) :
    c ++ ofAttempts [⟨f, r, .ok ks⟩] = ⟨c.records ++ ks, c.skipped⟩ := by
  simp [append_def, ofAttempts, Attempt.records, Attempt.skipped?]

theorem append_ofAttempts_error (c : Collection) (f : FunctionDecl) (r : Rule) (e : DecodeError) :
    c ++ ofAttempts [⟨f, r, .error e⟩] = ⟨c.records, c.skipped ++ [⟨f.name, r.name, e⟩]⟩ := by
  simp [append_def, ofAttempts, Attempt.records, Attempt.skipped?]

end Collection

/-! ## Collecting in loops -/

namespace RuleGroup

/-- One turn of the inner loop: tries a rule on a function, and adds its records or a report. -/
def turn (g : RuleGroup) (f : FunctionDecl) (c : Collection) (r : Rule) : Logged Collection :=
  match r.applyTo f with
  | none => pure c
  | some (.ok ks) => do
    Logged.tell (.ruleApplied g.name r.name ks.length f.name)
    pure ⟨c.records ++ ks, c.skipped⟩
  | some (.error e) => do
    Logged.tell (.ruleSkipped g.name r.name f.name e)
    pure ⟨c.records, c.skipped ++ [⟨f.name, r.name, e⟩]⟩

/-- Collects in two loops, over the kernels and for each kernel over the rules. -/
def gather (g : RuleGroup) (m : DeviceModule) : Logged Collection :=
  m.kernels.foldlM (fun c f ↦ g.rules.foldlM (g.turn f) c) ⟨[], []⟩

/-- Adds what attempts came to, and tells of each. -/
def enter (g : RuleGroup) (c : Collection) (as : List Attempt) : Logged Collection :=
  ⟨c ++ .ofAttempts as, as.map (Attempt.event g.name)⟩

theorem enter_append (g : RuleGroup) (c : Collection) (as bs : List Attempt) :
    g.enter c (as ++ bs) = g.enter c as >>= fun c ↦ g.enter c bs := by
  rw [enter, Collection.ofAttempts_append, ← Collection.append_assoc, List.map_append]
  rfl

theorem enter_nil (g : RuleGroup) (c : Collection) : g.enter c [] = pure c := by
  rw [enter, Collection.append_ofAttempts_nil]
  rfl

/-- **One turn enters one attempt**, if there is anything to attempt. -/
theorem turn_eq_enter (g : RuleGroup) (f : FunctionDecl) (c : Collection) (r : Rule) :
    g.turn f c r =
      g.enter c ((r.applyTo f).map fun outcome ↦ (⟨f, r, outcome⟩ : Attempt)).toList := by
  rw [turn]
  cases r.applyTo f with
  | none => exact (enter_nil g c).symm
  | some outcome =>
    rw [Option.map_some, Option.toList_some, enter]
    cases outcome with
    | ok ks =>
      rw [Collection.append_ofAttempts_ok]
      rfl
    | error e =>
      rw [Collection.append_ofAttempts_error]
      rfl

/-- **The inner loop enters the attempts of the rules**, in the order of the table. -/
theorem foldlM_turn (g : RuleGroup) (f : FunctionDecl) (rs : List Rule) (c : Collection) :
    rs.foldlM (g.turn f) c = g.enter c (attemptsOn ⟨g.name, rs⟩ f) := by
  induction rs generalizing c with
  | nil => exact (enter_nil g c).symm
  | cons r rs ih =>
    have hcons : attemptsOn ⟨g.name, r :: rs⟩ f =
        ((r.applyTo f).map fun outcome ↦ (⟨f, r, outcome⟩ : Attempt)).toList ++
          attemptsOn ⟨g.name, rs⟩ f := by
      rw [attemptsOn, attemptsOn, List.filterMap_cons]
      cases r.applyTo f <;> rfl
    rw [List.foldlM_cons, hcons, enter_append, turn_eq_enter]
    simp only [ih]

/-- **The outer loop enters the attempts on the kernels**, in the order of the module. -/
theorem foldlM_foldlM_turn (g : RuleGroup) (fs : List FunctionDecl) (c : Collection) :
    fs.foldlM (fun c f ↦ g.rules.foldlM (g.turn f) c) c = g.enter c (g.attempts fs) := by
  induction fs generalizing c with
  | nil => exact (enter_nil g c).symm
  | cons f fs ih =>
    rw [List.foldlM_cons, foldlM_turn, attempts, List.flatMap_cons, enter_append]
    simp only [ih]
    rfl

/-- **The loops collect what the attempts of a group come to**, and tell of them in their order. -/
theorem gather_eq_collect (g : RuleGroup) (m : DeviceModule) : g.gather m = g.collect m := by
  rw [gather, foldlM_foldlM_turn]
  rfl

end RuleGroup

/-! ## Pairs of a function and a rule -/

namespace Rule

variable {r : Rule} {f : FunctionDecl} {c : Collection}

/-- What a rule may yield on a function: nothing without its annotation; the modes emitted for an
annotation that it reads, for this function; or a report of one that it cannot read. -/
inductive Yields (r : Rule) (f : FunctionDecl) : Collection → Prop
  | nothing (h : f.annotation? r.key = none) : Yields r f ⟨[], []⟩
  | records {a : Annotation} {ws : List UInt32} (ha : f.annotation? r.key = some a)
      (hws : r.extract a = .ok ws) : Yields r f ⟨(r.emit ws).map (KernelMode.mk f.id), []⟩
  | report {a : Annotation} {e : DecodeError} (ha : f.annotation? r.key = some a)
      (he : r.extract a = .error e) : Yields r f ⟨[], [⟨f.name, r.name, e⟩]⟩

/-- Whether a rule finds its annotation on a function. -/
def finds (r : Rule) (f : FunctionDecl) : Bool := (f.annotation? r.key).isSome

/-- Whether a rule finds its annotation on a function and reads it. -/
def reads (r : Rule) (f : FunctionDecl) : Bool :=
  (f.annotation? r.key).any fun a ↦ (r.extract a).isOk

/-- What a rule yields on a function. -/
def share (r : Rule) (f : FunctionDecl) : Collection := ⟨r.recordsOn f, (r.skippedOn? f).toList⟩

/-- **A rule yields one thing on a function.** -/
theorem yields_iff : r.Yields f c ↔ c = r.share f := by
  rw [share, recordsOn, skippedOn?]
  constructor
  · intro h
    cases h with
    | nothing ha => rw [ha]; rfl
    | records ha hws => simp only [ha, hws]; rfl
    | report ha he => simp only [ha, he]; rfl
  · rintro rfl
    cases ha : f.annotation? r.key with
    | none => exact .nothing ha
    | some a =>
      cases hws : r.extract a with
      | ok ws => simpa only [hws] using .records ha hws
      | error e => simpa only [hws] using .report ha hws

/-- An annotation that is found is read, or else it is reported. -/
theorem finds_eq_reads_add (r : Rule) (f : FunctionDecl) :
    (if r.finds f then 1 else 0) =
      (if r.reads f then 1 else 0) + (r.share f).skipped.length := by
  rw [finds, reads, share, skippedOn?]
  cases f.annotation? r.key with
  | none => rfl
  | some a => cases hws : r.extract a <;> simp [hws, Except.isOk, Except.toBool]

end Rule

namespace RuleGroup

variable {g : RuleGroup} {m : DeviceModule}

/-- The shares of the pairs of a kernel and a rule. -/
def shares (g : RuleGroup) (m : DeviceModule) : List Collection :=
  (m.kernels ×ˢ g.rules).map fun p ↦ p.2.share p.1

theorem forall₂_shares (g : RuleGroup) (m : DeviceModule) :
    List.Forall₂ (fun p c ↦ Rule.Yields p.2 p.1 c) (m.kernels ×ˢ g.rules) (g.shares m) :=
  List.forall₂_map_right_iff.2 (List.forall₂_same.2 fun _ _ ↦ Rule.yields_iff.2 rfl)

/-- Going through the shares is going through the kernels, and for each through the rules. -/
theorem flatMap_shares {α : Type} (c : Collection → List α) :
    (g.shares m).flatMap c = m.kernels.flatMap fun f ↦ g.rules.flatMap fun r ↦ c (r.share f) := by
  have hproduct : m.kernels ×ˢ g.rules = m.kernels.flatMap fun f ↦ g.rules.map (f, ·) := rfl
  rw [shares, List.flatMap_map, hproduct, List.flatMap_assoc]
  simp only [List.flatMap_map]

theorem records_collect (g : RuleGroup) (m : DeviceModule) :
    (g.collect m).value.records = (g.shares m).flatMap Collection.records := by
  rw [value_collect, flatMap_shares]
  rfl

theorem skipped_collect (g : RuleGroup) (m : DeviceModule) :
    (g.collect m).value.skipped = (g.shares m).flatMap Collection.skipped := by
  rw [value_collect, flatMap_shares]
  exact List.flatMap_congr fun f _ ↦ List.filterMap_eq_flatMap_toList _ _

/-- **No annotation is lost**: as many are found as are read and are reported. -/
theorem countP_finds (g : RuleGroup) (m : DeviceModule) :
    (m.kernels ×ˢ g.rules).countP (fun p ↦ p.2.finds p.1) =
      (m.kernels ×ˢ g.rules).countP (fun p ↦ p.2.reads p.1) +
        (g.collect m).value.skipped.length := by
  rw [skipped_collect, shares]
  induction m.kernels ×ˢ g.rules with
  | nil => rfl
  | cons p ps ih =>
    rw [List.countP_cons, List.countP_cons, List.map_cons, List.flatMap_cons, List.length_append,
      ih, p.2.finds_eq_reads_add p.1]
    omega

/-- Nothing changes if the functions that are no kernels are left out. -/
theorem collect_of_filter {m' : DeviceModule}
    (h : m'.functions = m.functions.filter (·.isKernel)) : g.collect m' = g.collect m := by
  have hkernels : m'.kernels = m.kernels := by
    rw [DeviceModule.kernels, h, List.filter_filter, DeviceModule.kernels]
    simp only [Bool.and_self]
  rw [collect, collect, hkernels]

/-- **Collecting goes through the functions one after the other.** -/
theorem value_collect_append {m₁ m₂ : DeviceModule}
    (h : m.functions = m₁.functions ++ m₂.functions) :
    (g.collect m).value = (g.collect m₁).value ++ (g.collect m₂).value := by
  have hkernels : m.kernels = m₁.kernels ++ m₂.kernels := by
    rw [DeviceModule.kernels, h, List.filter_append]
    rfl
  rw [value_collect, value_collect, value_collect, hkernels, recordsOf, List.flatMap_append,
    skippedOf, List.flatMap_append]
  rfl

/-- **A collection consists of the shares of its pairs**, whatever the table and the module are. It
is what the two loops leave behind, which tell of the same things. Each pair of a kernel and a rule
has one share in it, and in the order of kernels and rules the records of all shares make up the
records, and their reports the reports. Of the annotations that are found, those that are not read
are as many as the reports. Functions that are no kernels have no part in it; and what is collected
from two parts of a module makes up what is collected from the whole. -/
theorem collected_pair_by_pair (g : RuleGroup) (m : DeviceModule) :
    g.gather m = g.collect m ∧
    (∃ shares : List Collection,
      List.Forall₂ (fun p c ↦ Rule.Yields p.2 p.1 c) (m.kernels ×ˢ g.rules) shares ∧
      (g.collect m).value.records = shares.flatMap Collection.records ∧
      (g.collect m).value.skipped = shares.flatMap Collection.skipped) ∧
    (∀ f : FunctionDecl, ∀ r : Rule, ∃! c, r.Yields f c) ∧
    (m.kernels ×ˢ g.rules).countP (fun p ↦ p.2.finds p.1) =
      (m.kernels ×ˢ g.rules).countP (fun p ↦ p.2.reads p.1) +
        (g.collect m).value.skipped.length ∧
    (∀ m' : DeviceModule, m'.functions = m.functions.filter (·.isKernel) →
      g.collect m' = g.collect m) ∧
    ∀ m₁ m₂ : DeviceModule, m.functions = m₁.functions ++ m₂.functions →
      (g.collect m).value.records =
        (g.collect m₁).value.records ++ (g.collect m₂).value.records ∧
      (g.collect m).value.skipped =
        (g.collect m₁).value.skipped ++ (g.collect m₂).value.skipped := by
  refine ⟨gather_eq_collect g m, ⟨g.shares m, forall₂_shares g m, records_collect g m,
    skipped_collect g m⟩, fun f r ↦ ?_, countP_finds g m, fun m' ↦ collect_of_filter,
    fun m₁ m₂ h ↦ ?_⟩
  · exact ⟨r.share f, Rule.yields_iff.2 rfl, fun c hc ↦ Rule.yields_iff.1 hc⟩
  · rw [value_collect_append h]
    exact ⟨rfl, rfl⟩

/-- A table in which a rule stands twice, before and after another one of its name and key, which
takes one word and emits nothing. -/
def doubled : RuleGroup :=
  ⟨"doubled", [.localSize, ⟨"local-size", Rule.localSize.key, Annotation.scalar, fun _ ↦ []⟩,
    .localSize]⟩

/-- A function with a size. -/
def sized (id : FunctionId) (name : String) (convention : CallingConvention) (size : Node) :
    FunctionDecl :=
  ⟨id, name, [], convention, .empty, NameMap.ofList [("reqd_work_group_size", size)]⟩

/-- Two kernels, the second with a size that is no number. -/
def sizedKernels : DeviceModule :=
  ⟨none, [sized ⟨1⟩ "blur" .spirKernel (.ofWords [64, 1, 1]),
    sized ⟨2⟩ "sum" .spirKernel (.ofStrings ["x"])], .empty⟩

/-- A function with a size that is no kernel. -/
def sizedHelper : DeviceModule := ⟨none, [sized ⟨3⟩ "helper" .c (.ofWords [8, 8, 8])], .empty⟩

/-- The kernels and the other function in one module. -/
def sizedFunctions : DeviceModule :=
  { sizedKernels with functions := sizedKernels.functions ++ sizedHelper.functions }

/-- Both places of the rule yield records, none of the three rules hides another one's report, and
the function that is no kernel yields nothing. -/
theorem collected_pair_by_pair_doubled :
    sizedKernels.functions = sizedFunctions.functions.filter (·.isKernel) ∧
      doubled.collect sizedKernels = doubled.collect sizedFunctions ∧
      sizedFunctions.functions = sizedKernels.functions ++ sizedHelper.functions ∧
      (doubled.collect sizedFunctions).value.records =
        (doubled.collect sizedKernels).value.records ++
          (doubled.collect sizedHelper).value.records ∧
      (doubled.gather sizedFunctions).value =
        ⟨[⟨⟨1⟩, .localSize, [64, 1, 1]⟩, ⟨⟨1⟩, .localSize, [64, 1, 1]⟩],
          [⟨"sum", "local-size", .tooFewOperands 3 1⟩, ⟨"sum", "local-size", .notAnInteger 0⟩,
            ⟨"sum", "local-size", .tooFewOperands 3 1⟩]⟩ := by
  obtain ⟨hgather, -, -, -, hfilter, hparts⟩ := collected_pair_by_pair doubled sizedFunctions
  have hkernels : sizedKernels.functions = sizedFunctions.functions.filter (·.isKernel) := rfl
  refine ⟨hkernels, hfilter sizedKernels hkernels, rfl,
    (hparts sizedKernels sizedHelper rfl).1, ?_⟩
  rw [hgather]
  decide +kernel

end RuleGroup

end KernelMetadata
