import KernelMetadata.Proofs.EditHistory
import KernelMetadata.Proofs.Run

/-!
# What a run warns of

A run warns of three things only: of annotations that mark a kernel and refer to no function, of
rules that cannot read their annotations, and of a fault of the module that it leaves behind. The
last two are in the report, and the first is read off the module (`DeviceModule.ignoredMarks`), so
the warnings of a run are its report, in the order in which the run goes on
(`DeviceModule.warnings_transcribe`).

Everything else that a run does is quiet (`Quiet`). For edits of functions there is something to it:
an edit whose target no function has is warned of. Edits of a run have targets, since kernels are
planned only if they resolve, and no edit takes an identity away.
-/

namespace KernelMetadata

/-! ## Warnings among events -/

/-- The warnings among events. -/
def warnings (es : List Event) : List Event := es.filter fun e ↦ e.level = .warn

theorem warnings_append (es fs : List Event) : warnings (es ++ fs) = warnings es ++ warnings fs :=
  List.filter_append es fs

theorem warnings_eq_nil_iff {es : List Event} : warnings es = [] ↔ ∀ e ∈ es, e.level ≠ .warn := by
  simp [warnings]

theorem warnings_tell {e : Event} (h : e.level ≠ .warn) : warnings (Logged.tell e).events = [] :=
  warnings_eq_nil_iff.2 fun _ he ↦ List.mem_singleton.1 he ▸ h

/-- Whether a change of a module warns of nothing and keeps what is defined. -/
structure Quiet (m : DeviceModule) (x : Logged DeviceModule) : Prop where
  warnings_eq : warnings x.events = []
  defines_eq : x.value.defines = m.defines

namespace Quiet

variable {m : DeviceModule} {x : Logged DeviceModule}

theorem pure (m : DeviceModule) : Quiet m (Pure.pure m) := ⟨rfl, rfl⟩

/-- Changes that are quiet are quiet one after another. Of the module in between it is known what is
defined in it. -/
theorem bind {f : DeviceModule → Logged DeviceModule} (hx : Quiet m x)
    (hf : ∀ n : DeviceModule, n.defines = m.defines → Quiet n (f n)) : Quiet m (x >>= f) := by
  have hvalue := hf x.value hx.defines_eq
  refine ⟨?_, hvalue.defines_eq.trans hx.defines_eq⟩
  rw [Logged.events_bind, warnings_append, hx.warnings_eq, hvalue.warnings_eq, List.nil_append]

theorem tell {e : Event} (he : e.level ≠ .warn) (hx : Quiet m x) :
    Quiet m (Logged.tell e >>= fun _ ↦ x) := by
  refine ⟨?_, hx.defines_eq⟩
  rw [Logged.events_bind, warnings_append, warnings_tell he, hx.warnings_eq, List.nil_append]

end Quiet

/-! ## Edits -/

namespace DeviceModule

variable {m : DeviceModule}

/-- Whether a module has the function that an edit is meant for, if it is meant for one. -/
def HasTarget (m : DeviceModule) (e : Edit) : Prop := ∀ id ∈ e.target?, m.defines id = true

theorem hasTarget_of_target?_eq_none {e : Edit} (h : e.target? = none) : m.HasTarget e := by
  intro id hid
  rw [h] at hid
  cases hid

/-- Records are written for no function in particular. -/
@[simp] theorem hasTarget_edit (r : Record) : m.HasTarget r.edit := hasTarget_of_target?_eq_none rfl

@[simp] theorem hasTarget_write (name : String) (drafts : List Draft) :
    m.HasTarget (.write name drafts) := hasTarget_of_target?_eq_none rfl

@[simp] theorem hasTarget_erase (name : String) : m.HasTarget (.erase name) :=
  hasTarget_of_target?_eq_none rfl

theorem quiet_edit {e : Edit} (h : m.HasTarget e) : Quiet m (m.edit e) := by
  refine ⟨warnings_eq_nil_iff.2 fun event hevent ↦ ?_, Edit.defines_apply m e⟩
  rw [edit, Option.mem_toList] at hevent
  cases e with
  | write list drafts => cases hevent
  | erase list =>
    obtain ⟨ns, -, rfl⟩ := Option.map_eq_some_iff.1 hevent
    simp [Event.level]
  | setMetadata target key node =>
    obtain ⟨f, hf⟩ := Option.isSome_iff_exists.1 (h target rfl)
    rw [Edit.event?, hf] at hevent
    cases hevent
    simp [Event.level]
  | setConvention target convention =>
    obtain ⟨f, hf⟩ := Option.isSome_iff_exists.1 (h target rfl)
    rw [Edit.event?, hf] at hevent
    cases hevent

/-- **A run of edits is quiet** if a function is there for each, since none is taken away. -/
theorem quiet_replay {es : List Edit} (h : ∀ e ∈ es, m.HasTarget e) : Quiet m (m.replay es) := by
  induction es generalizing m with
  | nil => exact .pure m
  | cons e es ih =>
    rw [List.forall_mem_cons] at h
    refine (quiet_edit h.1).bind fun n hn ↦ ih ?_
    simp only [HasTarget, hn]
    exact h.2

theorem quiet_replay_records (m : DeviceModule) (rs : List Record) :
    Quiet m (m.replay (rs.map Record.edit)) := by
  refine quiet_replay fun e he ↦ ?_
  obtain ⟨r, -, rfl⟩ := List.mem_map.1 he
  exact hasTarget_edit r

/-! ## Carrying out a plan -/

theorem quiet_declareExtensions (names : List String) (m : DeviceModule) :
    Quiet m (Plan.declareExtensions names m) := by
  rw [Plan.declareExtensions]
  split_ifs
  · exact .pure m
  · exact .tell (by simp [Event.level]) (quiet_edit (hasTarget_edit _))

theorem quiet_markKernels {ks : List KernelArgs} (h : ∀ k ∈ ks, m.defines k.function = true) :
    Quiet m (Plan.markKernels m ks) := by
  induction ks generalizing m with
  | nil => exact .pure m
  | cons k ks ih =>
    rw [List.forall_mem_cons] at h
    have hedits : ∀ e ∈ k.edits, e.target? = some k.function := by
      simp only [KernelArgs.edits, List.forall_mem_cons]
      exact ⟨rfl, rfl, rfl, rfl, by simp⟩
    have hmark : Quiet m (m.replay k.edits) := by
      refine quiet_replay fun e he id hid ↦ ?_
      rw [hedits e he, Option.mem_some] at hid
      exact hid ▸ h.1
    refine .tell (by simp [Event.level]) (hmark.bind fun n hn ↦ ih ?_)
    rw [hn]
    exact h.2

theorem quiet_erasures (options : Options) (m : DeviceModule) :
    Quiet m (m.replay (Plan.erasures options)) := by
  refine quiet_replay ?_
  rw [Plan.erasures]
  split_ifs <;> simp

/-- **Carrying out a plan is quiet** if the planned kernels are functions of the module. -/
theorem quiet_carryOut {p : Plan} (options : Options)
    (h : ∀ k ∈ p.kernels, m.defines k.function = true) : Quiet m (p.carryOut options m) := by
  rw [Plan.carryOut]
  refine (quiet_edit (hasTarget_erase _)).bind fun n₁ hn₁ ↦ ?_
  refine (quiet_edit (hasTarget_edit _)).bind fun n₂ hn₂ ↦ ?_
  refine (quiet_declareExtensions p.extensions n₂).bind fun n₃ hn₃ ↦ ?_
  refine (quiet_erasures options n₃).bind fun n₄ hn₄ ↦ ?_
  refine quiet_markKernels ?_
  rwa [hn₄, hn₃, hn₂, hn₁]

/-! ## Annotations that are ignored -/

/-- Whether a node marks a kernel but refers to no function of the module: it has three operands,
the second is the mark, and the first is not a reference to a function. -/
def IgnoredMark (m : DeviceModule) (n : Node) : Prop :=
  n.operands.length = 3 ∧ n.operands[1]? = some (.string Vocabulary.kernelMark) ∧
    ∀ f ∈ m.functions, n.operands[0]? ≠ some (.function f.id)

instance (m : DeviceModule) (n : Node) : Decidable (m.IgnoredMark n) :=
  inferInstanceAs (Decidable (_ ∧ _ ∧ _))

/-- The places of such nodes in the list of annotations, if the module is for an NVPTX target. -/
def ignoredMarks (m : DeviceModule) : List Nat :=
  if m.isNvptx then
    ((m.nodes Vocabulary.nvptxAnnotations).zipIdx.filter fun n ↦ m.IgnoredMark n.1).map Prod.snd
  else []

theorem firstOperandFunction?_eq_none_iff {n : Node} :
    m.firstOperandFunction? n = none ↔
      ∀ f ∈ m.functions, n.operands[0]? ≠ some (.function f.id) := by
  obtain ⟨_ | ⟨o, os⟩⟩ := n
  · simp [firstOperandFunction?]
  · cases o with
    | function id =>
      simp [firstOperandFunction?, function?, List.find?_eq_none, eq_comm (a := id)]
    | int | string | undef => simp [firstOperandFunction?]

theorem ignoredMark_iff {n : Node} :
    m.IgnoredMark n ↔ n.marksKernel = true ∧ m.firstOperandFunction? n = none := by
  rw [IgnoredMark, ← and_assoc, firstOperandFunction?_eq_none_iff]
  refine and_congr_left fun _ ↦ ?_
  -- the mark matters only among three operands
  obtain ⟨_ | ⟨_, _ | ⟨mark, _ | ⟨_, _ | ⟨_, _⟩⟩⟩⟩⟩ := n
  · simp [Node.marksKernel]
  · simp [Node.marksKernel]
  · simp [Node.marksKernel]
  · cases mark <;> simp [Node.marksKernel]
  · simp [Node.marksKernel]

theorem warnings_annotatedKernels (h : m.isNvptx = true) :
    warnings m.annotatedKernels.events = m.ignoredMarks.map Event.annotationIgnored := by
  rw [annotatedKernels, kernelMarks, ignoredMarks, if_pos h, List.map_map, warnings,
    List.filter_filterMap, ← List.filterMap_eq_map, List.filterMap_filter, List.filterMap_filter]
  refine List.filterMap_congr fun n _ ↦ ?_
  simp only [ignoredMark_iff]
  cases n.1.marksKernel <;> cases m.firstOperandFunction? n.1 <;> simp [Event.level]

theorem warnings_describe (fs : List FunctionDecl) :
    warnings (fs.flatMap KernelArgs.events) = [] := by
  refine warnings_eq_nil_iff.2 fun e he ↦ ?_
  obtain ⟨f, -, he⟩ := List.mem_flatMap.1 he
  obtain ⟨p, -, rfl⟩ := List.mem_map.1 he
  simp [Event.level]

/-- What is warned of while a plan is made. -/
theorem warnings_prepare {t : Target} {plan : Logged Plan} (h : m.prepare = .ok (t, plan)) :
    warnings plan.events = m.ignoredMarks.map Event.annotationIgnored := by
  have ht := isFor_of_prepare h
  simp only [prepare, ht.triple, Plan.of, Plan.kernelsOf] at h
  by_cases harch : t.arch.isNvptx = true
  · obtain ⟨ns, hns⟩ := Option.isSome_iff_exists.1 (ht.annotated harch)
    simp only [harch, if_true, hns, Except.map, Except.ok.injEq, Prod.mk.injEq, true_and] at h
    rw [← h, warnings_append, warnings_describe, List.append_nil]
    exact warnings_annotatedKernels (ht.isNvptx_eq.trans harch)
  · have hnone : m.ignoredMarks = [] := by rw [ignoredMarks, ht.isNvptx_eq, if_neg harch]
    simp only [harch, Bool.false_eq_true, if_false, Except.map, Except.ok.injEq, Prod.mk.injEq,
      true_and] at h
    rw [← h, hnone]
    rfl

end DeviceModule

/-! ## Rules that are skipped -/

namespace RuleGroup

/-- The name of the group that has a rule. -/
def nameOf (rule : String) : String :=
  ((all.find? fun g ↦ (g.rule? rule).isSome).map RuleGroup.name).getD ""

/-- No two groups have a rule of one name. -/
theorem nameOf_eq {g : RuleGroup} (hg : g ∈ all) {r : Rule} (hr : r ∈ g.rules) :
    nameOf r.name = g.name := by
  have hall : ∀ g ∈ all, ∀ r ∈ g.rules, nameOf r.name = g.name := by decide
  exact hall g hg r hr

end RuleGroup

/-- The warning of a skipped rule. -/
def SkippedRule.warning (s : SkippedRule) : Event :=
  .ruleSkipped (RuleGroup.nameOf s.rule) s.rule s.function s.error

namespace RuleGroup

variable {g : RuleGroup}

theorem rule_mem_of_mem_attempts {fs : List FunctionDecl} {a : Attempt} (h : a ∈ g.attempts fs) :
    a.rule ∈ g.rules := by
  obtain ⟨f, -, ha⟩ := List.mem_flatMap.1 h
  obtain ⟨r, hr, ha⟩ := List.mem_filterMap.1 ha
  obtain ⟨outcome, -, rfl⟩ := Option.map_eq_some_iff.1 ha
  exact hr

/-- A group warns of the rules that it skips, in their order. -/
theorem warnings_collect (hg : g ∈ all) (m : DeviceModule) :
    warnings (g.collect m).events = (g.collect m).value.skipped.map SkippedRule.warning := by
  rw [collect, warnings, List.map_filterMap, ← List.filterMap_eq_map, ← List.filterMap_eq_filter,
    List.filterMap_filterMap]
  refine List.filterMap_congr fun a ha ↦ ?_
  have hname := nameOf_eq hg (rule_mem_of_mem_attempts ha)
  rw [Function.comp_apply, Option.bind_some, Attempt.event, Attempt.skipped?]
  cases a.outcome with
  | ok ks => simp [Event.level]
  | error e => simp [Event.level, SkippedRule.warning, hname]

theorem warnings_write (hg : g ∈ all) (m : DeviceModule) :
    warnings (g.write m).events = (g.write m).value.1.skipped.map SkippedRule.warning := by
  have hrecords := DeviceModule.quiet_replay_records m
    ((g.collect m).value.records.map Record.executionMode)
  rw [List.map_map] at hrecords
  have hwrites : warnings (m.replay ((g.collect m).value.records.map fun k ↦
      (Record.executionMode k).edit)).events = [] := hrecords.warnings_eq
  have hfinished : ∀ records skipped,
      warnings (Logged.tell (.groupFinished g.name records skipped)).events = [] :=
    fun _ _ ↦ warnings_tell (by simp [Event.level])
  simp only [write, Logged.events_bind, Logged.events_pure, Logged.value_bind, Logged.value_pure,
    warnings_append, warnings_collect hg, hfinished, hwrites, List.append_nil]

end RuleGroup

namespace DeviceModule

variable {options : Options} {m : DeviceModule}

/-! ## All warnings of a run -/

theorem warnings_verify (m : DeviceModule) : warnings m.verify.events = [] := by
  rw [verify]
  split
  · rfl
  · rfl

/-- The warnings of the part of a run that changes the module. -/
theorem warnings_carryOut {plan : Logged Plan} (options : Options) (t : Target)
    (h : ∀ k ∈ plan.value.kernels, m.defines k.function = true) :
    warnings (m.carryOut options t plan).events =
      warnings plan.events ++
        (m.carryOut options t plan).value.1.skipped.map SkippedRule.warning ++
        (m.carryOut options t plan).value.1.violation.toList.map Event.verificationFailed := by
  have hplan := (quiet_carryOut options h).warnings_eq
  have hdeclare : ∀ n : DeviceModule, warnings (n.replay
      [Record.spir.edit, Record.openCL.edit, .write Vocabulary.executionModes []]).events = [] := by
    intro n
    exact (quiet_replay (by simp)).warnings_eq
  have hviolation : ∀ v? : Option Violation, warnings (v?.toList.map Event.verificationFailed) =
      v?.toList.map Event.verificationFailed := by
    intro v?
    cases v? <;> rfl
  have hstarted : warnings (Logged.tell (.transcriptionStarted t.triple)).events = [] :=
    warnings_tell (by simp [Event.level])
  have hfinished : ∀ kernels records skipped, warnings (Logged.tell
      (.transcriptionFinished kernels records skipped)).events = [] :=
    fun _ _ _ ↦ warnings_tell (by simp [Event.level])
  simp only [carryOut, Logged.events_bind, Logged.events_pure, Logged.value_bind,
    Logged.value_pure, warnings_append, hplan, hdeclare, hviolation, hstarted, hfinished,
    warnings_verify, RuleGroup.warnings_write RuleGroup.openCL_mem_all,
    RuleGroup.warnings_write RuleGroup.vectorCompute_mem_all, List.nil_append, List.append_nil,
    List.map_append, List.append_assoc]

/-- The kernels that are planned are functions of the module. -/
theorem defines_of_mem_plannedKernels {k : KernelArgs} (h : k ∈ m.plannedKernels) :
    m.defines k.function = true := by
  rw [plannedKernels] at h
  split_ifs at h
  · obtain ⟨f, hf, rfl⟩ := List.mem_map.1 h
    exact Option.isSome_iff_exists.2 ⟨f, function?_of_mem_annotatedKernels hf⟩
  · exact absurd h List.not_mem_nil

/-- What a run that succeeds warns of. -/
theorem warnings_of_outcome {report : Report} (h : (m.transcribe options).outcome = .ok report) :
    warnings (m.transcribe options).events =
      m.ignoredMarks.map Event.annotationIgnored ++ report.skipped.map SkippedRule.warning ++
        report.violation.toList.map Event.verificationFailed := by
  rw [transcribe] at h ⊢
  cases hprepare : m.prepare with
  | error e =>
    rw [hprepare] at h
    cases h
  | ok p =>
    obtain ⟨t, plan⟩ := p
    rw [hprepare] at h
    obtain ⟨plan', hplan', hvalue⟩ := exists_prepare_of_isFor (isFor_of_prepare hprepare)
    obtain rfl : plan' = plan := by simpa [hprepare] using hplan'.symm
    have hkernels : ∀ k ∈ plan'.value.kernels, m.defines k.function = true := by
      rw [hvalue]
      exact fun k hk ↦ defines_of_mem_plannedKernels hk
    cases h
    rw [← warnings_prepare hprepare]
    exact warnings_carryOut options t hkernels

/-- No run warns of anything but annotations, rules and faults. -/
theorem notMem_events {e : Event} (options : Options) (m : DeviceModule) (hwarn : e.level = .warn)
    (hignored : ∀ i, e ≠ .annotationIgnored i) (hskipped : ∀ s, e ≠ SkippedRule.warning s)
    (hfailed : ∀ v, e ≠ .verificationFailed v) : e ∉ (m.transcribe options).events := by
  intro he
  cases houtcome : (m.transcribe options).outcome with
  | error error =>
    rw [transcribe_eq_of_error houtcome] at he
    exact List.not_mem_nil he
  | ok report =>
    have hmem : e ∈ warnings (m.transcribe options).events :=
      List.mem_filter.2 ⟨he, decide_eq_true hwarn⟩
    rw [warnings_of_outcome houtcome, List.mem_append, List.mem_append] at hmem
    rcases hmem with (hmem | hmem) | hmem
    · obtain ⟨i, -, rfl⟩ := List.mem_map.1 hmem
      exact hignored i rfl
    · obtain ⟨s, -, rfl⟩ := List.mem_map.1 hmem
      exact hskipped s rfl
    · obtain ⟨v, -, rfl⟩ := List.mem_map.1 hmem
      exact hfailed v rfl

/-- **A run warns of what it reports.** The warnings of a run that succeeds are one for each
annotation that marks a kernel and refers to no function of the module, with its place in the whole
list and for NVPTX targets only; one for each skipped rule of the report, in the same order and with
the same function, rule and error, under the name of the group that has the rule; and one for the
fault of the report, if there is one. No run, whether it succeeds or fails, comes to attach metadata
to a function that is not there, or to set its convention. -/
theorem warnings_transcribe (options : Options) (m : DeviceModule) :
    (∀ report, (m.transcribe options).outcome = .ok report →
      warnings (m.transcribe options).events =
        m.ignoredMarks.map Event.annotationIgnored ++
          report.skipped.map SkippedRule.warning ++
          report.violation.toList.map Event.verificationFailed) ∧
      (∀ key target, .metadataWithoutFunction key target ∉ (m.transcribe options).events) ∧
      (∀ target, .conventionWithoutFunction target ∉ (m.transcribe options).events) ∧
      (∀ i, (Event.annotationIgnored i).message = "Skipping !nvvm.annotations[" ++ Text.decimal i ++
        "]: operand 0 is not a function of the module") ∧
      (∀ g ∈ RuleGroup.all, ∀ r ∈ g.rules, ∀ function error,
        (SkippedRule.warning ⟨function, r.name, error⟩).message = "[" ++ g.name ++ "] Skipping " ++
          r.name ++ " on @" ++ function ++ ": " ++ error.message) ∧
      ∀ v, (Event.verificationFailed v).message =
        "Transcoded module failed verification: " ++ v.message := by
  refine ⟨fun report h ↦ warnings_of_outcome h, fun key target ↦ ?metadata,
    fun target ↦ ?convention, fun i ↦ ?ignored, fun g hg r hr function error ↦ ?skipped,
    fun v ↦ rfl⟩
  case metadata =>
    exact notMem_events options m rfl (by simp) (by simp [SkippedRule.warning]) (by simp)
  case convention =>
    exact notMem_events options m rfl (by simp) (by simp [SkippedRule.warning]) (by simp)
  case ignored => rfl
  case skipped =>
    rw [SkippedRule.warning, RuleGroup.nameOf_eq hg hr]
    rfl

/-- A module with something to warn of in each way: marks of no function before and after that of a
function, rules of both groups that are skipped on it, and a dangling reference. -/
def troubled : DeviceModule where
  triple := some "nvptx64"
  functions := [⟨⟨1⟩, "scale", [], .c, NameMap.ofList [("VCSLMSize", "x")],
    NameMap.ofList [("max_global_work_dim", .ofStrings ["3"])]⟩]
  lists := NameMap.ofList [(Vocabulary.nvptxAnnotations, [
    ⟨[.string "scale", .string "kernel", .word 1]⟩, ⟨[.function ⟨1⟩, .string "kernel", .word 1]⟩,
    ⟨[.function ⟨1⟩, .string "maxntidx", .word 64]⟩, ⟨[.function ⟨9⟩, .string "kernel", .word 1]⟩])]

/-- The report on `troubled`. -/
def troubledReport : Report :=
  ⟨[⟨1⟩], 0,
    [⟨"scale", "max-work-dim", .notAnInteger 0⟩, ⟨"scale", "vc-slm-size", .invalidInteger "x"⟩],
    some (.danglingReference (.list "nvvm.annotations" 3) ⟨9⟩)⟩

theorem warnings_transcribe_troubled :
    (troubled.transcribe .default).outcome = .ok troubledReport ∧
      warnings (troubled.transcribe .default).events =
        [.annotationIgnored 0, .annotationIgnored 3,
          .ruleSkipped "opencl" "max-work-dim" "scale" (.notAnInteger 0),
          .ruleSkipped "vector-compute" "vc-slm-size" "scale" (.invalidInteger "x"),
          .verificationFailed (.danglingReference (.list "nvvm.annotations" 3) ⟨9⟩)] := by
  have h : (troubled.transcribe .default).outcome = .ok troubledReport := by decide +kernel
  refine ⟨h, ?_⟩
  rw [(warnings_transcribe .default troubled).1 _ h]
  decide +kernel

end DeviceModule

end KernelMetadata
