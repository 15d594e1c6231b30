import KernelMetadata.Annotation.Basic
import KernelMetadata.Record

/-!
# Rules

A rule turns one annotation of a kernel into execution modes: it knows where the annotation stands,
how to read it as words, and which modes the words stand for. Rules are grouped by the dialect of
their annotations. A group tries its rules, in the order of its table, on every kernel, in the order
of the module; a rule that cannot read its annotation is skipped on that kernel, and nothing else is
lost.

Everything that a group yields is read off the list of its attempts (`RuleGroup.attempts`).
-/

namespace KernelMetadata

/-- How one annotation turns into execution modes. -/
structure Rule where
  name : String
  key : AnnotationKey
  extract : Annotation → Except DecodeError (List UInt32)
  emit : List UInt32 → List ModeEntry

/-- A table of rules for one dialect. -/
structure RuleGroup where
  name : String
  rules : List Rule

/-- A rule that could not read its annotation on a function. -/
structure SkippedRule where
  function : String
  rule : String
  error : DecodeError
  deriving DecidableEq

namespace Rule

/-- The execution modes of an annotation. -/
def modes (r : Rule) (a : Annotation) : Except DecodeError (List ModeEntry) :=
  (r.extract a).map r.emit

/-- Applies a rule to a function; without the annotation there is nothing to apply it to. -/
def applyTo (r : Rule) (f : FunctionDecl) : Option (Except DecodeError (List KernelMode)) :=
  (f.annotation? r.key).map fun a ↦ (r.modes a).map fun es ↦ es.map (KernelMode.mk f.id)

/-- The emission of one execution mode that takes all the words as operands. -/
def single (mode : ExecutionMode) (ws : List UInt32) : List ModeEntry := [⟨mode, ws⟩]

end Rule

/-- What came of one rule on one function. -/
structure Attempt where
  function : FunctionDecl
  rule : Rule
  outcome : Except DecodeError (List KernelMode)

namespace Attempt

/-- The records of a successful attempt. -/
def records (a : Attempt) : List KernelMode :=
  match a.outcome with
  | .ok ks => ks
  | .error _ => []

/-- The report of a failed attempt. -/
def skipped? (a : Attempt) : Option SkippedRule :=
  match a.outcome with
  | .ok _ => none
  | .error e => some ⟨a.function.name, a.rule.name, e⟩

/-- What an attempt tells. -/
def event (group : String) (a : Attempt) : Event :=
  match a.outcome with
  | .ok ks => .ruleApplied group a.rule.name ks.length a.function.name
  | .error e => .ruleSkipped group a.rule.name a.function.name e

end Attempt

/-- What a group of rules yields on a module. -/
structure Collection where
  records : List KernelMode
  skipped : List SkippedRule
  deriving DecidableEq

namespace RuleGroup

/-- The attempts of a group on one function, rule by rule. -/
def attemptsOn (g : RuleGroup) (f : FunctionDecl) : List Attempt :=
  g.rules.filterMap fun r ↦ (r.applyTo f).map fun outcome ↦ ⟨f, r, outcome⟩

/-- The attempts of a group on functions, one function after the other. -/
def attempts (g : RuleGroup) (fs : List FunctionDecl) : List Attempt := fs.flatMap g.attemptsOn

/-- Applies the rules of a group to the kernels of a module. -/
def collect (g : RuleGroup) (m : DeviceModule) : Logged Collection :=
  let attempts := g.attempts m.kernels
  ⟨⟨attempts.flatMap Attempt.records, attempts.filterMap Attempt.skipped?⟩,
    attempts.map (Attempt.event g.name)⟩

theorem attempts_append (g : RuleGroup) (fs fs' : List FunctionDecl) :
    g.attempts (fs ++ fs') = g.attempts fs ++ g.attempts fs' :=
  List.flatMap_append

end RuleGroup

end KernelMetadata
