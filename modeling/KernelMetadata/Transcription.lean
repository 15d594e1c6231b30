import KernelMetadata.KernelMarking
import KernelMetadata.Rule.Dialects

/-!
# Transcription

A transcription turns the annotations of a module into canonical metadata. In this order, it makes a
plan and carries it out, writes the two versions, opens the list of execution modes, lets each group
of rules write the execution modes of the kernels, and verifies the module that results.

Everything that can fail is looked at before the module is changed, so a transcription that fails
leaves the module as it was and tells nothing (`transcribe_eq_of_error`).
-/

namespace KernelMetadata

/-- The summary of a transcription. -/
structure Report where
  kernels : List FunctionId
  recordsEmitted : Nat
  skipped : List SkippedRule
  violation : Option Violation
  deriving DecidableEq

/-- What a transcription leaves behind. -/
structure Transcription where
  outcome : Except TranscriptionError Report
  result : DeviceModule
  events : List Event

namespace RuleGroup

/-- Collects the execution modes of the kernels of a module and writes them. -/
def write (g : RuleGroup) (m : DeviceModule) : Logged (Collection × DeviceModule) := do
  let c ← g.collect m
  Logged.tell (.groupFinished g.name c.records.length c.skipped.length)
  let m ← m.replay (c.records.map fun k ↦ (Record.executionMode k).edit)
  pure (c, m)

end RuleGroup

namespace DeviceModule

/-- The target of a module and the plan for it. -/
def prepare (m : DeviceModule) : Except TranscriptionError (Target × Logged Plan) :=
  match Target.ofTriple m.triple with
  | .error e => .error e
  | .ok t => (Plan.of m t).map fun p ↦ (t, p)

/-- The part of a transcription that changes the module. -/
def carryOut (options : Options) (m : DeviceModule) (t : Target) (plan : Logged Plan) :
    Logged (Report × DeviceModule) := do
  let plan ← plan
  Logged.tell (.transcriptionStarted t.triple)
  let m ← plan.carryOut options m
  let m ← m.replay [Record.spir.edit, Record.openCL.edit, .write Vocabulary.executionModes []]
  let kernels := m.kernels.map FunctionDecl.id
  let (cl, m) ← RuleGroup.openCL.write m
  let (vc, m) ← RuleGroup.vectorCompute.write m
  let violation ← m.verify
  let events := violation.toList.map Event.verificationFailed
  let emitted := cl.records.length + vc.records.length
  let skipped := cl.skipped ++ vc.skipped
  (⟨(), events⟩ : Logged Unit)
  Logged.tell (.transcriptionFinished kernels.length emitted skipped.length)
  pure (⟨kernels, emitted, skipped, violation⟩, m)

/-- Transcribes a module. -/
def transcribe (options : Options) (m : DeviceModule) : Transcription :=
  match m.prepare with
  | .error e => ⟨.error e, m, []⟩
  | .ok (t, plan) =>
    let done := m.carryOut options t plan
    ⟨.ok done.value.1, done.value.2, done.events⟩

/-- A transcription that fails changes nothing and tells nothing. -/
theorem transcribe_eq_of_error {options : Options} {m : DeviceModule} {e : TranscriptionError}
    (h : (m.transcribe options).outcome = .error e) : m.transcribe options = ⟨.error e, m, []⟩ := by
  rw [transcribe] at h ⊢
  split at h
  · next hm =>
    cases h
    rfl
  · cases h

end DeviceModule

end KernelMetadata
