import KernelMetadata.Annotation.Error
import KernelMetadata.DeviceModule.Verify
import KernelMetadata.Vocabulary.Names

/-!
# Events

What is worth telling about a transcription while it goes on. An event carries its data; its level
and its message are functions of the event (`Event.level`, `Event.message`).

`Logged α` is a value together with the events on the way to it. Computations are sequenced by
running them in order and joining their events.
-/

namespace KernelMetadata

/-- How much attention an event deserves. -/
inductive Level where
  | warn
  | info
  | debug
  | trace
  deriving DecidableEq

/-- The name of a level. -/
def Level.text : Level → String
  | warn => "WARN"
  | info => "INFO"
  | debug => "DEBUG"
  | trace => "TRACE"

/-- Something that happened. -/
inductive Event where
  | listErased (name : String)
  | metadataAttached (key : String) (node : Node) (function : String)
  | metadataWithoutFunction (key : String) (target : FunctionId)
  | conventionWithoutFunction (target : FunctionId)
  | annotationIgnored (index : Nat)
  | argumentUnnamed (param : String) (type : Ty) (function : String)
  | transcriptionStarted (triple : String)
  | extensionsDeclared (count : Nat)
  | kernelMarked (target : FunctionId)
  | ruleApplied (group rule : String) (records : Nat) (function : String)
  | ruleSkipped (group rule function : String) (error : DecodeError)
  | groupFinished (group : String) (records skipped : Nat)
  | verified (functions lists : Nat)
  | verificationFailed (violation : Violation)
  | transcriptionFinished (kernels records skipped : Nat)
  deriving DecidableEq

namespace Event

/-- The level of an event. -/
def level : Event → Level
  | metadataWithoutFunction .. | conventionWithoutFunction .. | annotationIgnored .. |
    ruleSkipped .. | verificationFailed .. => .warn
  | transcriptionFinished .. => .info
  | argumentUnnamed .. | transcriptionStarted .. | extensionsDeclared .. | groupFinished .. |
    verified .. => .debug
  | listErased .. | metadataAttached .. | kernelMarked .. | ruleApplied .. => .trace

/-- The message of an event. -/
def message : Event → String
  | listErased name => "Erased named metadata !" ++ name
  | metadataAttached key node function =>
    "Attached !" ++ key ++ " " ++ node.text ++ " to @" ++ function
  | metadataWithoutFunction key target =>
    "Cannot attach !" ++ key ++ " to undefined function " ++ target.text
  | conventionWithoutFunction target =>
    "Cannot set calling convention of undefined function " ++ target.text
  | annotationIgnored index =>
    "Skipping !" ++ Vocabulary.nvptxAnnotations ++ "[" ++ Text.decimal index ++
      "]: operand 0 is not a function of the module"
  | argumentUnnamed param type function =>
    "No kernel_arg_type entry for %" ++ param ++ ": " ++ type.text ++ " in @" ++ function
  | transcriptionStarted triple => "Transcoding module for " ++ triple
  | extensionsDeclared count => "Declaring " ++ Text.decimal count ++ " source extensions"
  | kernelMarked target => "Marking " ++ target.text ++ " as a kernel"
  | ruleApplied group rule records function =>
    "[" ++ group ++ "] " ++ rule ++ " produced " ++ Text.decimal records ++ " records for @" ++
      function
  | ruleSkipped group rule function error =>
    "[" ++ group ++ "] Skipping " ++ rule ++ " on @" ++ function ++ ": " ++ error.message
  | groupFinished group records skipped =>
    "[" ++ group ++ "] " ++ Text.decimal records ++ " execution modes, " ++
      Text.decimal skipped ++ " skipped rules"
  | verified functions lists =>
    "Verified module with " ++ Text.decimal functions ++ " functions and " ++
      Text.decimal lists ++ " named metadata lists"
  | verificationFailed violation =>
    "Transcoded module failed verification: " ++ violation.message
  | transcriptionFinished kernels records skipped =>
    "Transcoded " ++ Text.decimal kernels ++ " kernels into " ++ Text.decimal records ++
      " execution modes (" ++ Text.decimal skipped ++ " skipped rules)"

/-- An event as a line: its level and its message. -/
def line (e : Event) : String := e.level.text ++ " " ++ e.message

end Event

/-- A value with the events on the way to it. -/
structure Logged (α : Type) where
  value : α
  events : List Event

namespace Logged

variable {α β : Type}

/-- Continues with the value, after the events so far. -/
def bind (x : Logged α) (f : α → Logged β) : Logged β :=
  ⟨(f x.value).value, x.events ++ (f x.value).events⟩

instance : Monad Logged where
  pure a := ⟨a, []⟩
  bind := bind

/-- Tells one event. -/
def tell (e : Event) : Logged Unit := ⟨(), [e]⟩

@[simp] theorem value_pure (a : α) : (pure a : Logged α).value = a := rfl

@[simp] theorem events_pure (a : α) : (pure a : Logged α).events = [] := rfl

@[simp] theorem value_bind (x : Logged α) (f : α → Logged β) :
    (x >>= f).value = (f x.value).value := rfl

@[simp] theorem events_bind (x : Logged α) (f : α → Logged β) :
    (x >>= f).events = x.events ++ (f x.value).events := rfl

end Logged

namespace DeviceModule

/-- Looks for the first fault of a module, and tells of a module without one. -/
def verify (m : DeviceModule) : Logged (Option Violation) :=
  match m.violation? with
  | some v => ⟨some v, []⟩
  | none => ⟨none, [.verified m.functions.length m.lists.size]⟩

@[simp] theorem value_verify (m : DeviceModule) : m.verify.value = m.violation? := by
  rw [verify]
  split <;> simp [*]

end DeviceModule

end KernelMetadata
