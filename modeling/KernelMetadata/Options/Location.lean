import KernelMetadata.Options.Document

/-!
# Where options are kept

The environment tells where the options file stands: either directly, or by the directory of
configurations, or by the home directory. What stands there may be nothing, a directory, or a file
of bytes.
-/

namespace KernelMetadata.Options

/-- The variables that tell where options are kept, as far as they are set. -/
structure Environment where
  /-- The path of the options file itself. -/
  optionsPath : Option String
  /-- The directory of configurations. -/
  configHome : Option String
  /-- The home directory. -/
  home : Option String

/-- The environment of a process, given by the values of the variables that are set. -/
def Environment.ofVariables (value? : String → Option String) : Environment :=
  ⟨value? "SPVMD_CONFIG_PATH", value? "XDG_CONFIG_HOME", value? "HOME"⟩

/-- Puts a relative path below another, with a separator where one is needed. -/
def join (base name : String) : String :=
  if base = "" ∨ base.toList.getLast? = some '/' then base ++ name else base ++ "/" ++ name

/-- The path of the options file. -/
def Environment.path (e : Environment) : String :=
  match e.optionsPath with
  | some path => path
  | none =>
    let base :=
      match e.configHome, e.home with
      | some directory, _ => directory
      | none, some home => join home ".config"
      | none, none => ""
    join (join base "spvmd") "options.toml"

/-- What stands at a path. -/
inductive Place where
  | nothing
  | directory
  | file (bytes : ByteArray)

/-- Why options could not be read. -/
inductive LoadError where
  | notFound
  | isADirectory
  | invalidText
  | malformed
  deriving DecidableEq

/-- Reads the options file at a path. -/
def load : Place → Except LoadError Options
  | .nothing => .error .notFound
  | .directory => .error .isADirectory
  | .file bytes =>
    match String.fromUTF8? bytes with
    | none => .error .invalidText
    | some document =>
      match ofToml? document with
      | none => .error .malformed
      | some options => .ok options

/-- Reads the options file at a path, or takes the default where there is no file. -/
def loadOrDefault : Place → Except LoadError Options
  | .nothing | .directory => .ok default
  | .file bytes => load (.file bytes)

end KernelMetadata.Options
