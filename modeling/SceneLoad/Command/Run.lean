import SceneLoad.Command.Arguments
import SceneLoad.Scene.Report

/-!
# Running commands

`Command.run` carries out a command on files that are given as a function from paths to contents,
and gives what is printed. `Program.run` is the whole program: arguments and environment in, output
and exit code out.
-/

namespace SceneLoad

/-- Why a file cannot be read as text. -/
inductive FileFault where
  | notFound
  | isDirectory
  | notUtf8
  /-- Any other reason, as the system words it. -/
  | other (message : String)
deriving DecidableEq

def FileFault.message : FileFault → String
  | .notFound => "No such file or directory (os error 2)"
  | .isDirectory => "Is a directory (os error 21)"
  | .notUtf8 => "stream did not contain valid UTF-8"
  | .other message => message

/-- The contents of files by path. -/
abbrev Files := String → Except FileFault ByteArray

/-- Why a command fails. -/
inductive RunError where
  | unreadable (path : String) (fault : FileFault)
  | invalid (path : String) (error : DocumentError)
deriving DecidableEq

def RunError.message : RunError → String
  | .unreadable path fault => "failed to read scene file '" ++ path ++ "': " ++ fault.message
  | .invalid path error => "failed to parse scene file '" ++ path ++ "': " ++ error.message

/-- Reads the document in a file. -/
def Document.readFile (files : Files) (path : String) : Except RunError Document :=
  match files path with
  | .error fault => .error (.unreadable path fault)
  | .ok bytes =>
    match String.fromUTF8? bytes with
    | none => .error (.unreadable path .notUtf8)
    | some text => (Document.parse text).mapError (.invalid path)

/-- Lines, each ended by a line feed. -/
def printLines (lines : List String) : String := String.join (lines.map (· ++ "\n"))

/-- The line of a diagnostic. -/
def Diagnostic.line (diagnostic : Diagnostic) : String := "diagnostic " ++ diagnostic.render

/-- The line of a prefab definition. -/
def Definition.line (definition : Definition) : String :=
  let dependencies := if definition.dependencies.isEmpty then "-"
    else String.intercalate "," definition.dependencies
  "prefab=" ++ definition.id ++ " version=" ++ toString definition.version.toNat ++ " nodes=" ++
    toString definition.root.nodeCount ++ " dependencies=" ++ dependencies

/-- A truth value as it is printed. -/
def showBool (value : Bool) : String := if value then "true" else "false"

/-- The line of a component kind. -/
def Capabilities.line (kind : String) (capabilities : Capabilities) : String :=
  "kind=" ++ kind ++ " affects_rendering=" ++ showBool capabilities.affectsRendering ++ " pass=" ++
    capabilities.requiredPass.getD "-" ++ " stable=" ++ showBool capabilities.stable

namespace Command

/-- Carries out a command and gives what it prints. -/
def run (files : Files) (supply : KeySupply) (format : OutputFormat) (config : LoadConfig) :
    Command → Except RunError String
  | .load path =>
    match Document.readFile files path with
    | .error error => .error error
    | .ok document =>
      let loader : Loader := { decoders := .standard, config }
      let (report, diagnostics) := loader.load document (.startingAt 0) supply
      match format with
      | .text => .ok (printLines (report.render :: diagnostics.map Diagnostic.line))
      | .json => .ok (printLines [(report.toJson diagnostics).pretty])
  | .prefabs path =>
    match Document.readFile files path with
    | .error error => .error error
    | .ok document =>
      let (registry, diagnostics) := PrefabRegistry.ofJson document.prefabs
      .ok (printLines (registry.toList.map Definition.line ++ diagnostics.map Diagnostic.line))
  | .capabilities =>
    let registry := DecoderRegistry.standard
    .ok <| printLines <| registry.registeredKinds.filterMap fun kind =>
      (registry.capabilities? kind).map fun capabilities => capabilities.line kind

end Command

/-- What the program leaves behind. -/
structure Exit where
  code : Nat
  stdout : String := ""
  stderr : String := ""
deriving DecidableEq

namespace Program

/-- The end of a run that failed. -/
def failure (message : String) : Exit := { code := 1, stderr := message ++ "\n" }

/-- Runs the program on its arguments and the value of `maxDepthVariable`. -/
def run (files : Files) (supply : KeySupply) (arguments : List String)
    (environment : Option String) : Exit :=
  match Invocation.parse arguments with
  | .error error => failure error.message
  | .ok .help => { code := 0, stdout := usageText ++ "\n" }
  | .ok (.run options command) =>
    match command.config options.maxDepth environment with
    | .error error => failure error.message
    | .ok config =>
      match command.run files supply options.format config with
      | .error error => failure error.message
      | .ok output => { code := 0, stdout := output }

end Program

end SceneLoad
