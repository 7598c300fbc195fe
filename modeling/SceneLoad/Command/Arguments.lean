import SceneLoad.Scene.Load
import SceneLoad.Text.Blank
import SceneLoad.Text.Index

/-!
# Command lines

A command line is a sequence of options, each with a value, and then a command with its arguments.
`Invocation.parse` reads it; `Command.config` settles the load settings from the `--max-depth`
option and the environment.
-/

namespace SceneLoad

/-- How a load is reported. -/
inductive OutputFormat where
  | text
  | json
deriving DecidableEq

/-- What the program is asked to do. -/
inductive Command where
  | load (path : String)
  | prefabs (path : String)
  | capabilities
deriving DecidableEq

/-- The environment variable with the depth limit. -/
def maxDepthVariable : String := "SCENE_MAX_PREFAB_DEPTH"

/-- Why a command line or its environment is refused. -/
inductive UsageError where
  | noArguments
  | missingValue (option : String)
  | badDepth (value : String)
  | badDepthVariable (value : String)
  | badFormat (value : String)
  | missingCommand
  | unknownCommand (name : String)
  | missingPath (command : String)
  | extraPaths (command : String)
  | capabilitiesArguments
deriving DecidableEq

/-- What the program says about its use. -/
def usageText : String :=
  String.intercalate "\n"
    ["scene_cli - decode scene documents and expand prefab instances",
      "",
      "Usage:",
      "  scene_cli [--max-depth <usize>] [--format <text|json>] load <scene.json>",
      "  scene_cli [--max-depth <usize>] prefabs <scene.json>",
      "  scene_cli capabilities",
      "",
      "Defaults:",
      "  --max-depth 64 (or " ++ maxDepthVariable ++ ")",
      "  --format text"]

def UsageError.message : UsageError → String
  | .noArguments => usageText
  | .missingValue option => "missing value for " ++ option
  | .badDepth value => "invalid --max-depth value '" ++ value ++ "' (expected usize)"
  | .badDepthVariable value =>
    "invalid " ++ maxDepthVariable ++ " value '" ++ value ++ "' (expected usize)"
  | .badFormat value => "invalid --format value '" ++ value ++ "' (expected text|json)"
  | .missingCommand => "missing subcommand"
  | .unknownCommand name => "unknown subcommand '" ++ name ++ "'"
  | .missingPath command => command ++ " requires a scene file path"
  | .extraPaths command => command ++ " takes exactly one scene file path"
  | .capabilitiesArguments => "capabilities takes no arguments"

/-- The format that a word names. -/
def OutputFormat.parse : String → Except UsageError OutputFormat
  | "text" => .ok .text
  | "json" => .ok .json
  | other => .error (.badFormat other)

/-- The options before a command. -/
structure Options where
  maxDepth : Option Nat := none
  format : OutputFormat := .text
deriving DecidableEq

/-- A command line made out. -/
inductive Invocation where
  | help
  | run (options : Options) (command : Command)
deriving DecidableEq

namespace Options

/-- Reads options from the front; a later one overrides an earlier one. -/
def parse (options : Options) : List String → Except UsageError (Options × List String)
  | "--max-depth" :: value :: rest =>
    match Text.parseIndex value with
    | some depth => parse { options with maxDepth := some depth } rest
    | none => .error (.badDepth value)
  | "--format" :: value :: rest =>
    match OutputFormat.parse value with
    | .ok format => parse { options with format } rest
    | .error error => .error error
  | ["--max-depth"] => .error (.missingValue "--max-depth")
  | ["--format"] => .error (.missingValue "--format")
  | arguments => .ok (options, arguments)

end Options

namespace Command

/-- The only argument of a command that takes a path. -/
def path (command : String) : List String → Except UsageError String
  | [path] => .ok path
  | [] => .error (.missingPath command)
  | _ => .error (.extraPaths command)

/-- Reads a command and its arguments. -/
def parse : List String → Except UsageError Command
  | [] => .error .missingCommand
  | "load" :: arguments => (path "load" arguments).map load
  | "prefabs" :: arguments => (path "prefabs" arguments).map prefabs
  | "capabilities" :: arguments =>
    if arguments.isEmpty then .ok capabilities else .error .capabilitiesArguments
  | name :: _ => .error (.unknownCommand name)

/-- The load settings from an option and the environment. The option wins; a blank environment value
counts as none. -/
def resolveConfig (flag : Option Nat) (environment : Option String) :
    Except UsageError LoadConfig :=
  match flag, environment.map Text.trim with
  | some depth, _ => .ok { maxPrefabDepth := depth }
  | none, none => .ok {}
  | none, some value =>
    if value = "" then .ok {}
    else
      match Text.parseIndex value with
      | some depth => .ok { maxPrefabDepth := depth }
      | none => .error (.badDepthVariable value)

/-- The load settings of a command. Only commands that read a scene file look at any. -/
def config (flag : Option Nat) (environment : Option String) :
    Command → Except UsageError LoadConfig
  | .load _ => resolveConfig flag environment
  | .prefabs _ => resolveConfig flag environment
  | .capabilities => .ok {}

end Command

namespace Invocation

/-- Reads a command line. Help is asked for by the first argument only. -/
def parse : List String → Except UsageError Invocation
  | [] => .error .noArguments
  | "-h" :: _ => .ok .help
  | "--help" :: _ => .ok .help
  | arguments =>
    match Options.parse {} arguments with
    | .error error => .error error
    | .ok (options, rest) => (Command.parse rest).map (run options)

end Invocation

end SceneLoad
