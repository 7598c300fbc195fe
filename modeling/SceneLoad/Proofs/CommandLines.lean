import Mathlib.Logic.Relation
import Mathlib.Tactic.SplitIfs
import SceneLoad.Command.Run
import SceneLoad.Proofs.DecimalIndices

/-!
# The language of command lines

A command line is a sequence of options with their values, and then one command (`CommandLine`).
These are read (`CommandLine.invocation`) and no others (`exists_commandLine`), and of several
settings of one kind the last one counts (`Options.foldl_set`). The value of an option is the next
word, whatever that looks like.

Options are read from the front. `Cursor.Step` reads one of them, from the position of its word. A
step moves on by two words and stays within the line, so reading ends (`wellFounded_step`), at the
command or at an option that is wrong (`reads_parse`).

The depth limit is settled afterwards, from the option and the environment (`SettlesDepth`), and
only for a command that reads a file. `run_commandLine` follows a command line from its words to
what the program does.
-/

namespace SceneLoad

/-! ## The grammar -/

/-- What an option sets. -/
inductive Setting where
  | maxDepth (depth : Nat)
  | format (chosen : OutputFormat)

namespace Setting

def depth? : Setting → Option Nat
  | .maxDepth depth => some depth
  | .format _ => none

def format? : Setting → Option OutputFormat
  | .maxDepth _ => none
  | .format chosen => some chosen

/-- An option and its value, and what they set. -/
inductive Written : (option value : String) → Setting → Prop
  | maxDepth {value : String} {depth : Nat} (hdepth : Text.Denotes value depth) :
    Written "--max-depth" value (.maxDepth depth)
  | text : Written "--format" "text" (.format .text)
  | json : Written "--format" "json" (.format .json)

end Setting

/-- A command with its arguments. -/
inductive Command.Written : List String → Command → Prop
  | load (path : String) : Written ["load", path] (.load path)
  | prefabs (path : String) : Written ["prefabs", path] (.prefabs path)
  | capabilities : Written ["capabilities"] .capabilities

/-- A command line with the settings that its options make in turn, and its command. -/
inductive CommandLine : List String → List Setting → Command → Prop
  | command {words : List String} {command : Command} (hcommand : Command.Written words command) :
    CommandLine words [] command
  | option {option value : String} {rest : List String} {setting : Setting}
    {settings : List Setting} {command : Command} (hsetting : Setting.Written option value setting)
    (hrest : CommandLine rest settings command) :
    CommandLine (option :: value :: rest) (setting :: settings) command

/-! ## Settings -/

theorem OutputFormat.parse_eq_ok_iff {value : String} {format : OutputFormat} :
    OutputFormat.parse value = .ok format ↔
      Setting.Written "--format" value (.format format) := by
  constructor
  · intro h
    unfold OutputFormat.parse at h
    split at h
    · obtain rfl := Except.ok.inj h
      exact .text
    · obtain rfl := Except.ok.inj h
      exact .json
    · cases h
  · generalize hoption : "--format" = option, hsetting : Setting.format format = setting
    rintro (⟨-⟩ | - | -)
    · cases hsetting
    · rw [Setting.format.inj hsetting, OutputFormat.parse]
    · rw [Setting.format.inj hsetting, OutputFormat.parse]

theorem OutputFormat.parse_eq_error_iff {value : String} {error : UsageError} :
    OutputFormat.parse value = .error error ↔
      (value ≠ "text" ∧ value ≠ "json") ∧ error = .badFormat value := by
  unfold OutputFormat.parse
  split
  · exact iff_of_false nofun fun h => h.1.1 rfl
  · exact iff_of_false nofun fun h => h.1.2 rfl
  · next htext hjson =>
    rw [Except.error.injEq, and_iff_right ⟨htext, hjson⟩]
    exact eq_comm

namespace Options

/-- The options with one more setting. -/
def set (options : Options) : Setting → Options
  | .maxDepth depth => { options with maxDepth := some depth }
  | .format format => { options with format }

/-- The options that settings come to. -/
def of (settings : List Setting) : Options where
  maxDepth := (settings.filterMap Setting.depth?).getLast?
  format := (settings.filterMap Setting.format?).getLast?.getD .text

/-- Of settings of one kind the last one counts. -/
theorem foldl_set (settings : List Setting) : ∀ options : Options,
    settings.foldl set options =
      { maxDepth := (settings.filterMap Setting.depth?).getLast?.or options.maxDepth
        format := (settings.filterMap Setting.format?).getLast?.getD options.format } := by
  induction settings with
  | nil => exact fun options => rfl
  | cons setting rest ih =>
    intro options
    rw [List.foldl_cons, ih]
    cases setting with
    | maxDepth depth =>
      have hdepths : (Setting.maxDepth depth :: rest).filterMap Setting.depth? =
          depth :: rest.filterMap Setting.depth? := rfl
      have hformats : (Setting.maxDepth depth :: rest).filterMap Setting.format? =
          rest.filterMap Setting.format? := rfl
      rw [hdepths, hformats, List.getLast?_cons]
      cases (rest.filterMap Setting.depth?).getLast? <;> rfl
    | format chosen =>
      have hdepths : (Setting.format chosen :: rest).filterMap Setting.depth? =
          rest.filterMap Setting.depth? := rfl
      have hformats : (Setting.format chosen :: rest).filterMap Setting.format? =
          chosen :: rest.filterMap Setting.format? := rfl
      rw [hdepths, hformats, List.getLast?_cons]
      cases (rest.filterMap Setting.format?).getLast? <;> rfl

theorem foldl_set_default (settings : List Setting) : settings.foldl set {} = of settings := by
  rw [foldl_set, Option.or_none, of]

theorem parse_cons {option value : String} {setting : Setting}
    (h : Setting.Written option value setting) (options : Options) (rest : List String) :
    options.parse (option :: value :: rest) = (options.set setting).parse rest := by
  cases h with
  | maxDepth hdepth =>
    have hindex := Text.parseIndex_eq_some_iff.2 hdepth
    rw [parse.eq_1, hindex]
    rfl
  | text => rfl
  | json => rfl

end Options

/-! ## Lines that are read -/

theorem Command.map_path_eq_ok_iff {name : String} {words : List String}
    {make : String → Command} {command : Command} :
    (Command.path name words).map make = .ok command ↔
      ∃ path, words = [path] ∧ make path = command := by
  unfold Command.path
  split
  · next path =>
    rw [Except.map, Except.ok.injEq]
    exact ⟨fun h => ⟨path, rfl, h⟩, fun ⟨other, hpath, h⟩ => (List.cons.inj hpath).1 ▸ h⟩
  · exact iff_of_false nofun nofun
  · next hwords _ => exact iff_of_false nofun fun ⟨path, hpath, _⟩ => hwords path hpath

theorem Command.parse_eq_ok_iff {words : List String} {command : Command} :
    Command.parse words = .ok command ↔ Command.Written words command := by
  constructor
  · intro h
    unfold Command.parse at h
    split at h
    · cases h
    · obtain ⟨path, rfl, rfl⟩ := Command.map_path_eq_ok_iff.1 h
      exact .load path
    · obtain ⟨path, rfl, rfl⟩ := Command.map_path_eq_ok_iff.1 h
      exact .prefabs path
    · split_ifs at h with hempty
      rw [List.isEmpty_iff.1 hempty]
      obtain rfl := Except.ok.inj h
      exact .capabilities
    · cases h
  · rintro (path | path | -) <;> rfl

/-- A command line is read to its end. -/
theorem CommandLine.parse {words : List String} {settings : List Setting} {command : Command}
    (h : CommandLine words settings command) : ∀ options : Options, ∃ rest,
      options.parse words = .ok (settings.foldl Options.set options, rest) ∧
        Command.parse rest = .ok command := by
  induction h with
  | @command words command hcommand =>
    intro options
    refine ⟨words, ?_, Command.parse_eq_ok_iff.2 hcommand⟩
    cases hcommand <;> rfl
  | option hsetting _ ih =>
    intro options
    obtain ⟨rest, hrest, hcommand⟩ := ih (options.set _)
    exact ⟨rest, (Options.parse_cons hsetting options _).trans hrest, hcommand⟩

/-- What is read to its end is a command line. -/
theorem commandLine_of_parse {options options' : Options} {words rest : List String}
    {command : Command} (hoptions : options.parse words = .ok (options', rest))
    (hcommand : Command.parse rest = .ok command) :
    ∃ settings, CommandLine words settings command ∧
      options' = settings.foldl Options.set options := by
  fun_induction Options.parse options words with
  | case1 options value words depth hdepth ih =>
    obtain ⟨settings, hline, hsettings⟩ := ih hoptions
    exact ⟨_, .option (.maxDepth (Text.parseIndex_eq_some_iff.1 hdepth)) hline, hsettings⟩
  | case3 options value words format hformat ih =>
    obtain ⟨settings, hline, hsettings⟩ := ih hoptions
    exact ⟨_, .option (OutputFormat.parse_eq_ok_iff.1 hformat) hline, hsettings⟩
  | case7 options words =>
    obtain ⟨rfl, rfl⟩ := Prod.mk.inj (Except.ok.inj hoptions)
    exact ⟨[], .command (Command.parse_eq_ok_iff.1 hcommand), rfl⟩
  | case2 | case4 | case5 | case6 => cases hoptions

theorem CommandLine.not_help {words : List String} {settings : List Setting} {command : Command}
    (h : CommandLine words settings command) :
    words ≠ [] ∧ words.head? ≠ some "-h" ∧ words.head? ≠ some "--help" := by
  cases h with
  | command hcommand => cases hcommand <;> simp
  | option hsetting _ => cases hsetting <;> simp

theorem Invocation.parse_of_not_help {words : List String} (hne : words ≠ [])
    (hshort : words.head? ≠ some "-h") (hlong : words.head? ≠ some "--help") :
    Invocation.parse words =
      match Options.parse {} words with
      | .error error => .error error
      | .ok (options, rest) => (Command.parse rest).map (Invocation.run options) := by
  unfold Invocation.parse
  split
  · exact absurd rfl hne
  · exact absurd rfl hshort
  · exact absurd rfl hlong
  · rfl

theorem CommandLine.invocation {words : List String} {settings : List Setting} {command : Command}
    (h : CommandLine words settings command) :
    Invocation.parse words = .ok (.run (.of settings) command) := by
  obtain ⟨hne, hshort, hlong⟩ := h.not_help
  obtain ⟨rest, hoptions, hcommand⟩ := h.parse {}
  rw [Invocation.parse_of_not_help hne hshort hlong, hoptions, Options.foldl_set_default]
  dsimp only
  rw [hcommand]
  rfl

theorem exists_commandLine {words : List String} (hne : words ≠ [])
    (hshort : words.head? ≠ some "-h") (hlong : words.head? ≠ some "--help")
    {invocation : Invocation} (h : Invocation.parse words = .ok invocation) :
    ∃ settings command, CommandLine words settings command := by
  rw [Invocation.parse_of_not_help hne hshort hlong] at h
  cases hoptions : Options.parse {} words with
  | error error =>
    rw [hoptions] at h
    cases h
  | ok result =>
    rw [hoptions] at h
    cases hcommand : Command.parse result.2 with
    | error error =>
      dsimp only at h
      rw [hcommand] at h
      cases h
    | ok command =>
      obtain ⟨settings, hline, -⟩ := commandLine_of_parse hoptions hcommand
      exact ⟨settings, command, hline⟩

/-! ## Positions -/

/-- Where the reading of options has come to, and what they come to so far. -/
structure Cursor where
  index : Nat := 0
  options : Options := {}

namespace Cursor

/-- One option is read. -/
inductive Step (words : List String) : Cursor → Cursor → Prop
  | option {cursor : Cursor} {option value : String} {setting : Setting}
    (hoption : words[cursor.index]? = some option) (hvalue : words[cursor.index + 1]? = some value)
    (hsetting : Setting.Written option value setting) :
    Step words cursor { index := cursor.index + 2, options := cursor.options.set setting }

/-- Nothing more is read : the command begins here, or there is an option without a value or with a
wrong one. -/
inductive Ends (words : List String) (cursor : Cursor) :
    Except UsageError (Options × List String) → Prop
  | command (hdepth : words[cursor.index]? ≠ some "--max-depth")
    (hformat : words[cursor.index]? ≠ some "--format") :
    Ends words cursor (.ok (cursor.options, words.drop cursor.index))
  | missingValue {option : String} (hknown : option = "--max-depth" ∨ option = "--format")
    (hoption : words[cursor.index]? = some option) (hvalue : words[cursor.index + 1]? = none) :
    Ends words cursor (.error (.missingValue option))
  | badDepth {value : String} (hoption : words[cursor.index]? = some "--max-depth")
    (hvalue : words[cursor.index + 1]? = some value)
    (hdepth : ∀ depth, ¬Text.Denotes value depth) : Ends words cursor (.error (.badDepth value))
  | badFormat {value : String} (hoption : words[cursor.index]? = some "--format")
    (hvalue : words[cursor.index + 1]? = some value) (hformat : value ≠ "text" ∧ value ≠ "json") :
    Ends words cursor (.error (.badFormat value))

variable {words : List String}

theorem Step.index_le {cursor next : Cursor} (h : Step words cursor next) :
    next.index = cursor.index + 2 ∧ next.index ≤ words.length := by
  cases h with
  | option _ hvalue _ =>
    obtain ⟨hlt, -⟩ := List.getElem?_eq_some_iff.1 hvalue
    exact ⟨rfl, hlt⟩

/-- Options are not read forever, from wherever it is. -/
theorem wellFounded_step (words : List String) :
    WellFounded fun next cursor => Step words cursor next := by
  refine Subrelation.wf (fun {next cursor} h => ?_)
    (measure fun cursor => words.length - cursor.index).wf
  obtain ⟨hindex, hle⟩ := h.index_le
  show words.length - next.index < words.length - cursor.index
  omega

/-- Reading does not leave the line. -/
theorem index_le_of_reaches {start cursor : Cursor}
    (h : Relation.ReflTransGen (Step words) start cursor) (hstart : start.index ≤ words.length) :
    cursor.index ≤ words.length := by
  rcases Relation.ReflTransGen.cases_tail h with rfl | ⟨before, -, hstep⟩
  · exact hstart
  · exact hstep.index_le.2

theorem getElem?_append_ne {option : String} {rest : List String} (before : List String)
    (hpair : ∀ value rest', rest ≠ option :: value :: rest') (hlast : rest ≠ [option]) :
    (before ++ rest)[before.length]? ≠ some option := by
  rw [List.getElem?_append_right (Nat.le_refl _), Nat.sub_self]
  match rest with
  | [] => exact nofun
  | [word] => exact fun h => hlast (congrArg (· :: []) (Option.some.inj h))
  | word :: value :: rest' =>
    exact fun h => hpair value rest' (congrArg (· :: _) (Option.some.inj h))

/-- From a position reading comes to its end, with an outcome. -/
def Reads (words : List String) (start : Cursor)
    (outcome : Except UsageError (Options × List String)) : Prop :=
  ∃ last, Relation.ReflTransGen (Step words) start last ∧ Ends words last outcome

/-- An option is read, and what comes behind it. -/
theorem Reads.option {before rest : List String} {option value : String} {setting : Setting}
    {options : Options} {outcome : Except UsageError (Options × List String)}
    (hsetting : Setting.Written option value setting)
    (hrest : Reads (before ++ [option, value] ++ rest)
      { index := (before ++ [option, value]).length, options := options.set setting } outcome) :
    Reads (before ++ option :: value :: rest) { index := before.length, options } outcome := by
  obtain ⟨last, hreach, hends⟩ := hrest
  have hsplit : before ++ [option, value] ++ rest = before ++ option :: value :: rest := by simp
  rw [hsplit] at hreach hends
  rw [List.length_append] at hreach
  exact ⟨last, .head (.option (by simp) (by simp) hsetting) hreach, hends⟩

/-- Reading comes to its end, and what is read is what the line is parsed to. -/
theorem reads_parse (options : Options) (rest : List String) : ∀ before : List String,
    Reads (before ++ rest) { index := before.length, options } (options.parse rest) := by
  fun_induction Options.parse options rest with
  | case1 options value rest depth hdepth ih =>
    exact fun before => .option (.maxDepth (Text.parseIndex_eq_some_iff.1 hdepth)) (ih _)
  | case2 options value rest hdepth =>
    intro before
    refine ⟨_, .refl, .badDepth ?_ ?_ (Text.parseIndex_eq_none_iff.1 hdepth)⟩ <;> simp
  | case3 options value rest format hformat ih =>
    exact fun before => .option (OutputFormat.parse_eq_ok_iff.1 hformat) (ih _)
  | case4 options value rest error hformat =>
    intro before
    obtain ⟨hvalue, rfl⟩ := OutputFormat.parse_eq_error_iff.1 hformat
    refine ⟨_, .refl, .badFormat ?_ ?_ hvalue⟩ <;> simp
  | case5 options =>
    intro before
    refine ⟨_, .refl, .missingValue (.inl rfl) ?_ ?_⟩ <;> simp
  | case6 options =>
    intro before
    refine ⟨_, .refl, .missingValue (.inr rfl) ?_ ?_⟩ <;> simp
  | case7 options words hdepth hformat hlastDepth hlastFormat =>
    intro before
    refine ⟨_, .refl, ?_⟩
    have hends : Ends (before ++ words) { index := before.length, options }
        (.ok (options, (before ++ words).drop before.length)) :=
      .command (getElem?_append_ne before hdepth hlastDepth)
        (getElem?_append_ne before hformat hlastFormat)
    rwa [List.drop_left] at hends

end Cursor

/-! ## The depth limit -/

/-- What the option and the environment variable come to : the option if there is one, then what the
variable denotes between blanks, unless it holds only blanks. -/
inductive SettlesDepth : (flag : Option Nat) → (environment : Option String) →
    Except UsageError Nat → Prop
  | flag {depth : Nat} {environment : Option String} :
    SettlesDepth (some depth) environment (.ok depth)
  | read {text : String} {depth : Nat} (hne : Text.trim text ≠ "")
    (hdepth : Text.Denotes (Text.trim text) depth) : SettlesDepth none (some text) (.ok depth)
  | unreadable {text : String} (hne : Text.trim text ≠ "")
    (hdepth : ∀ depth, ¬Text.Denotes (Text.trim text) depth) :
    SettlesDepth none (some text) (.error (.badDepthVariable (Text.trim text)))
  | blank {text : String} (hblank : Text.trim text = "") : SettlesDepth none (some text) (.ok 64)
  | unset : SettlesDepth none none (.ok 64)

namespace SettlesDepth

variable {flag : Option Nat} {environment : Option String} {outcome : Except UsageError Nat}

theorem resolveConfig (h : SettlesDepth flag environment outcome) :
    Command.resolveConfig flag environment =
      outcome.map fun depth => { maxPrefabDepth := depth } := by
  cases h with
  | flag => rfl
  | read hne hdepth =>
    have hindex := Text.parseIndex_eq_some_iff.2 hdepth
    simp only [Command.resolveConfig, Option.map_some, if_neg hne, hindex, Except.map]
  | unreadable hne hdepth =>
    have hindex := Text.parseIndex_eq_none_iff.2 hdepth
    simp only [Command.resolveConfig, Option.map_some, if_neg hne, hindex, Except.map]
  | blank hblank =>
    simp only [Command.resolveConfig, Option.map_some, if_pos hblank]
    rfl
  | unset => rfl

end SettlesDepth

theorem exists_settlesDepth (flag : Option Nat) (environment : Option String) :
    ∃ outcome, SettlesDepth flag environment outcome := by
  match flag, environment with
  | some depth, _ => exact ⟨_, .flag⟩
  | none, none => exact ⟨_, .unset⟩
  | none, some text =>
    by_cases hblank : Text.trim text = ""
    · exact ⟨_, .blank hblank⟩
    cases hindex : Text.parseIndex (Text.trim text) with
    | some depth => exact ⟨_, .read hblank (Text.parseIndex_eq_some_iff.1 hindex)⟩
    | none => exact ⟨_, .unreadable hblank (Text.parseIndex_eq_none_iff.1 hindex)⟩

/-! ## What a command line does -/

namespace Program

/-- What the program does with a command under a depth limit that is settled. -/
def runWith (files : Files) (supply : KeySupply) (format : OutputFormat) (command : Command) :
    Except UsageError Nat → Exit
  | .error error => failure error.message
  | .ok depth =>
    match command.run files supply format { maxPrefabDepth := depth } with
    | .error error => failure error.message
    | .ok output => { code := 0, stdout := output }

theorem run_eq_runWith {files : Files} {supply : KeySupply} {arguments : List String}
    {options : Options} {command : Command}
    (h : Invocation.parse arguments = .ok (.run options command)) (hne : command ≠ .capabilities)
    {environment : Option String} {outcome : Except UsageError Nat}
    (hdepth : SettlesDepth options.maxDepth environment outcome) :
    run files supply arguments environment =
      runWith files supply options.format command outcome := by
  have hconfig : command.config options.maxDepth environment =
      outcome.map fun depth => { maxPrefabDepth := depth } := by
    cases command with
    | load path => exact hdepth.resolveConfig
    | prefabs path => exact hdepth.resolveConfig
    | capabilities => exact absurd rfl hne
  rw [run, h]
  dsimp only
  rw [hconfig]
  cases outcome <;> rfl

/-- The component kinds are listed whatever the settings are. -/
theorem run_capabilities {files : Files} {supply : KeySupply} {arguments : List String}
    {options : Options} (h : Invocation.parse arguments = .ok (.run options .capabilities)) :
    ∃ output, ∀ environment,
      run files supply arguments environment = { code := 0, stdout := output } := by
  cases houtput : Command.run files supply options.format {} .capabilities with
  | error error => cases houtput
  | ok output =>
    refine ⟨output, fun environment => ?_⟩
    rw [run, h]
    dsimp only [Command.config]
    rw [houtput]

end Program

/-- From the words of a command line to what is done. Besides the requests for help, exactly the
lines of the grammar are read. The last setting of each kind counts. `load` and `prefabs` run with
the depth limit that is settled, or fail with the reason why there is none, and `capabilities`
succeeds in every environment. The options of any list of words are read step by step, within the
list and to an end. -/
theorem run_commandLine (files : Files) (supply : KeySupply) (arguments : List String) :
    (arguments ≠ [] → arguments.head? ≠ some "-h" → arguments.head? ≠ some "--help" →
      ((∃ invocation, Invocation.parse arguments = .ok invocation) ↔
        ∃ settings command, CommandLine arguments settings command)) ∧
    (∀ settings command, CommandLine arguments settings command →
      Invocation.parse arguments = .ok (.run (.of settings) command) ∧
      (command = .capabilities → ∃ output, ∀ environment,
        Program.run files supply arguments environment = { code := 0, stdout := output }) ∧
      (command ≠ .capabilities → ∀ environment,
        (∃ outcome, SettlesDepth (Options.of settings).maxDepth environment outcome) ∧
        ∀ outcome, SettlesDepth (Options.of settings).maxDepth environment outcome →
          Program.run files supply arguments environment =
            Program.runWith files supply (Options.of settings).format command outcome)) ∧
    WellFounded (fun next cursor => Cursor.Step arguments cursor next) ∧
    (∀ cursor, Relation.ReflTransGen (Cursor.Step arguments) {} cursor →
      cursor.index ≤ arguments.length) ∧
    ∃ last, Relation.ReflTransGen (Cursor.Step arguments) {} last ∧
      Cursor.Ends arguments last (Options.parse {} arguments) := by
  refine ⟨fun hne hshort hlong => ⟨?_, ?_⟩,
    fun settings command hline => ⟨hline.invocation, ?_, ?_⟩, Cursor.wellFounded_step arguments,
    fun cursor hcursor => ?_, Cursor.reads_parse {} arguments []⟩
  · rintro ⟨invocation, h⟩
    exact exists_commandLine hne hshort hlong h
  · rintro ⟨settings, command, hline⟩
    exact ⟨_, hline.invocation⟩
  · rintro rfl
    exact Program.run_capabilities hline.invocation
  · intro hne environment
    refine ⟨exists_settlesDepth _ environment, fun outcome hdepth => ?_⟩
    exact Program.run_eq_runWith hline.invocation hne hdepth
  · exact Cursor.index_le_of_reaches hcursor (Nat.zero_le _)

/-- A command line that sets the depth limit twice, and whose path looks like an option. -/
def twiceLimited : List String :=
  ["--max-depth", "3", "--max-depth", "+7", "load", "--format"]

theorem run_commandLine_twiceLimited :
    (∃ settings command, CommandLine twiceLimited settings command) ∧
      Invocation.parse twiceLimited = .ok (.run { maxDepth := some 7 } (.load "--format")) ∧
      Program.run (fun _ => .error .notFound) toString twiceLimited (some "deep") =
        Program.failure (RunError.unreadable "--format" .notFound).message := by
  have hline : CommandLine twiceLimited [.maxDepth 3, .maxDepth 7] (.load "--format") :=
    .option (.maxDepth (by decide)) (.option (.maxDepth (by decide)) (.command (.load _)))
  obtain ⟨hread, hruns, -⟩ := run_commandLine (fun _ => .error .notFound) toString twiceLimited
  obtain ⟨hparse, -, hrun⟩ := hruns _ _ hline
  refine ⟨?_, hparse, ?_⟩
  · exact (hread (by decide) (by decide) (by decide)).1 ⟨_, hparse⟩
  · exact (hrun (by decide) (some "deep")).2 _ .flag

end SceneLoad
