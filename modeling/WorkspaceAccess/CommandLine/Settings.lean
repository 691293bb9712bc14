import WorkspaceAccess.CommandLine.Setting
import WorkspaceAccess.Remote.Config

/-!
# Reading the Command Line

Options have long names only and take a value each, after an equals sign or as the next word. A word
that begins with a dash is no value. A setting that no option gives is taken from its variable, and
else from its default.

Which of several mistakes is reported depends on the order in which they are found. An option that
is followed by its value is looked at when the next option begins or the words end, so that a word
that is no option is found first; an option with an equals sign is looked at at once.
`CommandLine.read` therefore carries the option that is still `Pending`. The variables are checked
after all words have been read, in the order of `Setting.all`, and a variable is not looked at when
an option gives its setting.

`Settings` is what remains of all this for the controllers. Settings that can be read may still keep
the program from starting, and `Settings.obstacle?` says so: without a worker no key would ever be
worked on.
-/

namespace WorkspaceAccess

/-- What is wrong with a command line. The first mistake that is found is the one that is
reported. -/
inductive UsageError where
  /-- The word is no option and no value. -/
  | unknownArgument (word : String)
  /-- The option lacks its value. -/
  | missingValue (setting : Setting)
  /-- The text is no value of the setting. -/
  | invalidValue (setting : Setting) (text : String)
  /-- The text writes a length of time that there is not. -/
  | impossibleLength (fault : LengthFault)
  /-- A part of the text begins or ends inside a character. -/
  | split (place : Text.SplitCharacter)
  /-- The option is given twice. -/
  | repeated (setting : Setting)
  deriving DecidableEq

/-- How the option of a setting is written with its value: the name of the value is that of the
option, in capitals. -/
def Setting.usage (s : Setting) : String :=
  "--" ++ s.name ++ " <" ++ (s.name.map fun c => if c = '-' then '_' else c.toUpper) ++ ">"

/-- What is said about a command line. -/
def UsageError.message : UsageError → String
  | unknownArgument word => "unexpected argument '" ++ word ++ "' found"
  | missingValue setting =>
    "a value is required for '" ++ setting.usage ++ "' but none was supplied"
  | invalidValue setting text => "invalid value '" ++ text ++ "' for '" ++ setting.usage ++ "'"
  | impossibleLength fault => fault.message
  | split place => place.message
  | repeated setting => "the argument '" ++ setting.usage ++ "' cannot be used multiple times"

namespace CommandLine

/-- The settings that options have given, the last first. Every setting occurs once at most. -/
abbrev Given := List (Setting × String)

/-- An option that waits for its value, or has it and waits to be looked at. -/
abbrev Pending := Option (Setting × Option String)

/-- Whether a text is a value of a setting, with what is wrong as an error of the command line. -/
def check (setting : Setting) (text : String) : Except UsageError Unit :=
  match setting.fault? text with
  | none => .ok ()
  | some .invalid => .error (.invalidValue setting text)
  | some (.impossibleLength fault) => .error (.impossibleLength fault)
  | some (.split place) => .error (.split place)

/-- Takes the value of an option; an empty path counts as none. A setting that has its value already
is not given another. -/
def take (given : Given) (setting : Setting) (text : String) : Except UsageError Given :=
  if given.any (·.1 == setting) then .error (.repeated setting)
  else if setting = .kubeconfig ∧ text = "" then .error (.missingValue setting)
  else (check setting text).map fun _ => (setting, text) :: given

/-- Looks at an option that was waiting. One that still lacks its value can get it no more. -/
def settle (given : Given) : Pending → Except UsageError Given
  | none => .ok given
  | some (setting, none) => .error (.missingValue setting)
  | some (setting, some text) => take given setting text

/-- The setting whose option has that name. -/
def setting? (name : List Char) : Option Setting :=
  Setting.all.find? fun s => s.name.toList == name

/-- Reads the words after the ones that gave the settings so far. Two dashes alone end the options,
and nothing may follow them. -/
def read (given : Given) (pending : Pending) : List String → Except UsageError Given
  | [] => settle given pending
  | word :: rest =>
    match word.toList with
    | ['-', '-'] =>
      match rest with
      | [] => settle given pending
      | extra :: _ => .error (.unknownArgument extra)
    | '-' :: '-' :: option =>
      match setting? (option.takeWhile (· ≠ '=')) with
      | none => .error (.unknownArgument word)
      | some setting => do
        let given ← settle given pending
        match option.dropWhile (· ≠ '=') with
        | [] => read given (some (setting, none)) rest
        | _ :: text => read (← take given setting (String.ofList text)) none rest
    | '-' :: _ :: _ => .error (.unknownArgument word)
    | _ =>
      match pending with
      | some (setting, none) => read given (some (setting, some word)) rest
      | _ => .error (.unknownArgument word)

end CommandLine

/-- The settings that the controllers work with. -/
structure Settings where
  /-- The namespace of staff members. -/
  staffNamespace : String
  /-- The namespace of projects. -/
  projectNamespace : String
  /-- The objects that hold the remote's settings. -/
  remote : ConfigRef
  /-- How many keys a controller works on at once. -/
  workers : Nat
  /-- The seconds that a reconcile may take. -/
  reconcileTimeoutSeconds : Nat
  /-- The seconds between two looks at a workspace that is not ready. -/
  workspacePollSeconds : Nat
  deriving DecidableEq

namespace Settings

/-- The text of a setting: from its option, else from its variable, else its default. -/
def text (given : CommandLine.Given) (environment : String → Option String)
    (setting : Setting) : String :=
  ((given.find? (·.1 == setting)).map (·.2) <|> setting.environmentName?.bind environment <|>
    setting.default?).getD ""

/-- The first setting whose variable holds no value of it. -/
def checkVariables (given : CommandLine.Given) (environment : String → Option String) :
    List Setting → Except UsageError Unit
  | [] => .ok ()
  | setting :: rest =>
    match setting.environmentName?.bind environment with
    | some text => do
      if !given.any (·.1 == setting) then CommandLine.check setting text
      checkVariables given environment rest
    | none => checkVariables given environment rest

/-- The settings that the words of a command line and the environment give, or the first mistake in
them. -/
def ofArguments (words : List String) (environment : String → Option String) :
    Except UsageError Settings := do
  let given ← CommandLine.read [] none words
  checkVariables given environment Setting.all
  let text := text given environment
  let number (setting : Setting) : Nat :=
    (SettingValue.number? 0x1_0000_0000_0000_0000 (text setting)).getD 0
  return {
    staffNamespace := text .staffNamespace
    projectNamespace := text .projectNamespace
    remote := {
      ns := text .remoteConfigNamespace
      configMap := text .remoteConfigMap
      secret := text .remoteCredentialsSecret }
    workers := number .workers
    reconcileTimeoutSeconds := number .reconcileTimeout
    workspacePollSeconds := number .workspacePollInterval }

/-- What keeps the program from starting with these settings, though each of them is a value. -/
def obstacle? (s : Settings) : Option String :=
  if s.workers = 0 then some "--workers must be at least 1" else none

end Settings

end WorkspaceAccess
