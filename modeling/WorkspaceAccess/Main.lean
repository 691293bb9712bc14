import WorkspaceAccess.CommandLine.Setup

/-!
# The Program

Reads the settings from the command line and the environment and says what the controllers are set
up to do, or what is wrong. The exit code is 2 where the command line is at fault, and 1 where the
settings keep the controllers from starting.

This is the only module with effects, and they are three: the variables of the environment are
looked up, lines are written, and an exit code is given. Everything that is decided is decided by
functions of other modules: `Settings.ofArguments` reads the settings, `Settings.obstacle?` says
whether they suffice, and `Settings.report` says what they set up.
-/

open WorkspaceAccess

/-- The variables of the environment that give settings. -/
def readVariables : IO (List (String × String)) :=
  (Setting.all.filterMap (Setting.environmentName? ·)).filterMapM fun name => do
    return (← IO.getEnv name).map (name, ·)

/-- The command line. -/
def main (words : List String) : IO UInt32 := do
  let environment ← readVariables
  match Settings.ofArguments words (environment.lookup ·) with
  | .error e =>
    IO.eprintln ("error: " ++ e.message)
    return 2
  | .ok settings =>
    match settings.obstacle? with
    | some obstacle =>
      IO.eprintln ("Error: " ++ obstacle)
      return 1
    | none =>
      settings.report.forM IO.println
      return 0
