import ModelHub.Command.Inspection
import ModelHub.Command.Model
import ModelHub.Command.Planning

/-!
# Runs

A run of the program: its arguments are read, then the configuration, and then the command is
done.
-/

namespace ModelHub

/-- What a run finds around it: the home directory, whether messages are read on a terminal that
allows colour, and a bound for the pages of a listing. -/
structure Surroundings where
  home : Option String
  terminal : Bool
  pageLimit : Nat
  deriving DecidableEq, Repr

namespace Run

def misuseCode : Nat := 2

def versionLine : String := "hubsync 0.0.1\n"

def usageLine : String := "Usage: hubsync [OPTIONS] <COMMAND>\n"

def firstFile : List String → Session (Option String)
  | [] => pure none
  | path :: rest => do
    if ← Session.probeFile path then pure (some path) else firstFile rest

/-- The file that holds the configuration: the one that is named, or the first one that is
there. -/
def configFile (home named : Option String) : Session (Option String) :=
  match named with
  | some path => pure (some path)
  | none => firstFile (Config.candidatePaths home)

/-- Reads the configuration and warns of the keys that it brings in vain. -/
def readConfig (color : Color) (home named : Option String) :
    Session (Except Config.Error Config) := do
  match ← configFile home named with
  | none => pure (.ok Config.default)
  | some path =>
    let file ← Session.readFile path
    match Config.ofFile path file with
    | .error reason => pure (.error reason)
    | .ok (config, extraneous) =>
      extraneous.forM fun key =>
        Session.report (Severity.warning.format color (Config.extraneousMessage key))
      pure (.ok config)

/-- Does a command. -/
def command (context : Context) : Command → Session Unit
  | .plan options => context.plan options
  | .sync options => context.sync options
  | .list options => context.list options
  | .resolve options => context.resolve options
  | .describe options => context.describe options
  | .delete options => context.delete options
  | .createHub settings sources => context.createHub settings sources
  | .describeHub sources => context.describeHub sources
  | .deleteHub sources => context.deleteHub sources

/-- Does what an invocation asks for. -/
def invocation (surroundings : Surroundings) (invocation : Invocation) : Session Unit := do
  let color := invocation.color.resolve surroundings.terminal
  match ← readConfig color surroundings.home invocation.configPath with
  | .error reason =>
    Session.report (Severity.error.format color reason.message)
    Session.exit failureCode
  | .ok config => command ⟨color, config, surroundings.pageLimit⟩ invocation.command

def program (surroundings : Surroundings) (arguments : List String) : Session Unit :=
  match Invocation.read arguments with
  | .error .misuse => do
    Session.report usageLine
    Session.exit misuseCode
  | .error .help => Session.print usageLine
  | .error .version => Session.print versionLine
  | .ok found => invocation surroundings found

end Run

end ModelHub
