import ModelHub.Proofs.SessionRun
import ModelHub.Run

/-!
# The configuration of a run

A run reads its configuration from the file that is named, or from the first of its candidates that
is there. It warns once of each key that the file brings in vain, in their order, and of nothing
else.
-/

namespace ModelHub

/-- The file that holds the configuration of a run: the one that is named, or the first one that is
there. -/
def World.configPath? (world : World) (home named : Option String) : Option String :=
  named.or ((Config.candidatePaths home).find? world.hasFile)

namespace Run

/-- The line that warns of a key. -/
def warningLine (color : Color) (key : String) : String :=
  Severity.warning.format color ("config contains extraneous key \"" ++ key ++ "\", ignoring") ++
    "\n"

theorem warningLine_off (key : String) :
    warningLine .off key =
      "warning: config contains extraneous key \"" ++ key ++ "\", ignoring\n" := by
  refine String.toList_inj.1 ?_
  simp [warningLine, Severity.format, Color.paint, Severity.label]

/-- The warnings of some keys, one line after the other. -/
def warnings (color : Color) (keys : List String) : String :=
  String.join (keys.map (warningLine color))

variable {world : World} {home named : Option String}

theorem run_firstFile (world : World) (paths : List String) :
    world.run (firstFile paths) = (.ok (paths.find? world.hasFile), world) := by
  induction paths with
  | nil =>
      rfl
  | cons path paths inductionHypothesis =>
      have probed : world.run (Session.probeFile path) = (.ok (world.hasFile path), world) := rfl
      rw [firstFile, World.run_bind_of_ok probed]
      cases isThere : world.hasFile path with
      | true =>
          rw [if_pos rfl, List.find?_cons_of_pos isThere]
          rfl
      | false =>
          rw [if_neg Bool.false_ne_true, List.find?_cons_of_neg (by simp [isThere]),
            inductionHypothesis]

theorem run_configFile (world : World) (home named : Option String) :
    world.run (configFile home named) = (.ok (world.configPath? home named), world) := by
  cases named with
  | none =>
      exact run_firstFile world _
  | some path =>
      rfl

theorem run_report_keys (color : Color) (world : World) (keys : List String) :
    world.run (keys.forM fun key =>
        Session.report (Severity.warning.format color (Config.extraneousMessage key))) =
      (.ok (), { world with errors := world.errors ++ warnings color keys }) := by
  induction keys generalizing world with
  | nil =>
      simp [warnings]
  | cons key keys inductionHypothesis =>
      have reported : world.run (Session.report (Severity.warning.format color
          (Config.extraneousMessage key))) =
          (.ok (), { world with errors := world.errors ++ warningLine color key }) := rfl
      have joined :
          warnings color (key :: keys) = warningLine color key ++ warnings color keys := by
        simp [warnings, String.join_cons]
      rw [List.forM, World.run_bind_of_ok reported, inductionHypothesis, joined,
        String.append_assoc]

/-- Where a configuration is read, the keys that it brings in vain are warned of. -/
theorem run_readConfig_of_parse? (color : Color) {path text : String} {config : Config}
    {keys : List String} (isPath : world.configPath? home named = some path)
    (isText : world.readFile path = .ok text)
    (isParsed : Config.parse? text = some (config, keys)) :
    world.run (readConfig color home named) =
      (.ok (.ok config), { world with errors := world.errors ++ warnings color keys }) := by
  have chosen := run_configFile world home named
  rw [isPath] at chosen
  have read : world.run (Session.readFile path) = (.ok (.ok text), world) := by
    rw [← isText]
    rfl
  have found : Config.ofFile path (.ok text) = .ok (config, keys) := by
    rw [Config.ofFile, isParsed]
  unfold readConfig
  rw [World.run_bind_of_ok chosen]
  dsimp only
  rw [World.run_bind_of_ok read, found]
  dsimp only
  rw [World.run_bind_of_ok (run_report_keys color world keys)]
  rfl

/-- Where none is read, nothing is warned of. -/
theorem exists_run_readConfig (color : Color)
    (isNone : ∀ path text, world.configPath? home named = some path →
      world.readFile path = .ok text → Config.parse? text = none) :
    ∃ result, world.run (readConfig color home named) = (.ok result, world) := by
  have chosen := run_configFile world home named
  unfold readConfig
  rw [World.run_bind_of_ok chosen]
  cases isPath : world.configPath? home named with
  | none =>
      exact ⟨_, rfl⟩
  | some path =>
      have read : world.run (Session.readFile path) = (.ok (world.readFile path), world) := rfl
      dsimp only
      rw [World.run_bind_of_ok read]
      cases isText : world.readFile path with
      | error fault =>
          exact ⟨_, rfl⟩
      | ok text =>
          rw [Config.ofFile, isNone path text isPath isText]
          exact ⟨_, rfl⟩

end Run

end ModelHub
