import ModelHub.Proofs.CommandRequests
import ModelHub.Proofs.SyncRun

/-!
# What runs change

Nothing is changed except by a command that got far enough to mean it. Whatever ends a run before
that leaves every service as it was.
-/

namespace ModelHub

/-- What a command can have exchanged. -/
def Command.Accounts (context : Context) (world : World)
    (asked : List (Http.Request × Http.Answer)) : Command → Prop
  | .plan _ | .list _ | .resolve _ | .describe _ | .describeHub _ => Http.OnlyLooked asked
  | .sync options => Http.OnlyLooked asked ∨ context.ImportsResolved options world asked
  | .delete options =>
    (∀ hub version chosen, ¬ context.HasTarget options world hub version chosen) ∧
        Http.OnlyLooked asked ∨
      context.DeletesChosen options world asked
  | .createHub settings sources => context.Orders sources
      (fun hub => hub.collectionUrl.map fun url =>
        ⟨.post, url, some (hub.creationBody settings)⟩) asked
  | .deleteHub sources => context.Orders sources
      (fun hub => (hub.url []).map fun url => ⟨.delete, url, none⟩) asked

namespace Run

theorem exists_of_run_command (context : Context) (command : Command) (world : World) :
    ∃ asked, (world.run (Run.command context command)).2.exchanges = world.exchanges ++ asked ∧
      command.Accounts context world asked := by
  cases command with
  | plan options =>
      exact context.looks_plan options world
  | sync options =>
      exact context.exists_of_run_sync options world
  | list options =>
      exact context.looks_list options world
  | resolve options =>
      exact context.looks_resolve options world
  | describe options =>
      exact context.looks_describe options world
  | delete options =>
      exact context.exists_of_run_delete options world
  | createHub settings sources =>
      exact context.exchanges_createHub settings sources world
  | describeHub sources =>
      exact context.looks_describeHub sources world
  | deleteHub sources =>
      exact context.exchanges_deleteHub sources world

theorem isSilent_firstFile (paths : List String) : (firstFile paths).IsSilent := by
  induction paths with
  | nil =>
      exact Session.isSilent_pure _
  | cons path rest inductionHypothesis =>
      refine (Session.isSilent_probeFile path).bind fun found => ?_
      cases found with
      | true =>
          exact Session.isSilent_pure _
      | false =>
          exact inductionHypothesis

theorem isSilent_configFile (home named : Option String) : (configFile home named).IsSilent := by
  cases named with
  | none =>
      exact isSilent_firstFile _
  | some path =>
      exact Session.isSilent_pure _

theorem isSilent_readConfig (color : Color) (home named : Option String) :
    (readConfig color home named).IsSilent := by
  refine (isSilent_configFile home named).bind fun found => ?_
  cases found with
  | none =>
      exact Session.isSilent_pure _
  | some path =>
      refine (Session.isSilent_readFile path).bind fun file => ?_
      split
      · exact Session.isSilent_pure _
      · exact (Session.isSilent_forM fun _ => Session.isSilent_report _).bind fun _ =>
          Session.isSilent_pure _

/-- What the command of an invocation starts from once the configuration is read. -/
def contextOf (surroundings : Surroundings) (found : Invocation) (config : Config) : Context :=
  ⟨found.color.resolve surroundings.terminal, config, surroundings.pageLimit⟩

/-- A silent session exchanges nothing more. -/
theorem exchanges_run_of_silent {session : Session Unit} (silent : session.IsSilent)
    (world : World) : (world.run session).2.exchanges = world.exchanges ++ [] := by
  rw [silent.exchanges_eq rfl, List.append_nil]

/-- The arguments ask for a command, and reading the configuration has given one. -/
structure Starts (surroundings : Surroundings) (arguments : List String) (world : World)
    (found : Invocation) (config : Config) (configured : World) : Prop where
  isFound : Invocation.read arguments = .ok found
  isConfig : world.run (readConfig (found.color.resolve surroundings.terminal) surroundings.home
    found.configPath) = (.ok (.ok config), configured)

/-- Whatever the arguments, the files and the answers of the services are, a run has exchanged
nothing where it is given no command or no configuration, and else the command has exchanged what it
accounts for. -/
theorem program_accounts (surroundings : Surroundings) (arguments : List String)
    (world : World) :
    ∃ asked, (world.run (program surroundings arguments)).2.exchanges =
        world.exchanges ++ asked ∧
      ((∀ found config configured,
          ¬ Starts surroundings arguments world found config configured) ∧ asked = [] ∨
        ∃ found config configured, Starts surroundings arguments world found config configured ∧
          configured.exchanges = world.exchanges ∧ configured.files = world.files ∧
          found.command.Accounts (contextOf surroundings found config) configured asked) := by
  unfold program
  cases isRead : Invocation.read arguments with
  | error refusal =>
      refine ⟨[], exchanges_run_of_silent ?_ world, Or.inl ⟨fun _ _ _ starts => ?_, rfl⟩⟩
      · cases refusal with
        | misuse =>
            exact (Session.isSilent_report _).bind fun _ => Session.isSilent_exit _
        | help =>
            exact Session.isSilent_print _
        | version =>
            exact Session.isSilent_print _
      · cases isRead.symm.trans starts.isFound
  | ok found =>
      have silent := isSilent_readConfig (found.color.resolve surroundings.terminal)
        surroundings.home found.configPath
      dsimp only [invocation]
      rcases ran : world.run (readConfig (found.color.resolve surroundings.terminal)
        surroundings.home found.configPath) with ⟨ending | result, configured⟩
      all_goals have same := silent.exchanges_eq ran
      · refine ⟨[], ?_, Or.inl ⟨fun other _ _ starts => ?_, rfl⟩⟩
        · rw [World.run_bind, ran, List.append_nil]
          exact same
        · obtain rfl := Except.ok.inj (isRead.symm.trans starts.isFound)
          cases ran.symm.trans starts.isConfig
      · rw [World.run_bind_of_ok ran, ← same]
        cases result with
        | error reason =>
            refine ⟨[], exchanges_run_of_silent ?_ configured,
              Or.inl ⟨fun other _ _ starts => ?_, rfl⟩⟩
            · exact (Session.isSilent_report _).bind fun _ => Session.isSilent_exit _
            · obtain rfl := Except.ok.inj (isRead.symm.trans starts.isFound)
              cases ran.symm.trans starts.isConfig
        | ok config =>
            obtain ⟨asked, isAsked, accounts⟩ :=
              exists_of_run_command (contextOf surroundings found config) found.command configured
            have sameFiles : configured.files = world.files := by
              rw [← World.files_run world (readConfig _ _ _), ran]
            exact ⟨asked, isAsked,
              Or.inr ⟨found, config, configured, ⟨isRead, ran⟩, rfl, sameFiles, accounts⟩⟩

/-- The configuration of the system names the hub, which has no records and imports what it is asked
to. -/
def loopbackWorld : World :=
  { Context.importsOnce with
    files := Place.among
      [("/etc/hubsync.toml", Text.encode "hub = [\"hub\", \"http://[::1]\"]".toList)] }

def loopbackSync (dryRun : Bool) : SyncOptions :=
  ⟨⟨["x@1"], none, none, false, ⟨none, some "http://[::1]"⟩, .table⟩, dryRun, none⟩

def loopbackDelete : ModelOptions := ⟨"m", some "1", ⟨none, none⟩⟩

/-- One run imports what was resolved, one deletes a model, and one only looks since it is dry. -/
theorem program_accounts_threeRuns :
    (∃ configured asked,
      (loopbackWorld.run (program ⟨none, false, 1⟩
        ["sync", "--manifest", "http://[::1]", "x@1"])).2.exchanges = asked ∧
      asked.map (fun exchange => exchange.1.method) = [.get, .post] ∧
      Context.loopbackContext.ImportsResolved (loopbackSync false) configured asked) ∧
    (∃ configured asked,
      (loopbackWorld.run (program ⟨none, false, 1⟩ ["delete", "m", "1"])).2.exchanges = asked ∧
      asked.map (fun exchange => exchange.1.method) = [.delete] ∧
      Context.loopbackContext.DeletesChosen loopbackDelete configured asked) ∧
    ∃ asked,
      (loopbackWorld.run (program ⟨none, false, 1⟩
        ["sync", "--dry-run", "--manifest", "http://[::1]", "x@1"])).2.exchanges = asked ∧
      asked.map (fun exchange => exchange.1.method) = [.get] ∧ Http.OnlyLooked asked := by
  have isConfig : (loopbackWorld.run (readConfig .off none none)).1 =
      .ok (.ok Context.loopbackContext.config) := by decide +kernel
  have ran : loopbackWorld.run (readConfig .off none none) =
      (.ok (.ok Context.loopbackContext.config),
        (loopbackWorld.run (readConfig .off none none)).2) := by
    rw [← isConfig]
  have accounts (arguments : List String) (command : Command) (methods : List Http.Method)
      (isFound : Invocation.read arguments = .ok ⟨.auto, none, command⟩)
      (methodsOf : (loopbackWorld.run (program ⟨none, false, 1⟩ arguments)).2.exchanges.map
        (fun exchange => exchange.1.method) = methods) :
      ∃ configured asked,
        (loopbackWorld.run (program ⟨none, false, 1⟩ arguments)).2.exchanges = asked ∧
          asked.map (fun exchange => exchange.1.method) = methods ∧
          command.Accounts Context.loopbackContext configured asked := by
    obtain ⟨asked, isAsked, ⟨nothing, _⟩ | ⟨found, config, configured, starts, _, _, accounts⟩⟩ :=
      program_accounts ⟨none, false, 1⟩ arguments loopbackWorld
    · exact absurd ⟨isFound, ran⟩ (nothing _ _ _)
    · obtain rfl := Except.ok.inj (isFound.symm.trans starts.isFound)
      have sameConfig := isConfig.symm.trans (congrArg Prod.fst starts.isConfig)
      obtain rfl := Except.ok.inj (Except.ok.inj sameConfig)
      rw [isAsked] at methodsOf
      exact ⟨configured, asked, isAsked, methodsOf, accounts⟩
  refine ⟨?_, ?_, ?_⟩
  · obtain ⟨configured, asked, isAsked, methods, onlyLooked | imports⟩ :=
      accounts ["sync", "--manifest", "http://[::1]", "x@1"] (.sync (loopbackSync false))
        [.get, .post] (by decide +kernel) (by decide +kernel)
    · have posted : Http.Method.post ∈ asked.map fun exchange => exchange.1.method := by
        rw [methods]
        exact List.mem_cons_of_mem _ List.mem_cons_self
      obtain ⟨exchange, member, isPost⟩ := List.mem_map.1 posted
      cases isPost.symm.trans (onlyLooked exchange member)
    · exact ⟨configured, asked, isAsked, methods, imports⟩
  · obtain ⟨configured, asked, isAsked, methods, ⟨_, onlyLooked⟩ | deletes⟩ :=
      accounts ["delete", "m", "1"] (.delete loopbackDelete) [.delete] (by decide +kernel)
        (by decide +kernel)
    · have deleted : Http.Method.delete ∈ asked.map fun exchange => exchange.1.method := by
        rw [methods]
        exact List.mem_cons_self
      obtain ⟨exchange, member, isDelete⟩ := List.mem_map.1 deleted
      cases isDelete.symm.trans (onlyLooked exchange member)
    · exact ⟨configured, asked, isAsked, methods, deletes⟩
  · obtain ⟨configured, asked, isAsked, methods, onlyLooked | imports⟩ :=
      accounts ["sync", "--dry-run", "--manifest", "http://[::1]", "x@1"]
        (.sync (loopbackSync true)) [.get] (by decide +kernel) (by decide +kernel)
    · exact ⟨asked, isAsked, methods, onlyLooked⟩
    · cases imports.notDry

end Run

end ModelHub
