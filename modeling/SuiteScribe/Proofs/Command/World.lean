import SuiteScribe.Command.World
import SuiteScribe.Proofs.Files.Deposit

namespace SuiteScribe.Command

open Files Interview Script Text

/-! Runs in a world, one operation after another. A failure ends the run and leaves the world as it
is at that moment. -/

namespace World

@[simp] theorem run_pure (value : α) (world : World) :
    run (pure value) world = (.ok value, world) := rfl

theorem run_bind (act : Run (StateM World) α) (next : α → Run (StateM World) β) (world : World) :
    run (act >>= next) world =
      match run act world with
      | (.ok value, after) => run (next value) after
      | (.error failure, after) => (.error failure, after) := by
  change (ExceptT.bindCont next (run act world).1 : StateM World _) (run act world).2 = _
  rcases run act world with ⟨failure | value, after⟩ <;> rfl

theorem run_except (result : Except Failure α) (world : World) :
    run (result : Run (StateM World) α) world = (result, world) := by
  cases result <;> rfl

theorem run_lift (operation : StateM World α) (world : World) :
    run (liftM operation : Run (StateM World) α) world =
      (.ok (operation world).1, (operation world).2) := rfl

theorem run_note (level : Level) (text : String) (world : World) :
    run (Run.note level text) world =
      (.ok (), { world with journal := world.journal ++ [⟨level, text⟩] }) := rfl

theorem run_orFail (failure : Fault → Failure) (operation : StateM World (Except Fault α))
    (world : World) :
    run (Run.orFail failure operation) world =
      ((operation world).1.mapError failure, (operation world).2) := by
  rw [Run.orFail, run_bind, run_lift]
  dsimp only
  cases (operation world).1 <;> rfl

end World

/-! A suite is written in two steps: the directories that lead to its file, and the file. -/

theorem run_writeSuite (suite : Suite) (placement : Placement) (generatedAt : Int)
    (world : World) :
    World.run (writeSuite suite placement generatedAt) world =
      let path := placement.pathFor suite.fileBaseName
      let made := world.tree.makeParent path
      match made.1 with
      | .error fault => (.error (.write path fault), { world with tree := made.2 })
      | .ok () =>
          let written := made.2.write path (encode (assemble suite generatedAt))
          match written.1 with
          | .error fault => (.error (.write path fault), { world with tree := written.2 })
          | .ok () =>
              (.ok path,
                { world with
                  tree := written.2
                  journal := world.journal ++ [⟨.info, "wrote suite file"⟩] }) := by
  simp only [writeSuite, World.run_bind, World.run_orFail, World.run_note, World.run_pure,
    Host.makeParent, Host.writeFile, World.onTree]
  rcases world.tree.makeParent (placement.pathFor suite.fileBaseName) with ⟨_ | _, tree⟩
  · rfl
  · dsimp only [Except.mapError]
    rcases tree.write (placement.pathFor suite.fileBaseName)
      (encode (assemble suite generatedAt)) with ⟨_ | _, tree⟩ <;> rfl

/-! What a session writes depends on its source by the collected suite alone, and on the time by one
line. -/

theorem run_runSession [Answers σ] (settings : Settings) (generatedAt : Int) (source : σ)
    (world : World) :
    World.run (runSession settings generatedAt source) world =
      match (collectSuite settings.options source).1 with
      | .error failure => (.error failure, world)
      | .ok suite =>
          match World.run (writeSuite suite settings.placement generatedAt) world with
          | (.ok path, after) => (.ok (suite, path), after)
          | (.error failure, after) => (.error failure, after) := by
  rw [runSession, World.run_bind, World.run_except]
  cases (collectSuite settings.options source).1 with
  | error failure => rfl
  | ok suite =>
      dsimp only
      rw [World.run_bind]
      rcases World.run (writeSuite suite settings.placement generatedAt) world with
        ⟨_ | _, after⟩ <;> rfl

theorem run_runSession_congr [Answers σ] [Answers τ] {settings : Settings} {first : σ} {second : τ}
    (h : (collectSuite settings.options first).1 = (collectSuite settings.options second).1)
    (generatedAt : Int) (world : World) :
    World.run (runSession settings generatedAt first) world =
      World.run (runSession settings generatedAt second) world := by
  rw [run_runSession, run_runSession, h]

/-! Two files are the same but for the line that holds the time. -/

def timeLine (generatedAt : Int) : String :=
  " * Generated: " ++ timestamp generatedAt

def SameButTime (firstTime secondTime : Int) (first second : Bytes) : Prop :=
  ∃ before after,
    first = encode (joinLines (before ++ timeLine firstTime :: after)) ∧
      second = encode (joinLines (before ++ timeLine secondTime :: after))

theorem sameButTime_assemble (suite : Suite) (firstTime secondTime : Int) :
    SameButTime firstTime secondTime (encode (assemble suite firstTime))
      (encode (assemble suite secondTime)) := by
  have hlines : ∀ generatedAt, scriptLines suite generatedAt =
      (scriptLines suite 0).take 7 ++ timeLine generatedAt :: (scriptLines suite 0).drop 8 :=
    fun _ => rfl
  refine ⟨(scriptLines suite 0).take 7, (scriptLines suite 0).drop 8, ?_, ?_⟩
  · rw [assemble, hlines]
  · rw [assemble, hlines]

/-- Trees hold the same, except for files that are the same but for their time. -/
def TreesSameButTime (firstTime secondTime : Int) (first second : Files.Tree) : Prop :=
  ∀ place, first.find? place = second.find? place ∨
    ∃ one other, first.find? place = some (.file one) ∧ second.find? place = some (.file other) ∧
      SameButTime firstTime secondTime one other

theorem writeSuite_times (suite : Suite) (placement : Placement) (firstTime secondTime : Int)
    (world : World) :
    (World.run (writeSuite suite placement firstTime) world).1 =
        (World.run (writeSuite suite placement secondTime) world).1 ∧
      TreesSameButTime firstTime secondTime
        (World.run (writeSuite suite placement firstTime) world).2.tree
        (World.run (writeSuite suite placement secondTime) world).2.tree := by
  rw [run_writeSuite, run_writeSuite]
  dsimp only
  cases (world.tree.makeParent (placement.pathFor suite.fileBaseName)).1 with
  | error fault => exact ⟨rfl, fun _ => .inl rfl⟩
  | ok _ =>
      obtain ⟨hsame, htrees⟩ :=
        (world.tree.makeParent (placement.pathFor suite.fileBaseName)).2.write_file
          (placement.pathFor suite.fileBaseName) (encode (assemble suite firstTime))
          (encode (assemble suite secondTime))
      have hplaces : TreesSameButTime firstTime secondTime _ _ := fun place =>
        (htrees place).imp_right fun hfiles =>
          ⟨_, _, hfiles.1, hfiles.2, sameButTime_assemble suite firstTime secondTime⟩
      dsimp only
      rw [hsame]
      split <;> exact ⟨rfl, hplaces⟩

theorem runSession_times [Answers σ] (settings : Settings) (source : σ)
    (firstTime secondTime : Int) (world : World) :
    (World.run (runSession settings firstTime source) world).1 =
        (World.run (runSession settings secondTime source) world).1 ∧
      TreesSameButTime firstTime secondTime
        (World.run (runSession settings firstTime source) world).2.tree
        (World.run (runSession settings secondTime source) world).2.tree := by
  rw [run_runSession, run_runSession]
  cases (collectSuite settings.options source).1 with
  | error failure => exact ⟨rfl, fun _ => .inl rfl⟩
  | ok suite =>
      dsimp only
      obtain ⟨hresult, htrees⟩ :=
        writeSuite_times suite settings.placement firstTime secondTime world
      rcases hfirst : World.run (writeSuite suite settings.placement firstTime) world with
        ⟨result, after⟩
      rcases hsecond : World.run (writeSuite suite settings.placement secondTime) world with
        ⟨other, later⟩
      rw [hfirst, hsecond] at hresult htrees
      cases hresult
      cases result <;> exact ⟨rfl, htrees⟩

/-! What the command does to files, in a world: it reads a file, or it puts one where its path
leads. -/

namespace World

def report (world : World) (level : Level) (text : String) : World :=
  { world with journal := world.journal ++ [⟨level, text⟩] }

end World

theorem run_loadSuite (path : String) (world : World) :
    World.run (loadSuite path) world =
      match world.tree.read path with
      | .error fault => (.error (.suiteFile path fault), world)
      | .ok bytes =>
          match suiteOfBytes path bytes with
          | .error failure => (.error failure, world)
          | .ok suite => (.ok suite, world.report .debug "loaded suite file") := by
  simp only [loadSuite, World.run_bind, World.run_orFail, Host.readFile]
  cases world.tree.read path with
  | error fault => rfl
  | ok bytes =>
      dsimp only [Except.mapError]
      rw [World.run_except]
      cases suiteOfBytes path bytes <;> rfl

theorem run_saveSuite (suite : Suite) (path : String) (world : World) :
    World.run (saveSuite suite path) world =
      let stored := world.tree.deposit path (encode (SuiteFile.render suite))
      (stored.1.mapError (.suiteFile path), { world with tree := stored.2 }) := by
  simp only [saveSuite, World.run_bind, World.run_orFail, Host.makeParent, Host.writeFile,
    World.onTree, Tree.deposit]
  rcases world.tree.makeParent path with ⟨_ | _, made⟩ <;> rfl

theorem run_writeSuite_deposit (suite : Suite) (placement : Placement) (generatedAt : Int)
    (world : World) :
    World.run (writeSuite suite placement generatedAt) world =
      let path := placement.pathFor suite.fileBaseName
      let stored := world.tree.deposit path (encode (assemble suite generatedAt))
      match stored.1 with
      | .error fault => (.error (.write path fault), { world with tree := stored.2 })
      | .ok () =>
          (.ok path, World.report { world with tree := stored.2 } .info "wrote suite file") := by
  rw [run_writeSuite]
  dsimp only [Tree.deposit]
  rcases world.tree.makeParent (placement.pathFor suite.fileBaseName) with ⟨_ | _, made⟩
  · rfl
  · dsimp only
    rcases made.write (placement.pathFor suite.fileBaseName) (encode (assemble suite generatedAt))
      with ⟨_ | _, written⟩ <;> rfl

theorem run_loadTranscript (path : String) (world : World) :
    World.run (loadTranscript path) world =
      match world.tree.read path with
      | .error fault => (.error (.transcript path fault), world)
      | .ok bytes => (Transcript.load path bytes, world) := by
  simp only [loadTranscript, World.run_bind, World.run_orFail, Host.readFile]
  cases world.tree.read path with
  | error fault => rfl
  | ok bytes =>
      dsimp only [Except.mapError]
      rw [World.run_except]

/-! The stages of a run, each in the world that the one before it leaves. -/

theorem run_openTranscript (path : String) (world : World) :
    (openTranscript path : StateM World Bool) world =
      match world.tree.writable path with
      | .error _ => (false, world.report .warn "could not open transcript file")
      | .ok place => (true, { world with tree := world.tree.put place (.file []) }) := by
  have hwrite : (Host.writeFile path [] : StateM World (Except Fault Unit)) world =
      ((world.tree.write path []).1, { world with tree := (world.tree.write path []).2 }) := rfl
  simp only [openTranscript, bind, StateT.bind, hwrite, Tree.write]
  cases world.tree.writable path <;> rfl

theorem run_prepareReplay (replay : Option String) (world : World) :
    World.run (prepareReplay replay) world =
      match replay with
      | none => (.ok none, world)
      | some path =>
          match World.run (loadTranscript path) world with
          | (.error failure, after) => (.error failure, after)
          | (.ok events, after) =>
              (.ok (some events), after.report .info "replaying transcript") := by
  cases replay with
  | none => rfl
  | some path =>
      rw [prepareReplay, World.run_bind]
      dsimp only
      rcases World.run (loadTranscript path) world with ⟨_ | _, after⟩ <;> rfl

theorem run_prepareRecord (record : Option String) (world : World) :
    World.run (prepareRecord record) world =
      match record with
      | none => (.ok none, world)
      | some path =>
          match (openTranscript path : StateM World Bool) world with
          | (true, after) => (.ok (some path), after.report .info "recording transcript")
          | (false, after) => (.ok none, after) := by
  cases record with
  | none => rfl
  | some path =>
      rw [prepareRecord, World.run_bind, World.run_lift]
      dsimp only
      rcases (openTranscript path : StateM World Bool) world with ⟨_ | _, after⟩ <;> rfl

theorem run_prepare (replay record : Option String) (world : World) :
    World.run (prepare replay record) world =
      match World.run (prepareReplay replay) world with
      | (.error failure, after) => (.error failure, after)
      | (.ok replayed, after) =>
          match World.run (prepareRecord record) after with
          | (.error failure, later) => (.error failure, later)
          | (.ok recordTo, later) => (.ok { replayed, recordTo }, later) := by
  rw [prepare, World.run_bind]
  rcases World.run (prepareReplay replay) world with ⟨_ | replayed, after⟩
  · rfl
  · dsimp only
    rw [World.run_bind]
    rcases World.run (prepareRecord record) after with ⟨_ | recordTo, later⟩ <;> rfl

theorem run_obtainSuite (arguments : Arguments) (options : Options) (world : World) :
    World.run (obtainSuite arguments options) world =
      match arguments.suite with
      | some path => World.run (loadSuite path) world
      | none =>
          match World.run (prepare arguments.replay arguments.record) world with
          | (.error failure, after) => (.error failure, after)
          | (.ok session, after) => after.interview options session := by
  rw [obtainSuite]
  cases arguments.suite with
  | some path => rfl
  | none =>
      dsimp only
      rw [World.run_bind]
      rcases World.run (prepare arguments.replay arguments.record) world with
        ⟨_ | session, after⟩ <;> rfl

theorem run_saveIfWanted (arguments : Arguments) (suite : Suite) (world : World) :
    World.run (saveIfWanted arguments suite) world =
      match arguments.saveSuite with
      | none => (.ok (), world)
      | some path =>
          match World.run (saveSuite suite path) world with
          | (.error failure, after) => (.error failure, after)
          | (.ok (), after) => (.ok (), after.report .info "saved suite file") := by
  rw [saveIfWanted]
  cases arguments.saveSuite with
  | none => rfl
  | some path =>
      dsimp only
      rw [World.run_bind]
      rcases World.run (saveSuite suite path) world with ⟨_ | _, after⟩ <;> rfl

theorem run_generate (arguments : Arguments) (settings : Settings) (world : World) :
    world.generate arguments settings =
      match World.run (obtainSuite arguments settings.options) world with
      | (.error failure, after) => (.error failure, after)
      | (.ok suite, after) =>
          match World.run (saveIfWanted arguments suite) after with
          | (.error failure, later) => (.error failure, later)
          | (.ok (), later) =>
              match World.run (writeSuite suite settings.placement later.time) later with
              | (.error failure, last) => (.error failure, last)
              | (.ok path, last) =>
                  (.ok path,
                    { last with outlet := (last.outlet.print (summary suite path)).2 }) := by
  rw [World.generate, generate, World.run_bind]
  rcases World.run (obtainSuite arguments settings.options) world with ⟨_ | suite, after⟩
  · rfl
  · dsimp only
    rw [World.run_bind]
    rcases World.run (saveIfWanted arguments suite) after with ⟨_ | _, later⟩
    · rfl
    · dsimp only
      rw [World.run_bind, World.run_lift]
      dsimp only
      rw [World.run_bind]
      have hnow : (Host.now : StateM World Int) later = (later.time, later) := rfl
      rw [hnow]
      dsimp only
      rcases World.run (writeSuite suite settings.placement later.time) later with ⟨_ | path, last⟩
      · rfl
      · dsimp only
        rw [World.run_bind, World.run_lift]
        rfl

end SuiteScribe.Command
