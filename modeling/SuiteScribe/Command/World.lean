import SuiteScribe.Command.Generate

namespace SuiteScribe.Command

open Interview Text

/-! A world in which the command runs: a tree of files, the input that is still to be typed, what
was printed, what was reported, and the time. -/

structure World where
  tree : Files.Tree := {}
  input : Bytes := []
  outlet : Outlet := {}
  journal : List Notice := []
  time : Int := 0
  eventTime : Nat → Nat := fun _ => 0

/-! The operator sits at a terminal, or a transcript is replayed. -/

abbrev Operator := Terminal ⊕ Replay

namespace Operator

def outlet : Operator → Outlet
  | .inl terminal => terminal.outlet
  | .inr replay => replay.outlet

def journal : Operator → List Notice
  | .inl terminal => terminal.journal
  | .inr replay => replay.journal

/-- What is left of the input. A replay reads none of it. -/
def input (before : Bytes) : Operator → Bytes
  | .inl terminal => terminal.input
  | .inr _ => before

end Operator

namespace World

def operator (world : World) (session : Session) : Operator :=
  match session.replayed with
  | none => .inl { input := world.input, outlet := world.outlet, journal := world.journal }
  | some events => .inr { events, outlet := world.outlet, journal := world.journal }

def recorder (world : World) (session : Session) : Recorder Operator :=
  { source := world.operator session, clock := world.eventTime }

/-- The transcript of a session, if it is recorded, is all that the session leaves in the tree. -/
def recorded (tree : Files.Tree) (session : Session) (events : List Event) : Files.Tree :=
  match session.recordTo with
  | none => tree
  | some path => (tree.write path (encode (Transcript.fileText events))).2

def after (world : World) (session : Session) (recorder : Recorder Operator) : World :=
  { world with
    tree := recorded world.tree session recorder.events
    input := recorder.source.input world.input
    outlet := recorder.source.outlet
    journal := recorder.source.journal }

def interview (options : Options) (session : Session) (world : World) :
    Except Failure Suite × World :=
  let (result, recorder) := collectSuite options (world.recorder session)
  (result, world.after session recorder)

def onTree (change : Files.Tree → Except Fault Unit × Files.Tree) (world : World) :
    Except Fault Unit × World :=
  let (result, tree) := change world.tree
  (result, { world with tree })

instance : Host (StateM World) where
  readFile path := fun world => (world.tree.read path, world)
  writeFile path content := onTree (·.write path content)
  makeParent path := onTree (·.makeParent path)
  print text := fun world => ((), { world with outlet := (world.outlet.print text).2 })
  note notice := fun world => ((), { world with journal := world.journal ++ [notice] })
  now := fun world => (world.time, world)
  interview := interview

/-! Runs in a world. -/

def run (act : Run (StateM World) α) (world : World) : Except Failure α × World :=
  act.run.run world

def generate (arguments : Arguments) (settings : Settings) (world : World) :
    Except Failure String × World :=
  World.run (Command.generate arguments settings) world

end World

end SuiteScribe.Command
