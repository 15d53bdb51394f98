import TypedMarkup.Notice

/-!
# Timing

How long named operations take. `start` and `finish` pair up by name; a measured block keeps its own
start, so that it neither uses nor disturbs those of the names. A run of steps (`Step`) is carried out
by `runSteps`, which also says what each request came to. A failure ends the steps around it up to the
next caller that catches it; the blocks that it leaves log their durations. The clock counts sixteenths
of a second, and may be set back.
-/

namespace TypedMarkup.Timing

/-- The operations that have been started, with their starting times, the clock, and the log. -/
structure State where
  running : Entries Int
  now : Int
  log : List (Level × String)
  deriving Repr

/-- Before any step. -/
def State.initial : State :=
  ⟨[], 0, []⟩

/-- The level that a name gives to a duration. -/
def levelOf (name : String) : Level :=
  (Level.ofName? name).getD .debug

/-- Starts an operation, again if it is running. -/
def start (name : String) (s : State) : State :=
  { s with running := Entries.put name s.now s.running }

/-- The entry on a duration. -/
def durationText (component name : String) (duration : Int) : String :=
  component ++ " " ++ name ++ " took " ++ secondsText duration ++ " seconds"

/-- Logs a duration. -/
def logDuration (component name level : String) (duration : Int) (s : State) : State :=
  { s with log := s.log ++ [(levelOf level, durationText component name duration)] }

/-- Ends an operation: its duration, or zero with a warning if it is not running. -/
def finish (component name level : String) (s : State) : Int × State :=
  match Entries.find? name s.running with
  | some started =>
    let s := { s with running := Entries.erase name s.running }
    (s.now - started, logDuration component name level (s.now - started) s)
  | none => (0, { s with log := s.log ++ [(.warning, "No start time found for " ++ name)] })

/-- What is asked of a timer. -/
inductive Request where
  | start (name : String)
  | finish (name level : String)
  | measure (name level : String)
  deriving Repr, DecidableEq

/-- The word for a request. -/
def Request.command : Request → String
  | start _ => "start"
  | finish .. => "end"
  | measure .. => "measure"

/-- A step of a run: time passes, an operation is started or ended, steps stand in a measured block,
a caller catches the failure of steps, or there is a failure. -/
inductive Step where
  | tick (sixteenths : Int)
  | start (name : String)
  | finish (name level : String)
  | block (name level : String) (body : List Step)
  | attempt (body : List Step)
  | fail (reason : String)
  deriving Repr, Inhabited

/-- A measured block whose failure is caught right behind it. -/
def Step.measure (name level : String) (body : List Step) : Step :=
  .attempt [.block name level body]

/-- What a completed request has to tell: when it was made and when it was done, its duration if it
ended an operation, why it failed if it is a block that did, what it logged, and what is running after
it. -/
structure Completed where
  request : Request
  began : Int
  ended : Int
  seconds : Option Int
  failed : Option String
  log : List (Level × String)
  running : List String
  deriving Repr

/-- The word for the request. -/
def Completed.command (c : Completed) : String :=
  c.request.command

/-- What steps leave: the state, the requests completed, inner ones first, and the reason of a failure
that ended them early. -/
structure Run where
  state : State
  completed : List Completed
  failed : Option String
  deriving Repr

/-- A completed request that was made in one state and left another. -/
def complete (request : Request) (seconds : Option Int) (failed : Option String)
    (before after : State) : Completed :=
  ⟨request, before.now, after.now, seconds, failed, after.log.drop before.log.length,
    Entries.names after.running⟩

/-- Goes on with what comes next, unless there was a failure. -/
def Run.andThen (first : Run) (next : State → Run) : Run :=
  match first.failed with
  | some _ => first
  | none =>
    let others := next first.state
    ⟨others.state, first.completed ++ others.completed, others.failed⟩

mutual

/-- Carries out a step. A block that fails logs its duration, and then fails for the same reason. -/
def runStep (component : String) (s : State) : Step → Run
  | .tick n => ⟨{ s with now := s.now + n }, [], none⟩
  | .start name =>
    let after := start name s
    ⟨after, [complete (.start name) none none s after], none⟩
  | .finish name level =>
    let (seconds, after) := finish component name level s
    ⟨after, [complete (.finish name level) (some seconds) none s after], none⟩
  | .block name level body =>
    let inner := runSteps component s body
    let after := logDuration component name level (inner.state.now - s.now) inner.state
    ⟨after, inner.completed ++ [complete (.measure name level) none inner.failed s after],
      inner.failed⟩
  | .attempt body => { runSteps component s body with failed := none }
  | .fail reason => ⟨s, [], some reason⟩

/-- Carries out steps up to the first failure that none of them catches. -/
def runSteps (component : String) (s : State) : List Step → Run
  | [] => ⟨s, [], none⟩
  | step :: rest => (runStep component s step).andThen fun s => runSteps component s rest

end

end TypedMarkup.Timing
