import TraceFields.Script.Perform

/-!
Running scripts, with handlers of requests that take turns.
-/

namespace TraceFields.Script

open Run

abbrev Runner := Step → StateM State Outcome

def inEnvironment {α : Type} (unit : Option Nat) (env : Nat) (body : StateM State α) :
    StateM State α := do
  let s ← get
  set (s.inside unit env)
  let result ← body
  modify s.restore
  pure result

def withServing {α : Type} (serving : Bool) (body : StateM State α) : StateM State α := do
  let before := (← get).serving
  modify fun s => { s with serving }
  let result ← body
  modify fun s => { s with serving := before }
  pure result

structure Task where
  unit : Nat
  outer : Nat
  env : Nat := outer
  request : Request Step
  arrived : Option Object := none
  todo : List Step := []
  seen : List Outcome := []
  finished : Option (Served Answer) := none

def arrive (p : Propagation) (request : Request Step) : Run Object := do
  extracted (Headers.extract (Entries.ofPairs request.headers) p (← heap))

def openScope (r : Option ResolverId) (request : Request Step) (found : Object) : Run Unit := do
  let context := found.context?
  let env ← Requests.environment (← get).here r context
  if context.isSome then
    let env ← derived env
    modify (·.inside none env)
  else note .debug Requests.noContextLine
  keep request.keep found

def conclude (task : Task) (response : Except Fault Datum) : StateM State (Served Answer) := do
  match task.arrived with
  | none => pure ⟨response, task.seen, none⟩
  | some o =>
    match ← (view o).run with
    | .ok answer => pure ⟨response, task.seen, some answer⟩
    | .error fault => pure ⟨.error fault, task.seen, none⟩

def advance (run : Runner) (task : Task) : StateM State Task := do
  match task.todo with
  | step :: rest =>
    let outcome ← run step
    pure { task with todo := rest, seen := task.seen ++ [outcome] }
  | [] =>
    let served ← conclude task
      (if task.request.raises then .error .raised else .ok task.request.response)
    modify (·.inside none task.outer)
    pure { task with finished := some served }

def takeIn (p : Propagation) (r : Option ResolverId) (task : Task) : StateM State Task := do
  match ← (arrive p task.request).run with
  | .error fault =>
    let served ← conclude task (.error fault)
    pure { task with finished := some served }
  | .ok found =>
    let task := { task with arrived := some found }
    match ← (openScope r task.request found).run with
    | .ok () => pure { task with todo := task.request.handler }
    | .error fault =>
      let served ← conclude task (.error fault)
      pure { task with finished := some served }

def begin (p : Propagation) (r : Option ResolverId) (task : Task) : StateM State Task :=
  if task.arrived.isSome then pure task else takeIn p r task

def turn (run : Runner) (p : Propagation) (r : Option ResolverId) (task : Task) :
    StateM State Task := do
  if task.finished.isSome then return task
  inEnvironment (some task.unit) task.env do
    let started ← begin p r task
    let after ← if started.finished.isSome then pure started else advance run started
    pure { after with env := (← get).ambient.env }

def rounds (run : Runner) (p : Propagation) (r : Option ResolverId) :
    Nat → List Task → StateM State (List Task)
  | 0, tasks => pure tasks
  | n + 1, tasks => do rounds run p r n (← tasks.mapM (turn run p r))

def tasksOf (s : State) (requests : List (Request Step)) : List Task :=
  requests.mapIdx fun n request => { unit := s.fresh + n, outer := s.ambient.env, request }

def turnsOf (requests : List (Request Step)) : Nat :=
  (requests.map fun q => q.handler.length).foldl max 0 + 1

def serve (run : Runner) (p : Propagation) (r : Option ResolverId)
    (requests : List (Request Step)) : StateM State (List (Served Answer)) := do
  let s ← get
  set { s with fresh := s.fresh + requests.length }
  let done ← rounds run p r (turnsOf requests) (tasksOf s requests)
  pure (done.filterMap Task.finished)

def receive (ref : SchemeRef) (resolverRef : Ref) : Run (Propagation × Option ResolverId) := do
  let delegate ← delegate? ref
  let r := match ← object resolverRef with
    | .resolver r => some r
    | _ => none
  let p ← (← required delegate).create KeyRule.same.factory
  if (← get).serving then throw .busy
  pure (p, r)

def makeWith (run : Runner) : Step → Run Made
  | .command c _ => perform c
  | .scoped ref contextRef body raises => do
    let r ← resolver (← object ref)
    let o ← object contextRef
    let outcomes ← (inEnvironment none (← entered r o) (body.mapM run) : StateM State _)
    pure { answer := .scoped outcomes raises }
  | .wrap ref body ending _ => do
    let _ ← resolver (← object ref)
    let s ← get
    set (s.addRoutine body ending)
    pure ⟨some (.routine s.fresh), .text "action"⟩
  | .call ref arguments => do
    let s ← get
    match s.routine? (← object ref) with
    | some f =>
      let outcomes ← (inEnvironment none f.env (f.body.mapM run) : StateM State _)
      if f.raises then throw .raised
      pure { answer := .returned outcomes arguments }
    | none => throw .wrongType
  | .thread body => do
    let unit ← freshId
    let outcomes ← (withServing false (inEnvironment (some unit) 0 (body.mapM run)) : StateM State _)
    pure { answer := .batch outcomes }
  | .serve ref resolverRef requests => do
    let (p, r) ← receive ref resolverRef
    let served ← (withServing true (TraceFields.Script.serve run p r requests) : StateM State _)
    pure { answer := .served served }

def runWith (run : Runner) (step : Step) : Run Answer := do
  let made ← makeWith run step
  if let some o := made.object then keep step.keep? o
  pure made.answer

def runStep : (depth : Nat) → Runner
  | 0, _ => pure (.error .depth)
  | depth + 1, step => (runWith (runStep depth) step).run

def deepest : Nat := 1000

def runTop (step : Step) : StateM State Reply := do
  let outcome ← runStep deepest step
  let s ← get
  set { s with registration := { s.registration with log := [] } }
  pure ⟨outcome, s.registration.log⟩

def run (sources : Sources) (steps : List Step) : List Reply :=
  ((steps.mapM runTop).run { sources }).1

end TraceFields.Script
