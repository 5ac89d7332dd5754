import Mathlib.Tactic.Lemma
import TraceFields.Script.Run
import TraceFields.Proofs.Frames

/-!
Lexical scoping of scripts: which scopes are around each step that a script runs, wherever it runs,
and what it means that resolvers give there what those scopes say.
-/

namespace TraceFields.Script

open Run

abbrev Lexical := List (ResolverId × Option Object)

def Lexical.reading (L : Lexical) (r : ResolverId) : Option Object :=
  (L.find? (·.1 = r)).bind Prod.snd

structure History where
  environments : Nat → Option Lexical
  routines : Nat → Option Lexical

namespace History

def start : History where
  environments id := if id = 0 then some [] else none
  routines _ := none

def withEnvironment (H : History) (id : Nat) (L : Lexical) : History :=
  { H with environments := fun n => if n = id then some L else H.environments n }

def withRoutine (H : History) (id : Nat) (L : Lexical) : History :=
  { H with routines := fun n => if n = id then some L else H.routines n }

structure Extends (H K : History) : Prop where
  environments {id : Nat} {L : Lexical} : H.environments id = some L → K.environments id = some L
  routines {id : Nat} {L : Lexical} : H.routines id = some L → K.routines id = some L

end History

def Run.Gives (m : Run Object) (s : State) (o : Option Object) : Prop :=
  m.run.run s = (.ok (.ofOption o), s)

/-- At a point within scopes, each resolver gives what its innermost scope makes active; and asked
with an environment from any time before, what its innermost scope around that environment makes
active. All environments and routines are known. -/
structure Faithful (L : Lexical) (H : History) (s : State) : Prop where
  now (r : ResolverId) : (lookUpNow (.resolver r)).Gives s (L.reading r)
  captured {id : Nat} {M : Lexical} (h : H.environments id = some M) (r : ResolverId) :
    (lookUp (.resolver r) (.environment id)).Gives s (M.reading r)
  environments {id : Nat} : (s.environments.at? id).isSome → (H.environments id).isSome
  routines {id : Nat} : (s.routines.at? id).isSome → (H.routines id).isSome

abbrev StepLaw := Lexical → History → State → Step → History → Prop

def afterStep {β : Type} (run : Step → StateM State β) (step : Step) (s : State) : State :=
  ((run step).run s).2

inductive BodyRuns {β : Type} (run : Step → StateM State β) (law : StepLaw) (L : Lexical) :
    History → State → List Step → History → Prop
  | nil {H s} : Faithful L H s → BodyRuns run law L H s [] H
  | cons {H H' K s step steps} : Faithful L H s → law L H s step H' → H.Extends H' →
      (afterStep run step s).ambient = s.ambient →
      BodyRuns run law L H' (afterStep run step s) steps K →
      BodyRuns run law L H s (step :: steps) K

def Task.lexical (task : Task) (r : Option ResolverId) (L : Lexical) : Lexical :=
  match r, task.arrived.bind Object.context? with
  | some r, some c => (r, some c) :: L
  | _, _ => L

section Requests

variable (run : Runner) (law : StepLaw) (p : Propagation) (r : Option ResolverId) (L : Lexical)

inductive TurnRuns (H : History) (s : State) (task : Task) : History → Prop
  | ended : task.finished.isSome → TurnRuns H s task H
  | refused {started t} : task.finished = none →
      Faithful (task.lexical r L) H (s.inside (some task.unit) task.env) →
      (begin p r task).run (s.inside (some task.unit) task.env) = (started, t) →
      started.finished.isSome →
      Faithful L H t → TurnRuns H s task H
  | step {started t step rest H' K} : task.finished = none →
      Faithful (task.lexical r L) H (s.inside (some task.unit) task.env) →
      (begin p r task).run (s.inside (some task.unit) task.env) = (started, t) →
      started.finished = none →
      started.todo = step :: rest → H' = H.withEnvironment t.ambient.env (started.lexical r L) →
      Faithful (started.lexical r L) H' t → law (started.lexical r L) H' t step K → H'.Extends K →
      Faithful (started.lexical r L) K (afterStep run step t) → TurnRuns H s task K
  | finish {started t K} : task.finished = none →
      Faithful (task.lexical r L) H (s.inside (some task.unit) task.env) →
      (begin p r task).run (s.inside (some task.unit) task.env) = (started, t) →
      started.finished = none →
      started.todo = [] → K = H.withEnvironment t.ambient.env (started.lexical r L) →
      Faithful (started.lexical r L) K t → Faithful L K ((advance run started).run t).2 →
      TurnRuns H s task K

inductive RoundRuns : History → State → List Task → History → Prop
  | nil {H s} : RoundRuns H s [] H
  | cons {H H' K s task tasks} : TurnRuns run law p r L H s task H' → H.Extends H' →
      RoundRuns H' ((turn run p r task).run s).2 tasks K → RoundRuns H s (task :: tasks) K

inductive RoundsRun : Nat → History → State → List Task → History → Prop
  | zero {H s tasks} : RoundsRun 0 H s tasks H
  | succ {n H H' K s tasks} : RoundRuns run law p r L H s tasks H' →
      RoundsRun n H' ((tasks.mapM (turn run p r)).run s).2 ((tasks.mapM (turn run p r)).run s).1 K →
      RoundsRun (n + 1) H s tasks K

end Requests

def stepLaw : (depth : Nat) → StepLaw
  | 0, _, H, _, _, K => K = H
  | depth + 1, L, H, s, step, K =>
    match step with
    | .command _ _ => K = H
    | .scoped ref contextRef body _ =>
      match resolve s.registers ref, resolve s.registers contextRef with
      | .ok (.resolver r), .ok o =>
        BodyRuns (runStep depth) (stepLaw depth) ((r, o.toOption) :: L)
          (H.withEnvironment s.fresh ((r, o.toOption) :: L))
          ((s.derive (s.here.enter r o.toOption)).inside none s.fresh) body K
      | _, _ => K = H
    | .wrap ref _ _ _ =>
      match resolve s.registers ref with
      | .ok (.resolver _) => K = H.withRoutine s.fresh L
      | _ => K = H
    | .call ref _ =>
      match resolve s.registers ref with
      | .ok (.routine id) =>
        match s.routines.at? id with
        | some f =>
          ∃ M, H.routines id = some M ∧
            BodyRuns (runStep depth) (stepLaw depth) M H (s.inside none f.env) f.body K
        | none => K = H
      | _ => K = H
    | .thread body =>
      BodyRuns (runStep depth) (stepLaw depth) [] H
        ({ s with fresh := s.fresh + 1, serving := false }.inside (some s.fresh) 0) body K
    | .serve ref resolverRef requests =>
      match ((receive ref resolverRef).run.run s).1 with
      | .ok (p, r) =>
        RoundsRun (runStep depth) (stepLaw depth) p r L (turnsOf requests) H
          { s with serving := true, fresh := s.fresh + requests.length } (tasksOf s requests) K
      | .error _ => K = H

inductive Step.Nested : Step → Prop
  | command {c keep} : c.IsLocal → Nested (.command c keep)
  | scope {resolver context body raises} :
      (∀ step ∈ body, Nested step) → Nested (.scoped resolver context body raises)
  | wrap {resolver body ending keep} :
      (∀ step ∈ body, Nested step) → Nested (.wrap resolver body ending keep)
  | call {routine arguments} : Nested (.call routine arguments)
  | thread {body} : (∀ step ∈ body, Nested step) → Nested (.thread body)
  | serve {scheme resolver requests} :
      (∀ request ∈ requests, ∀ step ∈ request.handler, Nested step) →
      Nested (.serve scheme resolver requests)

end TraceFields.Script
