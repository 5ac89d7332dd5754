import TraceFields.Proofs.Serving

/-!
For which resolvers scopes are entered while a script runs.
-/

namespace TraceFields.Script

open Run

inductive Event where
  | point (s : State)
  | entered (r : ResolverId)

section Events

variable {β : Type}

def bodyEvents (run : Step → StateM State β) (events : State → Step → List Event) :
    State → List Step → List Event
  | s, [] => [.point s]
  | s, step :: steps =>
    .point s :: (events s step ++ bodyEvents run events (afterStep run step s) steps)

variable (run : Runner) (events : State → Step → List Event) (p : Propagation)
  (r : Option ResolverId)

def arrivalEvents (task started : Task) : List Event :=
  match task.arrived, started.arrived.bind Object.context?, r with
  | none, some _, some q => [.entered q]
  | _, _, _ => []

def turnEvents (s : State) (task : Task) : List Event :=
  if task.finished.isSome then []
  else
    let (started, t) := (begin p r task).run (s.inside (some task.unit) task.env)
    arrivalEvents r task started ++
      if started.finished.isSome then []
      else match started.todo with
        | [] => [.point t]
        | step :: _ => .point t :: (events t step ++ [.point (afterStep run step t)])

def roundEvents : State → List Task → List Event
  | _, [] => []
  | s, task :: tasks =>
    turnEvents run events p r s task ++ roundEvents ((turn run p r task).run s).2 tasks

def roundsEvents : (rounds : Nat) → State → List Task → List Event
  | 0, _, _ => []
  | n + 1, s, tasks =>
    let (after, t) := (tasks.mapM (turn run p r)).run s
    roundEvents run events p r s tasks ++ roundsEvents n t after

end Events

def stepEvents : (depth : Nat) → State → Step → List Event
  | 0, _, _ => []
  | depth + 1, s, step =>
    match step with
    | .command (.enter ref contextRef _) _ =>
      match s.scope? ref contextRef with
      | some (r, _) => [.entered r]
      | none => []
    | .command _ _ | .wrap _ _ _ _ => []
    | .scoped ref contextRef body _ =>
      match s.scope? ref contextRef with
      | some (r, o) => .entered r :: bodyEvents (runStep depth) (stepEvents depth)
          ((s.derive (s.here.enter r o.toOption)).inside none s.fresh) body
      | none => []
    | .call ref _ =>
      match resolve s.registers ref with
      | .ok (.routine id) =>
        match s.routines.at? id with
        | some f => bodyEvents (runStep depth) (stepEvents depth) (s.inside none f.env) f.body
        | none => []
      | _ => []
    | .thread body =>
      bodyEvents (runStep depth) (stepEvents depth)
        ({ s with fresh := s.fresh + 1, serving := false }.inside (some s.fresh) 0) body
    | .serve ref resolverRef requests =>
      match ((receive ref resolverRef).run.run s).1 with
      | .ok (p, r) => roundsEvents (runStep depth) (stepEvents depth) p r (turnsOf requests)
          { s with serving := true, fresh := s.fresh + requests.length } (tasksOf s requests)
      | .error _ => []

section Leading

variable {entered : List ResolverId} {s t u : State} {events later : List Event}

def enteredBy (entered : List ResolverId) : List Event → List ResolverId
  | [] => entered
  | .point _ :: events => enteredBy entered events
  | .entered r :: events => enteredBy (r :: entered) events

def KeptAlong : List ResolverId → List Event → Prop
  | _, [] => True
  | entered, .point s :: events => Kept entered s ∧ KeptAlong entered events
  | entered, .entered r :: events => KeptAlong (r :: entered) events

lemma enteredBy_append :
    enteredBy entered (events ++ later) = enteredBy (enteredBy entered events) later := by
  induction events generalizing entered with
  | nil => rfl
  | cons event events ih => cases event <;> exact ih

lemma keptAlong_append : KeptAlong entered (events ++ later) ↔
    KeptAlong entered events ∧ KeptAlong (enteredBy entered events) later := by
  induction events generalizing entered with
  | nil => exact (and_iff_right trivial).symm
  | cons event events ih =>
    cases event with
    | point s => exact (and_congr_right fun _ => ih).trans and_assoc.symm
    | entered r => exact ih

lemma KeptAlong.point (h : KeptAlong entered (events ++ .point s :: later)) :
    Kept (enteredBy entered events) s := (keptAlong_append.1 h).2.1

structure Leads (entered : List ResolverId) (s : State) (events : List Event) (t : State) :
    Prop where
  along : KeptAlong entered events
  kept : Kept (enteredBy entered events) t
  resolvers : s.resolvers ≤ t.resolvers

namespace Leads

lemma refl (h : Kept entered s) : Leads entered s [] s := ⟨trivial, h, Nat.le_refl _⟩

lemma trans (h : Leads entered s events t) (k : Leads (enteredBy entered events) t later u) :
    Leads entered s (events ++ later) u :=
  ⟨keptAlong_append.2 ⟨h.along, k.along⟩, enteredBy_append ▸ k.kept,
    Nat.le_trans h.resolvers k.resolvers⟩

lemma point (h : Leads entered s events t) (hs : Kept entered s) :
    Leads entered s (.point s :: events) t := ⟨⟨hs, h.along⟩, h.kept, h.resolvers⟩

lemma steady (h : Leads entered s events t) (hu : Steady t u) : Leads entered s events u :=
  ⟨h.along, h.kept.steady hu, hu.resolvers ▸ h.resolvers⟩

lemma restore {unit : Option Nat} {env : Nat} (h : Leads entered (s.inside unit env) events t) :
    Leads entered s events (s.restore t) := ⟨h.along, h.kept.restore s, h.resolvers⟩

lemma keep (h : Leads entered s events t) {o : Object} (ho : o.IsMade t.resolvers)
    (name : Option String) : Leads entered s events ((Run.keep name o).after t) := by
  refine ⟨h.along, h.kept.keep ho name, ?_⟩
  cases name <;> exact h.resolvers

end Leads

end Leading

def Entering {β : Type} (run : Step → StateM State β) (events : State → Step → List Event) : Prop :=
  ∀ {entered s} step, Kept entered s → Leads entered s (events s step) (afterStep run step s)

section Bodies

variable {β : Type} {run : Step → StateM State β} {events : State → Step → List Event}
  {entered : List ResolverId} {s : State}

lemma Entering.body (h : Entering run events) (hs : Kept entered s) (steps : List Step) :
    Leads entered s (bodyEvents run events s steps) ((steps.mapM run).run s).2 := by
  induction steps generalizing entered s with
  | nil => exact (Leads.refl hs).point hs
  | cons step steps ih =>
    have hstep := h step hs
    rw [run_mapM_cons]
    exact (hstep.trans (ih hstep.kept)).point hs

lemma Entering.inEnvironment (h : Entering run events) (hs : Kept entered s) (unit : Option Nat)
    (env : Nat) (steps : List Step) :
    Leads entered s (bodyEvents run events (s.inside unit env) steps)
      ((TraceFields.Script.inEnvironment unit env (steps.mapM run)).run s).2 := by
  have hbody := h.body (hs.inside unit env) steps
  rw [run_inEnvironment]
  exact ⟨hbody.along, hbody.kept.restore s, hbody.resolvers⟩

end Bodies

section Requests

variable {run : Runner} {events : State → Step → List Event} {entered : List ResolverId}
  {s : State} {p : Propagation} {r : Option ResolverId}

lemma arrivalEvents_none (task started : Task) : arrivalEvents none task started = [] := by
  unfold arrivalEvents
  split
  · next h => cases h
  · rfl

lemma takeIn_leads (hs : Kept entered s) (hr : ∀ q, r = some q → q.index < s.resolvers)
    {task : Task} (ha : task.arrived = none) :
    Leads entered s (arrivalEvents r task ((takeIn p r task).run s).1)
      ((takeIn p r task).run s).2 := by
  have harrive : Steady s ((arrive p task.request).run.run s).2 := steady_arrive p task.request s
  have hfound : Yields entered s.resolvers (arrive p task.request) (Object.IsMade s.resolvers) :=
    yields_bind steady_heap fun _ => yields_extracted _
  have hmade := hfound s hs rfl
  rw [run_takeIn]
  generalize (arrive p task.request).run.run s = x at harrive hmade ⊢
  obtain ⟨fault | found, t⟩ := x
  · simp only [arrivalEvents, ha, Option.bind_none]
    exact (Leads.refl hs).steady (harrive.trans (steady_conclude _ _ _))
  · have ht : Leads entered s [] t := (Leads.refl hs).steady harrive
    have hmade : found.IsMade t.resolvers := harrive.resolvers ▸ hmade found rfl
    simp only
    rcases openScope_cases r task.request found t with
      ⟨hc, u, hu, hrun⟩ | ⟨rfl, fault, hrun⟩ | ⟨q, c, rfl, hc, hrun⟩
    · rw [hrun]
      simp only [arrivalEvents, ha, Option.bind_some, hc]
      exact (ht.steady hu).keep (hu.resolvers ▸ hmade) _
    · rw [hrun, arrivalEvents_none]
      exact ht.steady (steady_conclude _ _ _)
    · rw [hrun]
      simp only [arrivalEvents, ha, Option.bind_some, hc]
      have hscope : Leads entered s [.entered q]
          ((t.derive (t.here.enter q (some c))).inside none t.fresh) := by
        refine ⟨trivial, (ht.kept.derive ?_ fun o ho => ?_).inside _ _, ht.resolvers⟩
        · exact Nat.lt_of_lt_of_le (hr q rfl) ht.resolvers
        · cases ho
          exact hmade.of_context? hc
      exact hscope.keep hmade _

lemma begin_leads (hs : Kept entered s) (hr : ∀ q, r = some q → q.index < s.resolvers)
    (task : Task) :
    Leads entered s (arrivalEvents r task ((begin p r task).run s).1)
      ((begin p r task).run s).2 := by
  cases ha : task.arrived with
  | none =>
    rw [begin_of_not_arrived p r ha]
    exact takeIn_leads hs hr ha
  | some found =>
    rw [begin_of_arrived p r (Option.isSome_of_eq_some ha)]
    simp only [arrivalEvents, ha]
    exact .refl hs

lemma Entering.turn (h : Entering run events) (hs : Kept entered s)
    (hr : ∀ q, r = some q → q.index < s.resolvers) (task : Task) :
    Leads entered s (turnEvents run events p r s task)
      ((TraceFields.Script.turn run p r task).run s).2 := by
  cases hf : task.finished with
  | some served =>
    rw [run_turn_finished run p r (Option.isSome_of_eq_some hf)]
    simp only [turnEvents, hf]
    exact .refl hs
  | none =>
    have hbegin := begin_leads (p := p) (hs.inside (some task.unit) task.env) hr task
    rw [run_turn run p r hf]
    simp only [turnEvents, hf, Option.isSome_none, Bool.false_eq_true, if_false]
    generalize (begin p r task).run (s.inside (some task.unit) task.env) = x at hbegin ⊢
    obtain ⟨started, t⟩ := x
    apply Leads.restore
    by_cases hfin : started.finished.isSome
    · simp only [if_pos hfin, List.append_nil]
      exact hbegin
    · simp only [if_neg hfin]
      refine hbegin.trans ?_
      cases htodo : started.todo with
      | nil =>
        obtain ⟨served, u, hu, hrun⟩ := run_advance_nil run htodo t
        rw [hrun]
        have hended := (Leads.refl hbegin.kept).steady hu
        exact Leads.point ⟨hended.along, hended.kept.inside _ _, hended.resolvers⟩ hbegin.kept
      | cons step rest =>
        have hstep := h step hbegin.kept
        rw [run_advance_cons run htodo]
        exact (hstep.trans ((Leads.refl hstep.kept).point hstep.kept)).point hbegin.kept

lemma Entering.round (h : Entering run events) (hs : Kept entered s)
    (hr : ∀ q, r = some q → q.index < s.resolvers) (tasks : List Task) :
    Leads entered s (roundEvents run events p r s tasks)
      ((tasks.mapM (TraceFields.Script.turn run p r)).run s).2 := by
  induction tasks generalizing entered s with
  | nil => exact .refl hs
  | cons task tasks ih =>
    have hturn := h.turn (p := p) hs hr task
    rw [run_mapM_cons]
    exact hturn.trans (ih hturn.kept fun q hq => Nat.lt_of_lt_of_le (hr q hq) hturn.resolvers)

lemma Entering.rounds (h : Entering run events) (n : Nat) (hs : Kept entered s)
    (hr : ∀ q, r = some q → q.index < s.resolvers) (tasks : List Task) :
    Leads entered s (roundsEvents run events p r n s tasks)
      ((TraceFields.Script.rounds run p r n tasks).run s).2 := by
  induction n generalizing entered s tasks with
  | zero => exact .refl hs
  | succ n ih =>
    have hround := h.round (p := p) hs hr tasks
    exact hround.trans
      (ih hround.kept (fun q hq => Nat.lt_of_lt_of_le (hr q hq) hround.resolvers) _)

end Requests

section Commands

variable {entered : List ResolverId} {s t : State} {events : List Event}

structure LeadsMaking (entered : List ResolverId) (s : State) (events : List Event) (m : Run Made) :
    Prop where
  leads : Leads entered s events (m.after s)
  made {made : Made} : (m.run.run s).1 = .ok made → made.IsMade (m.after s).resolvers

lemma LeadsMaking.of_run {m m' : Run Made} (hrun : m.run.run s = m'.run.run t)
    (ht : Leads entered s events t) (hm : Makes (enteredBy entered events) t.resolvers m') :
    LeadsMaking entered s events m := by
  have hafter : m.after s = m'.after t := congrArg Prod.snd hrun
  refine ⟨hafter ▸ ht.steady (hm.steady t), fun {made} hmade => ?_⟩
  rw [hafter, (hm.steady t).resolvers]
  rw [hrun] at hmade
  exact hm.yields t ht.kept rfl made hmade

lemma LeadsMaking.of_error {m : Run Made} {fault : Fault} (hs : Kept entered s)
    (hrun : m.run.run s = (.error fault, s)) : LeadsMaking entered s [] m := by
  have hthrow : m.run.run s = (throw fault : Run Made).run.run s := hrun
  exact .of_run hthrow (.refl hs) (.throw fault)

lemma makes_initialized {n : Nat} (existing : Bool) (o : Object) :
    Makes entered n (initialized existing o) := by
  cases o with
  | scheme f => exact .pure _ _
  | _ => exact .throw _

lemma run_init (fields : Option Datum) (ref : SchemeRef) (configFile : Option String)
    (debug : Option Bool) (s : State) :
    (∃ fault, (perform (.init fields ref configFile debug)).run.run s = (.error fault, s)) ∨
      ∃ args hold,
        let x := s.registration.init s.sources args hold (.resolver ⟨s.resolvers⟩)
        (perform (.init fields ref configFile debug)).run.run s =
          (liftM x.1 >>= initialized s.registration.scheme.isSome : Run Made).run.run
            { s with resolvers := s.resolvers + 1, fresh := s.fresh + 1, registration := x.2 } := by
  have hstate := after_delegate? ref s
  rw [after] at hstate
  rw [perform, run_bind]
  generalize (delegate? ref).run.run s = x at hstate ⊢
  obtain ⟨fault | delegate, u⟩ := x
  · obtain rfl : u = s := hstate
    exact Or.inl ⟨fault, rfl⟩
  · obtain rfl : u = s := hstate
    exact Or.inr (run_setUp fields delegate configFile debug u)

lemma run_register (entry : RegistrationEntry) (s : State) :
    (∃ fault, (perform (.register entry)).run.run s = (.error fault, s)) ∨
      ∃ g, (perform (.register entry)).run.run s = done.run.run { s with registration := g } ∧
        ∀ o, g.resolver = some o → s.registration.resolver = some o ∨
          ∃ ref p, resolve s.registers ref = .ok p ∧ p.toOption = some o := by
  cases entry with
  | debug b => exact Or.inr ⟨_, rfl, fun o ho => Or.inl ho⟩
  | resolver ref =>
    simp only [perform, register, run_bind, run_object]
    cases ho : resolve s.registers ref with
    | error fault => exact Or.inl ⟨fault, rfl⟩
    | ok p => exact Or.inr ⟨_, rfl, fun o hg => Or.inr ⟨ref, p, ho, hg⟩⟩
  | scheme ref =>
    simp only [perform, register, run_bind, run_object]
    cases resolve s.registers ref with
    | error fault => exact Or.inl ⟨fault, rfl⟩
    | ok p => exact Or.inr ⟨_, rfl, fun o ho => Or.inl ho⟩

lemma Kept.scope? (hs : Kept entered s) {ref contextRef : Ref} {r : ResolverId} {o : Object}
    (h : s.scope? ref contextRef = some (r, o)) : r.index < s.resolvers ∧ o.IsMade s.resolvers := by
  unfold State.scope? at h
  split at h
  · next q p hq hp =>
    cases h
    exact ⟨hs.resolve hq, hs.resolve hp⟩
  · cases h

lemma Kept.perform (hs : Kept entered s) (c : Command) (keep : Option String) (depth : Nat) :
    LeadsMaking entered s (stepEvents (depth + 1) s (.command c keep)) (perform c) := by
  have hsame {t : State} (hn : s.resolvers ≤ t.resolvers) (he : t.environments = s.environments)
      (hr : t.registers = s.registers)
      (hg : ∀ o, t.registration.resolver = some o → o.IsMade t.resolvers) :
      Leads entered s [] t := ⟨trivial, hs.registering he hr hn hg, hn⟩
  cases c with
  | enter ref contextRef name =>
    obtain ⟨fault, hrun⟩ := run_enter ref contextRef name s
    simp only [stepEvents]
    cases hscope : s.scope? ref contextRef with
    | none =>
      rw [hscope] at hrun
      exact .of_error hs hrun
    | some scope =>
      obtain ⟨r, o⟩ := scope
      rw [hscope] at hrun
      obtain ⟨hr, ho⟩ := hs.scope? hscope
      have hderived := hs.derive hr fun p hp => ho.of_toOption hp
      refine .of_run hrun ⟨trivial, hderived.mono rfl rfl rfl (Nat.le_refl _), Nat.le_refl _⟩ ?_
      exact .shown o ho
  | exit name =>
    have hrun := run_exit name s
    cases hexit : s.ambient.exit? name with
    | none =>
      rw [hexit] at hrun
      exact .of_error hs hrun
    | some ambient =>
      rw [hexit] at hrun
      exact .of_run hrun (hsame (Nat.le_refl _) rfl rfl fun o ho => hs.registered ho) .done
  | resolver =>
    have hrun : (Script.perform .resolver).run.run s =
        (pure ⟨some (.resolver ⟨s.resolvers⟩), .nothing⟩ : Run Made).run.run
          { s with resolvers := s.resolvers + 1 } := rfl
    refine .of_run hrun (hsame (Nat.le_succ _) rfl rfl fun o ho => ?_)
      (.pure _ _ (Nat.lt_succ_self _))
    exact (hs.registered ho).mono (Nat.le_succ _)
  | init fields ref configFile debug =>
    rcases run_init fields ref configFile debug s with ⟨fault, hrun⟩ | ⟨args, hold, hrun⟩
    · exact .of_error hs hrun
    · refine .of_run hrun (hsame (Nat.le_succ _) rfl rfl fun o ho => ?_)
        (.bind (steady_lift _) fun o => makes_initialized _ o)
      rcases s.registration.resolver_init s.sources args hold (.resolver ⟨s.resolvers⟩) with
        hold | hfresh
      · exact (hs.registered (hold ▸ ho)).mono (Nat.le_succ _)
      · cases hfresh.symm.trans ho
        exact Nat.lt_succ_self _
  | reset =>
    have hrun : (Script.perform .reset).run.run s =
        done.run.run { s with registration := s.registration.reset } := rfl
    refine .of_run hrun (hsame (Nat.le_refl _) rfl rfl fun o ho => ?_) .done
    cases ho
  | register entry =>
    rcases run_register entry s with ⟨fault, hrun⟩ | ⟨g, hrun, hg⟩
    · exact .of_error hs hrun
    · refine .of_run hrun (hsame (Nat.le_refl _) rfl rfl fun o ho => ?_) .done
      rcases hg o ho with hold | ⟨ref, p, hp, hpo⟩
      · exact hs.registered hold
      · exact (hs.resolve hp).of_toOption hpo
  | _ => exact .of_run rfl (.refl hs) (makes_perform trivial)

end Commands

section Steps

variable {entered : List ResolverId} {s : State} {depth : Nat}

def AlwaysMade (n : Nat) (m : Run Made) : Prop :=
  ∀ s made, (m.run.run s).1 = .ok made → made.IsMade n

lemma alwaysMade_bind {α : Type} {n : Nat} {m : Run α} {f : α → Run Made}
    (hf : ∀ a, AlwaysMade n (f a)) : AlwaysMade n (m >>= f) := by
  intro s made hmade
  rw [run_bind] at hmade
  generalize m.run.run s = x at hmade
  obtain ⟨_ | a, t⟩ := x
  · cases hmade
  · exact hf a t made hmade

lemma alwaysMade_pure {n : Nat} {made : Made} (h : made.IsMade n) : AlwaysMade n (pure made) := by
  intro s other hmade
  cases hmade
  exact h

lemma alwaysMade_makeWith (run : Runner) (n : Nat) {step : Step}
    (hc : ∀ c keep, step ≠ .command c keep) : AlwaysMade n (makeWith run step) := by
  have hanswer (answer : Answer) : AlwaysMade n (pure { answer }) :=
    alwaysMade_pure fun o ho => by cases ho
  have hthrow (fault : Fault) : AlwaysMade n (throw fault) := fun s made hmade => by cases hmade
  match step with
  | .command c keep => exact absurd rfl (hc c keep)
  | .scoped _ _ _ _ =>
    refine alwaysMade_bind fun _ => alwaysMade_bind fun _ => alwaysMade_bind fun _ => ?_
    exact alwaysMade_bind fun _ => alwaysMade_bind fun _ => hanswer _
  | .wrap _ _ _ _ =>
    refine alwaysMade_bind fun _ => alwaysMade_bind fun _ => alwaysMade_bind fun _ => ?_
    refine alwaysMade_bind fun _ => alwaysMade_pure fun o ho => ?_
    cases ho
    trivial
  | .call _ _ =>
    refine alwaysMade_bind fun s => alwaysMade_bind fun o => ?_
    cases s.routine? o with
    | none => exact hthrow _
    | some f =>
      refine alwaysMade_bind fun _ => ?_
      cases f.raises with
      | true => exact alwaysMade_bind fun _ => hanswer _
      | false => exact hanswer _
  | .thread _ => exact alwaysMade_bind fun _ => alwaysMade_bind fun _ => hanswer _
  | .serve _ _ _ => exact alwaysMade_bind fun _ => alwaysMade_bind fun _ => hanswer _

lemma yields_receive {n : Nat} (ref : SchemeRef) (resolverRef : Ref) :
    Yields entered n (receive ref resolverRef) fun x => ∀ q, x.2 = some q → q.index < n := by
  have hrest (p : Propagation) (s : State) (r : Option ResolverId)
      (hr : ∀ q, r = some q → q.index < n) : Yields entered n (do
        if s.serving then throw .busy
        pure (p, r)) fun x => ∀ q, x.2 = some q → q.index < n := by
    split
    · exact yields_bind (steady_throw _) fun _ => yields_pure hr
    · exact yields_pure hr
  refine yields_bind (steady_delegate? ref) fun delegate => ?_
  refine (yields_object resolverRef).bind (steady_object _) fun o ho => ?_
  refine yields_bind (steady_required _) fun scheme => yields_bind (steady_lift _) fun p => ?_
  refine yields_bind steady_get fun s => ?_
  cases o with
  | resolver r => exact hrest p s (some r) fun q hq => Option.some.inj hq ▸ ho
  | _ => exact hrest p s none fun q hq => by cases hq

lemma Entering.make (h : Entering (runStep depth) (stepEvents depth)) (hs : Kept entered s)
    (step : Step) :
    Leads entered s (stepEvents (depth + 1) s step) ((makeWith (runStep depth) step).after s) := by
  match step with
  | .command c keep => exact (hs.perform c keep depth).leads
  | .scoped ref contextRef body raises =>
    rw [after_scoped]
    simp only [stepEvents]
    cases hscope : s.scope? ref contextRef with
    | none => exact .refl hs
    | some scope =>
      obtain ⟨r, o⟩ := scope
      obtain ⟨hr, ho⟩ := hs.scope? hscope
      have hderived := hs.derive hr fun p hp => ho.of_toOption hp
      have hbody := h.inEnvironment hderived none s.fresh body
      exact ⟨hbody.along, hbody.kept, hbody.resolvers⟩
  | .wrap ref body ending keep =>
    rw [after_wrap]
    simp only [stepEvents]
    split
    · exact ⟨trivial, hs.mono rfl rfl rfl (Nat.le_refl _), Nat.le_refl _⟩
    · exact .refl hs
  | .call ref arguments =>
    rw [after_call]
    simp only [stepEvents]
    cases resolve s.registers ref with
    | error fault => exact .refl hs
    | ok o =>
      cases o with
      | routine id =>
        simp only
        cases s.routines.at? id with
        | none => exact .refl hs
        | some f => exact h.inEnvironment hs none f.env f.body
      | _ => exact .refl hs
  | .thread body =>
    rw [after_thread]
    simp only [stepEvents]
    have hs' : Kept entered { s with fresh := s.fresh + 1, serving := false } :=
      hs.mono rfl rfl rfl (Nat.le_refl _)
    have hbody := h.inEnvironment hs' (some s.fresh) 0 body
    exact ⟨hbody.along, hbody.kept.mono rfl rfl rfl (Nat.le_refl _), hbody.resolvers⟩
  | .serve ref resolverRef requests =>
    have hreceive := yields_receive ref resolverRef s hs rfl
    rw [after_serve]
    simp only [stepEvents]
    cases hx : ((receive ref resolverRef).run.run s).1 with
    | error fault => exact .refl hs
    | ok x =>
      obtain ⟨p, r⟩ := x
      have hs' : Kept entered { s with serving := true, fresh := s.fresh + requests.length } :=
        hs.mono rfl rfl rfl (Nat.le_refl _)
      have hrounds := h.rounds (p := p) (turnsOf requests) hs' (hreceive _ hx) (tasksOf s requests)
      exact ⟨hrounds.along, hrounds.kept.mono rfl rfl rfl (Nat.le_refl _), hrounds.resolvers⟩

lemma after_keep_pure (name : Option String) (o : Object) (answer : Answer) (t : State) :
    (keep name o >>= fun _ => pure answer).after t = (keep name o).after t := by
  cases name <;> rfl

lemma Entering.succ (h : Entering (runStep depth) (stepEvents depth)) :
    Entering (runStep (depth + 1)) (stepEvents (depth + 1)) := by
  intro entered s step hs
  have hlead := h.make hs step
  have hmade (made : Made) (hrun : ((makeWith (runStep depth) step).run.run s).1 = .ok made) :
      made.IsMade ((makeWith (runStep depth) step).after s).resolvers := by
    match step with
    | .command c keep => exact (hs.perform c keep depth).made hrun
    | .scoped _ _ _ _ | .wrap _ _ _ _ | .call _ _ | .thread _ | .serve _ _ _ =>
      exact alwaysMade_makeWith _ _ (fun c keep h => by cases h) s made hrun
  change Leads entered s _ ((runWith (runStep depth) step).run.run s).2
  rw [after] at hlead hmade
  rw [runWith, run_bind]
  generalize (makeWith (runStep depth) step).run.run s = x at hlead hmade ⊢
  obtain ⟨fault | made, t⟩ := x
  · exact hlead
  · cases ho : made.object with
    | none =>
      simp only [ho]
      exact hlead
    | some o =>
      simp only [ho]
      change Leads entered s _ ((keep step.keep? o >>= fun _ => pure made.answer).after t)
      rw [after_keep_pure]
      exact hlead.keep (hmade made rfl o ho) step.keep?

end Steps

end TraceFields.Script
