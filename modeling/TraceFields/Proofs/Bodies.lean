import TraceFields.Proofs.Making
import TraceFields.Proofs.Records

/-!
What steps obey, the bodies that are made of them obey, and so do the blocks, the routines and the
units that run such a body.
-/

namespace TraceFields.Script

open Run

section Running

variable {α β : Type} (s : State)

lemma run_pure (a : α) : (pure a : Run α).run.run s = (.ok a, s) := rfl

lemma run_stateM_bind (m : StateM State α) (f : α → StateM State β) :
    (m >>= f).run s = (f (m.run s).1).run (m.run s).2 := rfl

lemma run_lift (m : StateM State α) :
    (liftM m : Run α).run.run s = (.ok (m.run s).1, (m.run s).2) := rfl

lemma run_inEnvironment (unit : Option Nat) (env : Nat) (body : StateM State α) :
    (inEnvironment unit env body).run s =
      ((body.run (s.inside unit env)).1, s.restore (body.run (s.inside unit env)).2) := rfl

lemma frame_bind_after (m : Run α) {f : α → Run β} (hf : ∀ a, Frames (f a)) :
    Frame (m.after s) ((m >>= f).after s) := by
  rcases after_bind_cases m f s with h | ⟨a, h⟩
  · rw [h]
    exact Frame.refl _
  · rw [h]
    exact hf a _

lemma run_mapM_cons (f : α → StateM State β) (a : α) (l : List α) :
    ((a :: l).mapM f).run s =
      (((f a).run s).1 :: ((l.mapM f).run ((f a).run s).2).1,
        ((l.mapM f).run ((f a).run s).2).2) := by
  rw [List.mapM_cons]
  rfl

end Running

lemma State.restore_ambient {s t u : State} (ht : t.ambient = s.ambient)
    (hu : u.ambient.scopes = t.ambient.scopes) : (t.restore u).ambient = s.ambient := by
  simp only [State.restore, Ambient.restore, hu, ht]

def Obeys {β : Type} (run : Step → StateM State β) (law : StepLaw) : Prop :=
  ∀ {L H s step}, Sound L H s → step.Nested → ∃ K, law L H s step K ∧ H.Extends K ∧
    Records K (afterStep run step s) ∧ (afterStep run step s).ambient = s.ambient

variable {β : Type} {run : Step → StateM State β} {law : StepLaw} {L M : Lexical}
    {H : History} {s : State}

lemma Obeys.body (h : Obeys run law) {steps : List Step} (hs : Sound L H s)
    (hn : ∀ step ∈ steps, step.Nested) :
    ∃ K, BodyRuns run law L H s steps K ∧ H.Extends K ∧ Records K ((steps.mapM run).run s).2 ∧
      ((steps.mapM run).run s).2.ambient = s.ambient := by
  induction steps generalizing H s with
  | nil => exact ⟨H, .nil hs.faithful, .refl H, hs.records, rfl⟩
  | cons step steps ih =>
    obtain ⟨H', hlaw, hext, hrec, hamb⟩ := h hs (hn step (by simp))
    obtain ⟨K, hbody, hext', hrec', hamb'⟩ :=
      ih (hs.later hext hrec hamb) fun q hq => hn q (by simp [hq])
    refine ⟨K, .cons hs.faithful hlaw hext hamb hbody, hext.trans hext', ?_, ?_⟩
    · rw [run_mapM_cons]
      exact hrec'
    · rw [run_mapM_cons]
      exact hamb'.trans hamb

lemma Obeys.inEnvironment {t : State} (h : Obeys run law) (ht : Records H t)
    (ha : t.ambient = s.ambient) {env : Nat} (he : H.environments env = some M) (unit : Option Nat)
    {steps : List Step} (hn : ∀ step ∈ steps, step.Nested) :
    ∃ K, BodyRuns run law M H (t.inside unit env) steps K ∧ H.Extends K ∧
      Records K ((TraceFields.Script.inEnvironment unit env (steps.mapM run)).run t).2 ∧
      ((TraceFields.Script.inEnvironment unit env (steps.mapM run)).run t).2.ambient =
        s.ambient := by
  obtain ⟨K, hbody, hext, hrec, hamb⟩ := h.body (Sound.inside ht he unit) hn
  refine ⟨K, hbody, hext, ?_, ?_⟩
  · rw [run_inEnvironment]
    exact hrec.mono rfl rfl (Nat.le_refl _)
  · rw [run_inEnvironment]
    apply State.restore_ambient ha
    rw [hamb]
    rfl

lemma frame_runWith (run : Runner) (step : Step) (s : State) :
    Frame ((makeWith run step).after s) ((runWith run step).after s) := by
  refine frame_bind_after s (makeWith run step) fun made => ?_
  cases made.object with
  | none => exact (steady_pure _).frames
  | some o => exact frames_bind (frames_keep _ o) fun _ => (steady_pure _).frames

structure Done (K H : History) (s t : State) : Prop where
  extends_ : H.Extends K
  records : Records K t
  ambient : t.ambient = s.ambient

lemma Sound.done (h : Sound L H s) : Done H H s s := ⟨.refl H, h.records, rfl⟩

variable {depth : Nat}

lemma make_command {c : Command} (hc : c.IsLocal) (keep : Option String) (hs : Sound L H s)
    (run : Runner) : Done H H s ((makeWith run (.command c keep)).after s) :=
  have hf : Frame s ((makeWith run (.command c keep)).after s) := frames_perform hc s
  ⟨.refl H, hs.records.frame hf, hf.ambient⟩

def State.scope? (s : State) (ref contextRef : Ref) : Option (ResolverId × Object) :=
  match resolve s.registers ref, resolve s.registers contextRef with
  | .ok (.resolver r), .ok o => some (r, o)
  | _, _ => none

lemma run_scope {α : Type} (ref contextRef : Ref) (f : ResolverId → Object → Run α) (s : State) :
    ∃ fault, (do f (← resolver (← object ref)) (← object contextRef) : Run α).run.run s =
      match s.scope? ref contextRef with
      | some (r, o) => (f r o).run.run s
      | none => (.error fault, s) := by
  simp only [run_bind, run_object, State.scope?]
  cases resolve s.registers ref with
  | error fault => exact ⟨fault, rfl⟩
  | ok x =>
    cases x with
    | resolver r =>
      simp only [resolver, run_pure]
      cases resolve s.registers contextRef with
      | error fault => exact ⟨fault, rfl⟩
      | ok o => exact ⟨.absent, rfl⟩
    | _ => exact ⟨.absent, rfl⟩

lemma run_enter (ref contextRef : Ref) (name : Option String) (s : State) :
    ∃ fault, (perform (.enter ref contextRef name)).run.run s =
      match s.scope? ref contextRef with
      | some (r, o) => (shown o).run.run
          { s.derive (s.here.enter r o.toOption) with ambient := s.ambient.enter s.fresh name }
      | none => (.error fault, s) :=
  run_scope ref contextRef _ s

lemma run_exit (name : Option String) (s : State) :
    (perform (.exit name)).run.run s =
      match s.ambient.exit? name with
      | some ambient => done.run.run { s with ambient }
      | none => (.error .unbound, s) := by
  have hget : (get : Run State).run.run s = (.ok s, s) := rfl
  simp only [perform, run_bind, hget]
  cases s.ambient.exit? name <;> rfl

lemma after_scoped (run : Runner) (ref contextRef : Ref) (body : List Step)
    (raises : Bool) (s : State) :
    (makeWith run (.scoped ref contextRef body raises)).after s =
      match s.scope? ref contextRef with
      | some (r, o) =>
        ((inEnvironment none s.fresh (body.mapM run)).run (s.derive (s.here.enter r o.toOption))).2
      | none => s := by
  obtain ⟨fault, hrun⟩ :
      ∃ fault, (makeWith run (.scoped ref contextRef body raises)).run.run s = _ :=
    run_scope ref contextRef _ s
  rw [after, hrun]
  split <;> rfl

lemma after_wrap (run : Runner) (ref : Ref) (body : List Step) (ending : Ending)
    (keep : Option String) (s : State) :
    (makeWith run (.wrap ref body ending keep)).after s =
      match resolve s.registers ref with
      | .ok (.resolver _) => s.addRoutine body ending
      | _ => s := by
  simp only [after, makeWith, run_bind, run_object]
  cases resolve s.registers ref with
  | error fault => rfl
  | ok x => cases x <;> rfl

lemma after_call (run : Runner) (ref : Ref) (arguments : List Datum) (s : State) :
    (makeWith run (.call ref arguments)).after s =
      match resolve s.registers ref with
      | .ok (.routine id) =>
        match s.routines.at? id with
        | some f => ((inEnvironment none f.env (f.body.mapM run)).run s).2
        | none => s
      | _ => s := by
  have hget : (get : Run State).run.run s = (.ok s, s) := rfl
  simp only [after, makeWith, run_bind, run_object, hget]
  cases resolve s.registers ref with
  | error fault => rfl
  | ok x =>
    cases x with
    | routine id =>
      simp only [State.routine?]
      cases s.routines.at? id with
      | none => rfl
      | some f =>
        simp only [run_bind, run_lift]
        cases f.raises <;> rfl
    | _ => rfl

lemma after_thread (run : Runner) (body : List Step) (s : State) :
    (makeWith run (.thread body)).after s =
      { ((inEnvironment (some s.fresh) 0 (body.mapM run)).run
          { s with fresh := s.fresh + 1, serving := false }).2 with
        serving := s.serving } := rfl

lemma make_scoped (h : Obeys (runStep depth) (stepLaw depth)) (hs : Sound L H s)
    (ref contextRef : Ref) {body : List Step} (hb : ∀ step ∈ body, step.Nested) (raises : Bool) :
    ∃ K, stepLaw (depth + 1) L H s (.scoped ref contextRef body raises) K ∧
      Done K H s ((makeWith (runStep depth) (.scoped ref contextRef body raises)).after s) := by
  rw [after_scoped]
  simp only [stepLaw, State.scope?]
  cases resolve s.registers ref with
  | error fault => exact ⟨H, rfl, hs.done⟩
  | ok x =>
    cases x with
    | resolver r =>
      cases resolve s.registers contextRef with
      | error fault => exact ⟨H, rfl, hs.done⟩
      | ok o =>
        have hext := History.extends_withEnvironment hs.records.environments_fresh
          ((r, o.toOption) :: L)
        obtain ⟨K, hbody, hext', hrec, hamb⟩ := h.inEnvironment (hs.derive r o.toOption) rfl
          (H.environments_withEnvironment_self _ _) none hb
        exact ⟨K, hbody, hext.trans hext', hrec, hamb⟩
    | _ => exact ⟨H, rfl, hs.done⟩

lemma make_wrap (hs : Sound L H s) (run : Runner) (ref : Ref) {body : List Step}
    (hb : ∀ step ∈ body, step.Nested) (ending : Ending) (keep : Option String) :
    ∃ K, stepLaw (depth + 1) L H s (.wrap ref body ending keep) K ∧
      Done K H s ((makeWith run (.wrap ref body ending keep)).after s) := by
  rw [after_wrap]
  simp only [stepLaw]
  cases resolve s.registers ref with
  | error fault => exact ⟨H, rfl, hs.done⟩
  | ok x =>
    cases x with
    | resolver r =>
      exact ⟨_, rfl, History.extends_withRoutine hs.records.routines_fresh L,
        hs.addRoutine hb ending, rfl⟩
    | _ => exact ⟨H, rfl, hs.done⟩

lemma make_call (h : Obeys (runStep depth) (stepLaw depth)) (hs : Sound L H s) (ref : Ref)
    (arguments : List Datum) :
    ∃ K, stepLaw (depth + 1) L H s (.call ref arguments) K ∧
      Done K H s ((makeWith (runStep depth) (.call ref arguments)).after s) := by
  rw [after_call]
  simp only [stepLaw]
  cases resolve s.registers ref with
  | error fault => exact ⟨H, rfl, hs.done⟩
  | ok x =>
    cases x with
    | routine id =>
      simp only
      cases hf : s.routines.at? id with
      | none => exact ⟨H, rfl, hs.done⟩
      | some f =>
        -- The scopes around the place where the routine was wrapped, not those around the call.
        obtain ⟨M, hM, henv, hbody⟩ := hs.records.routine hf
        obtain ⟨K, hruns, hext, hrec, hamb⟩ := h.inEnvironment hs.records rfl henv none hbody
        exact ⟨K, ⟨M, hM, hruns⟩, hext, hrec, hamb⟩
    | _ => exact ⟨H, rfl, hs.done⟩

lemma make_thread (h : Obeys (runStep depth) (stepLaw depth)) (hs : Sound L H s) {body : List Step}
    (hb : ∀ step ∈ body, step.Nested) :
    ∃ K, stepLaw (depth + 1) L H s (.thread body) K ∧
      Done K H s ((makeWith (runStep depth) (.thread body)).after s) := by
  rw [after_thread]
  have hrec : Records H { s with fresh := s.fresh + 1, serving := false } :=
    hs.records.mono rfl rfl (Nat.le_succ _)
  obtain ⟨K, hruns, hext, hrec', hamb⟩ :=
    h.inEnvironment (s := s) hrec rfl hrec.origin (some s.fresh) hb
  exact ⟨K, hruns, hext, hrec'.mono rfl rfl (Nat.le_refl _), hamb⟩

end TraceFields.Script
