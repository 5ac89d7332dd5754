import TraceFields.Proofs.Bodies

/-!
Requests that are handled side by side.
-/

namespace TraceFields.Script

open Run

lemma after_bind_eq {α β : Type} {m : Run α} {f : α → Run β} {s : State} (hm : m.after s = s)
    (hf : ∀ a, (f a).after s = s) : (m >>= f).after s = s := by
  rcases after_bind_cases m f s with h | ⟨a, h⟩
  · rw [h, hm]
  · rw [h, hm, hf]

lemma after_object (ref : Ref) (s : State) : (object ref).after s = s := by rw [after, run_object]

lemma after_delegate? (ref : SchemeRef) (s : State) : (delegate? ref).after s = s := by
  cases ref with
  | nothing => rfl
  | plain _ => rfl
  | named name =>
    apply after_bind_eq (after_object _ s)
    intro o
    cases o <;> rfl

lemma receive_state (ref : SchemeRef) (resolverRef : Ref) (s : State) :
    (receive ref resolverRef).after s = s := by
  have hlift {α : Type} (x : Except Fault α) : (liftM x : Run α).after s = s := by cases x <;> rfl
  refine after_bind_eq (after_delegate? ref s) fun delegate =>
    after_bind_eq (after_object resolverRef s) fun o => ?_
  refine after_bind_eq ?_ fun scheme => after_bind_eq (hlift _) fun p => ?_
  · rcases delegate with _ | _ | _ <;> rfl
  · refine after_bind_eq rfl fun t => ?_
    cases t.serving <;> rfl

lemma after_serve (run : Runner) (ref : SchemeRef) (resolverRef : Ref)
    (requests : List (Request Step)) (s : State) :
    (makeWith run (.serve ref resolverRef requests)).after s =
      match ((receive ref resolverRef).run.run s).1 with
      | .ok (p, r) =>
        { ((rounds run p r (turnsOf requests) (tasksOf s requests)).run
            { s with serving := true, fresh := s.fresh + requests.length }).2 with
          serving := s.serving }
      | .error _ => s := by
  have hstate := receive_state ref resolverRef s
  rw [after] at hstate
  simp only [after, makeWith, run_bind]
  generalize (receive ref resolverRef).run.run s = x at hstate ⊢
  obtain ⟨_ | ⟨p, r⟩, t⟩ := x
  · exact hstate
  · obtain rfl : t = s := hstate
    rfl

variable {law : StepLaw} {L : Lexical} {H : History} {s : State} {depth : Nat}

structure Task.Open (task : Task) (H : History) (L : Lexical) (r : Option ResolverId) : Prop where
  env : H.environments task.env = some (task.lexical r L)
  outer : H.environments task.outer = some L
  todo : ∀ step ∈ task.todo, step.Nested
  handler : ∀ step ∈ task.request.handler, step.Nested

lemma Task.Open.later {task : Task} {K : History} {r : Option ResolverId} (h : task.Open H L r)
    (hk : H.Extends K) : task.Open K L r :=
  ⟨hk.environments h.env, hk.environments h.outer, h.todo, h.handler⟩

lemma steady_conclude (task : Task) (response : Except Fault Datum) (s : State) :
    Steady s ((conclude task response).run s).2 := by
  rw [conclude]
  cases task.arrived with
  | none => exact Steady.refl s
  | some o =>
    have hview : Steady s ((view o).run.run s).2 := steady_view o s
    simp only [run_stateM_bind]
    generalize (view o).run.run s = x at hview ⊢
    obtain ⟨_ | _, t⟩ := x <;> exact hview

lemma steady_arrive (p : Propagation) (request : Request Step) : Steadies (arrive p request) := by
  simp [arrive]

lemma openScope_cases (r : Option ResolverId) (request : Request Step) (found : Object)
    (s : State) :
    (found.context? = none ∧ ∃ t, Steady s t ∧
      (openScope r request found).run.run s = (.ok (), (keep request.keep found).after t)) ∨
    (r = none ∧ ∃ fault, (openScope r request found).run.run s = (.error fault, s)) ∨
    ∃ q c, r = some q ∧ found.context? = some c ∧
      (openScope r request found).run.run s = (.ok (), (keep request.keep found).after
        ((s.derive (s.here.enter q (some c))).inside none s.fresh)) := by
  have hkeep (t : State) :
      (keep request.keep found).run.run t = (.ok (), (keep request.keep found).after t) := by
    cases request.keep <;> rfl
  cases hc : found.context? with
  | none =>
    refine Or.inl ⟨rfl, _, steady_note .debug Requests.noContextLine s, ?_⟩
    rw [← hkeep]
    cases r <;> simp only [openScope, hc] <;> rfl
  | some c =>
    cases r with
    | none =>
      refine Or.inr (Or.inl ⟨rfl, .absent, ?_⟩)
      simp only [openScope, hc]
      rfl
    | some q =>
      refine Or.inr (Or.inr ⟨q, c, rfl, rfl, ?_⟩)
      rw [← hkeep]
      simp only [openScope, hc]
      rfl

lemma run_takeIn (p : Propagation) (r : Option ResolverId) (task : Task) (s : State) :
    (takeIn p r task).run s = match (arrive p task.request).run.run s with
      | (.error fault, t) =>
        let served := (conclude task (.error fault)).run t
        ({ task with finished := some served.1 }, served.2)
      | (.ok found, t) =>
        match (openScope r task.request found).run.run t with
        | (.error fault, u) =>
          let served := (conclude { task with arrived := some found } (.error fault)).run u
          ({ task with arrived := some found, finished := some served.1 }, served.2)
        | (.ok (), u) => ({ task with arrived := some found, todo := task.request.handler }, u) := by
  rw [takeIn, run_stateM_bind]
  generalize (arrive p task.request).run.run s = x
  obtain ⟨fault | found, t⟩ := x
  · rfl
  · simp only [run_stateM_bind]
    generalize (openScope r task.request found).run.run t = y
    obtain ⟨_ | _, _⟩ := y <;> rfl

section Begin

variable {p : Propagation} {r : Option ResolverId} {task : Task}

lemma Task.lexical_of_none (h : task.arrived.bind Object.context? = none) :
    task.lexical r L = L := by
  unfold Task.lexical
  rw [h]
  cases r <;> rfl

lemma Task.lexical_of_some {q : ResolverId} {c : Object}
    (h : task.arrived.bind Object.context? = some c) :
    task.lexical (some q) L = (q, some c) :: L := by
  unfold Task.lexical
  rw [h]

structure Begun (task : Task) (H : History) (s : State) (L : Lexical) (r : Option ResolverId)
    (started : Task) (t : State) : Prop where
  finished : started.finished = task.finished
  outer : started.outer = task.outer
  request : started.request = task.request
  todo : ∀ step ∈ started.todo, step.Nested
  scopes : t.ambient.scopes = s.ambient.scopes
  extends_ : H.Extends (H.withEnvironment t.ambient.env (started.lexical r L))
  sound : Sound (started.lexical r L) (H.withEnvironment t.ambient.env (started.lexical r L)) t

lemma Begun.of_sound {started : Task} {t : State} (hfinished : started.finished = task.finished)
    (houter : started.outer = task.outer) (hrequest : started.request = task.request)
    (htodo : ∀ step ∈ started.todo, step.Nested) (hscopes : t.ambient.scopes = s.ambient.scopes)
    (hs : Sound (started.lexical r L) H t) : Begun task H s L r started t := by
  have hsame := History.withEnvironment_of_known hs.here
  refine ⟨hfinished, houter, hrequest, htodo, hscopes, ?_, ?_⟩
  · rw [hsame]
    exact .refl H
  · rw [hsame]
    exact hs

section Arrived

variable {found : Object} {t u : State}

lemma Begun.bare (ho : task.Open H L r) (ht : Sound L H t)
    (hscopes : t.ambient.scopes = s.ambient.scopes) (hc : found.context? = none) (hf : Frame t u) :
    Begun task H s L r { task with arrived := some found, todo := task.request.handler } u := by
  have hl : Task.lexical
      { task with arrived := some found, todo := task.request.handler } r L = L :=
    Task.lexical_of_none hc
  refine Begun.of_sound rfl rfl rfl ho.handler ?_ ?_
  · rw [hf.ambient]
    exact hscopes
  · rw [hl]
    exact ht.later (.refl H) (ht.records.frame hf) hf.ambient

lemma Begun.scoped {q : ResolverId} {c : Object} (ho : task.Open H L (some q)) (ht : Sound L H t)
    (hscopes : t.ambient.scopes = s.ambient.scopes) (hc : found.context? = some c)
    (hf : Frame ((t.derive (t.here.enter q (some c))).inside none t.fresh) u) :
    Begun task H s L (some q)
      { task with arrived := some found, todo := task.request.handler } u := by
  have hderived := Sound.inside (ht.derive q (some c))
    (H.environments_withEnvironment_self _ _) none
  have hl : Task.lexical
      { task with arrived := some found, todo := task.request.handler } (some q) L =
      (q, some c) :: L := Task.lexical_of_some hc
  have henv : u.ambient.env = t.fresh := congrArg Ambient.env hf.ambient
  refine ⟨rfl, rfl, rfl, ho.handler, ?_, ?_, ?_⟩
  · exact (congrArg Ambient.scopes hf.ambient).trans hscopes
  · rw [hl, henv]
    exact History.extends_withEnvironment ht.records.environments_fresh _
  · rw [hl, henv]
    exact hderived.later (.refl _) (hderived.records.frame hf) hf.ambient

end Arrived

lemma takeIn_cases (ho : task.Open H L r) (hs : Sound L H s) :
    (((takeIn p r task).run s).1.finished.isSome ∧ Frame s ((takeIn p r task).run s).2) ∨
      Begun task H s L r ((takeIn p r task).run s).1 ((takeIn p r task).run s).2 := by
  have harrive : Frame s ((arrive p task.request).run.run s).2 :=
    (steady_arrive p task.request s).toFrame
  rw [run_takeIn]
  generalize (arrive p task.request).run.run s = x at harrive ⊢
  obtain ⟨fault | found, t⟩ := x
  · exact Or.inl ⟨rfl, harrive.trans (steady_conclude task _ t).toFrame⟩
  · have ht : Sound L H t := hs.later (.refl H) (hs.records.frame harrive) harrive.ambient
    have hscopes : t.ambient.scopes = s.ambient.scopes := congrArg Ambient.scopes harrive.ambient
    simp only
    rcases openScope_cases r task.request found t with
      ⟨hc, u, hu, hrun⟩ | ⟨-, fault, hrun⟩ | ⟨q, c, rfl, hc, hrun⟩
    · rw [hrun]
      exact Or.inr (.bare ho ht hscopes hc (hu.toFrame.trans (frames_keep _ _ _)))
    · rw [hrun]
      exact Or.inl ⟨rfl, harrive.trans (steady_conclude _ _ t).toFrame⟩
    · rw [hrun]
      exact Or.inr (.scoped ho ht hscopes hc (frames_keep _ _ _))

lemma begin_of_arrived (p : Propagation) (r : Option ResolverId) (ha : task.arrived.isSome)
    (s : State) : (begin p r task).run s = (task, s) := by
  rw [begin, if_pos ha]
  rfl

lemma begin_of_not_arrived (p : Propagation) (r : Option ResolverId) (ha : task.arrived = none)
    (s : State) : (begin p r task).run s = (takeIn p r task).run s := by
  rw [begin, ha]
  rfl

lemma begin_cases (ho : task.Open H L r) (hs : Sound (task.lexical r L) H s) :
    (task.arrived = none ∧ ((begin p r task).run s).1.finished.isSome ∧
        Frame s ((begin p r task).run s).2) ∨
      Begun task H s L r ((begin p r task).run s).1 ((begin p r task).run s).2 := by
  cases ha : task.arrived with
  | some found =>
    rw [begin_of_arrived p r (Option.isSome_of_eq_some ha)]
    exact Or.inr (.of_sound rfl rfl rfl ho.todo rfl hs)
  | none =>
    have hnone : task.arrived.bind Object.context? = none := by
      rw [ha]
      rfl
    rw [Task.lexical_of_none hnone] at hs
    rw [begin_of_not_arrived p r ha]
    rcases takeIn_cases ho hs with h | h
    · exact Or.inl ⟨rfl, h⟩
    · exact Or.inr h

end Begin

lemma run_turn_finished (run : Runner) (p : Propagation) (r : Option ResolverId) {task : Task}
    (hf : task.finished.isSome) (s : State) : (turn run p r task).run s = (task, s) := by
  rw [turn, if_pos hf]
  rfl

lemma run_turn (run : Runner) (p : Propagation) (r : Option ResolverId) {task : Task}
    (hf : task.finished = none) (s : State) :
    (turn run p r task).run s =
      let x := (begin p r task).run (s.inside (some task.unit) task.env)
      let y := if x.1.finished.isSome then x else (advance run x.1).run x.2
      ({ y.1 with env := y.2.ambient.env }, s.restore y.2) := by
  rw [turn, hf]
  simp only [Option.isSome_none, Bool.false_eq_true, if_false, run_inEnvironment, run_stateM_bind]
  cases ((begin p r task).run (s.inside (some task.unit) task.env)).1.finished.isSome <;> rfl

lemma run_advance_cons (run : Runner) {task : Task} {step : Step} {rest : List Step}
    (h : task.todo = step :: rest) (s : State) :
    (advance run task).run s =
      ({ task with todo := rest, seen := task.seen ++ [((run step).run s).1] },
        afterStep run step s) := by
  rw [advance, h]
  rfl

lemma frame_inside {s t : State} (h : Frame s t) (unit : Option Nat) (env : Nat) :
    Frame (s.inside unit env) (t.inside unit env) := by
  refine ⟨?_, h.environments, h.routines, h.fresh⟩
  simp only [State.inside, h.ambient]

lemma run_advance_nil (run : Runner) {task : Task} (h : task.todo = []) (s : State) :
    ∃ served t, Steady s t ∧
      (advance run task).run s =
        ({ task with finished := some served }, t.inside none task.outer) := by
  rw [advance, h]
  exact ⟨_, _, steady_conclude task _ s, rfl⟩

lemma advance_nil (run : Runner) {task : Task} (h : task.todo = []) (s : State) :
    ((advance run task).run s).1.finished.isSome ∧
      Frame (s.inside none task.outer) ((advance run task).run s).2 := by
  obtain ⟨served, t, ht, hrun⟩ := run_advance_nil run h s
  rw [hrun]
  exact ⟨rfl, frame_inside ht.toFrame none task.outer⟩

lemma Done.restore {K : History} {t : State} (hext : H.Extends K) (ht : Records K t)
    (hscopes : t.ambient.scopes = s.ambient.scopes) : Done K H s (s.restore t) :=
  ⟨hext, ht.mono rfl rfl (Nat.le_refl _), State.restore_ambient rfl hscopes⟩

section Requests

variable {run : Runner} {r : Option ResolverId}

section Turn

variable (run law) {p : Propagation} {task started : Task} {t : State}

lemma turn_refused (hf : task.finished = none)
    (hs : Sound (task.lexical r L) H (s.inside (some task.unit) task.env))
    (ha : task.arrived = none)
    (hbegin : (begin p r task).run (s.inside (some task.unit) task.env) = (started, t))
    (hfin : started.finished.isSome) (hframe : Frame (s.inside (some task.unit) task.env) t) :
    TurnRuns run law p r L H s task H ∧ Done H H s (s.restore t) := by
  have hnone : task.arrived.bind Object.context? = none := by
    rw [ha]
    rfl
  have ht : Sound L H t := by
    have hsL := hs
    rw [Task.lexical_of_none hnone] at hsL
    exact hsL.later (.refl H) (hsL.records.frame hframe) hframe.ambient
  refine ⟨.refused hf hs.faithful hbegin hfin ht.faithful, Done.restore (.refl H) ht.records ?_⟩
  rw [hframe.ambient]
  rfl

lemma Begun.sound_after (h : Begun task H s L r started t) (ho : task.Open H L r)
    (htodo : started.todo = []) :
    Sound L (H.withEnvironment t.ambient.env (started.lexical r L))
      ((advance run started).run t).2 := by
  have hout : (H.withEnvironment t.ambient.env (started.lexical r L)).environments started.outer =
      some L := by
    rw [h.outer]
    exact h.extends_.environments ho.outer
  obtain ⟨-, hframe⟩ := advance_nil run htodo t
  have hin := Sound.inside h.sound.records hout none
  exact hin.later (.refl _) (hin.records.frame hframe) hframe.ambient

lemma Begun.turn_finish (h : Begun task H (s.inside (some task.unit) task.env) L r started t)
    (hf : task.finished = none) (ho : task.Open H L r)
    (hs : Sound (task.lexical r L) H (s.inside (some task.unit) task.env))
    (hbegin : (begin p r task).run (s.inside (some task.unit) task.env) = (started, t))
    (htodo : started.todo = []) :
    ∃ K, TurnRuns run law p r L H s task K ∧
      Done K H s (s.restore ((advance run started).run t).2) := by
  have hlast := h.sound_after run ho htodo
  refine ⟨_, .finish hf hs.faithful hbegin (h.finished.trans hf) htodo rfl h.sound.faithful
    hlast.faithful, ?_⟩
  apply Done.restore h.extends_ hlast.records
  rw [(advance_nil run htodo t).2.ambient]
  exact h.scopes

variable {run law}

lemma Begun.turn_step (h : Begun task H (s.inside (some task.unit) task.env) L r started t)
    (hobeys : Obeys run law) (hf : task.finished = none) (ho : task.Open H L r)
    (hs : Sound (task.lexical r L) H (s.inside (some task.unit) task.env))
    (hbegin : (begin p r task).run (s.inside (some task.unit) task.env) = (started, t))
    {step : Step} {rest : List Step} (htodo : started.todo = step :: rest) (seen : List Outcome) :
    ∃ K, TurnRuns run law p r L H s task K ∧ Done K H s (s.restore (afterStep run step t)) ∧
      Task.Open
        { started with todo := rest, seen, env := (afterStep run step t).ambient.env } K L r := by
  obtain ⟨hfin, houter, hrequest, hnested, hscopes, hext, hsound⟩ := h
  generalize hH : H.withEnvironment t.ambient.env (started.lexical r L) = H' at hext hsound
  have hout : H'.environments started.outer = some L := by
    rw [houter]
    exact hext.environments ho.outer
  rw [htodo] at hnested
  obtain ⟨K, hlaw, hext', hrec, hamb⟩ := hobeys hsound (hnested step (by simp))
  have hlast := hsound.later hext' hrec hamb
  refine ⟨K, ?_, ?_, hlast.here, hext'.environments hout, fun q hq => hnested q (by simp [hq]), ?_⟩
  · exact .step hf hs.faithful hbegin (hfin.trans hf) htodo hH.symm hsound.faithful hlaw hext'
      hlast.faithful
  · apply Done.restore (hext.trans hext') hrec
    rw [hamb]
    exact hscopes
  · change ∀ q ∈ started.request.handler, q.Nested
    rw [hrequest]
    exact ho.handler

end Turn

lemma Obeys.turn (h : Obeys run law) (p : Propagation) {task : Task} (hr : Records H s)
    (ho : task.finished = none → task.Open H L r) :
    ∃ K, TurnRuns run law p r L H s task K ∧ Done K H s ((turn run p r task).run s).2 ∧
      (((turn run p r task).run s).1.finished = none →
        ((turn run p r task).run s).1.Open K L r) := by
  cases hf : task.finished with
  | some served =>
    rw [run_turn_finished run p r (Option.isSome_of_eq_some hf)]
    exact ⟨H, .ended (by rw [hf]; rfl), ⟨.refl H, hr, rfl⟩, fun hn => ho hn⟩
  | none =>
    have hopen := ho hf
    have hs := Sound.inside hr hopen.env (some task.unit)
    rw [run_turn run p r hf]
    have hcases := begin_cases (p := p) hopen hs
    generalize hbegin : (begin p r task).run (s.inside (some task.unit) task.env) = x at hcases ⊢
    obtain ⟨started, t⟩ := x
    simp only at hcases ⊢
    rcases hcases with ⟨ha, hfin, hframe⟩ | hbegun
    · obtain ⟨hruns, hdone⟩ := turn_refused law run hf hs ha hbegin hfin hframe
      rw [if_pos hfin]
      refine ⟨H, hruns, hdone, fun hn => ?_⟩
      rw [hn] at hfin
      cases hfin
    · rw [if_neg (by simp [hbegun.finished.trans hf])]
      cases htodo : started.todo with
      | nil =>
        obtain ⟨K, hruns, hdone⟩ := hbegun.turn_finish law run hf hopen hs hbegin htodo
        refine ⟨K, hruns, hdone, fun hn => ?_⟩
        have hover := (advance_nil run htodo t).1
        rw [hn] at hover
        cases hover
      | cons step rest =>
        obtain ⟨K, hruns, hdone, hlater⟩ := hbegun.turn_step h hf hopen hs hbegin htodo _
        rw [run_advance_cons run htodo]
        exact ⟨K, hruns, hdone, fun _ => hlater⟩

lemma Obeys.round (h : Obeys run law) (p : Propagation) {tasks : List Task} (hr : Records H s)
    (ho : ∀ task ∈ tasks, task.finished = none → task.Open H L r) :
    ∃ K, RoundRuns run law p r L H s tasks K ∧
      Done K H s ((tasks.mapM (TraceFields.Script.turn run p r)).run s).2 ∧
      ∀ task ∈ ((tasks.mapM (TraceFields.Script.turn run p r)).run s).1, task.finished = none →
        task.Open K L r := by
  induction tasks generalizing H s with
  | nil => exact ⟨H, .nil, ⟨.refl H, hr, rfl⟩, fun task ht => by cases ht⟩
  | cons task tasks ih =>
    obtain ⟨H', hturn, hdone, hopen⟩ := h.turn p hr (ho task (by simp))
    obtain ⟨K, hround, hdone', hopen'⟩ := ih hdone.records fun other ht hn =>
      (ho other (by simp [ht]) hn).later hdone.extends_
    rw [run_mapM_cons]
    refine ⟨K, .cons hturn hdone.extends_ hround,
      ⟨hdone.extends_.trans hdone'.extends_, hdone'.records, ?_⟩, ?_⟩
    · exact hdone'.ambient.trans hdone.ambient
    · intro other ht hn
      rcases List.mem_cons.1 ht with rfl | ht
      · exact (hopen hn).later hdone'.extends_
      · exact hopen' other ht hn

lemma Obeys.rounds (h : Obeys run law) (p : Propagation) (n : Nat) {tasks : List Task}
    (hr : Records H s) (ho : ∀ task ∈ tasks, task.finished = none → task.Open H L r) :
    ∃ K, RoundsRun run law p r L n H s tasks K ∧
      Done K H s ((TraceFields.Script.rounds run p r n tasks).run s).2 := by
  induction n generalizing H s tasks with
  | zero => exact ⟨H, .zero, .refl H, hr, rfl⟩
  | succ n ih =>
    obtain ⟨H', hround, hdone, hopen⟩ := h.round p hr ho
    obtain ⟨K, hrounds, hdone'⟩ := ih hdone.records hopen
    exact ⟨K, .succ hround hrounds, hdone.extends_.trans hdone'.extends_, hdone'.records,
      hdone'.ambient.trans hdone.ambient⟩

end Requests

lemma Sound.open_tasksOf (hs : Sound L H s) {r : Option ResolverId} {requests : List (Request Step)}
    (hb : ∀ request ∈ requests, ∀ step ∈ request.handler, step.Nested) {task : Task}
    (ht : task ∈ tasksOf s requests) : task.Open H L r := by
  obtain ⟨n, hn, rfl⟩ := List.mem_mapIdx.1 ht
  refine ⟨?_, hs.here, fun step hstep => ?_, hb _ (List.getElem_mem hn)⟩
  · rw [Task.lexical_of_none rfl]
    exact hs.here
  · cases hstep

lemma make_serve (h : Obeys (runStep depth) (stepLaw depth)) (hs : Sound L H s) (ref : SchemeRef)
    (resolverRef : Ref) {requests : List (Request Step)}
    (hb : ∀ request ∈ requests, ∀ step ∈ request.handler, step.Nested) :
    ∃ K, stepLaw (depth + 1) L H s (.serve ref resolverRef requests) K ∧
      Done K H s ((makeWith (runStep depth) (.serve ref resolverRef requests)).after s) := by
  rw [after_serve]
  simp only [stepLaw]
  cases ((receive ref resolverRef).run.run s).1 with
  | error fault => exact ⟨H, rfl, hs.done⟩
  | ok x =>
    obtain ⟨p, r⟩ := x
    have hrec : Records H { s with serving := true, fresh := s.fresh + requests.length } :=
      hs.records.mono rfl rfl (Nat.le_add_right _ _)
    obtain ⟨K, hrounds, hdone⟩ :=
      h.rounds p (turnsOf requests) hrec fun _ ht _ => hs.open_tasksOf hb ht
    exact ⟨K, hrounds, hdone.extends_, hdone.records.mono rfl rfl (Nat.le_refl _), hdone.ambient⟩

end TraceFields.Script
