import Mathlib.Data.List.Infix
import TraceFields.Proofs.Footprint
import TraceFields.Proofs.Scoping

namespace TraceFields

lemma isSome_context_layered (key : KeyFactory) (layers : List (List String)) (carrier : Carrier) :
    (layeredDescription key layers carrier).context.isSome =
      ((Entries.at? carrier (key Identity.parentName)).join.bind
        Identity.Traceparent.read?).isSome := by
  rw [layeredDescription, Identity.ofHeaders?_found]
  cases (Entries.at? carrier (key Identity.parentName)).join with
  | none => rfl
  | some parent =>
    simp only [Identity.context?, Option.bind_some]
    cases Identity.Traceparent.read? parent <;> rfl

namespace Script

open Run

def Request.BringsContext {σ : Type} (request : Request σ) : Prop :=
  ((Entries.at? (Headers.lowered (Entries.ofPairs request.headers))
    (.text Identity.parentName)).join.bind Identity.Traceparent.read?).isSome

instance {σ : Type} (request : Request σ) : Decidable request.BringsContext :=
  inferInstanceAs (Decidable (_ = true))

structure Brought {σ : Type} (p : Propagation) (request : Request σ) (found : Object) : Prop where
  extracted : ∃ heap r heap',
    Headers.extract (Entries.ofPairs request.headers) p heap = .ok (r, heap') ∧
      found.extraction? = some r
  context : found.context?.isSome ↔ request.BringsContext

def point? (p : Propagation) (r : Option ResolverId) (task : Task) (s : State) :
    Option (Task × State) :=
  if task.finished.isSome then none
  else
    let started := (begin p r task).run (s.inside (some task.unit) task.env)
    if started.1.finished.isSome then none else some started

lemma run_turn_of_point? (run : Runner) {p : Propagation} {r : Option ResolverId}
    {task started : Task} {s t : State} (h : point? p r task s = some (started, t)) :
    (turn run p r task).run s =
      let after := (advance run started).run t
      ({ after.1 with env := after.2.ambient.env }, s.restore after.2) := by
  unfold point? at h
  split at h
  · cases h
  · next hf =>
    have hnone : task.finished = none := Option.not_isSome_iff_eq_none.1 hf
    rw [run_turn run p r hnone]
    dsimp only at h ⊢
    split at h
    · cases h
    · next hgoes =>
      rw [if_neg hgoes, Option.some.inj h]

section Points

variable (run : Runner) (p : Propagation) (r : Option ResolverId)

def points (n : Nat) : (rounds : Nat) → List Task → State → List (Task × State)
  | 0, _, _ => []
  | k + 1, tasks, s =>
    let before := ((tasks.take n).mapM (turn run p r)).run s
    let after := (tasks.mapM (turn run p r)).run s
    (tasks[n]?.bind fun task => point? p r task before.2).toList ++ points n k after.1 after.2

def handling (requests : List (Request Step)) (n : Nat) (s : State) : List (Task × State) :=
  points run p r n (turnsOf requests) (tasksOf s requests)
    { s with fresh := s.fresh + requests.length }

end Points

section Arriving

variable {layers : List (List String)} {p : Propagation}

lemma run_newExtraction (e : Extraction) (s : State) :
    ∃ found t, (newExtraction e).run.run s = (.ok found, t) ∧ found.extraction? = some e ∧
      found.context?.isSome = e.context.isSome := by
  by_cases hempty : e = .empty
  · subst hempty
    exact ⟨.extraction 0 .nothing none [], s, rfl, rfl, rfl⟩
  · rw [newExtraction, if_neg hempty]
    obtain ⟨_ | c, sampled, extensions⟩ := e
    · exact ⟨_, _, rfl, rfl, rfl⟩
    · exact ⟨_, _, rfl, rfl, rfl⟩

lemma run_arrive (hp : (FieldScheme.layered .identity layers >>= fun s => s.create .text) = .ok p)
    (request : Request Step) (s : State) :
    ∃ found t, (arrive p request).run.run s = (.ok found, t) ∧ Brought p request found := by
  obtain ⟨e, heap', he, hd, -⟩ :=
    extractFrom_layered hp (Headers.lowered (Entries.ofPairs request.headers)) s.heap
  obtain ⟨found, t, hrun, hfound, hcontext⟩ := run_newExtraction e { s with heap := heap' }
  refine ⟨found, t, ?_, ⟨s.heap, e, heap', he, hfound⟩, ?_⟩
  · rw [← hrun]
    change (extracted (p.extractFrom (Headers.lowered _) s.heap)).run.run s = _
    rw [he]
    rfl
  · rw [hcontext, Request.BringsContext,
      ← isSome_context_layered .text (layers.map canonicalNames), ← hd, Heap.describe,
      Option.isSome_map]

lemma takeIn_handles
    (hp : (FieldScheme.layered .identity layers >>= fun s => s.create .text) = .ok p)
    (q : ResolverId) (task : Task) (s : State) :
    ∃ found, ((takeIn p (some q) task).run s).1 =
        { task with arrived := some found, todo := task.request.handler } ∧
      Brought p task.request found := by
  obtain ⟨found, t, hrun, hfound⟩ := run_arrive hp task.request s
  refine ⟨found, ?_, hfound⟩
  rw [run_takeIn, hrun]
  simp only
  rcases openScope_cases (some q) task.request found t with
    ⟨-, u, -, hscope⟩ | ⟨hnone, -⟩ | ⟨_, _, -, -, hscope⟩
  · rw [hscope]
  · cases hnone
  · rw [hscope]

end Arriving

def Task.remaining (task : Task) : List (List Step) :=
  if task.finished.isSome then []
  else if task.arrived.isSome then task.todo.tails
  else task.request.handler.tails

def Task.Intact (p : Propagation) (task : Task) : Prop :=
  ∀ found, task.arrived = some found → Brought p task.request found

structure Handles (run : Runner) (p : Propagation) (q : ResolverId) (outside : Option Object)
    (request : Request Step) (task : Task) (s : State) (found : Object) : Prop where
  same : task.request = request
  arrived : task.arrived = some found
  brought : Brought p request found
  now : (lookUpNow (.resolver q)).Gives s (found.context?.or outside)
  ended : task.todo = [] → (lookUpNow (.resolver q)).Gives ((advance run task).run s).2 outside

section Turns

variable {layers : List (List String)} {p : Propagation} {run : Runner} {law : StepLaw}
  {L : Lexical} {H : History} {s : State} {q : ResolverId} {task : Task}

lemma Task.reading_lexical (found : Object) (h : task.arrived = some found) :
    (task.lexical (some q) L).reading q = found.context?.or (L.reading q) := by
  have hbind : task.arrived.bind Object.context? = found.context? := by rw [h]; rfl
  cases hc : found.context? with
  | none => rw [Task.lexical_of_none (hbind.trans hc)]; rfl
  | some c => rw [Task.lexical_of_some (hbind.trans hc), Lexical.reading_cons, if_pos rfl]; rfl

lemma advance_remaining (run : Runner) (hf : task.finished = none) (ha : task.arrived.isSome)
    (s : State) :
    task.remaining = task.todo :: ((advance run task).run s).1.remaining ∧
      ((advance run task).run s).1.request = task.request ∧
      ((advance run task).run s).1.arrived = task.arrived := by
  cases htodo : task.todo with
  | nil =>
    obtain ⟨served, u, -, hserved⟩ := run_advance_nil run htodo s
    rw [hserved]
    exact ⟨by simp [Task.remaining, hf, ha, htodo], rfl, rfl⟩
  | cons step rest =>
    rw [run_advance_cons run htodo]
    exact ⟨by simp [Task.remaining, hf, ha, htodo], rfl, rfl⟩

section Extracting

variable (hp : (FieldScheme.layered .identity layers >>= fun s => s.create .text) = .ok p)

include hp

lemma begin_handles (hi : task.Intact p) (hf : task.finished = none) (s : State) :
    ∃ started t found, (begin p (some q) task).run s = (started, t) ∧ started.finished = none ∧
      started.request = task.request ∧ started.arrived = some found ∧
      Brought p task.request found ∧ started.remaining = task.remaining := by
  cases ha : task.arrived with
  | some found =>
    have hrun := begin_of_arrived p (some q) (Option.isSome_of_eq_some ha) s
    exact ⟨task, s, found, hrun, hf, rfl, ha, hi found ha, rfl⟩
  | none =>
    have hrun := begin_of_not_arrived p (some q) ha s
    obtain ⟨found, htaken, hfound⟩ := takeIn_handles hp q task s
    refine ⟨_, _, found, hrun.trans (Prod.ext htaken rfl), hf, rfl, rfl, hfound, ?_⟩
    simp [Task.remaining, hf, ha]

lemma turn_handles (run : Runner) (hs : Records H s) (ho : task.Open H L (some q))
    (hi : task.Intact p) (hf : task.finished = none) :
    ∃ started t found, point? p (some q) task s = some (started, t) ∧
      Handles run p q (L.reading q) task.request started t found ∧
      task.remaining = started.todo :: ((turn run p (some q) task).run s).1.remaining ∧
      ((turn run p (some q) task).run s).1.request = task.request ∧
      ((turn run p (some q) task).run s).1.Intact p := by
  have hcases := begin_cases (p := p) ho (Sound.inside hs ho.env (some task.unit))
  obtain ⟨started, t, found, hbegin, hfinished, hsame, harrived, hbrought, hremaining⟩ :=
    begin_handles hp hi hf (q := q) (s.inside (some task.unit) task.env)
  rw [hbegin] at hcases
  have hbegun : Begun task H (s.inside (some task.unit) task.env) L (some q) started t := by
    rcases hcases with ⟨-, hfin, -⟩ | hbegun
    · rw [hfinished] at hfin
      cases hfin
    · exact hbegun
  have hpoint : point? p (some q) task s = some (started, t) := by
    simp [point?, hf, hbegin, hfinished]
  have hnow := hbegun.sound.faithful.now q
  rw [Task.reading_lexical found harrived] at hnow
  obtain ⟨hnext, hrequest, hkept⟩ :=
    advance_remaining run hfinished (Option.isSome_of_eq_some harrived) t
  rw [run_turn_of_point? run hpoint]
  refine ⟨started, t, found, hpoint, ⟨hsame, harrived, hbrought, hnow, fun htodo => ?_⟩,
    hremaining.symm.trans hnext, hrequest.trans hsame, fun o ho' => ?_⟩
  · exact (hbegun.sound_after run ho htodo).faithful.now q
  · obtain rfl : found = o := Option.some.inj ((hkept.trans harrived).symm.trans ho')
    change Brought p ((advance run started).run t).1.request found
    rw [hrequest, hsame]
    exact hbrought

end Extracting

lemma run_mapM_getElem? {α β : Type} (f : α → StateM State β) (as : List α) (n : Nat) (s : State) :
    ((as.mapM f).run s).1[n]? =
      as[n]?.map fun a => ((f a).run (((as.take n).mapM f).run s).2).1 := by
  induction as generalizing n s with
  | nil => rfl
  | cons a as ih =>
    rw [run_mapM_cons]
    cases n with
    | zero => rfl
    | succ n =>
      rw [List.take_succ_cons, run_mapM_cons]
      exact ih n _

lemma points_handle
    (hp : (FieldScheme.layered .identity layers >>= fun s => s.create .text) = .ok p)
    (h : Obeys run law) {tasks : List Task} {n : Nat} (k : Nat)
    (hs : Records H s) (ho : ∀ task ∈ tasks, task.finished = none → task.Open H L (some q))
    (hn : tasks[n]? = some task) (hi : task.Intact p) :
    (points run p (some q) n k tasks s).map (fun pt => pt.1.todo) = task.remaining.take k ∧
    ∀ pt ∈ points run p (some q) n k tasks s, ∃ found,
      Handles run p q (L.reading q) task.request pt.1 pt.2 found := by
  induction k generalizing H s tasks task with
  | zero => exact ⟨rfl, fun pt hpt => by cases hpt⟩
  | succ k ih =>
    have hmem := List.mem_of_getElem? hn
    -- the turns before that of the request leave it as it was
    obtain ⟨H', -, hbefore, -⟩ :=
      h.round p hs fun other ht => ho other (List.mem_of_mem_take ht : other ∈ tasks)
    obtain ⟨K, -, hdone, hopen⟩ := h.round p hs ho
    have hnext := run_mapM_getElem? (turn run p (some q)) tasks n s
    rw [hn, Option.map_some] at hnext
    rw [points, hn, Option.bind_some]
    cases hf : task.finished with
    | some served =>
      have hpoint : point? p (some q) task (((tasks.take n).mapM (turn run p (some q))).run s).2 =
          none := by
        rw [point?, hf]
        rfl
      rw [run_turn_finished run p (some q) (Option.isSome_of_eq_some hf)] at hnext
      have hnone : task.remaining = [] := by simp [Task.remaining, hf]
      have hlater := ih hdone.records hopen hnext hi
      simp only [hpoint, Option.toList_none, List.nil_append]
      rw [hnone, List.take_nil] at hlater ⊢
      exact hlater
    | none =>
      obtain ⟨started, t, found, hpoint, hhandles, hremaining, hsame, hintact⟩ :=
        turn_handles hp run hbefore.records ((ho task hmem hf).later hbefore.extends_) hi hf
      have hlater := ih hdone.records hopen hnext hintact
      rw [hsame] at hlater
      simp only [hpoint, Option.toList_some, List.singleton_append, List.map_cons]
      rw [hremaining, List.take_succ_cons, hlater.1]
      refine ⟨rfl, fun pt hpt => ?_⟩
      rcases List.mem_cons.1 hpt with rfl | hpt
      · exact ⟨found, hhandles⟩
      · exact hlater.2 pt hpt

end Turns

lemma le_foldl_max (ns : List Nat) (m : Nat) :
    m ≤ ns.foldl max m ∧ ∀ n ∈ ns, n ≤ ns.foldl max m := by
  induction ns generalizing m with
  | nil => exact ⟨Nat.le_refl m, fun n hn => by cases hn⟩
  | cons k ns ih =>
    obtain ⟨hm, hns⟩ := ih (max m k)
    rw [List.foldl_cons]
    refine ⟨by omega, fun n hn => ?_⟩
    rcases List.mem_cons.1 hn with rfl | hn
    · omega
    · exact hns n hn

lemma length_tails_le_turnsOf {requests : List (Request Step)} {request : Request Step}
    (h : request ∈ requests) : request.handler.tails.length ≤ turnsOf requests := by
  rw [List.length_tails]
  exact Nat.succ_le_succ ((le_foldl_max _ 0).2 _ (List.mem_map_of_mem h))

section Reading

variable {q : ResolverId} {s : State}

lemma Run.Gives.unique {m : Run Object} {o o' : Option Object} (h : m.Gives s o)
    (h' : m.Gives s o') : Object.ofOption o = .ofOption o' := by
  exact Except.ok.inj (congrArg Prod.fst (h.symm.trans h'))

lemma gives_own_iff {own outside : Option Object}
    (h : (lookUpNow (.resolver q)).Gives s (own.or outside)) :
    (lookUpNow (.resolver q)).Gives s own ↔ own.isSome ∨ Object.ofOption outside = .nothing := by
  cases own with
  | some o => exact iff_of_true h (Or.inl rfl)
  | none =>
    refine ⟨fun hnone => Or.inr (h.unique hnone), fun hnothing => ?_⟩
    rcases hnothing with hsome | hnothing
    · cases hsome
    · have hread : (lookUpNow (.resolver q)).run.run s = (.ok (.ofOption outside), s) := h
      rw [hnothing] at hread
      exact hread

lemma getActive_of_nothing {ref : Ref} {o : Object} (hnow : (lookUpNow (.resolver q)).Gives s none)
    (ho : resolve s.registers ref = .ok o)
    (hq : (o.toOption <|> s.registration.resolver) = some (.resolver q)) (name : Option String) :
    (perform (.getActive name ref)).run.run s = (.ok ⟨some .nothing, .nothing⟩, s) := by
  have hactive : (active o).run.run s = (.ok .nothing, s) := by
    rw [run_active, hq]
    exact hnow
  rw [perform, run_bind, run_object, ho]
  simp only
  rw [run_bind, hactive]
  rfl

end Reading

section Serving

variable {layers : List (List String)} {p : Propagation} {requests : List (Request Step)}
  {L : Lexical} {H : History} {s : State}

/-- A handler goes through its steps, and at each of them and at its end the request has what was
extracted from its headers. The resolver gives there the context of that, else what it gave outside;
so it gives exactly what the request brought if the request brought a context, or nothing was active
outside, and only then. Where it gives nothing, no name has a field. After the handler, however it
ended, and after all requests the resolver gives what it gave before. -/
theorem handlers_see_own_or_outside
    (hp : (FieldScheme.layered .identity layers >>= fun s => s.create .text) = .ok p)
    (hs : Sound L H s) (hn : ∀ request ∈ requests, ∀ step ∈ request.handler, step.Nested)
    (q : ResolverId) (depth : Nat) :
    let outside := s.here.active q
    let served := ((serve (runStep depth) p (some q) requests).run s).2
    (∀ n (hlt : n < requests.length),
      (handling (runStep depth) p (some q) requests n s).map (fun pt => pt.1.todo) =
        requests[n].handler.tails ∧
      ∀ pt ∈ handling (runStep depth) p (some q) requests n s, ∃ found,
        Handles (runStep depth) p q outside requests[n] pt.1 pt.2 found ∧
        ((lookUpNow (.resolver q)).Gives pt.2 found.context? ↔
          requests[n].BringsContext ∨ Object.ofOption outside = .nothing) ∧
        ((lookUpNow (.resolver q)).Gives pt.2 none → ∀ ref o, resolve pt.2.registers ref = .ok o →
          (o.toOption <|> pt.2.registration.resolver) = some (.resolver q) → ∀ name,
            (perform (.getActive name ref)).run.run pt.2 = (.ok ⟨some .nothing, .nothing⟩, pt.2))) ∧
    served.ambient = s.ambient ∧ (lookUpNow (.resolver q)).Gives served outside := by
  intro outside served
  have houtside : L.reading q = outside := (hs.records.active hs.here q).symm
  have hrec : Records H { s with fresh := s.fresh + requests.length } :=
    hs.records.mono rfl rfl (Nat.le_add_right _ _)
  have hobeys : Obeys (runStep depth) (stepLaw depth) := obeys_runStep depth
  have hopen : ∀ task ∈ tasksOf s requests, task.finished = none → task.Open H L (some q) :=
    fun _ ht _ => hs.open_tasksOf hn ht
  refine ⟨fun n hlt => ?_, ?_⟩
  · have htask : (tasksOf s requests)[n]? =
        some { unit := s.fresh + n, outer := s.ambient.env, request := requests[n] } := by
      simp [tasksOf, hlt]
    obtain ⟨htodo, hall⟩ := points_handle hp hobeys (turnsOf requests) hrec hopen htask
      (fun found hfound => by cases hfound)
    rw [houtside] at hall
    refine ⟨?_, fun pt hpt => ?_⟩
    · refine htodo.trans ?_
      exact List.take_of_length_le (length_tails_le_turnsOf (List.getElem_mem hlt))
    · obtain ⟨found, hh⟩ := hall pt hpt
      refine ⟨found, hh, ?_, fun hnow ref o ho hq name => getActive_of_nothing hnow ho hq name⟩
      rw [← hh.brought.context]
      exact gives_own_iff hh.now
  · obtain ⟨K, -, hdone⟩ := hobeys.rounds p (turnsOf requests) hrec hopen
    refine ⟨hdone.ambient, ?_⟩
    rw [← houtside]
    exact (hs.later hdone.extends_ hdone.records hdone.ambient).faithful.now q

end Serving

lemma Sound.enter {L : Lexical} {H : History} {s : State} (hs : Sound L H s) (q : ResolverId)
    (o : Option Object) (name : Option String) :
    Sound ((q, o) :: L) (H.withEnvironment s.fresh ((q, o) :: L))
      { s.derive (s.here.enter q o) with ambient := s.ambient.enter s.fresh name } :=
  ⟨(hs.derive q o).mono rfl rfl (Nat.le_refl _), H.environments_withEnvironment_self _ _⟩

theorem handlers_see_own_or_outside_two_requests :
    let sources : Sources := { work := ⟨"", []⟩, home := ⟨"", []⟩ }
    let start : State := { sources }
    let c : Object := .context ⟨0, { traceId := some "1", spanId := some "a" }⟩
    let s : State := { start.derive (start.here.enter ⟨0⟩ (some c)) with
      ambient := start.ambient.enter start.fresh none }
    let read : Step := .command (.active (some "r") none) none
    let parent := "00-0af7651916cd43dd8448eb211c80319c-b7ad6b7169203331-01"
    let parented : Request Step :=
      { headers := [(.text "TraceParent", some parent), (.text "x-a", some "1")], keep := none
        handler := [read, read], raises := true, response := .nothing }
    let bare : Request Step :=
      { headers := [(.text "x-a", some "2")], keep := none, handler := [read], raises := false
        response := .nothing }
    ∃ p, (FieldScheme.layered .identity [["x-a"]] >>= fun s => s.create .text) = .ok p ∧
      (handling (runStep 1) p (some ⟨0⟩) [parented, bare] 0 s).map (fun pt => pt.1.todo) =
        [[read, read], [read], []] ∧
      (∀ pt ∈ handling (runStep 1) p (some ⟨0⟩) [parented, bare] 0 s, ∃ found,
        Brought p parented found ∧ (lookUpNow (.resolver ⟨0⟩)).Gives pt.2 found.context?) ∧
      (∀ pt ∈ handling (runStep 1) p (some ⟨0⟩) [parented, bare] 1 s, ∃ found,
        found.context? = none ∧ Brought p bare found ∧
          (lookUpNow (.resolver ⟨0⟩)).Gives pt.2 (some c)) ∧
      (lookUpNow (.resolver ⟨0⟩)).Gives
        ((serve (runStep 1) p (some ⟨0⟩) [parented, bare]).run s).2 (some c) := by
  intro sources start c s read parent parented bare
  have hp : (FieldScheme.layered .identity [["x-a"]] >>= fun s => s.create .text) = .ok _ :=
    FieldScheme.create_layered rfl (by decide)
  have hs : Sound [(⟨0⟩, some c)] _ s :=
    Sound.enter ⟨Records.start sources, rfl⟩ ⟨0⟩ (some c) none
  have hn : ∀ request ∈ [parented, bare], ∀ step ∈ request.handler, step.Nested := by
    intro request hr step hstep
    have hread : step = read := by
      simp only [List.mem_cons, List.not_mem_nil, or_false] at hr
      rcases hr with rfl | rfl <;> simpa [parented, bare] using hstep
    rw [hread]
    exact .command trivial
  obtain ⟨hall, -, hlast⟩ := handlers_see_own_or_outside hp hs hn ⟨0⟩ 1
  obtain ⟨hscoped, hown⟩ := hall 0 (by decide)
  obtain ⟨-, hother⟩ := hall 1 (by decide)
  have hbrings : parented.BringsContext := by decide +kernel
  have hbare : ¬ bare.BringsContext := by decide +kernel
  refine ⟨_, hp, hscoped, fun pt hpt => ?_, fun pt hpt => ?_, hlast⟩
  · obtain ⟨found, hh, hiff, -⟩ := hown pt hpt
    exact ⟨found, hh.brought, hiff.2 (Or.inl hbrings)⟩
  · obtain ⟨found, hh, -, -⟩ := hother pt hpt
    have hnone : found.context? = none := by
      rw [← Option.not_isSome_iff_eq_none, hh.brought.context]
      exact hbare
    have hnow := hh.now
    rw [hnone] at hnow
    exact ⟨found, hnone, hh.brought, hnow⟩

theorem bare_request_sees_outside :
    let sources : Sources := { work := ⟨"", []⟩, home := ⟨"", []⟩ }
    let a : TraceContext := { traceId := some "1", spanId := some "a" }
    let request : Request Step :=
      { headers := [(.text "x-a", some "2")], keep := none
        handler := [.command (.active (some "r") none) none,
          .command (.getActive (some "x-a") (some "r")) none]
        raises := false, response := .nothing }
    let steps : List Step :=
      [.command (.newScheme (.plain .identity) (.list [.text "x-a"]) .arguments) (some "f"),
        .command .resolver (some "r"), .command (.context a (.items [])) (some "c0"),
        .command (.decorate (.named "f") (some "c0")) (some "c"),
        .command (.set (some "c") (some "x-a") (some "1")) none,
        .command (.enter (some "r") (some "c") none) none,
        .serve (.named "f") (some "r") [request]]
    (match ((TraceFields.Script.run sources steps)[6]?).map Reply.outcome with
      | some (.ok (.served [⟨.ok _, [.ok (.context c _), .ok (.text value)], _⟩])) =>
          some (c.spanId, value)
      | _ => none) = some (some "a", "1") := by
  decide +kernel

end Script

end TraceFields
