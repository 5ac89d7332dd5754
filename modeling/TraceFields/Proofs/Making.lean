import TraceFields.Proofs.Frames

/-!
Where resolvers come from.
-/

namespace TraceFields.Script

def Object.IsMade (n : Nat) : Object → Prop
  | .resolver r => r.index < n
  | .extraction _ o _ _ => o.IsMade n
  | _ => True

namespace Object

variable {n m : Nat}

lemma IsMade.mono {o : Object} (h : o.IsMade n) (hnm : n ≤ m) : o.IsMade m := by
  fun_induction IsMade n o with
  | case1 r => exact Nat.lt_of_lt_of_le h hnm
  | case2 _ o _ _ ih => exact ih h
  | case3 o hr he =>
    cases o with
    | resolver r => exact absurd rfl (hr r)
    | extraction id o sampled extensions => exact absurd rfl (he id o sampled extensions)
    | _ => trivial

@[simp] lemma isMade_ofText? (s : Option String) : (ofText? s).IsMade n := by cases s <;> trivial

@[simp] lemma isMade_ofStore? (id : Option StoreId) : (ofStore? id).IsMade n := by
  cases id <;> trivial

@[simp] lemma isMade_ofMarker? (id : Option MarkerId) : (ofMarker? id).IsMade n := by
  cases id <;> trivial

lemma isMade_ofOption {o : Option Object} (h : ∀ p, o = some p → p.IsMade n) :
    (ofOption o).IsMade n := by
  cases o with
  | none => trivial
  | some p => exact h p rfl

lemma IsMade.of_context? {o p : Object} (h : o.IsMade n) (hp : o.context? = some p) :
    p.IsMade n := by
  cases o with
  | extraction id inner sampled extensions =>
    cases inner <;> cases hp <;> exact h
  | _ => cases hp

lemma IsMade.of_toOption {o p : Object} (h : o.IsMade n) (hp : o.toOption = some p) :
    p.IsMade n := by
  cases o <;> cases hp <;> exact h

end Object

structure Kept (entered : List ResolverId) (s : State) : Prop where
  active {id : Nat} {e : Environment Object} {r : ResolverId} {o : Object} :
    s.environments.at? id = some e → e.active r = some o → r ∈ entered ∧ o.IsMade s.resolvers
  entered {r : ResolverId} : r ∈ entered → r.index < s.resolvers
  register {name : String} {o : Object} :
    s.registers.at? name = some o → o.IsMade s.resolvers
  registered {o : Object} : s.registration.resolver = some o → o.IsMade s.resolvers

namespace Kept

variable {entered : List ResolverId} {s t : State}

lemma start (sources : Sources) : Kept [] { sources } := by
  refine ⟨fun {id e r o} he hr => ?_, fun h => ?_, fun h => ?_, fun h => ?_⟩
  · rw [Entries.at?] at he
    split at he
    · cases he
      cases hr
    · cases he
  all_goals cases h

lemma registering (h : Kept entered s) (he : t.environments = s.environments)
    (hr : t.registers = s.registers) (hn : s.resolvers ≤ t.resolvers)
    (hg : ∀ o, t.registration.resolver = some o → o.IsMade t.resolvers) : Kept entered t := by
  refine ⟨fun hid hactive => ?_, fun hr => Nat.lt_of_lt_of_le (h.entered hr) hn, fun hname => ?_,
    fun ho => hg _ ho⟩
  · rw [he] at hid
    obtain ⟨hmem, ho⟩ := h.active hid hactive
    exact ⟨hmem, ho.mono hn⟩
  · rw [hr] at hname
    exact (h.register hname).mono hn

lemma mono (h : Kept entered s) (he : t.environments = s.environments)
    (hr : t.registers = s.registers) (hg : t.registration.resolver = s.registration.resolver)
    (hn : s.resolvers ≤ t.resolvers) : Kept entered t :=
  h.registering he hr hn fun _ ho => (h.registered (hg ▸ ho)).mono hn

lemma steady (h : Kept entered s) (ht : Steady s t) : Kept entered t :=
  h.mono ht.environments ht.registers ht.registered (Nat.le_of_eq ht.resolvers.symm)

lemma inside (h : Kept entered s) (unit : Option Nat) (env : Nat) :
    Kept entered (s.inside unit env) :=
  h.mono rfl rfl rfl (Nat.le_refl _)

lemma restore (h : Kept entered t) (s : State) : Kept entered (s.restore t) :=
  h.mono rfl rfl rfl (Nat.le_refl _)

lemma of_environment (h : Kept entered s) {id : Nat} {r : ResolverId} {o : Object}
    (ho : (s.environment id).active r = some o) : r ∈ entered ∧ o.IsMade s.resolvers := by
  rw [State.environment] at ho
  cases he : s.environments.at? id with
  | none =>
    rw [he] at ho
    cases ho
  | some e =>
    rw [he] at ho
    exact h.active he ho

lemma derive (h : Kept entered s) {r : ResolverId} {value : Option Object}
    (hr : r.index < s.resolvers) (hv : ∀ o, value = some o → o.IsMade s.resolvers) :
    Kept (r :: entered) (s.derive (s.here.enter r value)) := by
  refine ⟨fun {id e q p} he hp => ?_, fun {q} hq => ?_, h.register, h.registered⟩
  · simp only [State.derive, Entries.at?_put] at he
    split at he
    · cases he
      rw [Environment.active_enter] at hp
      split at hp
      · next hq =>
        subst hq
        exact ⟨List.mem_cons_self, hv p hp⟩
      · obtain ⟨hmem, hmade⟩ := h.of_environment hp
        exact ⟨List.mem_cons_of_mem _ hmem, hmade⟩
    · obtain ⟨hmem, hmade⟩ := h.active he hp
      exact ⟨List.mem_cons_of_mem _ hmem, hmade⟩
  · rcases List.mem_cons.1 hq with rfl | hq
    · exact hr
    · exact h.entered hq

lemma keep (h : Kept entered s) {o : Object} (ho : o.IsMade s.resolvers) (name : Option String) :
    Kept entered ((Run.keep name o).after s) := by
  cases name with
  | none => exact h
  | some name =>
    refine ⟨h.active, h.entered, fun {other p} hp => ?_, h.registered⟩
    change (s.registers.put name o).at? other = some p at hp
    rw [Entries.at?_put] at hp
    split at hp
    · cases hp
      exact ho
    · exact h.register hp

lemma resolve (h : Kept entered s) {ref : Ref} {o : Object}
    (ho : Run.resolve s.registers ref = .ok o) : o.IsMade s.resolvers := by
  cases ref with
  | none =>
    cases ho
    trivial
  | some name =>
    simp only [Run.resolve] at ho
    cases hname : s.registers.at? name with
    | none =>
      rw [hname] at ho
      cases ho
    | some p =>
      rw [hname] at ho
      cases ho
      exact h.register hname

end Kept

open Run

section Results

variable {α β : Type} {entered : List ResolverId} {n : Nat} {Q : α → Prop}

def Yields (entered : List ResolverId) (n : Nat) (m : Run α) (Q : α → Prop) : Prop :=
  ∀ s, Kept entered s → s.resolvers = n → ∀ a, (m.run.run s).1 = .ok a → Q a

lemma Yields.bind {m : Run α} {f : α → Run β} {R : β → Prop} (hm : Yields entered n m Q)
    (hsteady : Steadies m) (hf : ∀ a, Q a → Yields entered n (f a) R) :
    Yields entered n (m >>= f) R := by
  intro s hs hn b hb
  have ha := hm s hs hn
  have ht := hsteady s
  rw [after] at ht
  rw [run_bind] at hb
  generalize m.run.run s = x at ha ht hb
  obtain ⟨_ | a, t⟩ := x
  · cases hb
  · exact hf a (ha a rfl) t (hs.steady ht) (ht.resolvers.trans hn) b hb

lemma yields_bind {m : Run α} {f : α → Run β} {R : β → Prop} (hsteady : Steadies m)
    (hf : ∀ a, Yields entered n (f a) R) : Yields entered n (m >>= f) R :=
  Yields.bind (Q := fun _ => True) (fun _ _ _ _ _ => trivial) hsteady fun a _ => hf a

lemma yields_pure {a : α} (h : Q a) : Yields entered n (pure a) Q := by
  rintro s - - b hb
  cases hb
  exact h

lemma yields_throw (fault : Fault) : Yields entered n (throw fault : Run α) Q := by
  rintro s - - b hb
  cases hb

lemma yields_object (ref : Ref) : Yields entered n (object ref) (Object.IsMade n) := by
  rintro s hs rfl o ho
  rw [run_object] at ho
  exact hs.resolve ho

lemma yields_lookUp (o key : Object) : Yields entered n (lookUp o key) (Object.IsMade n) := by
  have hnothing : Yields entered n (pure .nothing) (Object.IsMade n) := yields_pure trivial
  have htext (text : Option String) :
      Yields entered n (pure (.ofText? text)) (Object.IsMade n) :=
    yields_pure (Object.isMade_ofText? text)
  unfold lookUp
  split
  · rintro s hs rfl p hp
    cases hp
    exact Object.isMade_ofOption fun p hp => (hs.of_environment hp).2
  · rintro s hs rfl p hp
    cases hp
    exact Object.isMade_ofOption fun p hp => (hs.of_environment hp).2
  all_goals first
    | exact hnothing
    | exact yields_throw _
    | exact yields_bind (by simp) fun _ => htext _
    | exact yields_bind steady_get fun s => by
        split <;> first | exact hnothing | exact yields_throw _

lemma yields_lookUpNow (o : Object) : Yields entered n (lookUpNow o) (Object.IsMade n) := by
  cases o with
  | resolver r => exact yields_lookUp _ _
  | _ => exact yields_throw _

lemma yields_lookUpNamed (o : Object) (name : String) :
    Yields entered n (lookUpNamed o name) (Object.IsMade n) := by
  have hlookUp : Yields entered n (do lookUp o (← object (some name))) (Object.IsMade n) :=
    yields_bind (steady_object _) fun key => yields_lookUp o key
  cases o with
  | resolver | store | carrier | environment => exact hlookUp
  | _ => exact yields_throw _

lemma yields_newContext (c : TraceContext) :
    Yields entered n (newContext c) (Object.IsMade n) :=
  yields_bind (steady_hold c) fun _ => yields_pure trivial

lemma yields_newCarrier (c : Carrier) : Yields entered n (newCarrier c) (Object.IsMade n) :=
  yields_bind steady_freshId fun _ => yields_bind (steady_setPairs _ _) fun _ => yields_pure trivial

lemma yields_newExtraction (r : Extraction) :
    Yields entered n (newExtraction r) (Object.IsMade n) := by
  have hrest (o : Object) (ho : o.IsMade n) :
      Yields entered n (do pure (.extraction (← freshId) o r.sampled r.extensions))
        (Object.IsMade n) := yields_bind steady_freshId fun id => yields_pure ho
  rw [newExtraction]
  split
  · exact yields_pure trivial
  · cases r.context with
    | none => exact Yields.bind (Q := Object.IsMade n) (yields_pure trivial) (steady_pure _) hrest
    | some c => exact (yields_newContext c).bind (steady_newContext c) hrest

end Results

def Made.IsMade (n : Nat) (made : Made) : Prop := ∀ o, made.object = some o → o.IsMade n

structure Makes (entered : List ResolverId) (n : Nat) (m : Run Made) : Prop where
  steady : Steadies m
  yields : Yields entered n m (Made.IsMade n)

namespace Makes

variable {α : Type} {entered : List ResolverId} {n : Nat}

lemma bind {m : Run α} {f : α → Run Made} (hm : Steadies m) (hf : ∀ a, Makes entered n (f a)) :
    Makes entered n (m >>= f) :=
  ⟨steady_bind hm fun a => (hf a).steady, yields_bind hm fun a => (hf a).yields⟩

lemma bind_yields {m : Run α} {Q : α → Prop} {f : α → Run Made} (hm : Yields entered n m Q)
    (hsteady : Steadies m) (hsteady' : ∀ a, Steadies (f a))
    (hf : ∀ a, Q a → Yields entered n (f a) (Made.IsMade n)) : Makes entered n (m >>= f) :=
  ⟨steady_bind hsteady hsteady', hm.bind hsteady hf⟩

lemma pure (answer : Answer) (o : Object) (h : o.IsMade n := by trivial) :
    Makes entered n (Pure.pure ⟨some o, answer⟩) := by
  refine ⟨steady_pure _, yields_pure fun p hp => ?_⟩
  cases hp
  exact h

lemma of_get {f : State → Run Made} (hsteady : ∀ s, Steady s ((f s).after s))
    (hyields : ∀ s, Kept entered s → s.resolvers = n →
      ∀ made, ((f s).run.run s).1 = .ok made → made.IsMade n) :
    Makes entered n (get >>= f) :=
  ⟨steady_of_get hsteady, hyields⟩

lemma answer (answer : Answer) : Makes entered n (Pure.pure { answer }) := by
  refine ⟨steady_pure _, yields_pure fun p hp => ?_⟩
  cases hp

lemma throw (fault : Fault) : Makes entered n (throwThe Fault fault) :=
  ⟨steady_throw _, yields_throw _⟩

lemma shown (o : Object) (h : o.IsMade n := by trivial) : Makes entered n (Run.shown o) :=
  bind (steady_view o) fun answer => pure answer o h

lemma done : Makes entered n Run.done := shown .nothing

lemma shows {m : Run Object} (hm : Yields entered n m (Object.IsMade n)) (hsteady : Steadies m) :
    Makes entered n (m >>= Run.shown) :=
  bind_yields hm hsteady steady_shown fun o ho => (shown o ho).yields

end Makes

section Commands

variable {entered : List ResolverId} {n : Nat}

lemma yields_shown {o : Object} (h : o.IsMade n) :
    Yields entered n (shown o) (Made.IsMade n) := (Makes.shown o h).yields

lemma yields_extracted (result : Except Fault (Extraction × Heap)) :
    Yields entered n (extracted result) (Object.IsMade n) := by
  refine yields_bind (steady_lift result) fun x => yields_bind (steady_setHeap _) fun _ => ?_
  exact yields_newExtraction x.1

lemma yields_deliver {target : Object} (h : target.IsMade n) (sending : Sending Unit) :
    Yields entered n (deliver target sending) (Made.IsMade n) := by
  unfold deliver
  refine yields_bind steady_heap fun heap => yields_bind (steady_pairs target) fun c => ?_
  refine yields_bind (steady_setHeap _) fun _ => ?_
  split
  · refine yields_bind (steady_setPairs _ _) fun _ => yields_bind (steady_lift _) fun _ => ?_
    exact yields_shown h
  · exact yields_bind (steady_lift _) fun _ => yields_shown h

lemma yields_decorate (s : Scheme) {o : Object} (h : o.IsMade n) :
    Yields entered n (decorate s o) (Made.IsMade n) := by
  unfold decorate
  split
  · refine yields_bind steady_heap fun heap => yields_bind (steady_setHeap _) fun _ => ?_
    split
    · exact (Makes.bind (steady_view _) fun _ => .pure _ _).yields
    · refine (yields_newContext _).bind (steady_newContext _) fun o ho => ?_
      exact (Makes.bind (steady_view _) fun _ => .pure _ _ ho).yields
  · split
    · exact (Makes.bind (steady_view _) fun _ => .pure _ _ h).yields
    · exact yields_throw _

lemma makes_tagged (t : SpanTagger Object) (start : Attributes) (o : Object) :
    Makes entered n (tagged t start o) := by
  unfold tagged
  split
  · exact .bind steady_heap fun _ => .answer _
  · split
    · exact .bind steady_heap fun _ => .answer _
    · split
      · exact .answer _
      · exact .throw _

lemma makes_span (t : SpanTagger Object) (attributes : List (String × Datum)) (parent : Object) :
    Makes entered n (span t attributes parent) :=
  .bind (steady_spanParent _) fun _ => .bind (steady_lookUp _ _) fun _ => makes_tagged _ _ _

lemma makes_injectHeaders (headers : Carrier) (p context : Object) :
    Makes entered n (injectHeaders headers p context) := by
  unfold injectHeaders
  refine .bind steady_heap fun heap => ?_
  have hrest (x : Except Fault Unit × Delivery) : Makes entered n (do
      setHeap x.2.heap
      x.1
      pure { answer := .headers x.2.carrier }) :=
    .bind (steady_setHeap _) fun _ => .bind (steady_lift _) fun _ => .answer _
  split
  · exact .bind (steady_pure _) hrest
  · exact .bind (steady_pure _) hrest
  · exact .bind (steady_pure _) hrest
  · exact .bind (steady_throw _) hrest

lemma makes_lift_set_done {β : Type} (x : State → Except Fault β) {f : State → β → State}
    (hf : ∀ s b, Steady s (f s b)) :
    Makes entered n (get >>= fun s => liftM (x s) >>= fun b => set (f s b) >>= fun _ => done) := by
  have hstate (s : State) (b : β) : Steady s (after (set (f s b) >>= fun _ => done : Run Made) s) :=
    steady_set_bind (hf s b) steady_done
  refine .of_get (fun s => ?_) fun s hs hn made hmade => ?_
  · cases x s with
    | error fault => exact .refl s
    | ok b => exact hstate s b
  · cases hx : x s with
    | error fault =>
      rw [hx] at hmade
      cases hmade
    | ok b =>
      rw [hx] at hmade
      exact Makes.done.yields (f s b) (hs.steady (hf s b)) ((hf s b).resolvers.trans hn) made hmade

lemma makes_perform {c : Command} (hc : c.IsSteady) : Makes entered n (perform c) := by
  cases c with
  | enter | exit | resolver | init | reset | register => cases hc
  | newScheme ref names form =>
    refine .bind (steady_delegate? ref) fun delegate => .bind (steady_lift _) fun f => ?_
    refine .bind (steady_note _ _) fun _ => ?_
    split
    · exact .bind (steady_throw _) fun _ => .bind (steady_hold f) fun f => .pure _ _
    · exact .bind (steady_hold f) fun f => .pure _ _
  | create ref key =>
    refine .bind (steady_delegate? ref) fun delegate => .bind (steady_required _) fun s => ?_
    exact .bind (steady_lift _) fun p => .bind (steady_hold p) fun p => .pure _ _
  | schemeInfo ref =>
    exact .bind (steady_delegate? ref) fun delegate => .bind (steady_required _) fun s => .answer _
  | decorate ref contextRef =>
    refine .bind (steady_delegate? ref) fun delegate => ?_
    refine .bind_yields (yields_object contextRef) (steady_object contextRef) (by simp) ?_
    exact fun o ho => yields_bind (steady_required _) fun s => yields_decorate s ho
  | undefined => exact .throw _
  | context value extensions =>
    cases extensions with
    | items items =>
      refine .bind (steady_mapM steady_item) fun es => ?_
      exact .shows (yields_newContext _) (steady_newContext _)
    | sharedWith other =>
      refine .bind (steady_object _) fun o => ?_
      cases o.ownExtensions? with
      | some es => exact .shows (yields_newContext _) (steady_newContext _)
      | none =>
        exact .bind (steady_throw _) fun _ => .shows (yields_newContext _) (steady_newContext _)
  | withExtensions ref items =>
    refine .bind (steady_object ref) fun o => ?_
    cases o with
    | context c =>
      refine .bind (steady_mapM steady_item) fun es => ?_
      exact .shows (yields_newContext _) (steady_newContext _)
    | _ => exact .throw _
  | extraction ref sampled items =>
    refine .bind_yields (yields_object ref) (steady_object ref) (by simp) fun o ho => ?_
    refine yields_bind (steady_mapM steady_item) fun es => yields_bind steady_freshId fun id => ?_
    exact yields_shown ho
  | attach ref e =>
    refine .bind (steady_object ref) fun o => ?_
    cases o with
    | extraction =>
      refine .bind (steady_item e) fun e => ?_
      split
      · exact .shows (yields_newExtraction _) (steady_newExtraction _)
      · exact .throw _
    | _ => exact .throw _
  | findExtension ref kind =>
    refine .bind (steady_object ref) fun o => ?_
    split
    · exact .shown _ (Object.isMade_ofStore? _)
    · exact .shown _ (Object.isMade_ofMarker? _)
    · exact .throw _
  | contextOf ref =>
    refine .bind_yields (yields_object ref) (steady_object ref) (fun o => ?_) fun o ho => ?_
    · cases o <;> simp
    · cases o with
      | extraction => exact yields_shown ho
      | _ => exact yields_throw _
  | equal a b =>
    refine .bind (steady_object a) fun a => .bind (steady_object b) fun b => ?_
    exact .bind steady_get fun s => .shown _
  | same a b =>
    exact .bind (steady_object a) fun a => .bind (steady_object b) fun b => .shown _
  | render ref =>
    exact .shows (yields_object ref) (steady_object ref)
  | newStore => exact .bind steady_heap fun h => .bind (steady_setHeap _) fun _ => .shown _
  | storeSet ref field value =>
    refine .bind (steady_object ref) fun o => .bind (steady_store o) fun id => ?_
    exact .bind steady_heap fun h => .bind (steady_setHeap _) fun _ => .done
  | storeGet ref field =>
    refine .bind (steady_object ref) fun o => ?_
    exact .shows (yields_lookUp _ _) (steady_lookUp _ _)
  | storeText ref =>
    exact .bind (steady_object ref) fun o => .bind (steady_textOf o) fun text => .shown _
  | storeSend ref carrierRef table rule =>
    refine .bind (steady_object ref) fun o => ?_
    refine .bind_yields (yields_object carrierRef) (steady_object carrierRef) (fun target => ?_)
      fun target ht => ?_
    · exact steady_bind (steady_store o) fun id => steady_bind (steady_setterInto _ _) (by simp)
    · refine yields_bind (steady_store o) fun id => yields_bind (steady_setterInto _ _) ?_
      exact fun set => yields_bind steady_heap fun h => yields_deliver ht _
  | get ref field =>
    refine .bind (steady_object ref) fun o => .bind steady_heap fun h => ?_
    exact .bind (steady_lift _) fun text => .shown _ (Object.isMade_ofText? text)
  | set ref field value =>
    refine .bind (steady_object ref) fun o => .bind steady_heap fun h => ?_
    exact .bind (steady_lift _) fun h => .bind (steady_setHeap h) fun _ => .done
  | getActive field ref =>
    refine .bind (steady_object ref) fun r => .bind (steady_active r) fun o => ?_
    refine .bind steady_heap fun h => .bind (steady_lift _) fun text => ?_
    exact .shown _ (Object.isMade_ofText? text)
  | setActive field value ref =>
    refine .bind (steady_object ref) fun r => .bind (steady_active r) fun o => ?_
    refine .bind steady_heap fun h => .bind (steady_lift _) fun h => ?_
    exact .bind (steady_setHeap h) fun _ => .done
  | carrier items => exact .shows (yields_newCarrier _) (steady_newCarrier _)
  | inject ref contextRef carrierRef rule =>
    refine .bind (steady_object ref) fun o => ?_
    refine .bind_yields (yields_object carrierRef) (steady_object carrierRef) (fun target => ?_)
      fun target ht => ?_
    · refine steady_bind (steady_propagation o) fun p =>
        steady_bind (steady_object contextRef) fun c => ?_
      simp
    · refine yields_bind (steady_propagation o) fun p =>
        yields_bind (steady_object contextRef) fun c => ?_
      exact yields_bind (steady_setterInto _ _) fun set => yields_deliver ht _
  | extract ref carrierRef rule =>
    refine .bind (steady_object ref) fun o => .bind (steady_propagation o) fun p => ?_
    refine .bind (steady_object carrierRef) fun source =>
      .bind (steady_getterFrom _ _) fun get => .bind steady_heap fun h => ?_
    exact .shows (yields_extracted _) (steady_extracted _)
  | injectHeaders headers ref contextRef resolverRef =>
    refine .bind (steady_object ref) fun p => .bind (steady_object contextRef) fun given => ?_
    refine .bind (steady_object resolverRef) fun r => ?_
    cases given with
    | nothing => exact .bind (steady_active r) fun o => makes_injectHeaders _ _ _
    | _ => exact .bind (steady_pure _) fun o => makes_injectHeaders _ _ _
  | extractHeaders headers ref =>
    refine .bind (steady_object ref) fun o => .bind (steady_propagation o) fun p => ?_
    refine .bind steady_heap fun h => ?_
    exact .shows (yields_extracted _) (steady_extracted _)
  | active ref environmentRef =>
    refine .bind (steady_object ref) fun o => ?_
    cases environmentRef with
    | none => exact .shows (yields_lookUpNow o) (steady_lookUpNow o)
    | some name => exact .shows (yields_lookUpNamed o name) (steady_lookUpNamed o name)
  | capture =>
    have hcurrent : Yields entered n currentObject (Object.IsMade n) :=
      yields_bind steady_get fun s => yields_pure trivial
    refine .bind_yields hcurrent steady_currentObject (by simp) fun o ho => ?_
    exact (Makes.pure _ o ho).yields
  | tagger ref names lead =>
    refine .bind (steady_object ref) fun o => .bind (steady_lift _) fun t => ?_
    exact .bind (steady_hold t) fun t => .pure _ _
  | span ref attributes parentRef =>
    refine .bind (steady_object ref) fun o => .bind (steady_tagger o) fun t => ?_
    exact .bind (steady_object parentRef) fun parent => makes_span t attributes parent
  | taggerHooks ref =>
    exact .bind (steady_object ref) fun o => .bind (steady_tagger o) fun _ => .answer _
  | registeredResolver =>
    refine .of_get (fun s => .refl s) fun s hs hn made hmade o ho => ?_
    cases hmade
    exact hn ▸ hs.registered ho
  | registration => exact .bind steady_get fun s => .answer _
  | loadConfig configFile =>
    have hload (s : State) : Steady s
        { s with registration := s.registration.noteLoaded s.sources configFile } := by
      have hr := Registration.SameButLog.noteLoaded s.registration s.sources configFile
      exact ⟨⟨rfl, rfl, rfl, Nat.le_refl _⟩, rfl, hr.resolver, rfl⟩
    have hrest (s : State) : Makes entered n (do
        pure { answer := .settings (← Settings.load s.sources configFile) }) :=
      .bind (steady_lift _) fun settings => .answer _
    refine .of_get (fun s => steady_set_bind (hload s) (hrest s).steady) fun s hs hn => ?_
    exact (hrest s).yields _ (hs.steady (hload s)) hn
  | findConfig =>
    refine .bind steady_get fun s => .bind (steady_lift _) fun found => ?_
    exact .shown _ (Object.isMade_ofText? _)
  | writeFile path data =>
    exact makes_lift_set_done _ fun s sources => ⟨⟨rfl, rfl, rfl, Nat.le_refl _⟩, rfl, rfl, rfl⟩
  | setVariable name value =>
    exact makes_lift_set_done _ fun s sources => ⟨⟨rfl, rfl, rfl, Nat.le_refl _⟩, rfl, rfl, rfl⟩

end Commands

lemma steady_perform {c : Command} (hc : c.IsSteady) : Steadies (perform c) := by
  have hmakes : Makes [] 0 (perform c) := makes_perform hc
  exact hmakes.steady

lemma frames_perform {c : Command} (hc : c.IsLocal) : Frames (perform c) := by
  cases c with
  | enter | exit => cases hc
  | resolver => exact fun s => ⟨rfl, rfl, rfl, Nat.le_refl _⟩
  | init fields ref configFile debug =>
    refine frames_bind (steady_delegate? ref).frames fun delegate s => ?_
    obtain ⟨args, hold, hrun⟩ := run_setUp fields delegate configFile debug s
    rw [after, hrun]
    refine Frame.trans ?_ ((steady_bind (steady_lift _) fun o => steady_initialized _ o) _).toFrame
    exact ⟨rfl, rfl, rfl, Nat.le_succ _⟩
  | reset => exact fun s => ⟨rfl, rfl, rfl, Nat.le_refl _⟩
  | register entry =>
    refine frames_bind ?_ fun _ => steady_done.frames
    cases entry with
    | debug b => exact fun s => ⟨rfl, rfl, rfl, Nat.le_refl _⟩
    | _ => exact frames_bind (steady_object _).frames fun o s => ⟨rfl, rfl, rfl, Nat.le_refl _⟩
  | _ => exact (steady_perform (by trivial)).frames

end TraceFields.Script
