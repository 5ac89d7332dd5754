import TraceFields.Proofs.Carriage
import TraceFields.Proofs.Lifecycle
import TraceFields.Script.Perform

/-!
What the commands of a script leave alone.
-/

namespace TraceFields.Script

structure Frame (s t : State) : Prop where
  ambient : t.ambient = s.ambient
  environments : t.environments = s.environments
  routines : t.routines = s.routines
  fresh : s.fresh ≤ t.fresh

namespace Frame

lemma refl (s : State) : Frame s s := ⟨rfl, rfl, rfl, Nat.le_refl _⟩

lemma trans {s t u : State} (h : Frame s t) (k : Frame t u) : Frame s u :=
  ⟨k.ambient.trans h.ambient, k.environments.trans h.environments, k.routines.trans h.routines,
    Nat.le_trans h.fresh k.fresh⟩

end Frame

structure Steady (s t : State) : Prop extends Frame s t where
  registers : t.registers = s.registers
  registered : t.registration.resolver = s.registration.resolver
  resolvers : t.resolvers = s.resolvers

namespace Steady

lemma refl (s : State) : Steady s s := ⟨.refl s, rfl, rfl, rfl⟩

lemma trans {s t u : State} (h : Steady s t) (k : Steady t u) : Steady s u :=
  ⟨h.toFrame.trans k.toFrame, k.registers.trans h.registers, k.registered.trans h.registered,
    k.resolvers.trans h.resolvers⟩

end Steady

namespace Run

variable {α β : Type}

def after (m : Run α) (s : State) : State := (m.run.run s).2

lemma after_bind_cases (m : Run α) (f : α → Run β) (s : State) :
    (m >>= f).after s = m.after s ∨ ∃ a, (m >>= f).after s = (f a).after (m.after s) := by
  rw [after, after, run_bind]
  generalize m.run.run s = x
  obtain ⟨_ | a, t⟩ := x
  · exact Or.inl rfl
  · exact Or.inr ⟨a, rfl⟩

def Frames (m : Run α) : Prop := ∀ s, Frame s (m.after s)

def Steadies (m : Run α) : Prop := ∀ s, Steady s (m.after s)

lemma Steadies.frames {m : Run α} (h : Steadies m) : Frames m := fun s => (h s).toFrame

lemma frames_bind {m : Run α} {f : α → Run β} (hm : Frames m) (hf : ∀ a, Frames (f a)) :
    Frames (m >>= f) := by
  intro s
  rcases after_bind_cases m f s with h | ⟨a, h⟩
  · exact h ▸ hm s
  · exact h ▸ (hm s).trans (hf a _)

lemma frames_keep (name : Option String) (o : Object) : Frames (keep name o) := by
  cases name with
  | none => exact Frame.refl
  | some name => exact fun _ => ⟨rfl, rfl, rfl, Nat.le_refl _⟩

@[simp] lemma steady_pure (a : α) : Steadies (pure a) := Steady.refl

@[simp] lemma steady_throw (fault : Fault) : Steadies (throw fault : Run α) := Steady.refl

@[simp] lemma steady_get : Steadies get := Steady.refl

@[simp] lemma steady_lift (x : Except Fault α) : Steadies (liftM x : Run α) := by
  intro s
  cases x <;> exact Steady.refl s

@[simp] lemma steady_bind {m : Run α} {f : α → Run β} (hm : Steadies m)
    (hf : ∀ a, Steadies (f a)) : Steadies (m >>= f) := by
  intro s
  rcases after_bind_cases m f s with h | ⟨a, h⟩
  · exact h ▸ hm s
  · exact h ▸ (hm s).trans (hf a _)

@[simp] lemma steady_map {m : Run α} (f : α → β) (hm : Steadies m) : Steadies (f <$> m) := by
  rw [← bind_pure_comp]
  exact steady_bind hm fun a => steady_pure (f a)

lemma steady_of_get {f : State → Run α} (hf : ∀ s, Steady s ((f s).after s)) :
    Steadies (get >>= f) := hf

lemma steady_set_bind {s t : State} {f : Run α} (h : Steady s t) (hf : Steadies f) :
    Steady s (after (set t >>= fun _ => f) s) := h.trans (hf t)

@[simp] lemma steady_mapM {f : α → Run β} {l : List α} (hf : ∀ a, Steadies (f a)) :
    Steadies (l.mapM f) := by
  induction l with
  | nil => simp
  | cons a l ih =>
    rw [List.mapM_cons]
    simp [hf, ih]

@[simp] lemma steady_freshId : Steadies freshId := fun _ =>
  ⟨⟨rfl, rfl, rfl, Nat.le_succ _⟩, rfl, rfl, rfl⟩

@[simp] lemma steady_hold (a : α) : Steadies (hold a) := by simp [hold]

@[simp] lemma steady_object (ref : Ref) : Steadies (object ref) := by simp [object]

@[simp] lemma steady_delegate? (ref : SchemeRef) : Steadies (delegate? ref) := by
  cases ref with
  | nothing => simp [delegate?]
  | plain s => simp [delegate?]
  | named name =>
    apply steady_bind (steady_object _)
    intro o
    cases o <;> simp

@[simp] lemma steady_required (delegate : Option Delegate) : Steadies (required delegate) := by
  rcases delegate with _ | _ | _ <;> simp [required]

@[simp] lemma steady_propagation (o : Object) : Steadies (propagation o) := by
  cases o <;> simp [propagation]

@[simp] lemma steady_store (o : Object) : Steadies (store o) := by cases o <;> simp [store]

@[simp] lemma steady_heap : Steadies heap := by simp [heap]

@[simp] lemma steady_setHeap (h : Heap) : Steadies (setHeap h) :=
  fun _ => ⟨⟨rfl, rfl, rfl, Nat.le_refl _⟩, rfl, rfl, rfl⟩

@[simp] lemma steady_pairs (o : Object) : Steadies (pairs o) := by simp [pairs]

@[simp] lemma steady_setPairs (o : Object) (c : Carrier) : Steadies (setPairs o c) :=
  fun _ => ⟨⟨rfl, rfl, rfl, Nat.le_refl _⟩, rfl, rfl, rfl⟩

@[simp] lemma steady_newCarrier (c : Carrier) : Steadies (newCarrier c) := by simp [newCarrier]

@[simp] lemma steady_size? (o : Object) : Steadies (size? o) := by
  apply steady_bind (steady_pairs o)
  intro held
  cases o <;> simp

@[simp] lemma steady_newContext (c : TraceContext) : Steadies (newContext c) := by simp [newContext]

@[simp] lemma steady_newExtraction (r : Extraction) : Steadies (newExtraction r) := by
  rw [newExtraction]
  split
  · simp
  · cases r.context <;> simp

@[simp] lemma steady_currentObject : Steadies currentObject := by simp [currentObject]

@[simp] lemma steady_note (level : LogLevel) (text : String) : Steadies (note level text) := by
  intro s
  have hr := (Registration.SameButLog.refl s.registration).note level text
  exact ⟨⟨rfl, rfl, rfl, Nat.le_refl _⟩, rfl, hr.resolver, rfl⟩

lemma steady_other (o : Object) : Steadies (do
    let s ← get
    match s.others.findIdx? o.isSame with
    | some n => pure (Extension.other n)
    | none =>
      set { s with others := s.others ++ [o] }
      pure (Extension.other s.others.length)) := by
  refine steady_of_get fun s => ?_
  split
  · exact Steady.refl s
  · exact steady_set_bind ⟨⟨rfl, rfl, rfl, Nat.le_refl _⟩, rfl, rfl, rfl⟩ (steady_pure _)

@[simp] lemma steady_item (e : Item) : Steadies (item e) := by
  cases e with
  | marker text => simp [item]
  | named ref =>
    apply steady_bind (steady_object ref)
    intro o
    cases o <;> first | exact steady_other _ | simp

@[simp] lemma steady_storeNumber (id : StoreId) : Steadies (storeNumber id) := by
  refine steady_of_get fun s => ?_
  split
  · exact Steady.refl s
  · exact steady_set_bind ⟨⟨rfl, rfl, rfl, Nat.le_refl _⟩, rfl, rfl, rfl⟩ (steady_pure _)

@[simp] lemma steady_purePairs (o : Object) : Steadies (purePairs o) := by
  apply steady_bind steady_get
  intro s
  split <;> simp

@[simp] lemma steady_viewStore (id : StoreId) : Steadies (viewStore id) := by simp [viewStore]

@[simp] lemma steady_viewMarker (id : MarkerId) : Steadies (viewMarker id) := by simp [viewMarker]

@[simp] lemma steady_viewExtension {view : Object → Run Answer} (hv : ∀ o, Steadies (view o))
    (e : Extension) : Steadies (viewExtension view e) := by
  cases e <;> simp [viewExtension, hv]

@[simp] lemma steady_viewWithin (bound : Nat) (o : Object) : Steadies (viewWithin bound o) := by
  induction bound generalizing o with
  | zero => simp [viewWithin]
  | succ bound ih =>
    have hextensions (es : List Extension) := steady_mapM (l := es) (steady_viewExtension ih)
    cases o <;> simp [viewWithin, ih, hextensions]

@[simp] lemma steady_view (o : Object) : Steadies (view o) := by simp [view]

@[simp] lemma steady_shown (o : Object) : Steadies (shown o) := by simp [shown]

@[simp] lemma steady_done : Steadies done := by simp [done]

@[simp] lemma steady_storeLiteral (id : StoreId) : Steadies (storeLiteral id) := by
  simp [storeLiteral]

@[simp] lemma steady_markerLiteral (id : MarkerId) : Steadies (markerLiteral id) := by
  simp [markerLiteral]

@[simp] lemma steady_extensionLiteral {literal : Object → Run String}
    (hl : ∀ o, Steadies (literal o)) (e : Extension) : Steadies (extensionLiteral literal e) := by
  cases e <;> simp [extensionLiteral, hl]

@[simp] lemma steady_literalWithin (bound : Nat) (o : Object) :
    Steadies (literalWithin bound o) := by
  induction bound generalizing o with
  | zero => simp [literalWithin]
  | succ bound ih =>
    have hextensions (es : List Extension) := steady_mapM (l := es) (steady_extensionLiteral ih)
    cases o <;> simp [literalWithin, ih, hextensions]

@[simp] lemma steady_textOf (o : Object) : Steadies (textOf o) := by cases o <;> simp [textOf]

@[simp] lemma steady_lookUp (o key : Object) : Steadies (lookUp o key) := by
  have hkey : Steadies (do
      let s ← get
      if s.isKeyWithin (s.fresh + 1) key then pure .nothing else throw .wrongType :
        Run Object) := by
    apply steady_bind steady_get
    intro s
    split <;> simp
  unfold lookUp
  split <;> first | exact hkey | simp

@[simp] lemma steady_lookUpNow (o : Object) : Steadies (lookUpNow o) := by
  cases o <;> simp [lookUpNow]

@[simp] lemma steady_lookUpNamed (o : Object) (name : String) : Steadies (lookUpNamed o name) := by
  cases o <;> simp [lookUpNamed]

@[simp] lemma steady_active (given : Object) : Steadies (active given) := by
  apply steady_bind steady_get
  intro s
  split <;> simp

lemma steady_no_tagger (o : Object) : Steadies (do
    match ← size? o with
    | none => throw .wrongType
    | some 2 => throw .absent
    | some _ => throw .wrongSize : Run (SpanTagger Object)) := by
  apply steady_bind (steady_size? o)
  intro n
  split <;> simp

@[simp] lemma steady_tagger (o : Object) : Steadies (tagger o) := by
  cases o with
  | tagger t => exact steady_pure t.value
  | _ => exact steady_no_tagger _

end Run

open Run

@[simp] lemma steady_spanParent (o : Object) : Steadies (spanParent o) := by
  cases o <;> simp [spanParent]

@[simp] lemma steady_setterInto (target : Object) (rule : Option SetterRule) :
    Steadies (setterInto target rule) := by
  cases rule <;> simp [setterInto]

@[simp] lemma steady_getterFrom (source : Object) (rule : Option GetterRule) :
    Steadies (getterFrom source rule) := by
  unfold getterFrom
  refine steady_bind (steady_pairs source) fun c => steady_bind steady_heap fun h => ?_
  split <;> simp

@[simp] lemma steady_deliver (target : Object) (sending : Sending Unit) :
    Steadies (deliver target sending) := by
  unfold deliver
  refine steady_bind steady_heap fun h => steady_bind (steady_pairs target) fun c => ?_
  refine steady_bind (steady_setHeap _) fun _ => ?_
  split <;> simp

@[simp] lemma steady_extracted (result : Except Fault (Extraction × Heap)) :
    Steadies (extracted result) := by
  simp [extracted]

@[simp] lemma steady_initialized (existing : Bool) (o : Object) :
    Steadies (initialized existing o) := by
  cases o <;> simp [initialized]

@[simp] lemma steady_decorate (s : Scheme) (o : Object) : Steadies (decorate s o) := by
  unfold decorate
  split
  · refine steady_bind steady_heap fun h => steady_bind (steady_setHeap _) fun _ => ?_
    split <;> simp
  · split <;> simp

lemma run_object (ref : Ref) (s : State) :
    (object ref).run.run s = (resolve s.registers ref, s) := by
  have h : (object ref).run.run s = (liftM (resolve s.registers ref) : Run Object).run.run s := rfl
  rw [h]
  cases resolve s.registers ref <;> rfl

lemma run_active (o : Object) (s : State) :
    (active o).run.run s = (match o.toOption <|> s.registration.resolver with
      | none => pure .nothing
      | some o => lookUpNow o : Run Object).run.run s := rfl

lemma run_setUp (fields : Option Datum) (delegate : Option Delegate) (configFile : Option String)
    (debug : Option Bool) (s : State) :
    ∃ args hold,
      let x := s.registration.init s.sources args hold (.resolver ⟨s.resolvers⟩)
      (setUp fields delegate configFile debug).run.run s =
        (liftM x.1 >>= initialized s.registration.scheme.isSome : Run Made).run.run
          { s with resolvers := s.resolvers + 1, fresh := s.fresh + 1, registration := x.2 } := by
  rcases delegate with _ | scheme | o
  · exact ⟨_, _, rfl⟩
  · exact ⟨_, _, rfl⟩
  · cases o <;> exact ⟨_, _, rfl⟩

def Command.IsSteady : Command → Prop
  | .enter _ _ _ | .exit _ | .resolver | .init _ _ _ _ | .reset | .register _ => False
  | _ => True

def Command.IsLocal : Command → Prop
  | .enter _ _ _ | .exit _ => False
  | _ => True

end TraceFields.Script
