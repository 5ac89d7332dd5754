import TraceFields.Proofs.Delegates
import TraceFields.Script.Perform

/-!
Decorating contexts with fields in any number of layers.
-/

namespace TraceFields

structure Scheme.Appends (s : Scheme) : Prop where
  context (c : TraceContext) (heap : Heap) : ∃ es, stores es = [] ∧
    (s.decorate c heap).1 = c.withExtensions (c.extensions ++ es)
  heap (c : TraceContext) (heap : Heap) : (s.decorate c heap).2.stores = heap.stores

namespace Scheme

lemma appends_of_same {s : Scheme} (h : ∀ c heap, s.decorate c heap = (c, heap)) : s.Appends where
  context c heap := ⟨[], rfl, by rw [h, List.append_nil]; rfl⟩
  heap c heap := by rw [h]

lemma appends_tagging : tagging.Appends where
  context _ _ := ⟨[.marker _], rfl, rfl⟩
  heap _ _ := rfl

end Scheme

structure Decorated (c : TraceContext) (heap : Heap) (d : TraceContext) (heap' : Heap) : Prop where
  count : (stores d.extensions).length = max (stores c.extensions).length 1
  kept {id : StoreId} : c.store? = some id → d.store? = some id
  added : c.store? = none → ∃ id, d.store? = some id ∧ heap'.Holds id ∧ heap'.fields id = [] ∧
    ∀ other : TraceContext, (∀ i ∈ stores other.extensions, heap.Holds i) →
      id ∉ stores other.extensions
  same : d.withExtensions [] = c.withExtensions []
  leading : c.extensions <+: d.extensions
  fields {id : StoreId} : heap.Holds id → heap'.Holds id ∧ heap'.fields id = heap.fields id

lemma TraceContext.ensureStore_ensureStore (c : TraceContext) (heap : Heap) :
    (c.ensureStore heap).1.ensureStore (c.ensureStore heap).2 = c.ensureStore heap :=
  ensureStore_of_some (ensureStore_store? c heap) _

lemma TraceContext.decorated_ensureStore (c : TraceContext) (heap : Heap) :
    Decorated c heap (c.ensureStore heap).1 (c.ensureStore heap).2 := by
  cases h : c.store? with
  | some id =>
    have hpos : 1 ≤ (stores c.extensions).length := by
      rw [Nat.one_le_iff_ne_zero, Ne, List.length_eq_zero_iff, ← firstStore?_eq_none_iff]
      exact fun hnone => Option.some_ne_none id (h.symm.trans hnone)
    rw [ensureStore_of_some h]
    refine ⟨(Nat.max_eq_left hpos).symm, fun hid => hid, fun hnone => ?_, rfl, List.prefix_rfl,
      fun hid => ⟨hid, rfl⟩⟩
    rw [h] at hnone
    cases hnone
  | none =>
    have hstores : stores c.extensions = [] := firstStore?_eq_none_iff.1 h
    have hfirst := ensureStore_store? c heap
    rw [h, Option.getD_none] at hfirst
    rw [ensureStore_of_none h] at hfirst ⊢
    refine ⟨?_, fun hsome => ?_, fun _ => ?_, rfl, List.prefix_append _ _, fun hid => ?_⟩
    · change (stores (c.extensions ++ [_])).length = _
      rw [stores_append, hstores]
      rfl
    · rw [h] at hsome
      cases hsome
    · refine ⟨_, hfirst, heap.holds_newStore [], Heap.fields_newStore_self _ _, ?_⟩
      exact fun other hother hmem => heap.not_holds_newStore [] (hother _ hmem)
    · exact ⟨hid.newStore [], Heap.fields_newStore hid []⟩

lemma Decorated.of_appended {c c' d : TraceContext} {heap heap₁ heap' : Heap}
    {es : List Extension} (hes : stores es = [])
    (hc : c' = c.withExtensions (c.extensions ++ es)) (hheap : heap₁.stores = heap.stores)
    (h : Decorated c' heap₁ d heap') : Decorated c heap d heap' := by
  have hstores : stores c'.extensions = stores c.extensions := by
    rw [hc]
    change stores (c.extensions ++ es) = _
    rw [stores_append, hes, List.append_nil]
  have hfirst : c'.store? = c.store? := by
    rw [TraceContext.store?, TraceContext.store?, firstStore?_eq_head?, firstStore?_eq_head?,
      hstores]
  have hkeeps : heap.Keeps heap₁ := .of_stores hheap
  have hfields (id : StoreId) : heap₁.fields id = heap.fields id := by
    rw [Heap.fields, Heap.fields, hheap]
  refine ⟨?_, fun hid => h.kept (hfirst.trans hid), fun hnone => ?_, ?_, ?_, fun {id} hid => ?_⟩
  · rw [h.count, hstores]
  · obtain ⟨id, hid, hheld, hempty, hnew⟩ := h.added (hfirst.trans hnone)
    exact ⟨id, hid, hheld, hempty, fun other ho => hnew other fun i hi => hkeeps i (ho i hi)⟩
  · rw [h.same, hc]
    rfl
  · refine List.IsPrefix.trans ?_ h.leading
    rw [hc]
    exact List.prefix_append _ _
  · rw [← hfields id]
    exact h.fields (hkeeps id hid)

lemma FieldScheme.decorate_stacked (base : Scheme) {layers : List (List String)} (h : layers ≠ [])
    (c : TraceContext) (heap : Heap) :
    (stacked base layers).decorate c heap =
      (base.decorate c heap).1.ensureStore (base.decorate c heap).2 := by
  induction layers generalizing base with
  | nil => exact absurd rfl h
  | cons names layers ih =>
    cases layers with
    | nil => rfl
    | cons others layers =>
      refine (ih (scheme ⟨base, names⟩) (List.cons_ne_nil _ _)).trans ?_
      exact TraceContext.ensureStore_ensureStore _ _

namespace Script

open Run

lemma run_decorate_same {s : Scheme} {c : Held TraceContext} {t : State}
    (h : s.decorate c.value t.heap = (c.value, t.heap)) :
    (decorate s (.context c)).run.run t =
      ((fun a => ⟨some (.context c), .decorated true a⟩) <$> view (.context c)).run.run t := by
  have hrun : (decorate s (.context c)).run.run t =
      (setHeap (s.decorate c.value t.heap).2 >>= fun _ =>
        if (s.decorate c.value t.heap).1 = c.value then
          view (.context c) >>= fun a => pure ⟨some (.context c), .decorated true a⟩
        else newContext (s.decorate c.value t.heap).1 >>= fun o =>
          view o >>= fun a => pure ⟨some o, .decorated false a⟩ : Run Made).run.run t := rfl
  rw [hrun, h, if_pos rfl, ← bind_pure_comp]
  rfl

end Script

theorem decorate_attaches_one_store {base : Scheme} (hb : base.Appends)
    {layers : List (List String)} (hlayers : layers ≠ []) (hnames : ∀ names ∈ layers, names ≠ []) :
    ∃ s, FieldScheme.layered base layers = .ok s ∧ ∀ (c : TraceContext) (heap : Heap),
      let d := (s.decorate c heap).1
      let heap' := (s.decorate c heap).2
      Decorated c heap d heap' ∧
      ((∀ c heap, base.decorate c heap = (c, heap)) → s.decorate d heap' = (d, heap') ∧
        ∀ (id : Nat) (t : Script.State), t.heap = heap' →
          (Script.decorate s (.context ⟨id, d⟩)).run.run t =
            ((fun a => ⟨some (.context ⟨id, d⟩), .decorated true a⟩) <$>
              Script.Run.view (.context ⟨id, d⟩)).run.run t) := by
  have hstacked : layers.map canonicalNames ≠ [] := by simpa using hlayers
  refine ⟨_, FieldScheme.layered_eq hnames base, fun c heap => ?_⟩
  have hdecorate := FieldScheme.decorate_stacked base hstacked
  constructor
  · obtain ⟨es, hes, hc⟩ := hb.context c heap
    rw [hdecorate c heap]
    exact .of_appended hes hc (hb.heap c heap) (TraceContext.decorated_ensureStore _ _)
  · intro hsame
    have hagain : (FieldScheme.stacked base (layers.map canonicalNames)).decorate
        (c.ensureStore heap).1 (c.ensureStore heap).2 = c.ensureStore heap := by
      rw [hdecorate, hsame]
      exact TraceContext.ensureStore_ensureStore c heap
    rw [hdecorate c heap, hsame]
    refine ⟨hagain, fun id t ht => Script.run_decorate_same ?_⟩
    rw [ht]
    exact hagain

theorem decorate_attaches_one_store_two_layers :
    let layers := [["X-A"], ["x-b", "x-a"]]
    let plain : TraceContext :=
      { traceId := some "7b", spanId := some "1", extensions := [.other 0] }
    let full : TraceContext := plain.withExtensions [.store ⟨1⟩, .marker ⟨0⟩, .store ⟨0⟩]
    let heap : Heap := { stores := [[], [(some "x-a", some "1")]], markers := ["m"] }
    ∃ tagging same, FieldScheme.layered .tagging layers = .ok tagging ∧
      FieldScheme.layered .identity layers = .ok same ∧
      (tagging.decorate plain heap).1.extensions = [.other 0, .marker ⟨1⟩, .store ⟨2⟩] ∧
      Decorated plain heap (tagging.decorate plain heap).1 (tagging.decorate plain heap).2 ∧
      (tagging.decorate full heap).1.store? = some ⟨1⟩ ∧
      (stores (tagging.decorate full heap).1.extensions).length = 2 ∧
      same.decorate (same.decorate plain heap).1 (same.decorate plain heap).2 =
        same.decorate plain heap := by
  intro layers plain full heap
  have hlayers : layers ≠ [] := by decide
  have hnames : ∀ names ∈ layers, names ≠ [] := by decide
  have hidentity : Scheme.identity.Appends := Scheme.appends_of_same fun _ _ => rfl
  obtain ⟨tagging, htagging, hall⟩ :=
    decorate_attaches_one_store Scheme.appends_tagging hlayers hnames
  obtain ⟨same, hsame, hagain⟩ := decorate_attaches_one_store hidentity hlayers hnames
  obtain ⟨hfull, -⟩ := hall full heap
  have hextensions : (tagging.decorate plain heap).1.extensions =
      [.other 0, .marker ⟨1⟩, .store ⟨2⟩] := by
    obtain rfl := FieldScheme.eq_stacked_of_layered htagging
    rfl
  exact ⟨tagging, same, htagging, hsame, hextensions, (hall plain heap).1, hfull.kept rfl,
    hfull.count, ((hagain plain heap).2 fun _ _ => rfl).1⟩

end TraceFields
