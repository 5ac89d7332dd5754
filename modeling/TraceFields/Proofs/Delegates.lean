import TraceFields.Proofs.Layers

namespace TraceFields

structure Propagation.Plain (p : Propagation) : Prop where
  inject (c : TraceContext) (d : Delivery) :
    ((p.inject Carrier.assign c).run.run d).2.heap.stores = d.heap.stores
  extract {get : Getter} {heap heap' : Heap} {r : Extraction} :
    p.extract get heap = .ok (r, heap') → stores r.found = [] ∧ heap'.stores = heap.stores

structure Scheme.Plain (s : Scheme) : Prop where
  create {key : KeyFactory} {p : Propagation} : s.create key = .ok p → p.Plain
  decorate (c : TraceContext) (heap : Heap) :
    stores (s.decorate c heap).1.extensions = stores c.extensions ∧
      (s.decorate c heap).2.stores = heap.stores

namespace Propagation

lemma plain_identity (table : KeyTable) : (identity table).Plain where
  inject c d := by
    simp only [identity]
    cases Identity.headers c with
    | error fault => rfl
    | ok hs =>
      simp only
      rw [sendAll_assign]
  extract := by
    intro get heap heap' r h
    obtain ⟨hs, -, h⟩ := bind_eq_ok.1 h
    cases hc : Identity.ofHeaders? hs with
    | none =>
      rw [hc] at h
      cases h
      exact ⟨rfl, rfl⟩
    | some c =>
      rw [hc] at h
      cases h
      refine ⟨?_, rfl⟩
      change stores c.extensions = []
      rw [Identity.extensions_ofHeaders? hc]
      rfl

lemma plain_sampling (key : Key) : (sampling key).Plain where
  inject c d := rfl
  extract := by
    intro get heap heap' r h
    obtain ⟨v, -, h⟩ := bind_eq_ok.1 h
    cases v <;> cases h <;> exact ⟨rfl, rfl⟩

end Propagation

namespace Scheme

lemma plain_identity : identity.Plain where
  create h := by
    cases h
    exact Propagation.plain_identity _
  decorate _ _ := ⟨rfl, rfl⟩

end Scheme

def Scheme.Decorates (s : Scheme) : Prop :=
  ∀ c heap,
    (stores (s.decorate c heap).1.extensions = stores c.extensions ∧
      (s.decorate c heap).2.stores = heap.stores) ∨
    (stores (s.decorate c heap).1.extensions = [⟨heap.stores.length⟩] ∧
      (s.decorate c heap).2.stores = heap.stores ++ [[]])

lemma Scheme.Decorates.fields {s : Scheme} (hs : s.Decorates) (names : List String) :
    (FieldScheme.scheme ⟨s, names⟩).Decorates := by
  intro c heap
  change (stores ((s.decorate c heap).1.ensureStore (s.decorate c heap).2).1.extensions = _ ∧
      ((s.decorate c heap).1.ensureStore (s.decorate c heap).2).2.stores = _) ∨
    (stores ((s.decorate c heap).1.ensureStore (s.decorate c heap).2).1.extensions = _ ∧
      ((s.decorate c heap).1.ensureStore (s.decorate c heap).2).2.stores = _)
  cases h : (s.decorate c heap).1.store? with
  | some id =>
    rw [TraceContext.ensureStore_of_some h]
    exact hs c heap
  | none =>
    have hnone : stores (s.decorate c heap).1.extensions = [] := firstStore?_eq_none_iff.1 h
    rcases hs c heap with ⟨-, hheap⟩ | ⟨hnew, -⟩
    · refine Or.inr ⟨?_, ?_⟩
      · rw [TraceContext.stores_ensureStore, if_pos h, Heap.newStore, hheap]
      · rw [TraceContext.ensureStore_of_none h, Heap.newStore, hheap]
    · rw [hnone] at hnew
      cases hnew

lemma FieldScheme.decorates_stacked {base : Scheme} (hb : base.Plain)
    (layers : List (List String)) : (stacked base layers).Decorates := by
  -- A scheme with fields is not plain any more: the induction is on what decorating does.
  have hbase : base.Decorates := fun c heap => Or.inl (hb.decorate c heap)
  clear hb
  induction layers generalizing base with
  | nil => exact hbase
  | cons names layers ih => exact ih (hbase.fields names)

namespace Propagation

variable {p : Propagation}

lemma stores_inject_stacked (hp : p.Plain) (key : KeyFactory) (layers : List (List String))
    (c : TraceContext) (d : Delivery) :
    (((p.stacked key layers).inject Carrier.assign c).run.run d).2.heap.stores = d.heap.stores := by
  have hinject := hp.inject
  clear hp
  induction layers generalizing p with
  | nil => exact hinject c d
  | cons names layers ih =>
    refine ih fun c d => ?_
    have hh := injectInto_withFields (.ofNames key names) p c d.heap d.carrier
    rw [injectInto, injectInto] at hh
    change (((withFields (.ofNames key names) p).inject Carrier.assign c).run.run
      ⟨d.heap, d.carrier⟩).2.heap.stores = _
    rw [hh, hinject]

def readFields (get : Getter) (key : KeyFactory) (names : List String) : Entries String String :=
  match collect get (.ofNames key names) with
  | .ok fields => fields
  | .error _ => []

lemma of_extract_stacked {key : KeyFactory} {layers : List (List String)} {get : Getter}
    {heap heap' : Heap} {r : Extraction}
    (h : (p.stacked key layers).extract get heap = .ok (r, heap')) :
    ∃ r₀ heap₀, p.extract get heap = .ok (r₀, heap₀) ∧
      r = r₀.appendAll ((heap₀.nextStores layers.length).map .store) ∧
      heap' = heap₀.withStores (layers.map fun names => .ofTexts (readFields get key names)) := by
  induction layers generalizing p with
  | nil => exact ⟨r, heap', h, rfl, by simp [Heap.withStores]⟩
  | cons names layers ih =>
    obtain ⟨r₁, heap₁, h₁, rfl, rfl⟩ := ih h
    obtain ⟨r₀, heap₀, h₀, fields, hfields, rfl, rfl⟩ := extract_withFields_eq_ok_iff.1 h₁
    refine ⟨r₀, heap₀, h₀, ?_, ?_⟩
    · rw [List.length_cons, Heap.nextStores_succ _ _ (.ofTexts fields)]
      rfl
    · rw [List.map_cons, Heap.withStores_cons, readFields, hfields]

end Propagation

end TraceFields
