import Mathlib.Data.List.Nodup
import Mathlib.Data.Option.Basic
import TraceFields.Proofs.Delegates

namespace TraceFields

structure Write where
  store : StoreId
  name : String
  value : String

def lastWrite (writes : List Write) (id : StoreId) (name : String) : Option String :=
  (writes.reverse.find? fun e => e.store = id ∧
    canonicalName e.name = canonicalName name).map Write.value

def readWrites (get : Getter) (key : KeyFactory) : List StoreId → List (List String) → List Write
  | id :: ids, names :: layers =>
    (Propagation.readFields get key names).map (fun e => ⟨id, e.1, e.2⟩) ++
      readWrites get key ids layers
  | _, _ => []

lemma lastWrite_append (ws vs : List Write) (id : StoreId) (name : String) :
    lastWrite (ws ++ vs) id name = (lastWrite vs id name).or (lastWrite ws id name) := by
  rw [lastWrite, List.reverse_append, List.find?_append, Option.map_or]
  rfl

structure KeptNames (names : List String) : Prop where
  distinct : names.Nodup
  canonical : ∀ name ∈ names, canonicalName name = name

lemma keptNames_canonicalNames (names : List String) : KeptNames (canonicalNames names) :=
  ⟨nodup_canonicalNames names, fun _ h => canonicalName_of_mem h⟩

lemma KeptNames.sublist {names others : List String} (h : KeptNames names)
    (hs : others.Sublist names) : KeptNames others :=
  ⟨h.distinct.sublist hs, fun name hn => h.canonical name (hs.subset hn)⟩

lemma lastWrite_map {fields : Entries String String} (hf : KeptNames (Entries.keys fields))
    (id other : StoreId) (name : String) :
    lastWrite (fields.map fun e => ⟨id, e.1, e.2⟩) other name =
      if id = other then Entries.at? fields (canonicalName name) else none := by
  have hmem : ∀ e ∈ fields.reverse, canonicalName e.1 = e.1 := fun e he =>
    hf.canonical _ (List.mem_map_of_mem (List.mem_reverse.1 he))
  rw [← Entries.at?_reverse hf.distinct, lastWrite, ← List.map_reverse]
  generalize fields.reverse = es at hmem ⊢
  induction es with
  | nil => simp
  | cons e es ih =>
    obtain ⟨k, v⟩ := e
    have hk : canonicalName k = k := hmem (k, v) (by simp)
    have hh := ih fun e he => hmem e (by simp [he])
    by_cases hid : id = other
    · by_cases hn : k = canonicalName name
      · simp [hid, hn, canonicalName_canonicalName, Entries.at?]
      · simpa [hid, hk, hn, Entries.at?] using hh
    · simp [hid]

lemma keys_of_collect {get : Getter} {key : KeyFactory} {names : List String}
    {fields : Entries String String} (h : collect get (.ofNames key names) = .ok fields) :
    (Entries.keys fields).Sublist names := by
  induction names generalizing fields with
  | nil =>
    cases h
    exact List.Sublist.refl _
  | cons n names ih =>
    obtain ⟨v, -, h⟩ := bind_eq_ok.1 h
    obtain ⟨others, ho, h⟩ := bind_eq_ok.1 h
    cases v with
    | none =>
      cases h
      exact (ih ho).cons n
    | some v =>
      cases h
      exact (ih ho).cons_cons n

lemma keptNames_readFields (get : Getter) (key : KeyFactory) {names : List String}
    (h : KeptNames names) : KeptNames (Entries.keys (Propagation.readFields get key names)) := by
  rw [Propagation.readFields]
  split
  · next hf => exact h.sublist (keys_of_collect hf)
  · exact ⟨List.nodup_nil, fun _ hn => by cases hn⟩

lemma lastWrite_eq_none {ws : List Write} {id : StoreId} (h : ∀ e ∈ ws, e.store ≠ id)
    (name : String) : lastWrite ws id name = none := by
  rw [lastWrite, Option.map_eq_none_iff, List.find?_eq_none]
  intro e he hp
  exact h e (List.mem_reverse.1 he) (of_decide_eq_true hp).1

structure Heap.Changes (heap heap' : Heap) (id : StoreId) (fields : Fields) : Prop where
  holds : heap'.Holds id
  held {other : StoreId} : heap.Holds other → heap'.Holds other
  fields_eq : heap'.fields id = fields
  fields_ne {other : StoreId} : id ≠ other → heap'.fields other = heap.fields other

lemma Heap.changes_newStore (heap : Heap) (fields : Fields) :
    heap.Changes (heap.newStore fields).2 (heap.newStore fields).1 fields :=
  ⟨heap.holds_newStore _, fun h => h.newStore _, Heap.fields_newStore_self _ _,
    Heap.fields_newStore_of_ne⟩

lemma Heap.changes_set {heap : Heap} {id : StoreId} (h : heap.Holds id)
    (name value : Option String) :
    heap.Changes (heap.set id name value) id ((heap.fields id).put name value) :=
  ⟨h.set _ _ _, fun h => h.set _ _ _, Heap.fields_set_self h _ _, fun hne =>
    Heap.fields_set_ne _ (Ne.symm hne) _ _⟩

/-- The writes account for the heap: each store holds each name once, in the form in which it is
looked up, with the value written last. -/
structure Recorded (heap : Heap) (writes : List Write) : Prop where
  held : ∀ e ∈ writes, heap.Holds e.store
  distinct : ∀ id, (Entries.keys (heap.fields id)).Nodup
  canonical : ∀ id, ∀ k ∈ Entries.keys (heap.fields id), ∃ name, k = some name ∧
    canonicalName name = name
  value : ∀ id name, heap.get? id (some (canonicalName name)) = lastWrite writes id name

namespace Recorded

variable {heap : Heap} {writes : List Write}

lemma empty : Recorded {} [] := by
  refine ⟨fun e he => ?_, fun id => List.nodup_nil, fun id k hk => ?_, fun id name => rfl⟩
  · cases he
  · cases hk

lemma congr {heap' : Heap} (h : Recorded heap writes) (he : heap'.stores = heap.stores) :
    Recorded heap' writes := by
  obtain ⟨ss, ms⟩ := heap
  obtain ⟨ss', ms'⟩ := heap'
  obtain rfl : ss' = ss := he
  exact ⟨h.held, h.distinct, h.canonical, h.value⟩

lemma lastWrite_of_not_holds (h : Recorded heap writes) {id : StoreId} (hid : ¬ heap.Holds id)
    (name : String) : lastWrite writes id name = none := by
  apply lastWrite_eq_none
  rintro e he rfl
  exact hid (h.held e he)

lemma change (h : Recorded heap writes) {heap' : Heap} {id : StoreId} {fields : Fields}
    {new : List Write} (hc : heap.Changes heap' id fields) (hnew : ∀ e ∈ new, e.store = id)
    (hdistinct : (Entries.keys fields).Nodup)
    (hcanonical : ∀ k ∈ Entries.keys fields, ∃ name, k = some name ∧ canonicalName name = name)
    (hvalue : ∀ name, (Entries.at? fields (some (canonicalName name))).join =
      (lastWrite new id name).or (lastWrite writes id name)) : Recorded heap' (writes ++ new) := by
  refine ⟨?_, ?_, ?_, ?_⟩
  · intro e he
    rcases List.mem_append.1 he with he | he
    · exact hc.held (h.held e he)
    · rw [hnew e he]
      exact hc.holds
  · intro other
    rcases eq_or_ne id other with rfl | hne
    · rw [hc.fields_eq]
      exact hdistinct
    · rw [hc.fields_ne hne]
      exact h.distinct other
  · intro other k hk
    rcases eq_or_ne id other with rfl | hne
    · rw [hc.fields_eq] at hk
      exact hcanonical k hk
    · rw [hc.fields_ne hne] at hk
      exact h.canonical other k hk
  · intro other name
    rw [lastWrite_append, Heap.get?]
    rcases eq_or_ne id other with rfl | hne
    · rw [hc.fields_eq]
      exact hvalue name
    · -- None of the new writes is into another store, so there the last write stays what it was.
      have hnone : lastWrite new other name = none := by
        apply lastWrite_eq_none
        intro e he
        rw [hnew e he]
        exact hne
      rw [hc.fields_ne hne, hnone, Option.none_or]
      exact h.value other name

lemma newStore (h : Recorded heap writes) {fields : Entries String String}
    (hf : KeptNames (Entries.keys fields)) :
    Recorded (heap.newStore (.ofTexts fields)).2
      (writes ++ fields.map fun e => ⟨(heap.newStore (.ofTexts fields)).1, e.1, e.2⟩) := by
  apply h.change (heap.changes_newStore _)
  · intro e he
    obtain ⟨_, -, rfl⟩ := List.mem_map.1 he
    rfl
  · rw [Fields.keys_ofTexts]
    exact hf.distinct.map (Option.some_injective _)
  · intro k hk
    rw [Fields.keys_ofTexts] at hk
    obtain ⟨name, hn, rfl⟩ := List.mem_map.1 hk
    exact ⟨name, rfl, hf.canonical name hn⟩
  · intro name
    have hnone := h.lastWrite_of_not_holds (heap.not_holds_newStore (.ofTexts fields)) name
    rw [lastWrite_map hf, if_pos rfl, hnone, Option.or_none, Fields.at?_ofTexts]
    cases Entries.at? fields (canonicalName name) <;> rfl

lemma newStore_nil (h : Recorded heap writes) : Recorded (heap.newStore []).2 writes := by
  have hkept : KeptNames (Entries.keys ([] : Entries String String)) :=
    ⟨List.nodup_nil, fun _ hn => by cases hn⟩
  have hh := h.newStore hkept
  rw [List.map_nil, List.append_nil] at hh
  exact hh

lemma withStores (h : Recorded heap writes) (get : Getter) (key : KeyFactory)
    {layers : List (List String)} (hl : ∀ names ∈ layers, KeptNames names) :
    Recorded (heap.withStores (layers.map fun names => .ofTexts (Propagation.readFields get key names)))
      (writes ++ readWrites get key (heap.nextStores layers.length) layers) := by
  induction layers generalizing heap writes with
  | nil => simpa [Heap.withStores, readWrites, Heap.nextStores] using h
  | cons names layers ih =>
    have hnew := h.newStore (keptNames_readFields get key (hl names (by simp)))
    have hh := ih hnew fun ns hns => hl ns (by simp [hns])
    rw [List.map_cons, Heap.withStores_cons, List.length_cons,
      Heap.nextStores_succ _ _ (.ofTexts (Propagation.readFields get key names)), readWrites,
      ← List.append_assoc]
    exact hh

lemma set (h : Recorded heap writes) {id : StoreId} (hid : heap.Holds id) (name value : String) :
    Recorded (heap.set id (some (canonicalName name)) (some value))
      (writes ++ [⟨id, name, value⟩]) := by
  apply h.change (Heap.changes_set hid _ _)
  · intro e he
    rw [List.mem_singleton.1 he]
  · exact Entries.nodup_keys_put (h.distinct id) _ _
  · intro k hk
    rw [Entries.keys_put] at hk
    split at hk
    · exact h.canonical id k hk
    · rcases List.mem_append.1 hk with hk | hk
      · exact h.canonical id k hk
      · exact ⟨_, List.mem_singleton.1 hk, canonicalName_canonicalName name⟩
  · intro n
    have hlast : lastWrite [⟨id, name, value⟩] id n =
        if canonicalName name = canonicalName n then some value else none := by
      by_cases hn : canonicalName name = canonicalName n <;> simp [lastWrite, hn]
    rw [hlast, ← h.value, Heap.get?, Entries.at?_put]
    by_cases hn : canonicalName name = canonicalName n <;> simp [hn]

end Recorded

end TraceFields
