import TraceFields.Proofs.Carriage
import TraceFields.Proofs.Lowering
import TraceFields.Access

namespace TraceFields

def stores (extensions : List Extension) : List StoreId :=
  extensions.filterMap fun
    | .store id => some id
    | _ => none

@[simp] lemma stores_append (es fs : List Extension) : stores (es ++ fs) = stores es ++ stores fs :=
  List.filterMap_append

@[simp] lemma stores_singleton (id : StoreId) : stores [.store id] = [id] := rfl

@[simp] lemma stores_map_store (ids : List StoreId) : stores (ids.map .store) = ids := by
  induction ids with
  | nil => rfl
  | cons id ids ih => exact congrArg (id :: ·) ih

lemma firstStore?_eq_head? (es : List Extension) : firstStore? es = (stores es).head? := by
  induction es with
  | nil => rfl
  | cons e es ih =>
    cases e with
    | store id => rfl
    | marker id => exact ih
    | other n => exact ih

lemma firstStore?_append (es fs : List Extension) :
    firstStore? (es ++ fs) = (firstStore? es).or (firstStore? fs) := by
  simp only [firstStore?_eq_head?, stores_append, List.head?_append]

lemma firstStore?_eq_none_iff {es : List Extension} : firstStore? es = none ↔ stores es = [] := by
  rw [firstStore?_eq_head?, List.head?_eq_none_iff]

namespace Extraction

lemma found_append (r : Extraction) (e : Extension) : (r.append e).found = r.found ++ [e] := by
  obtain ⟨_ | c, _, _⟩ := r <;> rfl

end Extraction

namespace TraceContext

lemma ensureStore_of_some {c : TraceContext} {id : StoreId} (h : c.store? = some id) (heap : Heap) :
    c.ensureStore heap = (c, heap) := by
  rw [ensureStore, h]

lemma ensureStore_of_none {c : TraceContext} (h : c.store? = none) (heap : Heap) :
    c.ensureStore heap = (c.append (.store (heap.newStore []).1), (heap.newStore []).2) := by
  rw [ensureStore, h]

lemma ensureStore_store? (c : TraceContext) (heap : Heap) :
    (c.ensureStore heap).1.store? = some (c.store?.getD (heap.newStore []).1) := by
  cases h : c.store? with
  | some id => rw [ensureStore_of_some h, h, Option.getD_some]
  | none =>
    rw [ensureStore_of_none h, Option.getD_none]
    change firstStore? (c.extensions ++ [_]) = _
    rw [firstStore?_append, show firstStore? c.extensions = none from h]
    rfl

lemma stores_ensureStore (c : TraceContext) (heap : Heap) :
    stores (c.ensureStore heap).1.extensions =
      if c.store? = none then [(heap.newStore []).1] else stores c.extensions := by
  cases h : c.store? with
  | some id => rw [ensureStore_of_some h, if_neg (by simp)]
  | none =>
    rw [ensureStore_of_none h, if_pos rfl]
    change stores (c.extensions ++ [_]) = _
    rw [stores_append, firstStore?_eq_none_iff.1 h]
    rfl

end TraceContext

def Heap.valueOf (h : Heap) (c : TraceContext) (name : String) : Option String :=
  (Entries.at? (h.fieldsOf c.store?) (some name)).join

lemma getField_eq (heap : Heap) (c : TraceContext) (name : String) :
    getField heap (some c) (some name) = .ok (heap.valueOf c (canonicalName name)) := by
  rw [getField, Heap.valueOf]
  cases c.store? <;> rfl

lemma setField_eq (heap : Heap) (c : TraceContext) (name value : String) :
    setField heap (some c) (some name) (some value) = .ok (match c.store? with
      | some id => heap.set id (some (canonicalName name)) (some value)
      | none => heap) := by
  rw [setField]
  cases h : c.store? <;> rfl

lemma fields_setField {heap heap' : Heap} {c : TraceContext} {name value : Option String}
    (h : setField heap (some c) name value = .ok heap') {id : StoreId} (hid : c.store? ≠ some id) :
    heap'.fields id = heap.fields id := by
  cases name with
  | none => cases h
  | some name =>
    cases value with
    | none => cases h
    | some value =>
      rw [setField_eq] at h
      cases hc : c.store? with
      | none =>
        rw [hc] at h
        cases h
        rfl
      | some other =>
        rw [hc] at h
        cases h
        exact Heap.fields_set_ne _ (fun he => hid (hc.trans (congrArg some he.symm))) _ _

lemma getField_setField {heap heap' : Heap} {c d : TraceContext} {name value : Option String}
    (h : setField heap (some c) name value = .ok heap')
    (hother : c.store? = none ∨ c.store? ≠ d.store?) (n : Option String) :
    getField heap' (some d) n = getField heap (some d) n := by
  cases n with
  | none => rfl
  | some n =>
    rw [getField, getField]
    cases hd : d.store? with
    | none => rfl
    | some id =>
      have hc : c.store? ≠ some id := by
        rcases hother with hnone | hne
        · exact fun hc => Option.some_ne_none id (hc.symm.trans hnone)
        · exact fun hc => hne (hc.trans hd.symm)
      simp only [Option.bind_some, Heap.get?, fields_setField h hc]

namespace Heap

lemma Holds.set {h : Heap} {id : StoreId} (hid : h.Holds id) (other : StoreId)
    (name value : Option String) : (h.set other name value).Holds id := by
  simpa [Holds, Heap.set] using hid

lemma Holds.newStore {h : Heap} {id : StoreId} (hid : h.Holds id) (fields : Fields) :
    (h.newStore fields).2.Holds id := by
  have : id.index < h.stores.length := hid
  simp only [Holds, Heap.newStore, List.length_append, List.length_singleton]
  omega

def Keeps (h h' : Heap) : Prop := ∀ id, h.Holds id → h'.Holds id

namespace Keeps

variable {h h₁ h₂ : Heap}

lemma of_stores (hs : h₁.stores = h.stores) : h.Keeps h₁ := by
  intro id hid
  rw [Holds, hs]
  exact hid

lemma trans (hk : h.Keeps h₁) (hk₁ : h₁.Keeps h₂) : h.Keeps h₂ := fun id hid => hk₁ id (hk id hid)

lemma newStore (h : Heap) (fields : Fields) : h.Keeps (h.newStore fields).2 :=
  fun _ hid => hid.newStore fields

lemma not_holds (hk : h.Keeps h₁) {id : StoreId} (hid : ¬ h₁.Holds id) : ¬ h.Holds id :=
  fun hheld => hid (hk id hheld)

end Keeps

lemma fields_newStore_of_ne {h : Heap} {id : StoreId} {fields : Fields}
    (hne : (h.newStore fields).1 ≠ id) : (h.newStore fields).2.fields id = h.fields id := by
  by_cases hid : h.Holds id
  · exact fields_newStore hid fields
  · have hlt : h.stores.length < id.index := by
      have hle : h.stores.length ≤ id.index := Nat.le_of_not_lt hid
      have hn : h.stores.length ≠ id.index := fun he => hne (congrArg StoreId.mk he)
      omega
    simp only [Heap.fields, Heap.newStore]
    rw [List.getElem?_eq_none (by simp; omega), List.getElem?_eq_none (by omega)]

end Heap

end TraceFields
