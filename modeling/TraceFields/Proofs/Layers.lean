import TraceFields.Proofs.Stores

/-!
Each layer of fields adds a store of its own to what is extracted, and only the fields of the
innermost layer are found in it.
-/

namespace TraceFields

namespace FieldScheme

def layered (base : Scheme) : List (List String) → Except Fault Scheme
  | [] => .ok base
  | names :: layers => do
    let f ← ofCollection (some base) (.list (names.map .text))
    layered f.scheme layers

def stacked (base : Scheme) (layers : List (List String)) : Scheme :=
  layers.foldl (fun delegate names => scheme { delegate, names }) base

lemma layered_eq {layers : List (List String)} (h : ∀ names ∈ layers, names ≠ []) (base : Scheme) :
    layered base layers = .ok (stacked base (layers.map canonicalNames)) := by
  induction layers generalizing base with
  | nil => rfl
  | cons names layers ih =>
    rw [layered, ofCollection_texts base (h names (by simp))]
    exact ih (fun ns hns => h ns (by simp [hns])) _

end FieldScheme

namespace Propagation

def stacked (p : Propagation) (key : KeyFactory) (layers : List (List String)) : Propagation :=
  layers.foldl (fun inner names => withFields (.ofNames key names) inner) p

end Propagation

lemma FieldScheme.create_stacked {base : Scheme} {key : KeyFactory} {p : Propagation}
    (h : base.create key = .ok p) (layers : List (List String)) :
    (stacked base layers).create key = .ok (p.stacked key layers) := by
  induction layers generalizing base p with
  | nil => exact h
  | cons names layers ih =>
    apply ih
    simp only [scheme, h, bind, Except.bind]
    rfl

lemma FieldScheme.create_layered {base : Scheme} {key : KeyFactory} {p : Propagation}
    (hp : base.create key = .ok p) {layers : List (List String)}
    (h : ∀ names ∈ layers, names ≠ []) :
    (FieldScheme.layered base layers >>= fun s => s.create key) =
      .ok (p.stacked key (layers.map canonicalNames)) :=
  bind_eq_ok.2 ⟨_, FieldScheme.layered_eq h base, FieldScheme.create_stacked hp _⟩

lemma FieldScheme.eq_stacked_of_layered {base s : Scheme} {layers : List (List String)}
    (h : layered base layers = .ok s) : s = stacked base (layers.map canonicalNames) := by
  induction layers generalizing base with
  | nil =>
    cases h
    rfl
  | cons names layers ih =>
    obtain ⟨f, hf, h⟩ := bind_eq_ok.1 h
    by_cases hn : names = []
    · subst hn
      cases hf
    · rw [ofCollection_texts _ hn] at hf
      cases hf
      exact ih h

lemma FieldScheme.of_create_stacked {base : Scheme} {key : KeyFactory} {layers : List (List String)}
    {p : Propagation} (h : (stacked base layers).create key = .ok p) :
    ∃ p₀, base.create key = .ok p₀ ∧ p = p₀.stacked key layers := by
  induction layers generalizing base with
  | nil => exact ⟨p, h, rfl⟩
  | cons names layers ih =>
    obtain ⟨p₁, h₁, rfl⟩ := ih h
    obtain ⟨p₀, h₀, h₁⟩ := bind_eq_ok.1 h₁
    cases h₁
    exact ⟨p₀, h₀, rfl⟩

def Heap.nextStores (h : Heap) (n : Nat) : List StoreId :=
  (List.range' h.stores.length n).map StoreId.mk

def Heap.withStores (h : Heap) (contents : List Fields) : Heap :=
  { h with stores := h.stores ++ contents }

lemma Heap.nextStores_succ (h : Heap) (n : Nat) (fields : Fields) :
    h.nextStores (n + 1) = (h.newStore fields).1 :: (h.newStore fields).2.nextStores n := by
  simp [nextStores, List.range'_succ, newStore]

lemma Heap.withStores_cons (h : Heap) (fields : Fields) (contents : List Fields) :
    h.withStores (fields :: contents) = (h.newStore fields).2.withStores contents := by
  simp [withStores, newStore]

lemma Heap.holds_of_mem_nextStores {h : Heap} {contents : List Fields} {id : StoreId}
    (hid : id ∈ h.nextStores contents.length) : (h.withStores contents).Holds id := by
  obtain ⟨n, hn, rfl⟩ := List.mem_map.1 hid
  have hlt := (List.mem_range'_1.1 hn).2
  simpa [Holds, withStores] using hlt

lemma Heap.Holds.withStores {h : Heap} {id : StoreId} (hid : h.Holds id) (contents : List Fields) :
    (h.withStores contents).Holds id := by
  have hlt : id.index < h.stores.length := hid
  simp only [Holds, Heap.withStores, List.length_append]
  omega

namespace Extraction

def appendAll (r : Extraction) (es : List Extension) : Extraction := es.foldl append r

lemma found_appendAll (r : Extraction) (es : List Extension) :
    (r.appendAll es).found = r.found ++ es := by
  induction es generalizing r with
  | nil => simp [appendAll]
  | cons e es ih =>
    change ((r.append e).appendAll es).found = _
    rw [ih, found_append, List.append_assoc]
    rfl

end Extraction

def layerContents (key : KeyFactory) (layers : List (List String)) (carrier : Carrier) :
    List Fields :=
  layers.map fun names => .ofTexts ((KeyTable.ofNames key names).found carrier)

lemma Propagation.extractFrom_stacked {p : Propagation} {carrier : Carrier} {heap heap' : Heap}
    {r : Extraction} (h : p.extractFrom carrier heap = .ok (r, heap')) (key : KeyFactory)
    (layers : List (List String)) :
    (p.stacked key layers).extractFrom carrier heap =
      .ok (r.appendAll ((heap'.nextStores layers.length).map .store),
        heap'.withStores (layerContents key layers carrier)) := by
  induction layers generalizing p r heap' with
  | nil =>
    simpa [Heap.nextStores, Heap.withStores, layerContents, Extraction.appendAll, stacked] using h
  | cons names layers ih =>
    have hh := ih (extractFrom_withFields h (.ofNames key names))
    have hc : layerContents key (names :: layers) carrier =
        .ofTexts ((KeyTable.ofNames key names).found carrier) ::
          layerContents key layers carrier := rfl
    rw [List.length_cons,
      Heap.nextStores_succ _ _ (.ofTexts ((KeyTable.ofNames key names).found carrier)), hc,
      Heap.withStores_cons]
    exact hh

lemma Identity.extensions_ofHeaders? {hs : Entries String String} {c : TraceContext}
    (h : ofHeaders? hs = some c) : c.extensions = [] := by
  rw [ofHeaders?] at h
  split at h
  · cases h
  · next parent _ =>
    obtain ⟨-, -, rfl⟩ := Option.map_eq_some_iff.1 h
    rfl

lemma Propagation.stores_identityFound (table : KeyTable) (carrier : Carrier) :
    stores (identityFound table carrier).found = [] := by
  rw [identityFound]
  cases h : Identity.ofHeaders? (table.found carrier) with
  | none => rfl
  | some c =>
    change stores c.extensions = []
    rw [Identity.extensions_ofHeaders? h]
    rfl

def Heap.valueIn (h : Heap) (r : Extraction) (name : String) : Option String :=
  (Entries.at? (h.fieldsOf r.store?) (some name)).join

lemma Heap.valueOf_of_context {r : Extraction} {c : TraceContext} (h : r.context = some c)
    (heap : Heap) (name : String) : heap.valueOf c name = heap.valueIn r name := by
  rw [valueOf, valueIn, Extraction.store?, Extraction.found, h]
  rfl

section Identity

variable (key : KeyFactory) (carrier : Carrier) (heap : Heap) (inner : List String)
    (outer : List (List String))

def layeredFound (layers : List (List String)) : Extraction :=
  (Propagation.identityFound (.ofNames key Scheme.identityNames) carrier).appendAll
    ((heap.nextStores layers.length).map .store)

lemma stores_layeredFound (layers : List (List String)) :
    stores (layeredFound key carrier heap layers).found = heap.nextStores layers.length := by
  rw [layeredFound, Extraction.found_appendAll, stores_append, Propagation.stores_identityFound,
    List.nil_append, stores_map_store]

lemma valueIn_layeredFound (n : String) :
    (heap.withStores (layerContents key (inner :: outer) carrier)).valueIn
        (layeredFound key carrier heap (inner :: outer)) n =
      if n ∈ inner then (carrier.at? (key n)).join else none := by
  have hstore : (layeredFound key carrier heap (inner :: outer)).store? =
      some ⟨heap.stores.length⟩ := by
    rw [Extraction.store?, firstStore?_eq_head?, stores_layeredFound]
    rfl
  rw [Heap.valueIn, hstore]
  have hfields : (heap.withStores (layerContents key (inner :: outer) carrier)).fieldsOf
      (some ⟨heap.stores.length⟩) =
        .ofTexts ((KeyTable.ofNames key inner).found carrier) := by
    simp [Heap.fieldsOf, Heap.fields, Heap.withStores, layerContents]
  rw [hfields, Fields.at?_ofTexts, KeyTable.at?_found]
  split
  · cases (Entries.at? carrier (key n)).join <;> rfl
  · rfl

end Identity

/-- An extraction through layers has one store for each, so one exactly if there is one layer. Of
the declared names, those read what the carrier has under their key that the innermost layer
declares or that the carrier has no value for. -/
theorem extract_layered_one_store_iff (inner : List String) (outer : List (List String))
    (hi : inner ≠ []) (ho : ∀ names ∈ outer, names ≠ []) (key : KeyFactory) (carrier : Carrier)
    (heap : Heap) :
    ∃ scheme p r heap', FieldScheme.layered .identity (inner :: outer) = .ok scheme ∧
      scheme.create key = .ok p ∧
      p.extractFrom carrier heap = .ok (r, heap') ∧ ((stores r.found).length = 1 ↔ outer = []) ∧
      (∀ names ∈ inner :: outer, ∀ n ∈ canonicalNames names,
        (heap'.valueIn r n = (carrier.at? (key n)).join ↔
          n ∈ canonicalNames inner ∨ (carrier.at? (key n)).join = none)) ∧
      ∀ c, r.context = some c →
        ∀ n, getField heap' (some c) (some n) = .ok (heap'.valueIn r (canonicalName n)) := by
  have hall : ∀ names ∈ inner :: outer, names ≠ [] := List.forall_mem_cons.2 ⟨hi, ho⟩
  have hextract := Propagation.extractFrom_stacked
    (Propagation.extractFrom_identity (.ofNames key Scheme.identityNames) carrier heap) key
    ((inner :: outer).map canonicalNames)
  refine ⟨_, _, _, _, FieldScheme.layered_eq hall _, FieldScheme.create_stacked rfl _,
    hextract, ?_, ?_, ?_⟩
  · change (stores (layeredFound key carrier heap _).found).length = 1 ↔ _
    rw [stores_layeredFound]
    simp [Heap.nextStores]
  · intro names _ n _
    rw [List.map_cons]
    change Heap.valueIn _ (layeredFound key carrier heap _) n = _ ↔ _
    rw [valueIn_layeredFound]
    by_cases hn : n ∈ canonicalNames inner
    · simp [hn]
    · simp [hn, eq_comm]
  · intro c hc n
    rw [getField_eq, Heap.valueOf_of_context hc]

theorem extract_layered_one_store_iff_two_layers :
    let carrier : Carrier := [(.text "x-a", some "1"), (.text "x-b", some "2")]
    ∃ scheme p r heap', FieldScheme.layered .identity [["X-A"], ["x-b"]] = .ok scheme ∧
      scheme.create .text = .ok p ∧ p.extractFrom carrier {} = .ok (r, heap') ∧
      (stores r.found).length ≠ 1 ∧ heap'.valueIn r "x-a" = some "1" ∧
      heap'.valueIn r "x-b" ≠ some "2" := by
  intro carrier
  obtain ⟨scheme, p, r, heap', hscheme, hp, hr, hone, hvalue, -⟩ :=
    extract_layered_one_store_iff ["X-A"] [["x-b"]] (by decide) (by decide) .text carrier {}
  refine ⟨scheme, p, r, heap', hscheme, hp, hr, fun h => by simpa using hone.1 h, ?_, ?_⟩
  · exact (hvalue ["X-A"] (by simp) "x-a" (by decide +kernel)).2 (.inl (by decide +kernel))
  · intro h
    rcases (hvalue ["x-b"] (by simp) "x-b" (by decide +kernel)).1 h with h | h
    · revert h
      decide +kernel
    · revert h
      decide +kernel

theorem layered_extraction_has_two_stores :
    ∃ scheme p r heap', FieldScheme.layered .identity [["x-a"], ["x-b"]] = .ok scheme ∧
      scheme.create .text = .ok p ∧
      p.extractFrom [(.text "x-a", some "1"), (.text "x-b", some "2")] {} = .ok (r, heap') ∧
      (stores r.found).length = 2 ∧ heap'.valueIn r "x-b" = none := by
  refine ⟨_, _, _, _, FieldScheme.layered_eq (by decide) _, FieldScheme.create_stacked rfl _,
    Propagation.extractFrom_stacked (Propagation.extractFrom_identity _ _ _) _ _, ?_, ?_⟩
  · decide +kernel
  · decide +kernel

end TraceFields
