import TraceFields.Proofs.Writes

namespace TraceFields

structure Layered where
  base : Scheme
  plain : base.Plain
  layers : List (List String)

namespace Layered

def scheme (l : Layered) : Except Fault Scheme := FieldScheme.layered l.base l.layers

def names (l : Layered) : List (List String) := l.layers.map canonicalNames

end Layered

def setWrites (c : Option TraceContext) (name value : Option String) : List Write :=
  match c.bind TraceContext.store?, name, value with
  | some id, some name, some value => [⟨id, name, value⟩]
  | _, _, _ => []

structure World where
  heap : Heap := {}
  contexts : List TraceContext := []
  results : List Extraction := []
  writes : List Write := []

inductive Op where
  | form (c : TraceContext)
  | decorate (l : Layered) (c : TraceContext)
  | extract (l : Layered) (key : KeyFactory) (get : Getter)
  | inject (l : Layered) (key : KeyFactory) (c : TraceContext) (carrier : Carrier)
  | set (c : Option TraceContext) (name value : Option String)
  | setActive (c : Option TraceContext) (name value : Option String)

def Op.uses : Op → List TraceContext
  | .form _ | .extract _ _ _ => []
  | .decorate _ c | .inject _ _ c _ => [c]
  | .set c _ _ | .setActive c _ _ => c.toList

namespace World

def shared (w : World) : List StoreId :=
  (w.contexts.flatMap fun c => stores c.extensions) ++ w.results.flatMap fun r => stores r.found

def written (w : World) (writes : List Write) : Except Fault Heap → World
  | .ok heap => { w with heap, writes := w.writes ++ writes }
  | .error _ => w

def perform (w : World) : Op → World
  | .form c =>
    if ∀ id ∈ stores c.extensions, id ∈ w.shared then { w with contexts := c :: w.contexts } else w
  | .decorate l c =>
    match l.scheme with
    | .ok s =>
      { w with heap := (s.decorate c w.heap).2, contexts := (s.decorate c w.heap).1 :: w.contexts }
    | .error _ => w
  | .extract l key get =>
    match l.scheme >>= fun s => s.create key >>= fun p => p.extract get w.heap with
    | .ok (r, heap) =>
      { heap, contexts := r.context.toList ++ w.contexts, results := r :: w.results
        writes := w.writes ++ readWrites get key (w.heap.nextStores l.names.length) l.names }
    | .error _ => w
  | .inject l key c carrier =>
    match l.scheme >>= fun s => s.create key with
    | .ok p => { w with heap := (p.injectInto c w.heap carrier).2.heap }
    | .error _ => w
  | .set c name value => w.written (setWrites c name value) (setField w.heap c name value)
  | .setActive c name value => w.written (setWrites c name value) (setActive w.heap c name value)

def step (w : World) (op : Op) : World := if ∀ c ∈ op.uses, c ∈ w.contexts then w.perform op else w

def run (ops : List Op) : World := ops.foldl step {}

end World

namespace Layered

variable (l : Layered) (key : KeyFactory) (get : Getter)

def contents : List Fields :=
  l.names.map fun names => .ofTexts (Propagation.readFields get key names)

lemma keptNames : ∀ names ∈ l.names, KeptNames names := by
  intro names hn
  obtain ⟨raw, -, rfl⟩ := List.mem_map.1 hn
  exact keptNames_canonicalNames raw

variable {l key get}

lemma of_extract {heap heap' : Heap} {r : Extraction}
    (h : (l.scheme >>= fun s => s.create key >>= fun p => p.extract get heap) = .ok (r, heap')) :
    ∃ heap₀ : Heap, heap₀.stores = heap.stores ∧ heap' = heap₀.withStores (l.contents key get) ∧
      stores r.found = heap₀.nextStores l.names.length := by
  obtain ⟨s, hs, h⟩ := bind_eq_ok.1 h
  obtain ⟨p, hp, h⟩ := bind_eq_ok.1 h
  obtain rfl := FieldScheme.eq_stacked_of_layered hs
  obtain ⟨p₀, hp₀, rfl⟩ := FieldScheme.of_create_stacked hp
  obtain ⟨r₀, heap₀, h₀, rfl, rfl⟩ := Propagation.of_extract_stacked h
  obtain ⟨hnone, hheap⟩ := (l.plain.create hp₀).extract h₀
  refine ⟨heap₀, hheap, rfl, ?_⟩
  rw [Extraction.found_appendAll, stores_append, hnone, List.nil_append, stores_map_store]
  rfl

end Layered

namespace World

lemma mem_shared {w : World} {id : StoreId} :
    id ∈ w.shared ↔
      (∃ c ∈ w.contexts, id ∈ stores c.extensions) ∨ ∃ r ∈ w.results, id ∈ stores r.found := by
  rw [shared, List.mem_append, List.mem_flatMap, List.mem_flatMap]

structure Sound (w : World) : Prop where
  recorded : Recorded w.heap w.writes
  held : ∀ id ∈ w.shared, w.heap.Holds id

namespace Sound

variable {w : World}

lemma empty : Sound {} := ⟨Recorded.empty, fun id h => by cases h⟩

lemma of_mem_contexts (h : w.Sound) {c : TraceContext} (hc : c ∈ w.contexts) :
    ∀ id ∈ stores c.extensions, w.heap.Holds id :=
  fun id hid => h.held id (mem_shared.2 (Or.inl ⟨c, hc, hid⟩))

lemma of_store? (h : w.Sound) {c : TraceContext} (hc : c ∈ w.contexts) {id : StoreId}
    (hid : c.store? = some id) : w.heap.Holds id := by
  refine h.of_mem_contexts hc id (List.mem_of_mem_head? ?_)
  rw [← firstStore?_eq_head?]
  exact hid

lemma held_cons {c : TraceContext} {heap : Heap} (hc : ∀ id ∈ stores c.extensions, heap.Holds id)
    (h : ∀ id ∈ w.shared, heap.Holds id) :
    ∀ id ∈ ({ w with contexts := c :: w.contexts } : World).shared, heap.Holds id := by
  intro id hid
  rcases mem_shared.1 hid with ⟨d, hd, hdid⟩ | hid
  · rcases List.mem_cons.1 hd with rfl | hd
    · exact hc id hdid
    · exact h id (mem_shared.2 (Or.inl ⟨d, hd, hdid⟩))
  · exact h id (mem_shared.2 (Or.inr hid))

lemma form (h : w.Sound) (c : TraceContext) : (w.perform (.form c)).Sound := by
  rw [perform]
  split
  · next hc => exact ⟨h.recorded, held_cons (fun id hid => h.held id (hc id hid)) h.held⟩
  · exact h

lemma decorate (h : w.Sound) (l : Layered) {c : TraceContext} (hc : c ∈ w.contexts) :
    (w.perform (.decorate l c)).Sound := by
  simp only [perform]
  cases hs : l.scheme with
  | error fault => exact h
  | ok s =>
    obtain rfl := FieldScheme.eq_stacked_of_layered hs
    have hdecorates := FieldScheme.decorates_stacked l.plain (l.layers.map canonicalNames)
    set decorated := (FieldScheme.stacked l.base (l.layers.map canonicalNames)).decorate c w.heap
    rcases hdecorates c w.heap with ⟨hstores, hheap⟩ | ⟨hstores, hheap⟩
    · have hheld : w.heap.Keeps decorated.2 := .of_stores hheap
      refine ⟨h.recorded.congr hheap, held_cons (fun id hid => hheld id ?_) ?_⟩
      · rw [hstores] at hid
        exact h.of_mem_contexts hc id hid
      · exact fun id hid => hheld id (h.held id hid)
    · have hheld : w.heap.Keeps decorated.2 :=
        (Heap.Keeps.newStore w.heap []).trans (.of_stores hheap)
      refine ⟨?_, held_cons (fun id hid => ?_) fun id hid => hheld id (h.held id hid)⟩
      · exact h.recorded.newStore_nil.congr hheap
      · rw [hstores] at hid
        rw [List.mem_singleton.1 hid, Heap.Holds, hheap]
        exact w.heap.holds_newStore []

lemma held_found {r : Extraction} {heap : Heap} (hr : ∀ id ∈ stores r.found, heap.Holds id)
    (h : ∀ id ∈ w.shared, heap.Holds id) (writes : List Write) :
    ∀ id ∈ (⟨heap, r.context.toList ++ w.contexts, r :: w.results, writes⟩ : World).shared,
      heap.Holds id := by
  intro id hid
  rcases mem_shared.1 hid with ⟨c, hc, hcid⟩ | ⟨q, hq, hqid⟩
  · rcases List.mem_append.1 hc with hc | hc
    · apply hr id
      rw [Extraction.found, Option.mem_toList.1 hc]
      exact hcid
    · exact h id (mem_shared.2 (Or.inl ⟨c, hc, hcid⟩))
  · rcases List.mem_cons.1 hq with rfl | hq
    · exact hr id hqid
    · exact h id (mem_shared.2 (Or.inr ⟨q, hq, hqid⟩))

lemma extract (h : w.Sound) (l : Layered) (key : KeyFactory) (get : Getter) :
    (w.perform (.extract l key get)).Sound := by
  simp only [perform]
  split
  · next r heap he =>
    obtain ⟨heap₀, hheap, rfl, hstores⟩ := Layered.of_extract he
    have hnext : w.heap.nextStores l.names.length = heap₀.nextStores l.names.length := by
      rw [Heap.nextStores, Heap.nextStores, hheap]
    refine ⟨?_, held_found (fun id hid => ?_) (fun id hid => ?_) _⟩
    · rw [hnext]
      exact (h.recorded.congr hheap).withStores get key l.keptNames
    · apply Heap.holds_of_mem_nextStores
      rw [Layered.contents, List.length_map, ← hstores]
      exact hid
    · exact (Heap.Keeps.of_stores hheap id (h.held id hid)).withStores _
  · exact h

lemma inject (h : w.Sound) (l : Layered) (key : KeyFactory) (c : TraceContext) (carrier : Carrier) :
    (w.perform (.inject l key c carrier)).Sound := by
  simp only [perform]
  split
  · next p hp =>
    obtain ⟨s, hs, hp⟩ := bind_eq_ok.1 hp
    obtain rfl := FieldScheme.eq_stacked_of_layered hs
    obtain ⟨p₀, hp₀, rfl⟩ := FieldScheme.of_create_stacked hp
    have hheap : (((p₀.stacked key l.names).injectInto c w.heap carrier).2.heap).stores =
        w.heap.stores :=
      Propagation.stores_inject_stacked (l.plain.create hp₀) key l.names c ⟨w.heap, carrier⟩
    exact ⟨h.recorded.congr hheap, fun id hid => Heap.Keeps.of_stores hheap id (h.held id hid)⟩
  · exact h

lemma written (h : w.Sound) {c : TraceContext} (hc : c ∈ w.contexts) (name value : Option String) :
    (w.written (setWrites (some c) name value) (setField w.heap (some c) name value)).Sound := by
  cases name with
  | none => exact h
  | some name =>
    cases value with
    | none => exact h
    | some value =>
      rw [setField_eq, World.written]
      cases hid : c.store? with
      | none =>
        have hw : setWrites (some c) (some name) (some value) = [] := by
          simp only [setWrites, Option.bind_some, hid]
        rw [hw, List.append_nil]
        exact h
      | some id =>
        have hw : setWrites (some c) (some name) (some value) = [⟨id, name, value⟩] := by
          simp only [setWrites, Option.bind_some, hid]
        rw [hw]
        refine ⟨h.recorded.set (h.of_store? hc hid) name value, fun other ho => ?_⟩
        exact (h.held other ho).set _ _ _

lemma step (h : w.Sound) (op : Op) : (w.step op).Sound := by
  rw [World.step]
  split
  · next huses =>
    cases op with
    | form c => exact h.form c
    | decorate l c => exact h.decorate l (huses c (by simp [Op.uses]))
    | extract l key get => exact h.extract l key get
    | inject l key c carrier => exact h.inject l key c carrier
    | set c name value =>
      cases c with
      | none => exact h
      | some c => exact h.written (huses c (by simp [Op.uses])) name value
    | setActive c name value =>
      cases c with
      | none =>
        change World.Sound { w with heap := w.heap, writes := w.writes ++ [] }
        rw [List.append_nil]
        exact h
      | some c => exact h.written (huses c (by simp [Op.uses])) name value
  · exact h

lemma foldl (h : w.Sound) (ops : List Op) : (ops.foldl World.step w).Sound := by
  induction ops generalizing w with
  | nil => exact h
  | cons op ops ih => exact ih (h.step op)

lemma run (ops : List Op) : (World.run ops).Sound := empty.foldl ops

end Sound

lemma step_of_uses_mem {w : World} {op : Op} {c : TraceContext} (hop : op.uses = [c])
    (hc : c ∈ w.contexts) : w.step op = w.perform op := by
  rw [step, if_pos]
  intro d hd
  rw [hop] at hd
  exact List.mem_singleton.1 hd ▸ hc

lemma getField_written {w : World} {c d : TraceContext}
    (hother : d.store? = none ∨ d.store? ≠ c.store?) (name value n : Option String) :
    getField (w.written (setWrites (some d) name value)
      (setField w.heap (some d) name value)).heap (some c) n = getField w.heap (some c) n := by
  cases h : setField w.heap (some d) name value with
  | error fault => rfl
  | ok heap => exact getField_setField h hother n

end World

/-- After any operations, reading a field of a context gives what was last written under the name,
in any case, into the first store of the context, by setting a field of a context with the same
first store or by the extraction that made the store. Setting a field of a context that has no
store, or another first store, does not change what is read. All names that stores hold are in the
form in which they are looked up, and distinct. -/
theorem fields_follow_writes (ops : List Op) :
    let w := World.run ops
    (∀ c ∈ w.contexts, ∀ name, getField w.heap (some c) (some name) =
      .ok (c.store?.bind fun id => lastWrite w.writes id name)) ∧
    (∀ c ∈ w.contexts, ∀ d ∈ w.contexts, d.store? = none ∨ d.store? ≠ c.store? → ∀ name value n,
      getField (w.step (.set (some d) name value)).heap (some c) n = getField w.heap (some c) n ∧
        getField (w.step (.setActive (some d) name value)).heap (some c) n =
          getField w.heap (some c) n) ∧
    ∀ fields ∈ w.heap.stores, (Entries.keys fields).Nodup ∧
      ∀ k ∈ Entries.keys fields, ∃ name, k = some name ∧ canonicalName name = name := by
  intro w
  have hw : w.Sound := World.Sound.run ops
  refine ⟨?_, ?_, ?_⟩
  · intro c _ name
    rw [getField]
    cases hid : c.store? with
    | none => rfl
    | some id =>
      simp only [Option.bind_some]
      rw [hw.recorded.value]
  · intro c _ d hd hother name value n
    have hget := World.getField_written (w := w) hother name value n
    rw [World.step_of_uses_mem rfl hd, World.step_of_uses_mem rfl hd]
    exact ⟨hget, hget⟩
  · intro fields hf
    obtain ⟨i, hi, rfl⟩ := List.mem_iff_getElem.1 hf
    have hfields : w.heap.fields ⟨i⟩ = w.heap.stores[i] := by simp [Heap.fields, hi]
    rw [← hfields]
    exact ⟨hw.recorded.distinct _, hw.recorded.canonical _⟩

theorem fields_follow_writes_two_contexts :
    let l : Layered := ⟨.identity, Scheme.plain_identity, [["X-A", "x-b"]]⟩
    let first : TraceContext := { traceId := some "7b", spanId := some "1" }
    let parent := first.append (.store ⟨0⟩)
    let child : TraceContext := { parent with spanId := some "2", parentId := some "1" }
    let carrier : Carrier := [(.text "x-a", some "3")]
    let w := World.run [.form first, .decorate l first, .form child,
      .set (some child) (some "x-A") (some "1"),
      .extract l .text carrier.lookup, .setActive (some parent) (some "X-a") (some "2"),
      .set (some first) (some "x-a") (some "4")]
    child ∈ w.contexts ∧ getField w.heap (some child) (some "x-a") = .ok (some "2") ∧
      w.heap.fields ⟨1⟩ = [(some "x-a", some "3")] := by
  intro l first parent child carrier w
  have hchild : child ∈ w.contexts := by decide +kernel
  refine ⟨hchild, ?_, by decide +kernel⟩
  have hread := (fields_follow_writes _).1 child hchild "x-a"
  rw [hread]
  exact congrArg Except.ok (by decide +kernel)

end TraceFields
