import Mathlib.Data.List.Nodup
import TraceFields.Proofs.IdentityHeaders
import TraceFields.Proofs.Stores

namespace TraceFields

open Identity (Canonical)

structure Hop where
  names : List String
  key : KeyFactory

namespace Hop

def propagation (h : Hop) : Except Fault Propagation := do
  let f ← FieldScheme.ofCollection (some .identity) (.list (h.names.map .text))
  f.scheme.create h.key

def pass (h : Hop) (c : TraceContext) (heap : Heap) : Except Fault (Extraction × Heap) := do
  let p ← h.propagation
  let (result, d) := p.injectInto c heap []
  result
  p.extractFrom d.carrier d.heap

def sent (h : Hop) : List String := Scheme.identityNames ++ canonicalNames h.names

structure Sound (h : Hop) : Prop where
  names_ne : h.names ≠ []
  apart : ∀ n ∈ Scheme.identityNames, n ∉ canonicalNames h.names
  keyed : ∀ n ∈ h.sent, h.key n ≠ .absent
  injective : ∀ m ∈ h.sent, ∀ n ∈ h.sent, h.key m = h.key n → m = n

end Hop

def relay : List Hop → TraceContext → Heap → Except Fault (TraceContext × Heap)
  | [], c, heap => .ok (c, heap)
  | h :: hops, c, heap => do
    let (r, heap) ← h.pass c heap
    match r.context with
    | some c => relay hops c heap
    | none => .error .absent

def setFields (c : TraceContext) : List (String × String) → Heap → Except Fault Heap
  | [], heap => .ok heap
  | (name, value) :: sets, heap => do
    setFields c sets (← setField heap (some c) (some name) (some value))

def lastSet (sets : List (String × String)) (name : String) : Option String :=
  (sets.reverse.find? fun s => canonicalName s.1 = canonicalName name).map Prod.snd

def setEntries (sets : List (String × String)) : Fields :=
  sets.map fun s => (some (canonicalName s.1), some s.2)

lemma at?_setEntries_reverse (sets : List (String × String)) (n : String) :
    Entries.at? (setEntries sets).reverse (some n) =
      ((sets.reverse.find? fun s => canonicalName s.1 = n).map Prod.snd).map some := by
  rw [setEntries, ← List.map_reverse]
  induction sets.reverse with
  | nil => rfl
  | cons s sets ih =>
    by_cases h : canonicalName s.1 = n
    · simp [Entries.at?, h]
    · simpa [Entries.at?, h] using ih

lemma setFields_of_store {c : TraceContext} {id : StoreId} (hid : c.store? = some id)
    (sets : List (String × String)) {heap : Heap} (hheld : heap.Holds id) :
    ∃ heap', setFields c sets heap = .ok heap' ∧ heap'.Holds id ∧
      heap'.fields id = Entries.putAll (heap.fields id) (setEntries sets) := by
  induction sets generalizing heap with
  | nil => exact ⟨heap, rfl, hheld, rfl⟩
  | cons s sets ih =>
    obtain ⟨name, value⟩ := s
    obtain ⟨heap', hset, hheld', hfields⟩ :=
      ih (hheld.set id (some (canonicalName name)) (some value))
    refine ⟨heap', ?_, hheld', ?_⟩
    · simp only [setFields, setField_eq, hid, bind, Except.bind]
      exact hset
    · rw [hfields, Heap.fields_set_self hheld]
      rfl

lemma setFields_of_no_store {c : TraceContext} (hid : c.store? = none)
    (sets : List (String × String)) (heap : Heap) : setFields c sets heap = .ok heap := by
  induction sets with
  | nil => rfl
  | cons s sets ih =>
    simp only [setFields, setField_eq, hid, bind, Except.bind]
    exact ih

namespace Hop

variable {h : Hop}

def identityTable (h : Hop) : KeyTable := .ofNames h.key Scheme.identityNames

def fieldTable (h : Hop) : KeyTable := .ofNames h.key (canonicalNames h.names)

lemma Sound.propagation_eq (hs : h.Sound) :
    h.propagation = .ok (.withFields h.fieldTable (.identity h.identityTable)) := by
  rw [propagation, FieldScheme.ofCollection_texts _ hs.names_ne]
  rfl

lemma Sound.key_unique (hs : h.Sound) {m n : String} {names : List String} (hn : n ∈ h.sent)
    (hsub : names ⊆ h.sent) (hm : (KeyTable.ofNames h.key names).key? m = some (h.key n)) :
    m = n := by
  obtain ⟨hm, he, -⟩ := KeyTable.key?_eq_some.1 hm
  exact hs.injective m (hsub hm) n hn he

variable {c : TraceContext} {heap : Heap} {t s : String}

def delivered (h : Hop) (fields : Fields) (headers : Entries String String) : Carrier :=
  Entries.putAll (Entries.putAll [] (h.fieldTable.addressed fields.named))
    (h.identityTable.addressed (headers.map fun e => (e.1, some e.2)))

lemma Sound.at?_field (hs : h.Sound) {fields : Fields} (hd : (Entries.keys fields).Nodup)
    (headers : Entries String String) {n : String} (hn : n ∈ canonicalNames h.names) :
    Entries.at? (h.delivered fields headers) (h.key n) = Entries.at? fields (some n) := by
  have hsent : n ∈ h.sent := List.mem_append_right _ hn
  have hidentity : ∀ m, h.identityTable.key? m ≠ some (h.key n) := by
    intro m hm
    obtain rfl := hs.key_unique hsent (List.subset_append_left _ _) hm
    exact hs.apart m (KeyTable.key?_eq_some.1 hm).1 hn
  have hfield : h.fieldTable.key? n = some (h.key n) :=
    KeyTable.key?_eq_some.2 ⟨hn, rfl, hs.keyed n hsent⟩
  have hunique : ∀ m, h.fieldTable.key? m = some (h.key n) → m = n := fun m hm =>
    hs.key_unique hsent (List.subset_append_right _ _) hm
  rw [delivered, Entries.at?_putAll, ← KeyTable.addressed_reverse,
    KeyTable.at?_addressed_of_forall_ne hidentity, Option.none_or,
    KeyTable.at?_putAll_addressed hfield hunique, ← Fields.named_reverse, Fields.at?_named,
    Entries.at?_reverse hd, Entries.at?_nil, Option.or_none]

lemma Sound.at?_parent (hs : h.Sound) (fields : Fields) (parent : String) (state : Option String) :
    Entries.at? (h.delivered fields
        ((Identity.parentName, parent) :: state.toList.map (Identity.stateName, ·)))
      (h.key Identity.parentName) = some (some parent) := by
  have hparent : Identity.parentName ∈ h.sent :=
    List.mem_append_left _ (by simp [Scheme.identityNames])
  have hstate : Identity.stateName ∈ h.sent :=
    List.mem_append_left _ (by simp [Scheme.identityNames])
  have hd : h.key Identity.stateName ≠ h.key Identity.parentName := fun he =>
    absurd (hs.injective _ hstate _ hparent he) (by decide)
  exact Propagation.at?_parent hd (hs.keyed _ hparent) _ parent state

def carrier (h : Hop) (c : TraceContext) (heap : Heap) (t s : String) : Carrier :=
  h.delivered (heap.fieldsOf c.store?)
    ((Identity.parentName, Canonical.parent t s c.flags) ::
      (Identity.stateHeader c).toList.map (Identity.stateName, ·))

lemma injectInto_eq (h : Hop) (hc : Canonical c t s) :
    (Propagation.withFields h.fieldTable (.identity h.identityTable)).injectInto c heap [] =
      (.ok (), ⟨heap, h.carrier c heap t s⟩) := by
  rw [Propagation.injectInto_withFields, Propagation.injectInto_identity hc.headers_eq]
  rfl

lemma extractFrom_eq (h : Hop) (hc : Canonical c t s) {carrier : Carrier}
    (hparent : Entries.at? carrier (h.key Identity.parentName) =
      some (some (Canonical.parent t s c.flags))) (heap : Heap) :
    ∃ r state, (Propagation.withFields h.fieldTable (.identity h.identityTable)).extractFrom
        carrier heap = .ok (r, (heap.newStore (.ofTexts (h.fieldTable.found carrier))).2) ∧
      r.context =
        some ((Canonical.arrival t s c.isSampled state).append (.store ⟨heap.stores.length⟩)) := by
  have hinner := Propagation.extractFrom_identity h.identityTable carrier heap
  rw [identityTable, Propagation.identityFound_eq, hparent, Option.join_some, Option.bind_some,
    hc.context?_parent] at hinner
  exact ⟨_, _, Propagation.extractFrom_withFields hinner h.fieldTable, rfl⟩

end Hop

structure Carries (c : TraceContext) (heap : Heap) (traceId spanId : String) (sampled : Bool)
    (value : String → Option String) : Prop where
  canonical : Canonical c traceId spanId
  sampled_eq : c.isSampled = sampled
  distinct : (Entries.keys (heap.fieldsOf c.store?)).Nodup
  value_eq : ∀ n, heap.valueOf c n = value n

namespace Carries

variable {c : TraceContext} {heap : Heap} {t s : String} {b : Bool}
    {value : String → Option String} {h : Hop}

lemma receive (hc : Canonical c t s) (h : Hop) {carrier : Carrier}
    (hparent : Entries.at? carrier (h.key Identity.parentName) =
      some (some (Canonical.parent t s c.flags))) (heap : Heap) :
    ∃ r heap' c', (Propagation.withFields h.fieldTable (.identity h.identityTable)).extractFrom
        carrier heap = .ok (r, heap') ∧ r.context = some c' ∧ (stores c'.extensions).length = 1 ∧
      Carries c' heap' t s c.isSampled fun n =>
        if n ∈ canonicalNames h.names then (Entries.at? carrier (h.key n)).join else none := by
  obtain ⟨r, state, hextract, hr⟩ := h.extractFrom_eq hc hparent heap
  set fields := h.fieldTable.found carrier with hfields
  refine ⟨r, _, _, hextract, hr, rfl, hc.arrival_append _ _ _, ?_, ?_, ?_⟩
  · exact Canonical.isSampled_arrival t s c.isSampled state
  · change (Entries.keys ((heap.newStore (.ofTexts fields)).2.fields (heap.newStore (.ofTexts fields)).1)).Nodup
    rw [Heap.fields_newStore_self, Fields.keys_ofTexts]
    apply List.Nodup.map (Option.some_injective _)
    exact (nodup_canonicalNames h.names).sublist (KeyTable.keys_found_sublist _ _ _)
  · intro n
    change (Entries.at? ((heap.newStore (.ofTexts fields)).2.fields
      (heap.newStore (.ofTexts fields)).1) (some n)).join = _
    rw [Heap.fields_newStore_self, Fields.at?_ofTexts, hfields, Hop.fieldTable, KeyTable.at?_found]
    split
    · cases (Entries.at? carrier (h.key n)).join <;> rfl
    · rfl

lemma pass (hc : Carries c heap t s b value) (hs : h.Sound) :
    ∃ r heap' c', h.pass c heap = .ok (r, heap') ∧ r.context = some c' ∧
      (stores c'.extensions).length = 1 ∧
      Carries c' heap' t s b fun n => if n ∈ canonicalNames h.names then value n else none := by
  have hparent := hs.at?_parent (heap.fieldsOf c.store?) (Canonical.parent t s c.flags)
    (Identity.stateHeader c)
  obtain ⟨r, heap', c', hextract, hr, hone, hc'⟩ := receive hc.canonical h hparent heap
  refine ⟨r, heap', c', ?_, hr, hone, hc'.canonical, hc'.sampled_eq.trans hc.sampled_eq,
    hc'.distinct, fun n => (hc'.value_eq n).trans ?_⟩
  · rw [Hop.pass, hs.propagation_eq]
    simp only [bind, Except.bind, h.injectInto_eq hc.canonical]
    exact hextract
  · split
    · next hn => rw [hs.at?_field hc.distinct _ hn, ← hc.value_eq, Heap.valueOf]
    · rfl

lemma relay {hops : List Hop} (hh : ∀ h ∈ hops, h.Sound) (hc : Carries c heap t s b value) :
    ∃ c' heap', relay hops c heap = .ok (c', heap') ∧
      (stores c'.extensions).length = (if hops = [] then (stores c.extensions).length else 1) ∧
      Carries c' heap' t s b fun n =>
        if ∀ h ∈ hops, n ∈ canonicalNames h.names then value n else none := by
  induction hops generalizing c heap value with
  | nil => exact ⟨c, heap, rfl, rfl, by simpa using hc⟩
  | cons h hops ih =>
    -- The hops that are left filter what the first one has let through.
    obtain ⟨r, heap₁, c₁, hpass, hr, hone, hc₁⟩ := hc.pass (hh h (by simp))
    obtain ⟨c', heap', hrelay, hlen, hc'⟩ := ih (fun k hk => hh k (by simp [hk])) hc₁
    refine ⟨c', heap', ?_, ?_, hc'.canonical, hc'.sampled_eq, hc'.distinct, ?_⟩
    · simp only [TraceFields.relay, hpass, hr, bind, Except.bind]
      exact hrelay
    · rw [hlen, hone, if_neg (List.cons_ne_nil _ _)]
      split <;> rfl
    · intro n
      rw [hc'.value_eq]
      by_cases hn : n ∈ canonicalNames h.names <;> simp [hn]

lemma setFields (hc : Carries c heap t s b value) {id : StoreId} (hid : c.store? = some id)
    (hheld : heap.Holds id) (sets : List (String × String)) :
    ∃ heap', setFields c sets heap = .ok heap' ∧ Carries c heap' t s b fun n =>
      ((sets.reverse.find? fun s => canonicalName s.1 = n).map Prod.snd).or (value n) := by
  obtain ⟨heap', hset, -, hfields⟩ := setFields_of_store hid sets hheld
  have hdistinct := hc.distinct
  rw [hid] at hdistinct
  refine ⟨heap', hset, hc.canonical, hc.sampled_eq, ?_, ?_⟩
  · rw [hid]
    change (Entries.keys (heap'.fields id)).Nodup
    rw [hfields]
    exact Entries.nodup_keys_putAll hdistinct _
  · intro n
    rw [← hc.value_eq, Heap.valueOf, Heap.valueOf, hid]
    change (Entries.at? (heap'.fields id) (some n)).join = _
    rw [hfields, Entries.at?_putAll, at?_setEntries_reverse]
    cases sets.reverse.find? fun s => canonicalName s.1 = n <;> rfl

end Carries

def Heap.Backs (h : Heap) (c : TraceContext) : Prop :=
  ∀ id, c.store? = some id → h.Holds id ∧ (Entries.keys (h.fields id)).Nodup

lemma Carries.ensureStore {c : TraceContext} {heap : Heap} {t s : String} (hc : Canonical c t s)
    (hb : heap.Backs c) :
    ∃ id, (c.ensureStore heap).1.store? = some id ∧ (c.ensureStore heap).2.Holds id ∧
      Carries (c.ensureStore heap).1 (c.ensureStore heap).2 t s c.isSampled (heap.valueOf c) := by
  cases h : c.store? with
  | some id =>
    rw [TraceContext.ensureStore_of_some h]
    refine ⟨id, h, (hb id h).1, hc, rfl, ?_, fun n => rfl⟩
    rw [h]
    exact (hb id h).2
  | none =>
    have hstore := c.ensureStore_store? heap
    rw [h, Option.getD_none] at hstore
    rw [TraceContext.ensureStore_of_none h] at hstore ⊢
    have hempty : (heap.newStore []).2.fieldsOf (some (heap.newStore []).1) = [] :=
      Heap.fields_newStore_self _ _
    refine ⟨_, hstore, heap.holds_newStore [],
      ⟨hc.trace_eq, hc.span_eq, hc.trace, hc.span, hc.nonneg, hc.lt⟩, rfl, ?_, ?_⟩
    · rw [hstore, hempty]
      exact List.nodup_nil
    · intro n
      rw [Heap.valueOf, Heap.valueOf, hstore, hempty, h]
      rfl

/-- A context that is given a store, of which fields are then set and which is then sent over any
hops, arrives with its identity and its sampled bit and with one store, unless it had several and
there is no hop. A field arrives if every hop declares its name, with the value set last, else with
the value that it had before. -/
theorem relay_delivers (hops : List Hop) (hh : ∀ h ∈ hops, h.Sound) (names : List String)
    (sets : List (String × String)) {c : TraceContext} {heap : Heap} {t s : String}
    (hc : Canonical c t s) (hb : heap.Backs c) :
    let decorated := (FieldScheme.scheme ⟨.identity, names⟩).decorate c heap
    ∃ heap₁ c' heap', setFields decorated.1 sets decorated.2 = .ok heap₁ ∧
      relay hops decorated.1 heap₁ = .ok (c', heap') ∧
      c'.traceId = c.traceId ∧ c'.spanId = c.spanId ∧ c'.isSampled = c.isSampled ∧
      ((hops = [] → (stores c.extensions).length ≤ 1) → (stores c'.extensions).length = 1) ∧
      ∀ name, getField heap' (some c') (some name) =
        .ok (if ∀ h ∈ hops, canonicalName name ∈ canonicalNames h.names then
          (lastSet sets name).or (heap.valueOf c (canonicalName name)) else none) := by
  intro decorated
  obtain ⟨id, hid, hheld, hcarries⟩ := Carries.ensureStore hc hb
  obtain ⟨heap₁, hset, hcarries₁⟩ := hcarries.setFields hid hheld sets
  obtain ⟨c', heap', hrelay, hlen, hcarries'⟩ := hcarries₁.relay hh
  refine ⟨heap₁, c', heap', hset, hrelay, ?_, ?_, hcarries'.sampled_eq, ?_, ?_⟩
  · rw [hcarries'.canonical.trace_eq, hc.trace_eq]
  · rw [hcarries'.canonical.span_eq, hc.span_eq]
  · intro hone
    rw [hlen]
    split
    · next hn =>
      have hstores := TraceContext.stores_ensureStore c heap
      change (stores (c.ensureStore heap).1.extensions).length = 1
      rw [hstores]
      split
      · rfl
      · next hs =>
        have hpos := List.length_pos_iff.2 fun h => hs (firstStore?_eq_none_iff.2 h)
        have hle := hone hn
        omega
    · rfl
  · intro name
    rw [getField_eq, hcarries'.value_eq]
    rfl

theorem relay_delivers_two_hops :
    let hops : List Hop := [⟨["X-A", "x-b"], .text⟩, ⟨["x-a"], fun n => .parts ["header", n]⟩]
    let c : TraceContext :=
      { traceId := some "0af7651916cd43dd8448eb211c80319c", spanId := some "b7ad6b7169203331"
        flags := 3, traceState := some "a=1", extensions := [.store ⟨0⟩] }
    let heap : Heap := { stores := [[(some "x-b", some "0")]] }
    ∃ heap₁ c' heap', setFields c [("x-A", "1"), ("X-a", ""), ("x-c", "3")] heap = .ok heap₁ ∧
      relay hops c heap₁ = .ok (c', heap') ∧ c'.traceId = c.traceId ∧ c'.isSampled = true ∧
      (stores c'.extensions).length = 1 ∧ getField heap' (some c') (some "X-A") = .ok (some "") ∧
      getField heap' (some c') (some "x-b") = .ok none := by
  intro hops c heap
  have hh : ∀ h ∈ hops, h.Sound := by
    intro h hm
    simp only [hops, List.mem_cons, List.not_mem_nil, or_false] at hm
    rcases hm with rfl | rfl <;>
      exact ⟨by decide, by decide +kernel, by decide +kernel, by decide +kernel⟩
  have hc : Canonical c "0af7651916cd43dd8448eb211c80319c" "b7ad6b7169203331" :=
    ⟨rfl, rfl, by decide, by decide, by decide, by decide⟩
  have hb : heap.Backs c := by
    intro id hid
    obtain rfl : (⟨0⟩ : StoreId) = id := Option.some.inj hid
    exact ⟨Nat.zero_lt_one, by decide⟩
  obtain ⟨heap₁, c', heap', hset, hrelay, ht, -, hsampled, hone, hget⟩ :=
    relay_delivers hops hh ["x-a"] [("x-A", "1"), ("X-a", ""), ("x-c", "3")] hc hb
  refine ⟨heap₁, c', heap', hset, hrelay, ht, hsampled, hone (by simp [hops]), ?_, ?_⟩
  · rw [hget]
    exact congrArg Except.ok (by decide +kernel)
  · rw [hget]
    exact congrArg Except.ok (by decide +kernel)

end TraceFields
