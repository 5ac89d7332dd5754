import TraceFields.Proofs.HeaderNames
import TraceFields.Proofs.Relay
import TraceFields.Text.Upper

namespace TraceFields

open Identity (Canonical)

lemma KeyTable.key_of_mem_addressed {key : KeyFactory} {names : List String}
    {values : List (String × Option String)} {e : Key × Option String}
    (h : e ∈ (ofNames key names).addressed values) : ∃ n ∈ names, key n = e.1 := by
  obtain ⟨f, -, hf⟩ := List.mem_filterMap.1 h
  obtain ⟨k, hk, rfl⟩ := Option.map_eq_some_iff.1 hf
  obtain ⟨hn, rfl, -⟩ := key?_eq_some.1 hk
  exact ⟨f.1, hn, rfl⟩

namespace Hop

lemma key_of_mem_delivered {h : Hop} {fields : Fields} {headers : Entries String String} {k : Key}
    (hk : k ∈ Entries.keys (h.delivered fields headers)) : ∃ n ∈ h.sent, h.key n = k := by
  obtain ⟨e, he, rfl⟩ := List.mem_map.1 hk
  rcases Entries.mem_putAll he with he | he
  · rcases Entries.mem_putAll he with he | he
    · cases he
    · obtain ⟨n, hn, hk⟩ := KeyTable.key_of_mem_addressed he
      exact ⟨n, List.mem_append_right _ hn, hk⟩
  · obtain ⟨n, hn, hk⟩ := KeyTable.key_of_mem_addressed he
    exact ⟨n, List.mem_append_left _ hn, hk⟩

lemma nodup_delivered (h : Hop) (fields : Fields) (headers : Entries String String) :
    (Entries.keys (h.delivered fields headers)).Nodup := by
  apply Entries.nodup_keys_putAll
  apply Entries.nodup_keys_putAll
  exact List.nodup_nil

end Hop

structure HeaderForm where
  names : List String
  key : String → String

namespace HeaderForm

def hop (f : HeaderForm) : Hop := ⟨f.names, fun n => .text (f.key n)⟩

structure Sound (f : HeaderForm) : Prop where
  names_ne : f.names ≠ []
  apart : ∀ n ∈ Scheme.identityNames, n ∉ canonicalNames f.names
  distinct : ∀ m ∈ f.hop.sent, ∀ n ∈ f.hop.sent,
    Text.lower (f.key m) = Text.lower (f.key n) → m = n

def IsLower (f : HeaderForm) (n : String) : Prop := Text.lower (f.key n) = f.key n

instance (f : HeaderForm) (n : String) : Decidable (f.IsLower n) :=
  inferInstanceAs (Decidable (_ = _))

def trip (f : HeaderForm) (c : TraceContext) (heap : Heap) : Except Fault (Extraction × Heap) := do
  let p ← f.hop.propagation
  let (result, d) := Headers.inject [] p (some c) heap
  result
  Headers.extract d.carrier p d.heap

variable {f : HeaderForm}

lemma Sound.hop (hf : f.Sound) : f.hop.Sound where
  names_ne := hf.names_ne
  apart := hf.apart
  keyed _ _ h := by cases h
  injective m hm n hn h := hf.distinct m hm n hn (congrArg Text.lower (Key.text.inj h))

section Delivered

variable (fields : Fields) (headers : Entries String String)

lemma Sound.nodup_named (hf : f.Sound) :
    (Entries.keys (Headers.named (f.hop.delivered fields headers))).Nodup := by
  have hkeys : Entries.keys (Headers.named (f.hop.delivered fields headers)) =
      (Entries.keys (f.hop.delivered fields headers)).map fun k => Text.lower k.shown := by
    simp [Entries.keys, Headers.named, Function.comp_def]
  rw [hkeys]
  refine List.Nodup.map_on ?_ (f.hop.nodup_delivered fields headers)
  intro k hk l hl he
  obtain ⟨m, hm, rfl⟩ := Hop.key_of_mem_delivered hk
  obtain ⟨n, hn, rfl⟩ := Hop.key_of_mem_delivered hl
  rw [hf.distinct m hm n hn he]

lemma Sound.at?_lowered (hf : f.Sound) {n : String} (hn : n ∈ f.hop.sent) :
    Entries.at? (Headers.lowered (f.hop.delivered fields headers)) (f.hop.key n) =
      if f.IsLower n then Entries.at? (f.hop.delivered fields headers) (f.hop.key n) else none := by
  change Entries.at? _ (Key.text (f.key n)) = _
  rw [Headers.at?_lowered (hf.nodup_named fields headers)]
  split
  · next hlower =>
    have hname : f.key n = Text.lower (f.hop.key n).shown := Eq.symm hlower
    rw [hname]
    apply Entries.at?_map_key (f := fun k : Key => Text.lower k.shown)
    intro k hk he
    obtain ⟨m, hm, rfl⟩ := Hop.key_of_mem_delivered hk
    rw [hf.distinct m hm n hn he]
  · next hupper =>
    rw [Entries.at?_eq_none_iff]
    intro hk
    obtain ⟨e, he, hname⟩ := List.mem_map.1 hk
    obtain ⟨e', -, rfl⟩ := List.mem_map.1 he
    apply hupper
    rw [IsLower, ← hname]
    exact Text.lower_lower _

end Delivered

variable {c : TraceContext} {heap : Heap} {t s : String}

def headersOf (f : HeaderForm) (c : TraceContext) (heap : Heap) (t s : String) : Carrier :=
  Headers.lowered (f.hop.carrier c heap t s)

lemma Sound.trip_eq (hf : f.Sound) (hc : Canonical c t s) (heap : Heap) :
    f.trip c heap = (Propagation.withFields f.hop.fieldTable
      (.identity f.hop.identityTable)).extractFrom (f.headersOf c heap t s) heap := by
  have hinject : Propagation.injectInto _ c heap [] = (.ok (), ⟨heap, _⟩) := f.hop.injectInto_eq hc
  rw [trip, hf.hop.propagation_eq]
  simp only [bind, Except.bind, Headers.inject, hinject]
  rfl

lemma parentName_mem_sent (h : Hop) : Identity.parentName ∈ h.sent :=
  List.mem_append_left _ (by simp [Scheme.identityNames])

lemma Sound.trip_of_lower {value : String → Option String} {b : Bool} (hf : f.Sound)
    (hc : Carries c heap t s b value) (hlower : f.IsLower Identity.parentName) :
    ∃ r heap' c', f.trip c heap = .ok (r, heap') ∧ r.context = some c' ∧
      Carries c' heap' t s b fun n =>
        if n ∈ canonicalNames f.names ∧ f.IsLower n then value n else none := by
  have hparent := hf.hop.at?_parent (heap.fieldsOf c.store?) (Canonical.parent t s c.flags)
    (Identity.stateHeader c)
  have hcarried : Entries.at? (f.headersOf c heap t s) (f.hop.key Identity.parentName) =
      some (some (Canonical.parent t s c.flags)) := by
    rw [headersOf, Hop.carrier, hf.at?_lowered _ _ (parentName_mem_sent _), if_pos hlower, hparent]
  obtain ⟨r, heap', c', hextract, hr, -, hc'⟩ :=
    Carries.receive hc.canonical f.hop hcarried heap
  refine ⟨r, heap', c', (hf.trip_eq hc.canonical heap).trans hextract, hr, hc'.canonical,
    hc'.sampled_eq.trans hc.sampled_eq, hc'.distinct, fun n => (hc'.value_eq n).trans ?_⟩
  change (if n ∈ canonicalNames f.names then
    (Entries.at? (f.headersOf c heap t s) (f.hop.key n)).join else none) = _
  by_cases hn : n ∈ canonicalNames f.names
  · rw [headersOf, Hop.carrier, hf.at?_lowered _ _ (List.mem_append_right _ hn), if_pos hn]
    by_cases hl : f.IsLower n
    · rw [if_pos hl, if_pos ⟨hn, hl⟩, hf.hop.at?_field hc.distinct _ hn, ← hc.value_eq, Heap.valueOf]
    · rw [if_neg hl, if_neg fun h => hl h.2]
      rfl
  · rw [if_neg hn, if_neg fun h => hn h.1]

lemma Sound.trip_of_not_lower (hf : f.Sound) (hc : Canonical c t s) (heap : Heap)
    (hupper : ¬ f.IsLower Identity.parentName) :
    ∃ r heap', f.trip c heap = .ok (r, heap') ∧ r.context = none := by
  have hnone : Entries.at? (f.headersOf c heap t s) (f.hop.key Identity.parentName) = none := by
    rw [headersOf, Hop.carrier, hf.at?_lowered _ _ (parentName_mem_sent _), if_neg hupper]
  have hinner := Propagation.extractFrom_identity f.hop.identityTable (f.headersOf c heap t s) heap
  rw [Hop.identityTable, Propagation.identityFound_eq, hnone] at hinner
  exact ⟨_, _, (hf.trip_eq hc heap).trans
    (Propagation.extractFrom_withFields hinner f.hop.fieldTable), rfl⟩

/-- A context that is given a store, of which fields are then set, and which is written to headers
and read from them comes back exactly if the header of its identity has a name in lower case. It has
its identity then and its sampled bit, and each declared field that is sent in a header whose name is
in lower case, with the value set last, else with the value that it had before. -/
theorem headers_return (hf : f.Sound) (sets : List (String × String)) (hc : Canonical c t s)
    (hb : heap.Backs c) :
    let decorated := (FieldScheme.scheme ⟨.identity, f.names⟩).decorate c heap
    ∃ heap₁ r heap', setFields decorated.1 sets decorated.2 = .ok heap₁ ∧
      f.trip decorated.1 heap₁ = .ok (r, heap') ∧
      (r.context.isSome ↔ f.IsLower Identity.parentName) ∧
      ∀ c', r.context = some c' →
        c'.traceId = c.traceId ∧ c'.spanId = c.spanId ∧ c'.isSampled = c.isSampled ∧
        ∀ name, getField heap' (some c') (some name) =
          .ok (if canonicalName name ∈ canonicalNames f.names ∧ f.IsLower (canonicalName name) then
            (lastSet sets name).or (heap.valueOf c (canonicalName name)) else none) := by
  intro decorated
  obtain ⟨id, hid, hheld, hcarries⟩ := Carries.ensureStore hc hb
  obtain ⟨heap₁, hset, hcarries₁⟩ := hcarries.setFields hid hheld sets
  by_cases hlower : f.IsLower Identity.parentName
  · obtain ⟨r, heap', c', htrip, hr, hcarries'⟩ := hf.trip_of_lower hcarries₁ hlower
    refine ⟨heap₁, r, heap', hset, htrip, by simp [hr, hlower], fun c'' hc'' => ?_⟩
    obtain rfl : c' = c'' := Option.some.inj (hr.symm.trans hc'')
    refine ⟨?_, ?_, hcarries'.sampled_eq, fun name => ?_⟩
    · rw [hcarries'.canonical.trace_eq, hc.trace_eq]
    · rw [hcarries'.canonical.span_eq, hc.span_eq]
    · rw [getField_eq, hcarries'.value_eq]
      rfl
  · obtain ⟨r, heap', htrip, hr⟩ := hf.trip_of_not_lower hcarries₁.canonical heap₁ hlower
    refine ⟨heap₁, r, heap', hset, htrip, by simp [hr, hlower], fun c' hc' => ?_⟩
    rw [hr] at hc'
    cases hc'

theorem headers_return_one_capital :
    let f : HeaderForm := ⟨["X-A", "x-b"], fun n => if n = "x-b" then "x-B" else n⟩
    let c : TraceContext :=
      { traceId := some "0af7651916cd43dd8448eb211c80319c", spanId := some "b7ad6b7169203331"
        extensions := [.store ⟨0⟩] }
    let heap : Heap := { stores := [[(some "x-a", some "0")]] }
    f.Sound ∧ ∃ heap₁ r heap' c', setFields c [("x-B", "2"), ("X-a", "")] heap = .ok heap₁ ∧
      f.trip c heap₁ = .ok (r, heap') ∧ r.context = some c' ∧ c'.spanId = c.spanId ∧
      c'.isSampled = true ∧ getField heap' (some c') (some "x-A") = .ok (some "") ∧
      getField heap' (some c') (some "x-b") = .ok none := by
  intro f c heap
  have hf : f.Sound := ⟨by decide, by decide +kernel, by decide +kernel⟩
  have hc : Canonical c "0af7651916cd43dd8448eb211c80319c" "b7ad6b7169203331" :=
    ⟨rfl, rfl, by decide, by decide, by decide, by decide⟩
  have hb : heap.Backs c := by
    intro id hid
    obtain rfl : (⟨0⟩ : StoreId) = id := Option.some.inj hid
    exact ⟨Nat.zero_lt_one, by decide⟩
  obtain ⟨heap₁, r, heap', hset, htrip, hback, hall⟩ :=
    headers_return hf [("x-B", "2"), ("X-a", "")] hc hb
  obtain ⟨c', hr⟩ := Option.isSome_iff_exists.1 (hback.2 (by decide +kernel))
  obtain ⟨-, hspan, hsampled, hget⟩ := hall c' hr
  refine ⟨hf, heap₁, r, heap', c', hset, htrip, hr, hspan, hsampled, ?_, ?_⟩
  · rw [hget]
    exact congrArg Except.ok (by decide +kernel)
  · rw [hget]
    exact congrArg Except.ok (by decide +kernel)

theorem capitals_not_returned :
    let f : HeaderForm := ⟨["x-a"], Text.upper⟩
    let c : TraceContext :=
      { traceId := some "0af7651916cd43dd8448eb211c80319c", spanId := some "b7ad6b7169203331"
        extensions := [.store ⟨0⟩] }
    f.Sound ∧ ∃ r heap', f.trip c { stores := [[(some "x-a", some "1")]] } = .ok (r, heap') ∧
      r.context = none := by
  intro f c
  have hf : f.Sound := ⟨by decide, by decide +kernel, by decide +kernel⟩
  have hc : Canonical c "0af7651916cd43dd8448eb211c80319c" "b7ad6b7169203331" :=
    ⟨rfl, rfl, by decide, by decide, by decide, by decide⟩
  exact ⟨hf, hf.trip_of_not_lower hc _ (by decide +kernel)⟩

end HeaderForm

end TraceFields
