import TraceFields.Proofs.Relay

namespace TraceFields

open KeyTable (addressed ofNames)

def afterSets (c : TraceContext) (heap : Heap) (sets : List (String × String)) (name : String) :
    Option (Option String) :=
  if c.store?.isSome then
    ((lastSet sets name).map some).or
      (Entries.at? (heap.fieldsOf c.store?) (some (canonicalName name)))
  else none

lemma Heap.Backs.setFields {heap : Heap} {c : TraceContext} (hb : heap.Backs c)
    (sets : List (String × String)) :
    ∃ heap', setFields c sets heap = .ok heap' ∧
      (Entries.keys (heap'.fieldsOf c.store?)).Nodup ∧
      ∀ name, Entries.at? (heap'.fieldsOf c.store?) (some (canonicalName name)) =
        afterSets c heap sets name := by
  cases hid : c.store? with
  | none =>
    refine ⟨heap, setFields_of_no_store hid sets heap, List.nodup_nil, fun name => ?_⟩
    simp [afterSets, hid, Heap.fieldsOf]
  | some id =>
    obtain ⟨hheld, hdistinct⟩ := hb id hid
    obtain ⟨heap', hset, -, hfields⟩ := setFields_of_store hid sets hheld
    refine ⟨heap', hset, ?_, fun name => ?_⟩
    · change (Entries.keys (heap'.fields id)).Nodup
      rw [hfields]
      exact Entries.nodup_keys_putAll hdistinct _
    · change Entries.at? (heap'.fields id) _ = _
      rw [hfields, Entries.at?_putAll, at?_setEntries_reverse, afterSets, hid]
      rfl

lemma KeyTable.at?_addressed_text {fields : Fields} (hd : (Entries.keys fields).Nodup)
    (names : List String) (n : String) :
    Entries.at? (addressed (ofNames .text names) fields.named).reverse (.text n) =
      if n ∈ names then Entries.at? fields (some n) else none := by
  rw [← addressed_reverse]
  split
  · next hn =>
    have hkey : (ofNames .text names).key? n = some (.text n) := key?_eq_some.2 ⟨hn, rfl, by simp⟩
    have hunique : ∀ m, (ofNames .text names).key? m = some (.text n) → m = n := fun m hm =>
      Key.text.inj (key?_eq_some.1 hm).2.1
    rw [at?_addressed hkey hunique, ← Fields.named_reverse, Fields.at?_named,
      Entries.at?_reverse hd]
  · next hn =>
    apply at?_addressed_of_forall_ne
    intro m hm
    obtain ⟨hmem, he, -⟩ := key?_eq_some.1 hm
    exact hn (Key.text.inj he ▸ hmem)

/-- Sending a context with fields and sending it without them fail alike. Under each name there is
the header that stands there without fields, and if there is none, the field of that name, if it is
declared and the context has it. -/
theorem inject_headers_over_fields {names : List String} (hn : names ≠ []) {c : TraceContext}
    {heap : Heap} (hb : heap.Backs c) (sets : List (String × String)) :
    ∃ f p q heap', FieldScheme.ofCollection (some .identity) (.list (names.map .text)) = .ok f ∧
      f.scheme.create .text = .ok p ∧ Scheme.identity.create .text = .ok q ∧
      setFields c sets heap = .ok heap' ∧
      (p.injectInto c heap' []).1 = (q.injectInto c heap' []).1 ∧
      ∀ n, Entries.at? (p.injectInto c heap' []).2.carrier (.text n) =
        (Entries.at? (q.injectInto c heap' []).2.carrier (.text n)).or
          (if n ∈ canonicalNames names then afterSets c heap sets n else none) := by
  obtain ⟨heap', hset, hdistinct, hvalue⟩ := hb.setFields sets
  have hf := FieldScheme.ofCollection_texts .identity hn
  refine ⟨_, _, _, heap', hf, rfl, rfl, hset, ?_, fun n => ?_⟩
  · rw [Propagation.injectInto_withFields, Propagation.injectInto_identity_eq,
      Propagation.injectInto_identity_eq]
  · rw [Propagation.injectInto_withFields, Propagation.injectInto_identity_eq,
      Propagation.injectInto_identity_eq]
    simp only [Entries.at?_putAll, KeyTable.at?_addressed_text hdistinct, Entries.at?_nil,
      Option.or_none]
    split
    · next hmem =>
      have hn := hvalue n
      rw [canonicalName_of_mem hmem] at hn
      rw [hn]
    · rfl

theorem inject_headers_over_fields_both_names :
    let c : TraceContext :=
      { traceId := some "0af7651916cd43dd8448eb211c80319c", spanId := some "b7ad6b7169203331"
        traceState := some "a=1", extensions := [.store ⟨0⟩] }
    let sets := [("TraceState", "b=2"), ("traceparent", "00"), ("x-a", "1"), ("X-A", "2")]
    ∃ f p q heap', FieldScheme.ofCollection (some .identity)
        (.list [.text "TraceParent", .text "TraceState", .text "x-a"]) = .ok f ∧
      f.scheme.create .text = .ok p ∧ Scheme.identity.create .text = .ok q ∧
      setFields c sets ⟨[[]], []⟩ = .ok heap' ∧
      Entries.at? (q.injectInto c heap' []).2.carrier (.text "tracestate") = some (some "a=1") ∧
      Entries.at? (p.injectInto c heap' []).2.carrier (.text "tracestate") = some (some "a=1") ∧
      Entries.at? (p.injectInto c heap' []).2.carrier (.text "x-a") = some (some "2") := by
  intro c sets
  have hb : Heap.Backs ⟨[[]], []⟩ c := by
    intro id hid
    obtain rfl : (⟨0⟩ : StoreId) = id := Option.some.inj hid
    exact ⟨Nat.zero_lt_one, by decide⟩
  have hn : ["TraceParent", "TraceState", "x-a"] ≠ [] := by decide
  obtain ⟨f, p, q, heap', hf, hp, hq, hset, -, hat⟩ := inject_headers_over_fields hn hb sets
  refine ⟨f, p, q, heap', hf, hp, hq, hset, ?_⟩
  rw [hat, hat]
  cases hq
  rw [Propagation.injectInto_identity_eq]
  dsimp only
  exact ⟨by decide +kernel, by decide +kernel, by decide +kernel⟩

theorem field_left_for_missing_state :
    let c : TraceContext :=
      { traceId := some "0af7651916cd43dd8448eb211c80319c", spanId := some "b7ad6b7169203331"
        extensions := [.store ⟨0⟩] }
    ∃ f p q heap', FieldScheme.ofCollection (some .identity) (.list [.text "tracestate"]) = .ok f ∧
      f.scheme.create .text = .ok p ∧ Scheme.identity.create .text = .ok q ∧
      setFields c [("tracestate", "a=1")] ⟨[[]], []⟩ = .ok heap' ∧
      Entries.at? (p.injectInto c heap' []).2.carrier (.text "tracestate") = some (some "a=1") ∧
      Entries.at? (q.injectInto c heap' []).2.carrier (.text "tracestate") = none := by
  intro c
  have hn : ["tracestate"] ≠ [] := by decide
  have hf := FieldScheme.ofCollection_texts .identity hn
  refine ⟨_, _, _, _, hf, rfl, rfl, rfl, ?_, ?_⟩
  · rw [Propagation.injectInto_withFields, Propagation.injectInto_identity_eq]
    decide +kernel
  · rw [Propagation.injectInto_identity_eq]
    decide +kernel

end TraceFields
