import TraceFields.Proofs.Footprint
import TraceFields.Proofs.IdentityHeaders
import TraceFields.Proofs.StateHeader

namespace TraceFields

open Identity (parentName stateName)
open KeyTable (ofNames)

lemma KeyTable.ne_absent_of_key? {table : KeyTable} {n : String} {k : Key}
    (h : table.key? n = some k) : k ≠ .absent := by
  simpa using (Option.filter_eq_some_iff.1 h).2

section Inject

variable {set set' : Setter} (h : ∀ k ≠ .absent, set k = set' k)

include h

lemma sendAll_congr (table : KeyTable) (values : List (String × Option String)) :
    sendAll set table values = sendAll set' table values := by
  induction values with
  | nil => rfl
  | cons e values ih =>
    rw [sendAll_cons, sendAll_cons]
    cases hk : table.key? e.1 with
    | none => exact ih
    | some k => simp only [h k (KeyTable.ne_absent_of_key? hk), ih]

lemma Propagation.inject_identity_congr (table : KeyTable) (c : TraceContext) :
    (identity table).inject set c = (identity table).inject set' c := by
  simp only [identity, sendAll_congr h]

lemma Propagation.inject_withFields_congr {inner : Propagation} {c : TraceContext}
    (hinner : inner.inject set c = inner.inject set' c) (table : KeyTable) :
    (withFields table inner).inject set c = (withFields table inner).inject set' c := by
  have hfields : ∀ id, sendFields set table id = sendFields set' table id := by
    intro id
    cases id with
    | none => rfl
    | some id => simp only [sendFields, sendAll_congr h]
  simp only [withFields, hfields, hinner]

end Inject

namespace Carrier

def unkeyed (c : Carrier) : Option String := (Entries.at? c .absent).join

lemma lookup_without (c : Carrier) (k : Key) :
    lookup (c.without .absent) k = if k = .absent then .ok none else c.lookup k := by
  rw [lookup, Entries.at?_without]
  split <;> rfl

end Carrier

lemma KeyTable.found_without_iff (key : KeyFactory) (names : List String) (carrier : Carrier) :
    (ofNames key names).found carrier = (ofNames key names).found (carrier.without .absent) ↔
      ∀ text, carrier.unkeyed = some text → ∀ n ∈ names, key n ≠ .absent := by
  constructor
  · intro h text ht n hn hk
    have hat : Entries.at? _ n = Entries.at? _ n := congrArg (Entries.at? · n) h
    rw [KeyTable.at?_found, KeyTable.at?_found, if_pos hn, if_pos hn, Entries.at?_without,
      if_pos hk, hk] at hat
    exact Option.some_ne_none text (ht.symm.trans hat)
  · intro h
    refine KeyTable.found_congr fun k hk => ?_
    rw [Carrier.lookup_without]
    split
    · next habsent =>
      obtain ⟨n, hn, rfl⟩ : ∃ n ∈ names, key n = k := by simpa [ofNames] using hk
      have hnone : carrier.unkeyed = none :=
        Option.eq_none_iff_forall_ne_some.2 fun text ht => h text ht n hn habsent
      rw [habsent]
      exact congrArg Except.ok hnone
    · rfl

lemma Fields.ofTexts_injective : Function.Injective Fields.ofTexts :=
  List.map_injective_iff.2 fun _ _ h => by simpa [Prod.ext_iff] using h

lemma layeredDescription_eq_iff {key : KeyFactory} {layers : List (List String)} {c d : Carrier} :
    layeredDescription key layers c = layeredDescription key layers d ↔
      Identity.ofHeaders? ((ofNames key Scheme.identityNames).found c) =
          Identity.ofHeaders? ((ofNames key Scheme.identityNames).found d) ∧
        layerContents key layers c = layerContents key layers d := by
  have hparts : ∀ cs ds : List Fields, cs.map Part.fields = ds.map Part.fields ↔ cs = ds :=
    fun _ _ => (List.map_injective_iff.2 fun _ _ => Part.fields.inj).eq_iff
  rw [layeredDescription, layeredDescription]
  cases Identity.ofHeaders? ((ofNames key Scheme.identityNames).found c) <;>
    cases Identity.ofHeaders? ((ofNames key Scheme.identityNames).found d) <;> simp [hparts]

namespace Identity

lemma context?_eq_none_iff {parent : String} {state : Option String} :
    context? parent state = none ↔ Traceparent.read? parent = none := by
  rw [Canonical.context?_eq, Option.map_eq_none_iff]

lemma context?_state_iff {parent state : String} :
    context? parent (some state) = context? parent none ↔
      Traceparent.read? parent = none ∨ Tracestate.ofHeader state = [] := by
  rw [Canonical.context?_eq, Canonical.context?_eq]
  cases Traceparent.read? parent with
  | none => simp
  | some p =>
    have hbare : (Tracestate.ofHeader "").text? = none := rfl
    simp only [Option.map_some, Option.some.injEq, reduceCtorEq, false_or, Option.getD_some,
      Option.getD_none, hbare]
    rw [← Tracestate.text?_eq_none_iff]
    exact ⟨fun h => congrArg TraceContext.traceState h, fun h => by rw [h]⟩

structure Unheard (key : KeyFactory) (carrier : Carrier) (text : String) : Prop where
  parent : key parentName = .absent → Traceparent.read? text = none
  state : key stateName = .absent → key parentName ≠ .absent → ∀ parent,
    (Entries.at? carrier (key parentName)).join = some parent →
      Traceparent.read? parent = none ∨ Tracestate.ofHeader text = []

lemma ofHeaders?_without_iff (key : KeyFactory) (carrier : Carrier) :
    ofHeaders? ((ofNames key Scheme.identityNames).found carrier) =
        ofHeaders? ((ofNames key Scheme.identityNames).found (carrier.without .absent)) ↔
      ∀ text, carrier.unkeyed = some text → Unheard key carrier text := by
  rw [ofHeaders?_found, ofHeaders?_found, Entries.at?_without, Entries.at?_without]
  by_cases hp : key parentName = .absent
  · rw [if_pos hp, Option.join_none, Option.bind_none, Option.bind_eq_none_iff, hp]
    constructor
    · exact fun h text ht => ⟨fun _ => context?_eq_none_iff.1 (h text ht), fun _ hn => absurd hp hn⟩
    · exact fun h text ht => context?_eq_none_iff.2 ((h text ht).parent hp)
  · rw [if_neg hp]
    by_cases hs : key stateName = .absent
    · rw [if_pos hs, hs, Option.join_none]
      change Option.bind _ (context? · carrier.unkeyed) = Option.bind _ (context? · none) ↔ _
      cases carrier.unkeyed with
      | none => exact ⟨fun _ _ h => (nomatch h), fun _ => rfl⟩
      | some text =>
        constructor
        · rintro h _ ⟨⟩
          refine ⟨fun hn => absurd hn hp, fun _ _ parent hparent => ?_⟩
          rw [hparent] at h
          exact context?_state_iff.1 h
        · intro h
          exact Option.bind_congr fun parent hparent =>
            context?_state_iff.2 ((h text rfl).state hs hp parent hparent)
    · rw [if_neg hs]
      exact ⟨fun _ text _ => ⟨fun hn => absurd hn hp, fun hn => absurd hn hs⟩, fun _ => rfl⟩

end Identity

lemma layeredDescription_without_iff (key : KeyFactory) (names : List String) (carrier : Carrier) :
    layeredDescription key [names] carrier =
        layeredDescription key [names] (carrier.without .absent) ↔
      ∀ text, carrier.unkeyed = some text →
        (∀ n ∈ names, key n ≠ .absent) ∧ Identity.Unheard key carrier text := by
  have hcontents : layerContents key [names] carrier =
      layerContents key [names] (carrier.without .absent) ↔
        (ofNames key names).found carrier = (ofNames key names).found (carrier.without .absent) :=
    List.singleton_inj.trans Fields.ofTexts_injective.eq_iff
  rw [layeredDescription_eq_iff, Identity.ofHeaders?_without_iff, hcontents,
    KeyTable.found_without_iff]
  exact ⟨fun h text ht => ⟨h.2 text ht, h.1 text ht⟩,
    fun h => ⟨fun text ht => (h text ht).2, fun text ht => (h text ht).1⟩⟩

/-- Fields over the identity send nothing under no key. What a carrier has under no key is read for
all declared names without one, so the same is extracted as if it were not there exactly if all
declared names have a key and no header without one is understood. -/
theorem keyless_names_read {names : List String} (hn : names ≠ []) (key : KeyFactory) :
    ∃ f p, FieldScheme.ofCollection (some .identity) (.list (names.map .text)) = .ok f ∧
      f.scheme.create key = .ok p ∧
      (∀ set set' : Setter, (∀ k ≠ .absent, set k = set' k) →
        ∀ c, p.inject set c = p.inject set' c) ∧
      ∀ carrier heap, ∃ r heap₁ q heap₂, p.extractFrom carrier heap = .ok (r, heap₁) ∧
        p.extractFrom (carrier.without .absent) heap = .ok (q, heap₂) ∧
        (∀ n ∈ canonicalNames names, key n = .absent →
          heap₁.valueIn r n = carrier.unkeyed ∧ heap₂.valueIn q n = none) ∧
        (heap₁.describe r = heap₂.describe q ↔ ∀ text, carrier.unkeyed = some text →
          (∀ n ∈ canonicalNames names, key n ≠ .absent) ∧ Identity.Unheard key carrier text) := by
  let layers := [canonicalNames names]
  have hextract := fun carrier heap => Propagation.extractFrom_stacked
    (Propagation.extractFrom_identity (ofNames key Scheme.identityNames) carrier heap) key layers
  have hvalue : ∀ (carrier : Carrier) (heap : Heap), ∀ n ∈ canonicalNames names, key n = .absent →
      (heap.withStores (layerContents key layers carrier)).valueIn
        (layeredFound key carrier heap layers) n = carrier.unkeyed := by
    intro carrier heap n hmem hk
    rw [valueIn_layeredFound, if_pos hmem, hk, Carrier.unkeyed]
  refine ⟨_, _, FieldScheme.ofCollection_texts .identity hn, rfl, ?_, ?_⟩
  · exact fun set set' h c =>
      Propagation.inject_withFields_congr h (Propagation.inject_identity_congr h _ c) _
  · intro carrier heap
    refine ⟨_, _, _, _, hextract carrier heap, hextract (carrier.without .absent) heap, ?_, ?_⟩
    · intro n hmem hk
      have hwithout : Carrier.unkeyed (carrier.without .absent) = none := by
        rw [Carrier.unkeyed, Entries.at?_without, if_pos rfl, Option.join_none]
      exact ⟨hvalue carrier heap n hmem hk, (hvalue _ heap n hmem hk).trans hwithout⟩
    · rw [← layeredDescription_without_iff, ← describe_layeredFound key _ carrier heap,
        ← describe_layeredFound key _ _ heap]
      rfl

theorem keyless_names_read_two_names :
    let key : KeyFactory := fun n => if n = "x-b" ∨ n = stateName then .absent else .text n
    let carrier : Carrier := [(.text "x-a", some "1"), (.absent, some "a=1")]
    ∃ f p r heap₁ q heap₂,
      FieldScheme.ofCollection (some .identity) (.list (["X-A", "x-b"].map .text)) = .ok f ∧
      f.scheme.create key = .ok p ∧ p.extractFrom carrier {} = .ok (r, heap₁) ∧
      p.extractFrom (carrier.without .absent) {} = .ok (q, heap₂) ∧
      heap₁.valueIn r "x-b" = some "a=1" ∧ heap₂.valueIn q "x-b" = none ∧
      heap₁.describe r ≠ heap₂.describe q := by
  intro key carrier
  obtain ⟨f, p, hf, hp, -, hextract⟩ := keyless_names_read (show ["X-A", "x-b"] ≠ [] by simp) key
  obtain ⟨r, heap₁, q, heap₂, h₁, h₂, hvalue, hsame⟩ := hextract carrier {}
  have hmem : "x-b" ∈ canonicalNames ["X-A", "x-b"] := by decide +kernel
  obtain ⟨hread, hnone⟩ := hvalue "x-b" hmem rfl
  refine ⟨f, p, r, heap₁, q, heap₂, hf, hp, h₁, h₂, hread, hnone, fun h => ?_⟩
  exact (hsame.1 h "a=1" rfl).1 "x-b" hmem rfl

theorem unkeyed_value_read :
    let key : KeyFactory := fun n => if n = "x-a" then .absent else .text n
    let c : TraceContext := .ofExtensions [.store ⟨0⟩]
    let d : Delivery := ⟨{ stores := [[(some "x-a", some "1")]] }, []⟩
    ∃ f p r heap,
      FieldScheme.ofCollection (some .identity) (.list (["x-a"].map .text)) = .ok f ∧
      f.scheme.create key = .ok p ∧ ((p.inject Carrier.assign c).run.run d).2.carrier = [] ∧
      p.extractFrom [(.absent, some "1")] {} = .ok (r, heap) ∧
      heap.valueIn r "x-a" = some "1" := by
  refine ⟨_, _, _, _, FieldScheme.ofCollection_texts .identity (by simp), rfl, ?_,
    Propagation.extractFrom_withFields (Propagation.extractFrom_identity _ _ _) _, ?_⟩
  · decide +kernel
  · decide +kernel

end TraceFields
