import TraceFields.Proofs.Delegates

namespace TraceFields

namespace Propagation

structure Storeless (p : Propagation) : Prop where
  found {get : Getter} {heap heap' : Heap} {r : Extraction} :
    p.extract get heap = .ok (r, heap') → stores r.found = []
  keeps {get : Getter} {heap heap' : Heap} {r : Extraction} :
    p.extract get heap = .ok (r, heap') → heap.Keeps heap'

lemma Plain.storeless {p : Propagation} (hp : p.Plain) : p.Storeless where
  found h := (hp.extract h).1
  keeps h := .of_stores (hp.extract h).2

structure FieldsOver (key : KeyFactory) (names : List String) (inner p : Propagation) : Prop where
  made : ∃ delegate f, delegate.create key = .ok inner ∧
    FieldScheme.ofCollection (some delegate) (.list (names.map .text)) = .ok f ∧
    f.scheme.create key = .ok p
  storeless : inner.Storeless

namespace FieldsOver

variable {key : KeyFactory} {names : List String} {inner p : Propagation}

lemma eq_withFields (h : FieldsOver key names inner p) :
    p = withFields (.ofNames key (canonicalNames names)) inner := by
  obtain ⟨delegate, f, hinner, hf, hp⟩ := h.made
  have hlayered : FieldScheme.layered delegate [names] = .ok f.scheme := bind_eq_ok.2 ⟨f, hf, rfl⟩
  rw [FieldScheme.eq_stacked_of_layered hlayered] at hp
  obtain ⟨p₀, hp₀, rfl⟩ := FieldScheme.of_create_stacked hp
  obtain rfl := Except.ok.inj (hinner.symm.trans hp₀)
  rfl

lemma extract_store (h : FieldsOver key names inner p) {get : Getter} {heap heap' : Heap}
    {r : Extraction} (hr : p.extract get heap = .ok (r, heap')) :
    heap.Keeps heap' ∧ ∃ id, stores r.found = [id] ∧ ¬ heap.Holds id ∧ heap'.Holds id := by
  rw [h.eq_withFields] at hr
  obtain ⟨r₀, heap₀, hr₀, fields, -, rfl, rfl⟩ := extract_withFields_eq_ok_iff.1 hr
  have hkeeps := h.storeless.keeps hr₀
  refine ⟨hkeeps.trans (.newStore _ _), _, ?_, hkeeps.not_holds (heap₀.not_holds_newStore _),
    heap₀.holds_newStore _⟩
  rw [Extraction.found_append, stores_append, h.storeless.found hr₀]
  rfl

end FieldsOver

end Propagation

inductive Extractions : Heap → List Extraction → Heap → Prop
  | nil (heap : Heap) : Extractions heap [] heap
  | between {heap heap₁ heap₂ : Heap} {rs : List Extraction} (keeps : heap.Keeps heap₁)
      (rest : Extractions heap₁ rs heap₂) : Extractions heap rs heap₂
  | extract {heap heap₁ heap₂ : Heap} {key : KeyFactory} {names : List String}
      {inner p : Propagation} {get : Getter} {r : Extraction} {rs : List Extraction}
      (adds : Propagation.FieldsOver key names inner p)
      (eq_ok : p.extract get heap = .ok (r, heap₁)) (rest : Extractions heap₁ rs heap₂) :
      Extractions heap (r :: rs) heap₂

def Extraction.Unseen (r q : Extraction) : Prop :=
  ∀ c d, r.context = some c → q.context = some d → ∀ heap heap' name value,
    setField heap (some c) name value = .ok heap' →
      ∀ n, getField heap' (some d) n = getField heap (some d) n

lemma Extraction.unseen_of_store?_ne {r q : Extraction} (h : r.store? ≠ q.store?) :
    r.Unseen q := by
  intro c d hc hd heap heap' name value hset n
  apply getField_setField hset (Or.inr _)
  rw [Extraction.store?, Extraction.store?, found, found, hc, hd] at h
  exact h

namespace Extractions

variable {heap heap' : Heap} {rs : List Extraction}

lemma new_stores (h : Extractions heap rs heap') :
    ∀ r ∈ rs, ∃ id, stores r.found = [id] ∧ ¬ heap.Holds id := by
  induction h with
  | nil heap => exact fun r hr => (nomatch hr)
  | between keeps rest ih =>
    intro r hr
    obtain ⟨id, hid, hnew⟩ := ih r hr
    exact ⟨id, hid, keeps.not_holds hnew⟩
  | extract adds eq_ok rest ih =>
    obtain ⟨hkeeps, id, hid, hnew, -⟩ := adds.extract_store eq_ok
    refine List.forall_mem_cons.2 ⟨⟨id, hid, hnew⟩, fun r hr => ?_⟩
    obtain ⟨other, hother, hfresh⟩ := ih r hr
    exact ⟨other, hother, hkeeps.not_holds hfresh⟩

lemma pairwise_store?_ne (h : Extractions heap rs heap') :
    rs.Pairwise fun r q => r.store? ≠ q.store? := by
  induction h with
  | nil heap => exact List.Pairwise.nil
  | between keeps rest ih => exact ih
  | extract adds eq_ok rest ih =>
    refine List.pairwise_cons.2 ⟨fun q hq he => ?_, ih⟩
    obtain ⟨-, id, hid, -, hheld⟩ := adds.extract_store eq_ok
    obtain ⟨other, hother, hfresh⟩ := rest.new_stores q hq
    -- The later store is new in a heap that has the earlier one.
    rw [Extraction.store?, Extraction.store?, firstStore?_eq_head?, firstStore?_eq_head?, hid,
      hother] at he
    cases he
    exact hfresh hheld

end Extractions

theorem extract_adds_own_store {key : KeyFactory} {names : List String} {inner p : Propagation}
    (h : Propagation.FieldsOver key names inner p) :
    (∀ look heap fault, inner.extract (.ofLookup look) heap = .error fault →
      p.extract (.ofLookup look) heap = .error fault) ∧
    (∀ look heap r₀ heap₀, inner.extract (.ofLookup look) heap = .ok (r₀, heap₀) →
      ∃ r id heap', p.extract (.ofLookup look) heap = .ok (r, heap') ∧
        (∀ c, r₀.context = some c →
          r = { r₀ with
            context := some { c with extensions := c.extensions ++ [.store id] } }) ∧
        (r₀.context = none → r = { r₀ with extensions := r₀.extensions ++ [.store id] }) ∧
        (r₀ = .empty → r = { extensions := [.store id] }) ∧
        r.store? = some id ∧ ¬ heap₀.Holds id ∧
        heap'.fields id =
          .ofTexts ((canonicalNames names).filterMap fun n => (look (key n)).map (n, ·)) ∧
        (∀ other, other ≠ id → heap'.fields other = heap₀.fields other) ∧
        heap'.markers = heap₀.markers) ∧
    ∀ heap rs heap', Extractions heap rs heap' →
      (∀ r ∈ rs, ∃ id, stores r.found = [id] ∧ ¬ heap.Holds id) ∧
      rs.Pairwise fun r q => r.store? ≠ q.store? ∧ r.Unseen q ∧ q.Unseen r := by
  refine ⟨fun look heap fault hfault => ?_, fun look heap r₀ heap₀ hr₀ => ?_,
    fun heap rs heap' hrs => ⟨hrs.new_stores, ?_⟩⟩
  · rw [h.eq_withFields, Propagation.withFields]
    simp only [hfault]
    rfl
  · have hfields : collect (.ofLookup look) (.ofNames key (canonicalNames names)) =
        .ok ((canonicalNames names).filterMap fun n => (look (key n)).map (n, ·)) := by
      rw [collect_ofLookup, KeyTable.ofNames, List.filterMap_map]
      rfl
    have hr := Propagation.extract_withFields_eq_ok_iff.2 ⟨r₀, heap₀, hr₀, _, hfields, rfl, rfl⟩
    rw [← h.eq_withFields] at hr
    refine ⟨_, _, _, hr, ?_, ?_, ?_, ?_, heap₀.not_holds_newStore _, heap₀.fields_newStore_self _,
      fun other hne => Heap.fields_newStore_of_ne hne.symm, rfl⟩
    · intro c hc
      rw [Extraction.append, hc]
      rfl
    · intro hnone
      rw [Extraction.append, hnone]
    · rintro rfl
      rfl
    · rw [Extraction.store?, Extraction.found_append, firstStore?_eq_head?, stores_append,
        h.storeless.found hr₀]
      rfl
  · exact hrs.pairwise_store?_ne.imp fun hne =>
      ⟨hne, Extraction.unseen_of_store?_ne hne, Extraction.unseen_of_store?_ne hne.symm⟩

theorem extract_adds_own_store_three_extractions :
    let inner := Propagation.identity (.ofNames .text Scheme.identityNames)
    let carrier : Carrier :=
      [(.text "traceparent", some "00-0af7651916cd43dd8448eb211c80319c-b7ad6b7169203331-01"),
        (.text "x-a", some "")]
    ∃ p q, Propagation.FieldsOver .text ["X-A", "x-b"] inner p ∧
      Propagation.FieldsOver .text ["x-b"] (.sampling (.text "x-sampled")) q ∧
      ∃ r₁ heap₁ r₂ heap₂ id heap₃, p.extract carrier.lookup {} = .ok (r₁, heap₁) ∧
        p.extract carrier.lookup heap₁ = .ok (r₂, heap₂) ∧
        q.extract (.ofLookup fun _ => none) heap₂ = .ok ({ extensions := [.store id] }, heap₃) ∧
        r₁.context.isSome ∧ r₁.store?.map heap₁.fields = some [(some "x-a", some "")] ∧
        r₁.store? ≠ r₂.store? ∧ r₁.Unseen r₂ ∧ r₂.Unseen r₁ ∧ r₂.store? ≠ some id := by
  intro inner carrier
  have hp : Propagation.FieldsOver .text ["X-A", "x-b"] inner _ :=
    ⟨⟨.identity, _, rfl, FieldScheme.ofCollection_texts .identity (by simp), rfl⟩,
      (Propagation.plain_identity _).storeless⟩
  have hq : Propagation.FieldsOver .text ["x-b"] (.sampling (.text "x-sampled")) _ :=
    ⟨⟨.sampling, _, rfl, FieldScheme.ofCollection_texts .sampling (by simp), rfl⟩,
      (Propagation.plain_sampling _).storeless⟩
  obtain ⟨-, hone, hall⟩ := extract_adds_own_store hp
  obtain ⟨-, hnothing, -⟩ := extract_adds_own_store hq
  have hinner := Propagation.extractFrom_identity (.ofNames .text Scheme.identityNames) carrier
  obtain ⟨c, hc⟩ : ∃ c, (Propagation.identityFound (.ofNames .text Scheme.identityNames)
      carrier).context = some c := Option.isSome_iff_exists.1 (by decide +kernel)
  obtain ⟨r₁, id₁, heap₁, h₁, hcontext, -, -, hid₁, -, hfields, -⟩ := hone _ {} _ _ (hinner {})
  obtain ⟨r₂, id₂, heap₂, h₂, -⟩ := hone _ heap₁ _ _ (hinner heap₁)
  obtain ⟨r₃, id₃, heap₃, h₃, -, -, hempty, -⟩ := hnothing (fun _ => none) heap₂ .empty heap₂ rfl
  obtain rfl := hempty rfl
  obtain ⟨-, hapart⟩ := hall {} _ heap₃ (.extract hp h₁ (.extract hp h₂ (.extract hq h₃ (.nil _))))
  obtain ⟨hfirst, hrest⟩ := List.pairwise_cons.1 hapart
  obtain ⟨hne, hunseen, hunseen'⟩ := hfirst r₂ (by simp)
  obtain ⟨hne', -⟩ := (List.pairwise_cons.1 hrest).1 _ (List.mem_singleton_self _)
  refine ⟨_, _, hp, hq, r₁, heap₁, r₂, heap₂, id₃, heap₃, h₁, h₂, h₃, ?_, ?_, hne, hunseen,
    hunseen', hne'⟩
  · rw [hcontext c hc]
    rfl
  · rw [hid₁, Option.map_some, hfields]
    decide +kernel

end TraceFields
