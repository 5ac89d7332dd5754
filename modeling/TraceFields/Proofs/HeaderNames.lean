import Mathlib.Data.List.Nodup
import TraceFields.Proofs.Footprint
import TraceFields.Requests

namespace TraceFields

namespace Entries

variable {κ ι α : Type} [DecidableEq κ] [DecidableEq ι]

lemma at?_eq_some_iff {es : Entries κ α} (hn : (keys es).Nodup) {k : κ} {v : α} :
    at? es k = some v ↔ (k, v) ∈ es :=
  ⟨mem_of_at?, at?_of_mem hn⟩

lemma at?_congr_of_mem {es fs : Entries κ α} (he : (keys es).Nodup) (hf : (keys fs).Nodup)
    (h : ∀ e, e ∈ es ↔ e ∈ fs) (k : κ) : at? es k = at? fs k := by
  apply Option.ext
  intro v
  rw [at?_eq_some_iff he, at?_eq_some_iff hf, h]

lemma at?_map_key {f : κ → ι} {es : Entries κ α} {k : κ} (hf : ∀ m ∈ keys es, f m = f k → m = k) :
    at? (es.map fun e => (f e.1, e.2)) (f k) = at? es k := by
  induction es with
  | nil => rfl
  | cons e es ih =>
    obtain ⟨m, v⟩ := e
    have hrest := ih fun m hm => hf m (List.mem_cons_of_mem _ hm)
    by_cases h : m = k
    · simp [at?, h]
    · have hne : f m ≠ f k := fun he => h (hf m List.mem_cons_self he)
      simp [at?, h, hne, hrest]

end Entries

namespace Headers

def named (headers : Carrier) : Entries String (Option String) :=
  headers.map fun e => (Text.lower e.1.shown, e.2)

variable {headers others : Carrier}

lemma nodup_texts {es : Entries String (Option String)} (h : (Entries.keys es).Nodup) :
    (Entries.keys (es.map fun e => (Key.text e.1, e.2))).Nodup := by
  have hkeys : Entries.keys (es.map fun e => (Key.text e.1, e.2)) = (Entries.keys es).map .text := by
    simp [Entries.keys, Function.comp_def]
  rw [hkeys]
  exact List.Nodup.map (fun _ _ => Key.text.inj) h

lemma lowered_eq (h : (Entries.keys (named headers)).Nodup) :
    lowered headers = (named headers).map fun e => (Key.text e.1, e.2) := by
  have hpairs : lowered headers =
      Entries.ofPairs ((named headers).map fun e => (Key.text e.1, e.2)) := by
    simp [lowered, named, Function.comp_def]
  rw [hpairs, Entries.ofPairs_of_nodup (nodup_texts h)]

lemma at?_lowered (h : (Entries.keys (named headers)).Nodup) (name : String) :
    Entries.at? (lowered headers) (.text name) = Entries.at? (named headers) name := by
  rw [lowered_eq h]
  exact Entries.at?_map_key fun _ _ => Key.text.inj

lemma at?_lowered_congr (h : (Entries.keys (named headers)).Nodup)
    (h' : (Entries.keys (named others)).Nodup) (hsame : ∀ e, e ∈ named headers ↔ e ∈ named others)
    (k : Key) : Entries.at? (lowered headers) k = Entries.at? (lowered others) k := by
  rw [lowered_eq h, lowered_eq h']
  apply Entries.at?_congr_of_mem (nodup_texts h) (nodup_texts h')
  intro e
  simp only [List.mem_map, hsame]

theorem extract_recased {layers : List (List String)} {key : KeyFactory} {p : Propagation}
    (hp : (FieldScheme.layered .identity layers >>= fun s => s.create key) = .ok p)
    (h : (Entries.keys (named headers)).Nodup) (h' : (Entries.keys (named others)).Nodup)
    (hsame : ∀ e, e ∈ named headers ↔ e ∈ named others) (heap heap' : Heap) :
    ∃ r₁ heap₁ r₂ heap₂, extract headers p heap = .ok (r₁, heap₁) ∧
      extract others p heap' = .ok (r₂, heap₂) ∧ heap₁.describe r₁ = heap₂.describe r₂ ∧
      (∀ id ∈ stores r₁.found, ¬ heap.Holds id) ∧ ∀ id ∈ stores r₂.found, ¬ heap'.Holds id := by
  obtain ⟨r₁, heap₁, he₁, hd₁, hnew₁⟩ := extractFrom_layered hp (lowered headers) heap
  obtain ⟨r₂, heap₂, he₂, hd₂, hnew₂⟩ := extractFrom_layered hp (lowered others) heap'
  refine ⟨r₁, heap₁, r₂, heap₂, he₁, he₂, ?_, hnew₁, hnew₂⟩
  rw [hd₁, hd₂]
  apply layeredDescription_congr
  intro k _
  rw [Carrier.lookup, Carrier.lookup, at?_lowered_congr h h' hsame]

theorem extract_recased_two_layers :
    let parent := "00-0af7651916cd43dd8448eb211c80319c-b7ad6b7169203331-01"
    let headers : Carrier :=
      [(.text "X-A", some "1"), (.text "TraceParent", some parent), (.text "x-B", some "")]
    let others : Carrier :=
      [(.text "X-b", some ""), (.text "x-a", some "1"), (.text "TRACEPARENT", some parent)]
    ∃ p, (FieldScheme.layered .identity [["x-b", "X-A"], ["x-a"]] >>= fun s => s.create .text) =
        .ok p ∧
      ∃ r₁ heap₁ r₂ heap₂, extract headers p {} = .ok (r₁, heap₁) ∧
        extract others p { stores := [[]] } = .ok (r₂, heap₂) ∧
        heap₁.describe r₁ = heap₂.describe r₂ := by
  intro parent headers others
  have hp : (FieldScheme.layered .identity [["x-b", "X-A"], ["x-a"]] >>= fun s => s.create .text) =
      .ok _ :=
    FieldScheme.create_layered rfl (by decide)
  have hperm : (named headers).Perm (named others) := by decide +kernel
  have hdistinct : ((named headers).map Prod.fst).Nodup := by decide +kernel
  have hdistinct' : ((named others).map Prod.fst).Nodup := by decide +kernel
  obtain ⟨r₁, heap₁, r₂, heap₂, h₁, h₂, hd, -⟩ :=
    extract_recased hp hdistinct hdistinct' (fun _ => hperm.mem_iff) {} { stores := [[]] }
  exact ⟨_, hp, r₁, heap₁, r₂, heap₂, h₁, h₂, hd⟩

end Headers

end TraceFields
