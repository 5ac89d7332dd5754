import Mathlib.Data.List.Basic
import TraceFields.Proofs.Layers
import TraceFields.Script.Exchange

/-!
The keys of a propagation are all that it touches.
-/

namespace TraceFields

namespace Carrier

def outside (c : Carrier) (keys : List Key) : Carrier := c.filter fun e => e.1 ∉ keys

lemma outside_of_subset {c d : Carrier} {keys more : List Key} (hk : keys ⊆ more)
    (h : c.outside keys = d.outside keys) : c.outside more = d.outside more := by
  have hf : ∀ c : Carrier, (c.outside keys).outside more = c.outside more := by
    intro c
    rw [outside, outside, outside, List.filter_filter]
    apply List.filter_congr
    intro e _
    by_cases he : e.1 ∈ more
    · simp [he]
    · have hn : e.1 ∉ keys := fun hm => he (hk hm)
      simp [he, hn]
  rw [← hf c, h, hf d]

lemma outside_put (c : Carrier) (key : Key) (value : Option String) :
    outside (c.put key value) [key] = c.outside [key] := by
  induction c with
  | nil => simp [Entries.put, outside]
  | cons e c ih =>
    obtain ⟨k, v⟩ := e
    by_cases h : k = key
    · simp [Entries.put, outside, h]
    · simpa [Entries.put, outside, h] using ih

end Carrier

namespace Sending

variable {α β : Type} {keys : List Key}

def Within (m : Sending α) (keys : List Key) : Prop :=
  ∀ d, (m.run.run d).2.carrier.outside keys = d.carrier.outside keys

@[simp] lemma within_pure (a : α) : Within (pure a) keys := fun _ => rfl

@[simp] lemma within_throw (fault : Fault) : Within (throw fault : Sending α) keys := fun _ => rfl

@[simp] lemma within_get : Within get keys := fun _ => rfl

@[simp] lemma within_lift (x : Except Fault α) : Within (liftM x : Sending α) keys := by
  intro d
  cases x <;> rfl

lemma within_bind {m : Sending α} {f : α → Sending β} (hm : Within m keys)
    (hf : ∀ a, Within (f a) keys) : Within (m >>= f) keys := by
  intro d
  have h := hm d
  rw [run_bind]
  generalize m.run.run d = x at h ⊢
  obtain ⟨_ | a, d'⟩ := x
  · exact h
  · exact (hf a d').trans h

lemma Within.mono {m : Sending α} {more : List Key} (h : Within m keys) (hk : keys ⊆ more) :
    Within m more := fun d => Carrier.outside_of_subset hk (h d)

end Sending

open Sending

def Setter.Local (set : Setter) : Prop := ∀ key value, Within (set key value) [key]

lemma Carrier.local_assign : Setter.Local assign :=
  fun key value d => d.carrier.outside_put key value

lemma Script.SetterRule.local_setter (rule : SetterRule) (registers : Entries String Object)
    {put : Setter} (hput : put.Local) : Setter.Local (rule.setter registers put) := by
  intro key value
  have hset : ∀ (heap : Except Fault Heap) (d : Delivery),
      (((do set (⟨← heap, d.carrier⟩ : Delivery); put key value) : Sending Unit).run.run
        d).2.carrier.outside [key] = d.carrier.outside [key] := by
    intro heap d
    cases heap with
    | error fault => rfl
    | ok heap => exact hput key value ⟨heap, d.carrier⟩
  obtain ⟨failOn, reentry⟩ := rule
  unfold setter
  dsimp only
  cases reentry with
  | none =>
    split
    · exact within_bind (within_throw _) fun _ => hput key value
    · exact hput key value
  | some r =>
    split
    · exact within_bind (within_throw _) fun _ => within_bind (within_lift _) fun o d => hset _ d
    · exact within_bind (within_lift _) fun o d => hset _ d

lemma within_sendAll {set : Setter} (hset : set.Local) (table : KeyTable)
    (values : List (String × Option String)) :
    Within (sendAll set table values) (table.map Prod.snd) := by
  induction values with
  | nil => exact within_pure ()
  | cons e values ih =>
    rw [sendAll_cons]
    cases hk : table.key? e.1 with
    | none => exact ih
    | some k =>
      have hmem : [k] ⊆ table.map Prod.snd := by
        have hat := (Option.filter_eq_some_iff.1 hk).1
        exact List.cons_subset.2 ⟨List.mem_map_of_mem (Entries.mem_of_at? hat), List.nil_subset _⟩
      exact within_bind ((hset k e.2).mono hmem) fun _ => ih

namespace Propagation

def Confined (p : Propagation) : Prop :=
  ∀ set : Setter, set.Local → ∀ c, Within (p.inject set c) p.keys

lemma confined_identity (table : KeyTable) : (identity table).Confined := by
  intro set hset c
  simp only [identity]
  cases Identity.headers c with
  | ok hs => exact within_sendAll hset _ _
  | error fault => exact within_throw _

lemma Confined.withFields {p : Propagation} (hp : p.Confined) (table : KeyTable) :
    (withFields table p).Confined := by
  intro set hset c
  have hfields : Within (sendFields set table c.store?) (table.map Prod.snd) := by
    cases c.store? with
    | none => exact within_pure ()
    | some id => exact within_bind within_get fun _ => within_sendAll hset _ _
  have hinner := hp set hset c
  exact within_bind (hfields.mono (List.subset_append_right _ _))
    fun _ => hinner.mono (List.subset_append_left _ _)

lemma Confined.stacked {p : Propagation} (hp : p.Confined) (key : KeyFactory)
    (layers : List (List String)) : (p.stacked key layers).Confined := by
  induction layers generalizing p with
  | nil => exact hp
  | cons names layers ih => exact ih (hp.withFields _)

lemma keys_stacked (p : Propagation) (key : KeyFactory) (layers : List (List String)) :
    (p.stacked key layers).keys = p.keys ++ layers.flatMap (·.map key) := by
  induction layers generalizing p with
  | nil => simp [stacked]
  | cons names layers ih =>
    have hh := ih (Propagation.withFields (.ofNames key names) p)
    change ((Propagation.withFields (.ofNames key names) p).stacked key layers).keys = _
    rw [hh]
    simp [Propagation.withFields, KeyTable.ofNames, List.append_assoc, Function.comp_def]

end Propagation

inductive Part where
  | fields (fields : Fields)
  | marker (text : String)
  | other (index : Nat)

structure Description where
  context : Option (TraceContext × List Part)
  sampled : Option Bool
  extensions : List Part

namespace Heap

def part (h : Heap) : Extension → Part
  | .store id => .fields (h.fields id)
  | .marker id => .marker (h.markerText id)
  | .other index => .other index

def describe (h : Heap) (r : Extraction) : Description where
  context := r.context.map fun c => (c.withExtensions [], c.extensions.map h.part)
  sampled := r.sampled
  extensions := r.extensions.map h.part

lemma part_nextStores (h : Heap) (contents : List Fields) :
    ((h.nextStores contents.length).map .store).map (h.withStores contents).part =
      contents.map .fields := by
  apply List.ext_getElem
  · simp [nextStores]
  · intro n _ hn
    have hlt : n < contents.length := by simpa using hn
    simp [nextStores, part, Heap.fields, withStores, hlt]

lemma not_holds_nextStores {h : Heap} {n : Nat} {id : StoreId} (hid : id ∈ h.nextStores n) :
    ¬ h.Holds id := by
  obtain ⟨m, hm, rfl⟩ := List.mem_map.1 hid
  exact Nat.not_lt.2 (List.mem_range'_1.1 hm).1

end Heap

namespace Extraction

lemma appendAll_of_context {r : Extraction} {c : TraceContext} (h : r.context = some c)
    (es : List Extension) :
    r.appendAll es = { r with context := some (c.withExtensions (c.extensions ++ es)) } := by
  induction es generalizing r c with
  | nil => simp [appendAll, TraceContext.withExtensions, ← h]
  | cons e es ih =>
    obtain ⟨_, sampled, extensions⟩ := r
    cases h
    have hh := ih (r := ⟨some (c.append e), sampled, extensions⟩) rfl
    change Extraction.appendAll ⟨some (c.append e), sampled, extensions⟩ es = _
    rw [hh]
    simp [TraceContext.append, TraceContext.withExtensions]

lemma appendAll_of_no_context {r : Extraction} (h : r.context = none) (es : List Extension) :
    r.appendAll es = { r with extensions := r.extensions ++ es } := by
  induction es generalizing r with
  | nil => simp [appendAll]
  | cons e es ih =>
    obtain ⟨_, sampled, extensions⟩ := r
    cases h
    have hh := ih (r := ⟨none, sampled, extensions ++ [e]⟩) rfl
    change Extraction.appendAll ⟨none, sampled, extensions ++ [e]⟩ es = _
    rw [hh]
    simp

end Extraction

lemma KeyTable.found_congr {table : KeyTable} {c d : Carrier}
    (h : ∀ k ∈ table.map Prod.snd, c.lookup k = d.lookup k) : table.found c = table.found d := by
  rw [found, found]
  apply List.filterMap_congr
  intro e he
  have hk := Except.ok.inj (h e.2 (List.mem_map_of_mem he))
  rw [hk]

section Layers

variable (key : KeyFactory) (layers : List (List String))

def layeredDescription (carrier : Carrier) : Description :=
  let parts := (layerContents key layers carrier).map Part.fields
  match Identity.ofHeaders? ((KeyTable.ofNames key Scheme.identityNames).found carrier) with
  | some c => ⟨some (c, parts), none, []⟩
  | none => ⟨none, none, parts⟩

lemma describe_layeredFound (carrier : Carrier) (heap : Heap) :
    (heap.withStores (layerContents key layers carrier)).describe
      (layeredFound key carrier heap layers) = layeredDescription key layers carrier := by
  have hlen : layers.length = (layerContents key layers carrier).length := by simp [layerContents]
  rw [layeredFound, layeredDescription, Propagation.identityFound, hlen]
  cases h : Identity.ofHeaders? ((KeyTable.ofNames key Scheme.identityNames).found carrier) with
  | some c =>
    have hbare : c.extensions = [] := Identity.extensions_ofHeaders? h
    rw [Extraction.appendAll_of_context rfl]
    simp only [Heap.describe, TraceContext.withExtensions, hbare, List.nil_append, Option.map_some,
      Heap.part_nextStores, List.map_nil]
    rw [← hbare]
  | none =>
    rw [Extraction.appendAll_of_no_context rfl]
    simp only [Heap.describe, Extraction.empty, List.nil_append, Option.map_none,
      Heap.part_nextStores]

lemma layeredDescription_congr {c d : Carrier}
    (h : ∀ k ∈ ((Propagation.identity (.ofNames key Scheme.identityNames)).stacked key layers).keys,
      c.lookup k = d.lookup k) :
    layeredDescription key layers c = layeredDescription key layers d := by
  rw [Propagation.keys_stacked] at h
  have hidentity : (KeyTable.ofNames key Scheme.identityNames).found c =
      (KeyTable.ofNames key Scheme.identityNames).found d :=
    KeyTable.found_congr fun k hk => h k (List.mem_append_left _ hk)
  have hcontents : layerContents key layers c = layerContents key layers d := by
    rw [layerContents, layerContents]
    apply List.map_congr_left
    intro names hn
    have hfound : (KeyTable.ofNames key names).found c = (KeyTable.ofNames key names).found d := by
      apply KeyTable.found_congr
      intro k hk
      apply h k
      apply List.mem_append_right
      refine List.mem_flatMap.2 ⟨names, hn, ?_⟩
      simpa [KeyTable.ofNames] using hk
    rw [hfound]
  rw [layeredDescription, layeredDescription, hidentity, hcontents]

lemma extractFrom_layered {layers : List (List String)} {key : KeyFactory} {p : Propagation}
    (hp : (FieldScheme.layered .identity layers >>= fun s => s.create key) = .ok p)
    (carrier : Carrier) (heap : Heap) :
    ∃ r heap', p.extractFrom carrier heap = .ok (r, heap') ∧
      heap'.describe r = layeredDescription key (layers.map canonicalNames) carrier ∧
      ∀ id ∈ stores r.found, ¬ heap.Holds id := by
  obtain ⟨s, hs, hp⟩ := bind_eq_ok.1 hp
  obtain rfl := FieldScheme.eq_stacked_of_layered hs
  obtain ⟨p₀, hp₀, rfl⟩ := FieldScheme.of_create_stacked hp
  cases hp₀
  refine ⟨_, _, Propagation.extractFrom_stacked (Propagation.extractFrom_identity _ _ _) _ _,
    describe_layeredFound key _ carrier heap, fun id hid => ?_⟩
  change id ∈ stores (layeredFound key carrier heap (layers.map canonicalNames)).found at hid
  rw [stores_layeredFound] at hid
  exact Heap.not_holds_nextStores hid

end Layers

/-- Whatever a setter does under the keys that it is given, and whether or not it fails, sending a
context changes no entry under a key that is not among the keys of the propagation. From carriers
with the same values under these keys the same is extracted, up to which stores it has, and these
are new. -/
theorem keys_are_footprint {layers : List (List String)} {key : KeyFactory} {p : Propagation}
    (hp : (FieldScheme.layered .identity layers >>= fun s => s.create key) = .ok p) :
    (∀ set : Setter, set.Local → ∀ c d,
      ((p.inject set c).run.run d).2.carrier.outside p.keys = d.carrier.outside p.keys) ∧
    ∀ c₁ c₂ : Carrier, (∀ k ∈ p.keys, c₁.lookup k = c₂.lookup k) → ∀ heap₁ heap₂,
      ∃ r₁ heap₁' r₂ heap₂', p.extractFrom c₁ heap₁ = .ok (r₁, heap₁') ∧
        p.extractFrom c₂ heap₂ = .ok (r₂, heap₂') ∧ heap₁'.describe r₁ = heap₂'.describe r₂ ∧
        (∀ id ∈ stores r₁.found, ¬ heap₁.Holds id) ∧ ∀ id ∈ stores r₂.found, ¬ heap₂.Holds id := by
  obtain ⟨s, hs, hp⟩ := bind_eq_ok.1 hp
  obtain rfl := FieldScheme.eq_stacked_of_layered hs
  obtain ⟨p₀, hp₀, rfl⟩ := FieldScheme.of_create_stacked hp
  cases hp₀
  have hextract := fun carrier heap => Propagation.extractFrom_stacked
    (Propagation.extractFrom_identity (.ofNames key Scheme.identityNames) carrier heap) key
    (layers.map canonicalNames)
  have hnew : ∀ (carrier : Carrier) (heap : Heap),
      ∀ id ∈ stores (layeredFound key carrier heap (layers.map canonicalNames)).found,
        ¬ heap.Holds id := by
    intro carrier heap id hid
    rw [stores_layeredFound] at hid
    exact Heap.not_holds_nextStores hid
  refine ⟨(Propagation.confined_identity _).stacked key _, fun c₁ c₂ hagree heap₁ heap₂ => ?_⟩
  refine ⟨_, _, _, _, hextract c₁ heap₁, hextract c₂ heap₂, ?_, hnew c₁ heap₁, hnew c₂ heap₂⟩
  have h₁ := describe_layeredFound key (layers.map canonicalNames) c₁ heap₁
  have h₂ := describe_layeredFound key (layers.map canonicalNames) c₂ heap₂
  exact h₁.trans ((layeredDescription_congr key _ hagree).trans h₂.symm)

theorem keys_are_footprint_failing_setter :
    let key : KeyFactory := fun n => if n = "x-c" then .absent else .text n
    let set : Setter :=
      Script.SetterRule.setter { failOn := some (.text "x-b") } [] Carrier.assign
    let c : TraceContext :=
      { traceId := some "7b", spanId := some "1", extensions := [.store ⟨0⟩] }
    let d : Delivery := ⟨{ stores := [[(some "x-a", some "1"), (some "x-b", some "2")]] },
      [(.text "x-d", some "0"), (.absent, some "1")]⟩
    let found : Carrier := [(.text "x-b", some "3"), (.text "x-d", some "4")]
    let other : Carrier := [(.absent, none), (.text "x-b", some "3")]
    ∃ p,
      (FieldScheme.layered .identity [["X-A", "x-b"], ["x-c"]] >>= fun s => s.create key) = .ok p ∧
      (((p.inject set c).run.run d).1.isOk = false ∧
        Entries.at? ((p.inject set c).run.run d).2.carrier (.text "x-a") = some (some "1")) ∧
      ((p.inject set c).run.run d).2.carrier.outside p.keys = [(.text "x-d", some "0")] ∧
      ∃ r₁ heap₁ r₂ heap₂, p.extractFrom found {} = .ok (r₁, heap₁) ∧
        p.extractFrom other d.heap = .ok (r₂, heap₂) ∧ heap₁.describe r₁ = heap₂.describe r₂ := by
  intro key set c d found other
  have hlocal : set.Local := Script.SetterRule.local_setter _ _ Carrier.local_assign
  have hp : (FieldScheme.layered .identity [["X-A", "x-b"], ["x-c"]] >>= fun s => s.create key) =
      .ok ((Propagation.identity (.ofNames key Scheme.identityNames)).stacked key
        ([["X-A", "x-b"], ["x-c"]].map canonicalNames)) :=
    bind_eq_ok.2 ⟨_, FieldScheme.layered_eq (by decide) _, FieldScheme.create_stacked rfl _⟩
  obtain ⟨hinject, hextract⟩ := keys_are_footprint hp
  refine ⟨_, hp, ⟨by decide +kernel, by decide +kernel⟩, ?_, ?_⟩
  · rw [hinject set hlocal c d]
    decide +kernel
  · have hagree : ∀ k ∈ ((Propagation.identity (.ofNames key Scheme.identityNames)).stacked key
        ([["X-A", "x-b"], ["x-c"]].map canonicalNames)).keys,
          (Entries.at? found k).join = (Entries.at? other k).join := by decide +kernel
    obtain ⟨r₁, heap₁, r₂, heap₂, h₁, h₂, hdescribe, -⟩ :=
      hextract found other (fun k hk => congrArg Except.ok (hagree k hk)) {} d.heap
    exact ⟨r₁, heap₁, r₂, heap₂, h₁, h₂, hdescribe⟩

end TraceFields
