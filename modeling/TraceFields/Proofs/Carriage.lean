import Mathlib.Tactic.Lemma
import TraceFields.Propagation.Fields

/-!
What an injection leaves in a carrier and what an extraction finds there.
-/

namespace TraceFields

lemma run_bind {α β σ : Type} (m : ExceptT Fault (StateM σ) α)
    (f : α → ExceptT Fault (StateM σ) β) (s : σ) :
    (m >>= f).run.run s = match m.run.run s with
      | (.ok a, s) => (f a).run.run s
      | (.error fault, s) => (.error fault, s) := by
  rw [ExceptT.run_bind, StateT.run_bind]
  change (match m.run.run s with | (r, s) => _) = _
  generalize m.run.run s = x
  rcases x with ⟨_ | _, _⟩ <;> rfl

lemma bind_eq_ok {α β : Type} {m : Except Fault α} {f : α → Except Fault β} {b : β} :
    (m >>= f) = .ok b ↔ ∃ a, m = .ok a ∧ f a = .ok b := by
  cases m with
  | error fault =>
    refine ⟨fun h => ?_, fun ⟨_, h, _⟩ => ?_⟩ <;> cases h
  | ok a =>
    refine ⟨fun h => ⟨a, rfl, h⟩, ?_⟩
    rintro ⟨_, he, h⟩
    cases he
    exact h

namespace KeyTable

def key? (table : KeyTable) (name : String) : Option Key :=
  (Entries.at? table name).filter (· ≠ .absent)

def addressed (table : KeyTable) (values : List (String × Option String)) : Carrier :=
  values.filterMap fun e => (table.key? e.1).map (·, e.2)

def found (table : KeyTable) (c : Carrier) : Entries String String :=
  table.filterMap fun e => (Entries.at? c e.2).join.map (e.1, ·)

lemma addressed_cons (table : KeyTable) (e : String × Option String)
    (values : List (String × Option String)) :
    table.addressed (e :: values) =
      ((table.key? e.1).map (·, e.2)).toList ++ table.addressed values := by
  cases h : table.key? e.1 <;> simp [addressed, h]

lemma addressed_reverse (table : KeyTable) (values : List (String × Option String)) :
    table.addressed values.reverse = (table.addressed values).reverse := List.filterMap_reverse

lemma at?_ofNames (key : KeyFactory) (names : List String) (n : String) :
    Entries.at? (ofNames key names) n = if n ∈ names then some (key n) else none := by
  induction names with
  | nil => rfl
  | cons m names ih =>
    by_cases h : m = n
    · simp [ofNames, Entries.at?, h]
    · simpa [ofNames, Entries.at?, h, Ne.symm h] using ih

lemma key?_eq_some {key : KeyFactory} {names : List String} {n : String} {k : Key} :
    (ofNames key names).key? n = some k ↔ n ∈ names ∧ key n = k ∧ k ≠ .absent := by
  rw [key?, at?_ofNames]
  split
  · next h =>
    rw [Option.filter_eq_some_iff]
    constructor
    · rintro ⟨hk, hp⟩
      exact ⟨h, Option.some.inj hk, by simpa using hp⟩
    · rintro ⟨-, rfl, hp⟩
      exact ⟨rfl, by simpa using hp⟩
  · next h => simp [h]

lemma at?_addressed {table : KeyTable} {n : String} {k : Key} (hn : table.key? n = some k)
    (hu : ∀ m, table.key? m = some k → m = n) (values : List (String × Option String)) :
    Entries.at? (table.addressed values) k = Entries.at? values n := by
  induction values with
  | nil => rfl
  | cons e values ih =>
    obtain ⟨m, v⟩ := e
    rw [addressed_cons, Entries.at?_append, ih]
    by_cases hm : m = n
    · subst hm
      simp [hn, Entries.at?]
    · cases hk : table.key? m with
      | none => simp [Entries.at?, hm]
      | some l =>
        have hl : l ≠ k := fun he => hm (hu m (hk.trans (congrArg some he)))
        simp [Entries.at?, hm, hl]

lemma at?_putAll_addressed {table : KeyTable} {n : String} {k : Key} (hn : table.key? n = some k)
    (hu : ∀ m, table.key? m = some k → m = n) (c : Carrier) (values : List (String × Option String)) :
    Entries.at? (c.putAll (table.addressed values)) k =
      (Entries.at? values.reverse n).or (Entries.at? c k) := by
  rw [Entries.at?_putAll, ← addressed_reverse, at?_addressed hn hu]

lemma at?_addressed_of_forall_ne {table : KeyTable} {k : Key} (hk : ∀ n, table.key? n ≠ some k)
    (values : List (String × Option String)) : Entries.at? (table.addressed values) k = none := by
  rw [Entries.at?_eq_none_iff]
  intro hm
  obtain ⟨e, he, rfl⟩ := List.mem_map.1 hm
  obtain ⟨f, -, hf⟩ := List.mem_filterMap.1 he
  obtain ⟨l, hl, rfl⟩ := Option.map_eq_some_iff.1 hf
  exact hk _ hl

lemma found_cons (key : KeyFactory) (m : String) (names : List String) (c : Carrier) :
    (ofNames key (m :: names)).found c =
      ((Entries.at? c (key m)).join.map (m, ·)).toList ++ (ofNames key names).found c := by
  cases h : (Entries.at? c (key m)).join <;> simp [found, ofNames, h]

lemma at?_found (key : KeyFactory) (names : List String) (c : Carrier) (n : String) :
    Entries.at? ((ofNames key names).found c) n =
      if n ∈ names then (Entries.at? c (key n)).join else none := by
  induction names with
  | nil => rfl
  | cons m names ih =>
    rw [found_cons, Entries.at?_append, ih]
    by_cases h : n = m
    · subst h
      cases hv : (Entries.at? c (key n)).join <;> simp [Entries.at?]
    · cases (Entries.at? c (key m)).join <;> simp [Entries.at?, h, Ne.symm h]

lemma keys_found_sublist (key : KeyFactory) (names : List String) (c : Carrier) :
    (Entries.keys ((ofNames key names).found c)).Sublist names := by
  induction names with
  | nil => exact List.Sublist.refl _
  | cons m names ih =>
    rw [found_cons]
    cases (Entries.at? c (key m)).join with
    | none => exact ih.cons m
    | some v => exact ih.cons_cons m

end KeyTable

open KeyTable

lemma sendAll_cons (set : Setter) (table : KeyTable) (e : String × Option String)
    (values : List (String × Option String)) :
    sendAll set table (e :: values) = match table.key? e.1 with
      | some k => set k e.2 >>= fun _ => sendAll set table values
      | none => sendAll set table values := by
  obtain ⟨n, v⟩ := e
  rw [sendAll, key?]
  rcases Entries.at? table n with _ | _ | _ | _ <;> rfl

lemma sendAll_assign (table : KeyTable) (values : List (String × Option String)) (d : Delivery) :
    (sendAll Carrier.assign table values).run.run d =
      (.ok (), { d with carrier := d.carrier.putAll (table.addressed values) }) := by
  induction values generalizing d with
  | nil => rfl
  | cons e values ih =>
    rw [sendAll_cons, addressed_cons]
    cases table.key? e.1 with
    | none => exact ih d
    | some k =>
      simp only [run_bind]
      exact ih { d with carrier := d.carrier.put k e.2 }

def Getter.ofLookup (look : Key → Option String) : Getter := fun key => .ok (look key)

lemma collect_ofLookup (look : Key → Option String) (table : KeyTable) :
    collect (.ofLookup look) table = .ok (table.filterMap fun e => (look e.2).map (e.1, ·)) := by
  induction table with
  | nil => rfl
  | cons e table ih =>
    obtain ⟨n, k⟩ := e
    simp only [collect, ih, Getter.ofLookup, bind, Except.bind]
    cases hv : look k <;> simp [hv, pure, Except.pure]

lemma collect_lookup (table : KeyTable) (c : Carrier) :
    collect c.lookup table = .ok (table.found c) :=
  collect_ofLookup (fun key => (Entries.at? c key).join) table

lemma Identity.ofHeaders?_found (key : KeyFactory) (carrier : Carrier) :
    ofHeaders? ((ofNames key Scheme.identityNames).found carrier) =
      (Entries.at? carrier (key parentName)).join.bind
        (context? · (Entries.at? carrier (key stateName)).join) := by
  rw [ofHeaders?, at?_found, at?_found, if_pos (by decide), if_pos (by decide)]
  cases (Entries.at? carrier (key parentName)).join <;> rfl

def Heap.fieldsOf (h : Heap) : Option StoreId → Fields
  | some id => h.fields id
  | none => []

namespace Propagation

lemma injectInto_identity {c : TraceContext} {hs : Entries String String}
    (h : Identity.headers c = .ok hs) (table : KeyTable) (heap : Heap) (carrier : Carrier) :
    (Propagation.identity table).injectInto c heap carrier =
      (.ok (), ⟨heap, carrier.putAll (table.addressed (hs.map fun e => (e.1, some e.2)))⟩) := by
  rw [injectInto, Propagation.identity]
  simp only [h]
  exact sendAll_assign _ _ _

section Headers

variable {key : KeyFactory} (hd : key Identity.stateName ≠ key Identity.parentName)

include hd

lemma eq_of_identity_key {m n : String} (hn : n ∈ Scheme.identityNames)
    (hm : (ofNames key Scheme.identityNames).key? m = some (key n)) : m = n := by
  obtain ⟨hmem, he, -⟩ := key?_eq_some.1 hm
  simp only [Scheme.identityNames, List.mem_cons, List.not_mem_nil, or_false] at hmem hn
  rcases hmem with rfl | rfl <;> rcases hn with rfl | rfl
  · rfl
  · exact absurd he.symm hd
  · exact absurd he hd
  · rfl

lemma at?_header {n : String} (hn : n ∈ Scheme.identityNames) (hk : key n ≠ .absent)
    (carrier : Carrier) (hs : Entries String String) :
    Entries.at? (carrier.putAll ((ofNames key Scheme.identityNames).addressed
      (hs.map fun e => (e.1, some e.2)))) (key n) =
        (Entries.at? (hs.map fun e => (e.1, some e.2)).reverse n).or (Entries.at? carrier (key n)) :=
  at?_putAll_addressed (key?_eq_some.2 ⟨hn, rfl, hk⟩) (fun _ => eq_of_identity_key hd hn) _ _

lemma at?_parent (hk : key Identity.parentName ≠ .absent) (carrier : Carrier) (parent : String)
    (state : Option String) :
    Entries.at? (carrier.putAll ((ofNames key Scheme.identityNames).addressed
      (((Identity.parentName, parent) :: state.toList.map (Identity.stateName, ·)).map
        fun e => (e.1, some e.2)))) (key Identity.parentName) = some (some parent) := by
  rw [at?_header hd (by decide) hk]
  cases state <;> rfl

lemma at?_state (hk : key Identity.stateName ≠ .absent) (carrier : Carrier) (parent : String)
    (state : Option String) :
    Entries.at? (carrier.putAll ((ofNames key Scheme.identityNames).addressed
      (((Identity.parentName, parent) :: state.toList.map (Identity.stateName, ·)).map
        fun e => (e.1, some e.2)))) (key Identity.stateName) =
          (state.map some).or (Entries.at? carrier (key Identity.stateName)) := by
  rw [at?_header hd (by decide) hk]
  cases state <;> rfl

end Headers

def identitySent (c : TraceContext) : List (String × Option String) :=
  match Identity.headers c with
  | .ok hs => hs.map fun e => (e.1, some e.2)
  | .error _ => []

lemma injectInto_identity_eq (table : KeyTable) (c : TraceContext) (heap : Heap)
    (carrier : Carrier) :
    (Propagation.identity table).injectInto c heap carrier =
      ((Identity.headers c).map fun _ => (),
        ⟨heap, carrier.putAll (table.addressed (identitySent c))⟩) := by
  cases h : Identity.headers c with
  | ok hs =>
    rw [injectInto_identity h, identitySent, h]
    rfl
  | error fault =>
    rw [injectInto, Propagation.identity, identitySent]
    simp only [h]
    rfl

lemma injectInto_withFields (table : KeyTable) (inner : Propagation) (c : TraceContext)
    (heap : Heap) (carrier : Carrier) :
    (withFields table inner).injectInto c heap carrier =
      inner.injectInto c heap (carrier.putAll (table.addressed (heap.fieldsOf c.store?).named)) := by
  rw [injectInto, withFields]
  simp only
  rw [run_bind]
  cases hs : c.store? with
  | none => rfl
  | some id =>
    have hh := sendAll_assign table (heap.fields id).named ⟨heap, carrier⟩
    have hr : (sendFields Carrier.assign table (some id)).run.run ⟨heap, carrier⟩ =
        (sendAll Carrier.assign table (heap.fields id).named).run.run ⟨heap, carrier⟩ := rfl
    rw [hr, hh]
    rfl

def identityFound (table : KeyTable) (carrier : Carrier) : Extraction :=
  match Identity.ofHeaders? (table.found carrier) with
  | some c => { context := some c }
  | none => .empty

lemma identityFound_eq (key : KeyFactory) (carrier : Carrier) :
    identityFound (ofNames key Scheme.identityNames) carrier =
      { context := (Entries.at? carrier (key Identity.parentName)).join.bind
          (Identity.context? · (Entries.at? carrier (key Identity.stateName)).join) } := by
  rw [identityFound, Identity.ofHeaders?_found]
  cases Option.bind (Entries.at? carrier (key Identity.parentName)).join _ <;> rfl

lemma extractFrom_identity (table : KeyTable) (carrier : Carrier) (heap : Heap) :
    (Propagation.identity table).extractFrom carrier heap =
      .ok (identityFound table carrier, heap) := by
  rw [extractFrom, Propagation.identity, identityFound]
  simp only [collect_lookup, bind, Except.bind]
  cases Identity.ofHeaders? (table.found carrier) <;> rfl

lemma extract_withFields_eq_ok_iff {table : KeyTable} {inner : Propagation} {get : Getter}
    {heap heap' : Heap} {r : Extraction} :
    (withFields table inner).extract get heap = .ok (r, heap') ↔
      ∃ r₀ heap₀, inner.extract get heap = .ok (r₀, heap₀) ∧
        ∃ fields, collect get table = .ok fields ∧
          r₀.append (.store (heap₀.newStore (.ofTexts fields)).1) = r ∧
          (heap₀.newStore (.ofTexts fields)).2 = heap' := by
  rw [withFields]
  simp only [bind_eq_ok, Prod.exists, Except.ok.injEq, pure, Except.pure, Prod.mk.injEq]

lemma extractFrom_withFields {inner : Propagation} {carrier : Carrier} {heap heap' : Heap}
    {r : Extraction} (h : inner.extractFrom carrier heap = .ok (r, heap')) (table : KeyTable) :
    (withFields table inner).extractFrom carrier heap =
      .ok (r.append (.store (heap'.newStore (.ofTexts (table.found carrier))).1),
        (heap'.newStore (.ofTexts (table.found carrier))).2) :=
  extract_withFields_eq_ok_iff.2 ⟨r, heap', h, _, collect_lookup table carrier, rfl, rfl⟩

end Propagation

end TraceFields
