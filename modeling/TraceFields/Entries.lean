/-!
Maps whose entries stand in the order in which their keys were first put.
-/

namespace TraceFields

abbrev Entries (κ α : Type) := List (κ × α)

namespace Entries

variable {κ α β : Type} [DecidableEq κ]

def at? : Entries κ α → κ → Option α
  | [], _ => none
  | (k, v) :: es, key => if k = key then some v else at? es key

def put : Entries κ α → κ → α → Entries κ α
  | [], key, value => [(key, value)]
  | (k, v) :: es, key, value => if k = key then (k, value) :: es else (k, v) :: put es key value

def without (es : Entries κ α) (key : κ) : Entries κ α := es.filter fun e => e.1 ≠ key

def putLast (es : Entries κ α) (key : κ) (value : α) : Entries κ α :=
  es.without key ++ [(key, value)]

def keys (es : Entries κ α) : List κ := es.map Prod.fst

def putAll (es new : Entries κ α) : Entries κ α := new.foldl (fun acc e => acc.put e.1 e.2) es

def ofPairs (pairs : List (κ × α)) : Entries κ α := putAll [] pairs

def sameBy (alike : α → α → Bool) (es fs : Entries κ α) : Bool :=
  es.length == fs.length && es.all fun e => (at? fs e.1).any (alike e.2)

@[simp] theorem at?_nil (key : κ) : at? ([] : Entries κ α) key = none := rfl

theorem at?_put (es : Entries κ α) (key : κ) (value : α) (k : κ) :
    at? (put es key value) k = if key = k then some value else at? es k := by
  induction es with
  | nil => rfl
  | cons e es ih =>
    obtain ⟨k', v⟩ := e
    by_cases h : k' = key
    · subst h
      by_cases hk : k' = k <;> simp [put, at?, hk]
    · by_cases hk : k' = k
      · subst hk
        simp [put, at?, h, Ne.symm h]
      · simp [put, at?, h, hk, ih]

@[simp] theorem at?_put_self (es : Entries κ α) (key : κ) (value : α) :
    at? (put es key value) key = some value := by
  simp [at?_put]

theorem keys_put (es : Entries κ α) (key : κ) (value : α) :
    keys (put es key value) = if key ∈ keys es then keys es else keys es ++ [key] := by
  induction es with
  | nil => rfl
  | cons e es ih =>
    obtain ⟨k, v⟩ := e
    by_cases h : k = key
    · simp [put, keys, h]
    · have hk : ¬ key = k := Ne.symm h
      simp only [put, h, keys, List.map_cons, List.mem_cons, hk, false_or, if_false] at ih ⊢
      rw [ih]
      split <;> simp_all

theorem nodup_keys_put {es : Entries κ α} (h : (keys es).Nodup) (key : κ) (value : α) :
    (keys (put es key value)).Nodup := by
  rw [keys_put]
  split
  · exact h
  · next hk =>
    refine List.nodup_append.2 ⟨h, by simp, ?_⟩
    intro a ha b hb he
    obtain rfl : b = key := by simpa using hb
    exact hk (he ▸ ha)

theorem nodup_keys_putAll {es : Entries κ α} (h : (keys es).Nodup) (new : Entries κ α) :
    (keys (putAll es new)).Nodup := by
  induction new generalizing es with
  | nil => exact h
  | cons e new ih => exact ih (nodup_keys_put h e.1 e.2)

theorem put_of_not_mem {es : Entries κ α} {key : κ} (h : key ∉ keys es) (value : α) :
    put es key value = es ++ [(key, value)] := by
  induction es with
  | nil => rfl
  | cons e es ih =>
    obtain ⟨k, v⟩ := e
    have hk : ¬ key = k ∧ key ∉ keys es := by simpa [keys] using h
    rw [put, if_neg (Ne.symm hk.1), ih hk.2, List.cons_append]

theorem putAll_of_nodup {es new : Entries κ α} (h : (keys (es ++ new)).Nodup) :
    putAll es new = es ++ new := by
  induction new generalizing es with
  | nil => rw [List.append_nil]; rfl
  | cons e new ih =>
    have hk : e.1 ∉ keys es := by
      intro hm
      rw [keys, List.map_append, List.nodup_append] at h
      exact h.2.2 e.1 hm e.1 (by simp) rfl
    change putAll (put es e.1 e.2) new = _
    rw [put_of_not_mem hk, ih, List.append_assoc, List.singleton_append]
    rwa [List.append_assoc, List.singleton_append]

theorem ofPairs_of_nodup {pairs : List (κ × α)} (h : (keys pairs).Nodup) : ofPairs pairs = pairs :=
  putAll_of_nodup h

theorem mem_put {es : Entries κ α} {key : κ} {value : α} {e : κ × α} (h : e ∈ put es key value) :
    e = (key, value) ∨ e ∈ es := by
  induction es with
  | nil => exact Or.inl (List.mem_singleton.1 h)
  | cons f es ih =>
    obtain ⟨k, v⟩ := f
    rw [put] at h
    split at h
    · rcases List.mem_cons.1 h with rfl | h
      · next hk => exact Or.inl (by rw [hk])
      · exact Or.inr (List.mem_cons_of_mem _ h)
    · rcases List.mem_cons.1 h with rfl | h
      · exact Or.inr List.mem_cons_self
      · exact (ih h).imp_right (List.mem_cons_of_mem _)

theorem mem_putAll {es new : Entries κ α} {e : κ × α} (h : e ∈ putAll es new) :
    e ∈ es ∨ e ∈ new := by
  induction new generalizing es with
  | nil => exact Or.inl h
  | cons f new ih =>
    rcases ih h with h | h
    · rcases mem_put h with rfl | h
      · exact Or.inr List.mem_cons_self
      · exact Or.inl h
    · exact Or.inr (List.mem_cons_of_mem _ h)

theorem at?_append (es fs : Entries κ α) (k : κ) : at? (es ++ fs) k = (at? es k).or (at? fs k) := by
  induction es with
  | nil => rfl
  | cons e es ih =>
    obtain ⟨k', v⟩ := e
    by_cases h : k' = k <;> simp [at?, h, ih]

theorem at?_eq_none_iff {es : Entries κ α} {k : κ} : at? es k = none ↔ k ∉ keys es := by
  induction es with
  | nil => simp [keys]
  | cons e es ih =>
    obtain ⟨k', v⟩ := e
    by_cases h : k' = k
    · simp [at?, keys, h]
    · simp only [at?, h, if_false, ih, keys, List.map_cons, List.mem_cons, not_or]
      exact ⟨fun hk => ⟨Ne.symm h, hk⟩, And.right⟩

theorem mem_of_at? {es : Entries κ α} {k : κ} {v : α} (h : at? es k = some v) : (k, v) ∈ es := by
  induction es with
  | nil => cases h
  | cons e es ih =>
    obtain ⟨k', w⟩ := e
    by_cases hk : k' = k
    · simp only [at?, hk, if_true, Option.some.injEq] at h
      simp [hk, h]
    · simp only [at?, hk, if_false] at h
      exact List.mem_cons_of_mem _ (ih h)

theorem at?_of_mem {es : Entries κ α} (hn : (keys es).Nodup) {k : κ} {v : α} (h : (k, v) ∈ es) :
    at? es k = some v := by
  induction es with
  | nil => cases h
  | cons e es ih =>
    obtain ⟨k', w⟩ := e
    have hn' := List.nodup_cons.1 hn
    rcases List.mem_cons.1 h with h | h
    · cases h
      simp [at?]
    · have hne : k' ≠ k := fun he => hn'.1 (List.mem_map.2 ⟨_, h, he.symm⟩)
      simp only [at?, hne, if_false]
      exact ih hn'.2 h

theorem at?_reverse {es : Entries κ α} (hn : (keys es).Nodup) (k : κ) :
    at? es.reverse k = at? es k := by
  have hr : (keys es.reverse).Nodup := by
    rw [keys, List.map_reverse]
    exact List.pairwise_reverse.2 (hn.imp Ne.symm)
  cases h : at? es k with
  | none =>
    rw [at?_eq_none_iff] at h ⊢
    simpa [keys] using h
  | some v => exact at?_of_mem hr (List.mem_reverse.2 (mem_of_at? h))

theorem at?_without (es : Entries κ α) (key k : κ) :
    at? (without es key) k = if k = key then none else at? es k := by
  induction es with
  | nil => simp [without]
  | cons e es ih =>
    obtain ⟨k', v⟩ := e
    rw [without] at ih
    by_cases h : k' = key
    · subst h
      by_cases hk : k = k'
      · simpa [without, hk] using ih
      · simpa [without, at?, hk, Ne.symm hk] using ih
    · by_cases hk : k' = k
      · subst hk
        simp [without, at?, h]
      · simpa [without, at?, h, hk] using ih

theorem putAll_append (es new more : Entries κ α) :
    putAll es (new ++ more) = putAll (putAll es new) more := List.foldl_append

theorem at?_putAll (es new : Entries κ α) (k : κ) :
    at? (putAll es new) k = (at? new.reverse k).or (at? es k) := by
  induction new generalizing es with
  | nil => rfl
  | cons e new ih =>
    obtain ⟨k', v⟩ := e
    have hh := ih (es.put k' v)
    rw [List.reverse_cons, at?_append]
    change at? (putAll (es.put k' v) new) k = _
    rw [hh, at?_put]
    by_cases h : k' = k <;> simp [at?, h]

end Entries

end TraceFields
