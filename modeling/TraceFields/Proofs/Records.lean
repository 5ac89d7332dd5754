import TraceFields.Proofs.Lexical

/-!
What keeps resolvers faithful to the scopes around a point: each environment has what the innermost
of the scopes makes active within which it was made, and the environment of now was made within the
scopes around the point.
-/

namespace TraceFields.Script

open Run

lemma Lexical.reading_cons (r : ResolverId) (o : Option Object) (L : Lexical) (q : ResolverId) :
    Lexical.reading ((r, o) :: L) q = if r = q then o else L.reading q := by
  by_cases h : r = q <;> simp [Lexical.reading, h]

namespace History

variable {H K N : History} {L M : Lexical} {id : Nat}

lemma Extends.refl (H : History) : H.Extends H := ⟨fun h => h, fun h => h⟩

lemma Extends.trans (h : H.Extends K) (k : K.Extends N) : H.Extends N :=
  ⟨fun hid => k.environments (h.environments hid), fun hid => k.routines (h.routines hid)⟩

lemma environments_withEnvironment_self (H : History) (id : Nat) (L : Lexical) :
    (H.withEnvironment id L).environments id = some L := if_pos rfl

lemma withEnvironment_of_known (h : H.environments id = some L) : H.withEnvironment id L = H := by
  obtain ⟨environments, routines⟩ := H
  simp only [withEnvironment, History.mk.injEq, and_true]
  funext n
  split
  · next hn =>
    rw [hn]
    exact h.symm
  · rfl

lemma extends_withEnvironment (h : H.environments id = none) (L : Lexical) :
    H.Extends (H.withEnvironment id L) := by
  refine ⟨fun {n M} hn => ?_, fun hn => hn⟩
  have hne : n ≠ id := by
    rintro rfl
    rw [h] at hn
    cases hn
  exact (if_neg hne).trans hn

lemma extends_withRoutine (h : H.routines id = none) (L : Lexical) :
    H.Extends (H.withRoutine id L) := by
  refine ⟨fun hn => hn, fun {n M} hn => ?_⟩
  have hne : n ≠ id := by
    rintro rfl
    rw [h] at hn
    cases hn
  exact (if_neg hne).trans hn

end History

structure Records (H : History) (s : State) : Prop where
  environment {id : Nat} {e : Environment Object} : s.environments.at? id = some e →
    ∃ M, H.environments id = some M ∧ ∀ r, e.active r = M.reading r
  routine {id : Nat} {f : Routine} : s.routines.at? id = some f →
    ∃ M, H.routines id = some M ∧ H.environments f.env = some M ∧ ∀ step ∈ f.body, step.Nested
  known {id : Nat} {M : Lexical} :
    H.environments id = some M → id < s.fresh ∧ (s.environments.at? id).isSome
  lt {id : Nat} {M : Lexical} : H.routines id = some M → id < s.fresh
  origin : H.environments 0 = some []

structure Sound (L : Lexical) (H : History) (s : State) : Prop where
  records : Records H s
  here : H.environments s.ambient.env = some L

namespace Records

variable {H : History} {L M : Lexical} {s t : State}

lemma start (sources : Sources) : Records .start { sources } := by
  refine ⟨fun {id e} h => ?_, fun h => ?_, fun {id M} h => ?_, fun h => ?_, rfl⟩
  · rw [Entries.at?] at h
    split at h
    · next hid =>
      cases h
      exact ⟨[], if_pos hid.symm, fun r => rfl⟩
    · cases h
  · cases h
  · simp only [History.start] at h
    split at h
    · next hid =>
      subst hid
      exact ⟨Nat.zero_lt_one, rfl⟩
    · cases h
  · cases h

lemma mono (h : Records H s) (he : t.environments = s.environments) (hr : t.routines = s.routines)
    (hf : s.fresh ≤ t.fresh) : Records H t := by
  refine ⟨fun hid => ?_, fun hid => ?_, fun hid => ?_, fun hid =>
    Nat.lt_of_lt_of_le (h.lt hid) hf, h.origin⟩
  · rw [he] at hid
    exact h.environment hid
  · rw [hr] at hid
    exact h.routine hid
  · rw [he]
    exact ⟨Nat.lt_of_lt_of_le (h.known hid).1 hf, (h.known hid).2⟩

lemma frame (h : Records H s) (hf : Frame s t) : Records H t :=
  h.mono hf.environments hf.routines hf.fresh

lemma active (h : Records H s) {id : Nat} (hid : H.environments id = some M) (r : ResolverId) :
    (s.environment id).active r = M.reading r := by
  obtain ⟨e, he⟩ := Option.isSome_iff_exists.1 (h.known hid).2
  obtain ⟨N, hN, hactive⟩ := h.environment he
  obtain rfl : N = M := Option.some.inj (hN.symm.trans hid)
  rw [State.environment, he]
  exact hactive r

lemma environments_fresh (h : Records H s) : H.environments s.fresh = none := by
  cases hid : H.environments s.fresh with
  | none => rfl
  | some M => exact absurd (h.known hid).1 (Nat.lt_irrefl _)

lemma routines_fresh (h : Records H s) : H.routines s.fresh = none := by
  cases hid : H.routines s.fresh with
  | none => rfl
  | some M => exact absurd (h.lt hid) (Nat.lt_irrefl _)

end Records

namespace Sound

variable {H K : History} {L M : Lexical} {s t : State}

lemma faithful (h : Sound L H s) : Faithful L H s := by
  refine ⟨fun r => ?_, fun {id M} hid r => ?_, fun {id} hid => ?_, fun {id} hid => ?_⟩
  · change ((_, s) : Except Fault Object × State) = _
    rw [← h.records.active h.here r]
    rfl
  · change ((_, s) : Except Fault Object × State) = _
    rw [← h.records.active hid r]
  · obtain ⟨e, he⟩ := Option.isSome_iff_exists.1 hid
    obtain ⟨M, hM, -⟩ := h.records.environment he
    exact Option.isSome_of_eq_some hM
  · obtain ⟨f, hf⟩ := Option.isSome_iff_exists.1 hid
    obtain ⟨M, hM, -⟩ := h.records.routine hf
    exact Option.isSome_of_eq_some hM

lemma inside (h : Records H s) {env : Nat} (he : H.environments env = some M) (unit : Option Nat) :
    Sound M H (s.inside unit env) :=
  ⟨h.mono rfl rfl (Nat.le_refl _), he⟩

lemma later (h : Sound L H s) (hk : H.Extends K) (ht : Records K t) (ha : t.ambient = s.ambient) :
    Sound L K t := by
  refine ⟨ht, ?_⟩
  rw [ha]
  exact hk.environments h.here

lemma derive (h : Sound L H s) (r : ResolverId) (o : Option Object) :
    Records (H.withEnvironment s.fresh ((r, o) :: L)) (s.derive (s.here.enter r o)) := by
  have hext := History.extends_withEnvironment h.records.environments_fresh ((r, o) :: L)
  refine ⟨fun {id e} hid => ?_, fun hid => ?_, fun {id M} hid => ?_, fun hid => ?_,
    hext.environments h.records.origin⟩
  · simp only [State.derive, Entries.at?_put] at hid
    split at hid
    · next he =>
      subst he
      cases hid
      refine ⟨_, H.environments_withEnvironment_self _ _, fun q => ?_⟩
      rw [Environment.active_enter, Lexical.reading_cons, State.here, h.records.active h.here]
    · obtain ⟨M, hM, hactive⟩ := h.records.environment hid
      exact ⟨M, hext.environments hM, hactive⟩
  · obtain ⟨M, hM, henv, hbody⟩ := h.records.routine hid
    exact ⟨M, hM, hext.environments henv, hbody⟩
  · simp only [State.derive, Entries.at?_put]
    by_cases he : s.fresh = id
    · subst he
      simp
    · have hold : H.environments id = some M := (if_neg (Ne.symm he)).symm.trans hid
      rw [if_neg he]
      exact ⟨Nat.lt_succ_of_lt (h.records.known hold).1, (h.records.known hold).2⟩
  · exact Nat.lt_succ_of_lt (h.records.lt hid)

lemma addRoutine (h : Sound L H s) {body : List Step} (hb : ∀ step ∈ body, step.Nested)
    (ending : Ending) : Records (H.withRoutine s.fresh L) (s.addRoutine body ending) := by
  have hext := History.extends_withRoutine h.records.routines_fresh L
  refine ⟨fun hid => h.records.environment hid, fun {id f} hid => ?_, fun hid => ?_,
    fun {id M} hid => ?_,
    h.records.origin⟩
  · simp only [State.addRoutine, Entries.at?_put] at hid
    split at hid
    · next he =>
      subst he
      cases hid
      refine ⟨L, if_pos rfl, h.here, fun step hstep => ?_⟩
      simp only at hstep
      split at hstep
      · cases hstep
      · exact hb step hstep
    · obtain ⟨M, hM, henv, hbody⟩ := h.records.routine hid
      exact ⟨M, hext.routines hM, henv, hbody⟩
  · exact ⟨Nat.lt_succ_of_lt (h.records.known hid).1, (h.records.known hid).2⟩
  · by_cases he : id = s.fresh
    · rw [he]
      exact Nat.lt_succ_self _
    · exact Nat.lt_succ_of_lt (h.records.lt ((if_neg he).symm.trans hid))

end Sound

end TraceFields.Script
