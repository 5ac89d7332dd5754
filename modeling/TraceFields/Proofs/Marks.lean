import TraceFields.Proofs.Cutting
import TraceFields.Proofs.Lowering

/-!
The characters between and around the parts of a text.
-/

namespace TraceFields.Text

namespace Lower

def IsMark (c : Char) : Prop := c = ',' ∨ c = '=' ∨ isBlank c = true

def marks : List Run :=
  [⟨0x2C, 0x2C, 1, 0⟩, ⟨0x3D, 0x3D, 1, 0⟩] ++ blankRanges.map fun r => ⟨r.1, r.2, 1, 0⟩

lemma IsMark.covers {c : Char} (h : IsMark c) : ∃ m ∈ marks, m.covers c.toNat = true := by
  rcases h with rfl | rfl | h
  · exact ⟨⟨0x2C, 0x2C, 1, 0⟩, by simp [marks], by decide⟩
  · exact ⟨⟨0x3D, 0x3D, 1, 0⟩, by simp [marks], by decide⟩
  · obtain ⟨r, hr, hc⟩ := List.any_eq_true.1 h
    refine ⟨⟨r.1, r.2, 1, 0⟩, List.mem_append_right _ (List.mem_map_of_mem hr), ?_⟩
    simpa [Run.covers, Nat.mod_one] using hc

lemma runs_miss_marks : ∀ r ∈ runs, ∀ m ∈ marks, r.misses m = true := by
  have h : (runs.all fun r => marks.all r.misses) = true := by decide +kernel
  simpa only [List.all_eq_true] using h

lemma marks_apart : ∀ m ∈ marks, ∀ r ∈ special ++ runs, m.last < r.first ∨ r.last < m.first := by
  have h : (marks.all fun m => (special ++ runs).all fun r =>
      decide (m.last < r.first ∨ r.last < m.first)) = true := by decide +kernel
  simpa only [List.all_eq_true, decide_eq_true_eq] using h

lemma IsMark.settled {c : Char} (h : IsMark c) : Settled c := by
  obtain ⟨m, hm, hc⟩ := h.covers
  intro r hr
  have hapart := marks_apart m hm r hr
  simp only [Run.covers, Bool.and_eq_true, decide_eq_true_eq] at hc
  simp only [Run.covers, Bool.and_eq_false_iff, decide_eq_false_iff_not]
  omega

section Chars

variable {before after cs : List Char} {c d : Char}

lemma char_ne_nil (before after : List Char) (c : Char) : char before after c ≠ [] := by
  unfold char
  split
  · simp
  · split <;> simp

lemma eq_of_mem_char (h : d ∈ char before after c) (hd : IsMark d) : d = c := by
  obtain ⟨m, hm, hcovers⟩ := hd.covers
  obtain h | ⟨r, hr, hc, rfl⟩ | ⟨-, h⟩ := mem_char_cases h
  · have hspecial : (['σ', 'ς', 'i', '\u0307'].all fun d =>
        marks.all fun m => !m.covers d.toNat) = true := by decide +kernel
    simp only [List.all_eq_true, Bool.not_eq_true'] at hspecial
    rw [hspecial d h m hm] at hcovers
    cases hcovers
  · rw [not_covers_move (runs_miss r hr).1 (runs_miss_marks r hr m hm) hc] at hcovers
    cases hcovers
  · exact h

lemma mem_of_mem_chars (h : d ∈ chars before cs) (hd : IsMark d) : d ∈ cs := by
  induction cs generalizing before with
  | nil => exact h
  | cons c cs ih =>
    rw [chars] at h
    rcases List.mem_append.1 h with h | h
    · exact eq_of_mem_char h hd ▸ List.mem_cons_self
    · exact List.mem_cons_of_mem c (ih h)

lemma exists_char_subset (h : c ∈ cs) (before : List Char) :
    ∃ before' after, char before' after c ⊆ chars before cs := by
  induction cs generalizing before with
  | nil => cases h
  | cons e cs ih =>
    rw [chars]
    rcases List.mem_cons.1 h with rfl | h
    · exact ⟨before, cs, List.subset_append_left _ _⟩
    · obtain ⟨before', after, hsub⟩ := ih h (e :: before)
      exact ⟨before', after, List.subset_append_of_subset_right _ hsub⟩

lemma getLast?_chars (h : (chars before cs).getLast? = some d) :
    ∃ before' c, cs.getLast? = some c ∧ d ∈ char before' [] c := by
  induction cs generalizing before with
  | nil => cases h
  | cons c cs ih =>
    rw [chars] at h
    cases cs with
    | nil =>
      rw [chars, List.append_nil] at h
      exact ⟨before, c, rfl, List.mem_of_getLast? h⟩
    | cons e cs =>
      have hne : chars (c :: before) (e :: cs) ≠ [] := by
        rw [chars]
        exact List.append_ne_nil_of_left_ne_nil (char_ne_nil _ _ e) _
      rw [List.getLast?_append_of_ne_nil _ hne] at h
      rw [List.getLast?_cons_cons]
      exact ih h

lemma trimmed_chars (h : Trimmed isBlank cs) (before : List Char) :
    Trimmed isBlank (chars before cs) := by
  constructor <;> intro d hd <;> refine Bool.eq_false_iff.2 fun hblank => ?_
  · cases cs with
    | nil => cases hd
    | cons c cs =>
      obtain ⟨e, es, he⟩ := List.exists_cons_of_ne_nil (char_ne_nil before cs c)
      rw [chars, he] at hd
      obtain rfl : e = d := Option.some.inj hd
      have hc : e = c := eq_of_mem_char (he ▸ List.mem_cons_self) (Or.inr (Or.inr hblank))
      exact Bool.eq_false_iff.1 (h.head c rfl) (hc ▸ hblank)
  · obtain ⟨before', c, hlast, hmem⟩ := getLast?_chars hd
    have hc : d = c := eq_of_mem_char hmem (Or.inr (Or.inr hblank))
    exact Bool.eq_false_iff.1 (h.last c hlast) (hc ▸ hblank)

end Chars

end Lower

lemma not_mem_lower {c : Char} (hc : Lower.IsMark c) {s : String} (h : c ∉ s.toList) :
    c ∉ (lower s).toList := by
  rw [lower, String.toList_ofList]
  exact fun hm => h (Lower.mem_of_mem_chars hm hc)

lemma trimmed_lower {s : String} (h : Trimmed isBlank s.toList) :
    Trimmed isBlank (lower s).toList := by
  rw [lower, String.toList_ofList]
  exact Lower.trimmed_chars h []

lemma blank_lower {s : String} : Blank (lower s) ↔ Blank s := by
  rw [Blank, lower, String.toList_ofList]
  constructor
  · intro h c hc
    obtain ⟨before, after, hsub⟩ := Lower.exists_char_subset hc []
    obtain ⟨d, ds, hchar⟩ := List.exists_cons_of_ne_nil (Lower.char_ne_nil before after c)
    have hd : d ∈ Lower.char before after c := hchar ▸ List.mem_cons_self
    have hblank := h d (hsub hd)
    exact Lower.eq_of_mem_char hd (Or.inr (Or.inr hblank)) ▸ hblank
  · intro h
    rw [Lower.chars_of_settled fun c hc => Lower.IsMark.settled (Or.inr (Or.inr (h c hc)))]
    exact h

end TraceFields.Text
