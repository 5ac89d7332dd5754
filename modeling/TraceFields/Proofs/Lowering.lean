import Mathlib.Data.List.Basic
import Mathlib.Data.List.Induction
import Mathlib.Tactic.Lemma
import TraceFields.Propagation.Naming

/-!
Lower case is reached in one pass.
-/

namespace TraceFields.Text

namespace Run

def lands (r : Run) : Nat × Nat := ((r.first + r.shift).toNat, (r.last + r.shift).toNat)

def staysValid (r : Run) : Bool :=
  0 ≤ r.first + r.shift && (r.lands.2.blt 0xD800 || (Nat.blt 0xDFFF r.lands.1 && r.lands.2.blt 0x110000))

def avoids (lo hi : Nat) (even : Bool) (s : Run) : Bool :=
  hi.blt s.first || s.last.blt lo || (s.step == 2 && even && (lo + s.first) % 2 == 1)

def misses (r s : Run) : Bool := avoids r.lands.1 r.lands.2 (r.step == 2 || r.first == r.last) s

lemma not_covers_of_misses {r s : Run} (hv : r.staysValid = true)
    (h : r.misses s = true) {n m : Nat} (hn : r.covers n = true) (hm : (m : Int) = n + r.shift) :
    s.covers m = false := by
  simp only [staysValid, Bool.and_eq_true, decide_eq_true_eq] at hv
  simp only [misses, avoids, lands, Nat.blt_eq, Bool.or_eq_true, Bool.and_eq_true, beq_iff_eq] at h
  simp only [covers, Bool.and_eq_true, decide_eq_true_eq, beq_iff_eq] at hn
  simp only [covers, Bool.and_eq_false_iff, decide_eq_false_iff_not, beq_eq_false_iff_ne]
  obtain ⟨⟨hl, hu⟩, hs⟩ := hn
  have h0 := hv.1
  rcases h with (h | h) | ⟨⟨hs', hr⟩, hp⟩
  · omega
  · omega
  · rw [hs']
    rcases hr with hr | hr
    · rw [hr] at hs
      omega
    · omega

end Run

namespace Lower

def special : List Run := [⟨0x3A3, 0x3A3, 1, 0⟩, ⟨0x130, 0x130, 1, 0⟩]

lemma runs_miss : ∀ r ∈ runs, r.staysValid = true ∧ ∀ s ∈ special ++ runs, r.misses s = true := by
  have h : (runs.all fun r => r.staysValid && (special ++ runs).all r.misses) = true := by
    decide +kernel
  simpa only [List.all_eq_true, Bool.and_eq_true] using h

def Settled (c : Char) : Prop := ∀ s ∈ special ++ runs, s.covers c.toNat = false

instance (c : Char) : Decidable (Settled c) :=
  inferInstanceAs (Decidable (∀ s ∈ special ++ runs, _))

lemma char_of_settled {c : Char} (h : Settled c) (before after : List Char) :
    char before after c = [c] := by
  have hs : c ≠ 'Σ' := by
    rintro rfl
    exact absurd (h ⟨0x3A3, 0x3A3, 1, 0⟩ (by simp [special])) (by decide)
  have hi : c ≠ 'İ' := by
    rintro rfl
    exact absurd (h ⟨0x130, 0x130, 1, 0⟩ (by simp [special])) (by decide)
  have hf : runs.find? (fun r => r.covers c.toNat) = none := by
    rw [List.find?_eq_none]
    intro r hr
    simp [h r (List.mem_append_right _ hr)]
  simp [char, hs, hi, move, hf]

lemma chars_of_settled {cs : List Char} (h : ∀ c ∈ cs, Settled c) (before : List Char) :
    chars before cs = cs := by
  induction cs generalizing before with
  | nil => rfl
  | cons c cs ih =>
    rw [chars, char_of_settled (h c (by simp)), ih fun d hd => h d (by simp [hd])]
    rfl

lemma toNat_ofNat {n : Nat} (h : n.isValidChar) : (Char.ofNat n).toNat = n := by
  rw [Char.ofNat, dif_pos h]
  rfl

lemma not_covers_move {r s : Run} (hr : r.staysValid = true) (hs : r.misses s = true) {c : Char}
    (hc : r.covers c.toNat = true) :
    s.covers (Char.ofNat (c.toNat + r.shift).toNat).toNat = false := by
  have hr' := hr
  simp only [Run.staysValid, Run.lands, Nat.blt_eq, Bool.and_eq_true, Bool.or_eq_true,
    decide_eq_true_eq] at hr'
  have hb : r.first ≤ c.toNat ∧ c.toNat ≤ r.last := by
    simp only [Run.covers, Bool.and_eq_true, decide_eq_true_eq] at hc
    exact hc.1
  have hn : (((c.toNat : Int) + r.shift).toNat : Int) = c.toNat + r.shift := by omega
  have hvalid : (c.toNat + r.shift).toNat.isValidChar := by
    unfold Nat.isValidChar
    omega
  rw [toNat_ofNat hvalid]
  exact Run.not_covers_of_misses hr hs hc hn

lemma mem_char_cases {before after : List Char} {c d : Char} (h : d ∈ char before after c) :
    d ∈ ['σ', 'ς', 'i', '\u0307'] ∨
      (∃ r ∈ runs, r.covers c.toNat = true ∧ d = Char.ofNat (c.toNat + r.shift).toNat) ∨
      (Settled c ∧ d = c) := by
  by_cases hs : c = 'Σ'
  · rw [char, if_pos hs, List.mem_singleton] at h
    subst h
    split <;> simp
  by_cases hi : c = 'İ'
  · rw [char, if_neg hs, if_pos hi] at h
    exact Or.inl (by simp_all)
  rw [char, if_neg hs, if_neg hi, List.mem_singleton, move] at h
  subst h
  split
  · next r hr =>
    exact Or.inr (Or.inl ⟨r, List.mem_of_find?_eq_some hr, by simpa using List.find?_some hr, rfl⟩)
  · next hr =>
    refine Or.inr (Or.inr ⟨fun s hm => ?_, rfl⟩)
    rcases List.mem_append.1 hm with hm | hm
    · simp only [special, List.mem_cons, List.not_mem_nil, or_false] at hm
      have ht : ∀ d : Char, c ≠ d → c.toNat ≠ d.toNat := fun d hd he => hd (Char.toNat_inj.1 he)
      have hs' : c.toNat ≠ 0x3A3 := ht 'Σ' hs
      have hi' : c.toNat ≠ 0x130 := ht 'İ' hi
      rcases hm with rfl | rfl <;> simp [Run.covers] <;> omega
    · simpa using List.find?_eq_none.1 hr s hm

lemma settled_of_mem_char {before after : List Char} {c d : Char} (h : d ∈ char before after c) :
    Settled d := by
  obtain hd | ⟨r, hr, hc, rfl⟩ | ⟨hc, rfl⟩ := mem_char_cases h
  · have hspecial : (['σ', 'ς', 'i', '\u0307'].all fun d =>
        (special ++ runs).all fun s => !s.covers d.toNat) = true := by decide +kernel
    simp only [List.all_eq_true, Bool.not_eq_true'] at hspecial
    exact hspecial d hd
  · obtain ⟨hv, hm⟩ := runs_miss r hr
    exact fun s hs => not_covers_move hv (hm s hs) hc
  · exact hc

lemma settled_of_mem_chars {before cs : List Char} {d : Char} (h : d ∈ chars before cs) :
    Settled d := by
  induction cs generalizing before with
  | nil => simp [chars] at h
  | cons c cs ih =>
    rw [chars] at h
    rcases List.mem_append.1 h with h | h
    · exact settled_of_mem_char h
    · exact ih h

end Lower

lemma head?_lower {c : Char} (hc : Lower.Settled c) {s : String} (h : s.toList.head? = some c) :
    (lower s).toList.head? = some c := by
  obtain ⟨cs, hcs⟩ := List.head?_eq_some_iff.1 h
  rw [lower, String.toList_ofList, hcs, Lower.chars, Lower.char_of_settled hc]
  rfl

lemma lower_lower (s : String) : lower (lower s) = lower s := by
  rw [lower, lower, String.toList_ofList]
  exact congrArg _ (Lower.chars_of_settled (fun _ => Lower.settled_of_mem_chars) [])

end TraceFields.Text

namespace TraceFields

lemma canonicalName_canonicalName (name : String) :
    canonicalName (canonicalName name) = canonicalName name :=
  Text.lower_lower name

lemma mem_canonicalNames {names : List String} {name : String} :
    name ∈ canonicalNames names ↔ ∃ n ∈ names, canonicalName n = name := by
  simp [canonicalNames, List.mem_eraseDups]

lemma canonicalName_of_mem {names : List String} {name : String} (h : name ∈ canonicalNames names) :
    canonicalName name = name := by
  obtain ⟨n, -, rfl⟩ := mem_canonicalNames.1 h
  exact canonicalName_canonicalName n

section EraseDups

variable {α : Type} [DecidableEq α]

lemma eraseDups_concat (xs : List α) (x : α) :
    (xs ++ [x]).eraseDups = if x ∈ xs then xs.eraseDups else xs.eraseDups ++ [x] := by
  rw [List.eraseDups_append]
  by_cases h : x ∈ xs <;> simp [List.removeAll, List.eraseDups_cons, h]

lemma pairwise_idxOf_eraseDups (xs : List α) :
    xs.eraseDups.Pairwise fun a b => xs.idxOf a < xs.idxOf b := by
  induction xs using List.reverseRecOn with
  | nil => simp
  | append_singleton xs x ih =>
    have hkept : ∀ a ∈ xs.eraseDups, (xs ++ [x]).idxOf a = xs.idxOf a :=
      fun a ha => List.idxOf_append_of_mem (List.mem_eraseDups.1 ha)
    have hbefore : xs.eraseDups.Pairwise fun a b => (xs ++ [x]).idxOf a < (xs ++ [x]).idxOf b :=
      ih.imp_of_mem fun ha hb hlt => by rwa [hkept _ ha, hkept _ hb]
    rw [eraseDups_concat]
    split
    · exact hbefore
    · next hx =>
      rw [List.pairwise_append]
      refine ⟨hbefore, List.pairwise_singleton _ x, fun a ha b hb => ?_⟩
      obtain rfl := List.mem_singleton.1 hb
      rw [hkept a ha, List.idxOf_append_of_notMem hx]
      exact Nat.lt_add_right _ (List.idxOf_lt_length_of_mem (List.mem_eraseDups.1 ha))

lemma nodup_eraseDups (xs : List α) : xs.eraseDups.Nodup := by
  refine (pairwise_idxOf_eraseDups xs).imp fun hlt he => ?_
  rw [he] at hlt
  exact Nat.lt_irrefl _ hlt

lemma eraseDups_of_nodup {xs : List α} (h : xs.Nodup) : xs.eraseDups = xs := by
  induction xs using List.reverseRecOn with
  | nil => rfl
  | append_singleton xs x ih =>
    have hx := List.nodup_append.1 h
    have hnew : x ∉ xs := fun hm => hx.2.2 x hm x (List.mem_singleton_self x) rfl
    rw [eraseDups_concat, if_neg hnew, ih hx.1]

end EraseDups

lemma nodup_canonicalNames (names : List String) : (canonicalNames names).Nodup := nodup_eraseDups _

lemma map_canonicalName_canonicalNames (names : List String) :
    (canonicalNames names).map canonicalName = canonicalNames names :=
  (List.map_congr_left fun _ => canonicalName_of_mem).trans (List.map_id _)

lemma canonicalNames_canonicalNames (names : List String) :
    canonicalNames (canonicalNames names) = canonicalNames names := by
  rw [canonicalNames, map_canonicalName_canonicalNames,
    eraseDups_of_nodup (nodup_canonicalNames names)]

lemma canonicalNames_eq_nil {names : List String} : canonicalNames names = [] ↔ names = [] := by
  constructor
  · intro h
    cases names with
    | nil => rfl
    | cons n ns =>
      have : canonicalName n ∈ canonicalNames (n :: ns) := mem_canonicalNames.2 ⟨n, by simp, rfl⟩
      simp [h] at this
  · rintro rfl
    rfl

lemma nameTexts_map (names : List String) : nameTexts (names.map .text) = .ok names := by
  induction names with
  | nil => rfl
  | cons n names ih =>
    rw [List.map_cons, nameTexts, ih]
    rfl

lemma FieldScheme.ofCollection_texts (delegate : Scheme) {names : List String} (h : names ≠ []) :
    ofCollection (some delegate) (.list (names.map .text)) =
    .ok { delegate, names := canonicalNames names } := by
  simp only [ofCollection, Datum.items?, nameTexts_map, ofTexts]
  split
  · next hn => exact absurd (canonicalNames_eq_nil.1 hn) h
  · rfl

end TraceFields
