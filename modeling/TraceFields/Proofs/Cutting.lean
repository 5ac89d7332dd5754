import Mathlib.Data.List.Basic
import Mathlib.Data.List.TakeWhile
import Mathlib.Tactic.Lemma
import TraceFields.Text.Blank
import TraceFields.Text.Split

namespace TraceFields.Text

lemma of_ascii {P : Char → Prop} (h : ∀ n < 128, P (Char.ofNat n)) {c : Char}
    (hc : c.toNat < 128) : P c := by
  have hh := h c.toNat hc
  rwa [Char.ofNat_toNat] at hh

section Cut

variable {sep : Char} {cs : List Char}

lemma pieces_of_not_mem (h : sep ∉ cs) : pieces sep cs = [cs] := by
  induction cs with
  | nil => rfl
  | cons c cs ih =>
    rw [List.mem_cons, not_or] at h
    rw [pieces, if_neg (Ne.symm h.1), ih h.2]

lemma pieces_append (h : sep ∉ cs) (ds : List Char) :
    pieces sep (cs ++ sep :: ds) = cs :: pieces sep ds := by
  induction cs with
  | nil => rw [List.nil_append, pieces, if_pos rfl]
  | cons c cs ih =>
    rw [List.mem_cons, not_or] at h
    rw [List.cons_append, pieces, if_neg (Ne.symm h.1), ih h.2]

lemma not_mem_of_mem_pieces {p : List Char} (h : p ∈ pieces sep cs) : sep ∉ p := by
  induction cs generalizing p with
  | nil =>
    obtain rfl := List.mem_singleton.1 h
    exact List.not_mem_nil
  | cons c cs ih =>
    rw [pieces] at h
    split at h
    · rcases List.mem_cons.1 h with rfl | h
      · exact List.not_mem_nil
      · exact ih h
    · next hc =>
      cases hps : pieces sep cs with
      | nil => exact absurd hps (pieces_ne_nil sep cs)
      | cons q qs =>
        rw [hps] at h ih
        rcases List.mem_cons.1 h with rfl | h
        · rw [List.mem_cons, not_or]
          exact ⟨Ne.symm hc, ih List.mem_cons_self⟩
        · exact ih (List.mem_cons_of_mem q h)

lemma cut?_of_not_mem (h : sep ∉ cs) : cut? sep cs = none := by
  induction cs with
  | nil => rfl
  | cons c cs ih =>
    rw [List.mem_cons, not_or] at h
    rw [cut?, if_neg (Ne.symm h.1), ih h.2, Option.map_none]

lemma cut?_append (h : sep ∉ cs) (ds : List Char) :
    cut? sep (cs ++ sep :: ds) = some (cs, ds) := by
  induction cs with
  | nil => rw [List.nil_append, cut?, if_pos rfl]
  | cons c cs ih =>
    rw [List.mem_cons, not_or] at h
    rw [List.cons_append, cut?, if_neg (Ne.symm h.1), ih h.2, Option.map_some]

lemma eq_of_cut? {a b : List Char} (h : cut? sep cs = some (a, b)) : cs = a ++ sep :: b := by
  induction cs generalizing a with
  | nil => cases h
  | cons c cs ih =>
    rw [cut?] at h
    split at h
    · next hc =>
      cases h
      rw [hc, List.nil_append]
    · obtain ⟨⟨a', b'⟩, hcut, he⟩ := Option.map_eq_some_iff.1 h
      cases he
      rw [ih hcut, List.cons_append]

lemma not_mem_of_cut? {a b : List Char} (h : cut? sep cs = some (a, b)) : sep ∉ a := by
  induction cs generalizing a with
  | nil => cases h
  | cons c cs ih =>
    rw [cut?] at h
    split at h
    · cases h
      exact List.not_mem_nil
    · next hc =>
      obtain ⟨⟨a', b'⟩, hcut, he⟩ := Option.map_eq_some_iff.1 h
      cases he
      rw [List.mem_cons, not_or]
      exact ⟨Ne.symm hc, ih hcut⟩

lemma toList_joined_cons (by_ s t : String) (ss : List String) :
    (joined by_ (s :: t :: ss)).toList =
      s.toList ++ (by_.toList ++ (joined by_ (t :: ss)).toList) := by
  rw [joined, String.toList_append, String.toList_append, List.append_assoc]

lemma pieces_joined {by_ : String} (hby : by_.toList = [sep]) {ss : List String} (hn : ss ≠ [])
    (h : ∀ s ∈ ss, sep ∉ s.toList) : pieces sep (joined by_ ss).toList = ss.map String.toList := by
  induction ss with
  | nil => exact absurd rfl hn
  | cons s ss ih =>
    have hs : sep ∉ s.toList := h s List.mem_cons_self
    cases ss with
    | nil => exact pieces_of_not_mem hs
    | cons t ss =>
      rw [toList_joined_cons, hby, List.singleton_append, pieces_append hs, List.map_cons,
        ih (List.cons_ne_nil t ss) fun u hu => h u (List.mem_cons_of_mem s hu)]

lemma splitOn_joined {by_ : String} (hby : by_.toList = [sep]) {ss : List String} (hn : ss ≠ [])
    (h : ∀ s ∈ ss, sep ∉ s.toList) : splitOn sep (joined by_ ss) = ss := by
  have hid : String.ofList ∘ String.toList = id := by
    funext s
    exact String.ofList_toList
  rw [splitOn, pieces_joined hby hn h, List.map_map, hid, List.map_id]

lemma toList_joined_pieces {by_ : String} (hby : by_.toList = [sep]) (cs : List Char) :
    (joined by_ ((pieces sep cs).map String.ofList)).toList = cs := by
  induction cs with
  | nil => rfl
  | cons c cs ih =>
    obtain ⟨p, ps, hp⟩ := List.exists_cons_of_ne_nil (pieces_ne_nil sep cs)
    rw [hp, List.map_cons] at ih
    rw [pieces, hp]
    split
    · next hc =>
      rw [List.map_cons, List.map_cons, toList_joined_cons, ih, hby, hc, String.toList_ofList]
      rfl
    · dsimp only
      cases ps with
      | nil =>
        rw [List.map_nil, joined, String.toList_ofList] at ih
        rw [List.map_cons, List.map_nil, joined, String.toList_ofList, ih]
      | cons q qs =>
        rw [List.map_cons, toList_joined_cons, String.toList_ofList] at ih
        rw [List.map_cons, List.map_cons, toList_joined_cons, String.toList_ofList,
          List.cons_append, ih]

lemma joined_splitOn {by_ : String} (hby : by_.toList = [sep]) (s : String) :
    joined by_ (splitOn sep s) = s :=
  String.toList_inj.1 (toList_joined_pieces hby s.toList)

lemma mem_joined {by_ : String} {ss : List String} {c : Char} (h : c ∈ (joined by_ ss).toList) :
    c ∈ by_.toList ∨ ∃ s ∈ ss, c ∈ s.toList := by
  induction ss with
  | nil => cases h
  | cons s ss ih =>
    cases ss with
    | nil => exact Or.inr ⟨s, List.mem_cons_self, h⟩
    | cons t ss =>
      rw [toList_joined_cons, List.mem_append, List.mem_append] at h
      rcases h with h | h | h
      · exact Or.inr ⟨s, List.mem_cons_self, h⟩
      · exact Or.inl h
      · exact (ih h).imp_right fun ⟨u, hu, hc⟩ => ⟨u, List.mem_cons_of_mem s hu, hc⟩

lemma le_length_joined (by_ : String) {n : Nat} {ss : List String}
    (h : ∀ s ∈ ss, n ≤ s.toList.length) : ss.length * n ≤ (joined by_ ss).toList.length := by
  induction ss with
  | nil => rw [List.length_nil, Nat.zero_mul]; apply Nat.zero_le
  | cons s ss ih =>
    have hs := h s List.mem_cons_self
    have hh := ih fun t ht => h t (List.mem_cons_of_mem s ht)
    cases ss with
    | nil => simpa [joined] using hs
    | cons t ss =>
      rw [toList_joined_cons, List.length_append, List.length_append, List.length_cons, Nat.succ_mul]
      omega

end Cut

section Trim

variable {p : Char → Bool} {cs : List Char}

structure Trimmed (p : Char → Bool) (cs : List Char) : Prop where
  head : ∀ c, cs.head? = some c → p c = false
  last : ∀ c, cs.getLast? = some c → p c = false

lemma Trimmed.of_forall (h : ∀ c ∈ cs, p c = false) : Trimmed p cs :=
  ⟨fun _ hc => h _ (List.mem_of_head? hc), fun _ hc => h _ (List.mem_of_getLast? hc)⟩

lemma Trimmed.of_ends {ds : List Char} (hc : cs ≠ []) (hd : ds ≠ [])
    (hhead : ∀ c, cs.head? = some c → p c = false)
    (hlast : ∀ c, ds.getLast? = some c → p c = false) (mid : List Char) :
    Trimmed p (cs ++ mid ++ ds) := by
  constructor <;> intro c h
  · obtain ⟨e, es, rfl⟩ := List.exists_cons_of_ne_nil hc
    exact hhead c h
  · rw [List.getLast?_append_of_ne_nil _ hd] at h
    exact hlast c h

lemma Trimmed.of_imp {q : Char → Bool} (h : Trimmed p cs) (hq : ∀ c, q c = true → p c = true) :
    Trimmed q cs := by
  have hf : ∀ c, p c = false → q c = false := fun c hc =>
    Bool.eq_false_iff.2 fun ht => Bool.eq_false_iff.1 hc (hq c ht)
  exact ⟨fun c hc => hf c (h.head c hc), fun c hc => hf c (h.last c hc)⟩

lemma dropWhile_of_head (h : ∀ c, cs.head? = some c → p c = false) : cs.dropWhile p = cs := by
  cases cs with
  | nil => rfl
  | cons c cs => rw [List.dropWhile_cons, h c rfl, if_neg Bool.false_ne_true]

lemma head_of_dropWhile {c : Char} (h : (cs.dropWhile p).head? = some c) : p c = false := by
  have hh := List.head?_dropWhile_not p cs
  rw [h] at hh
  exact hh

lemma getLast?_dropWhile {c : Char} (h : (cs.dropWhile p).getLast? = some c) :
    cs.getLast? = some c := by
  have hh := congrArg List.getLast? (List.takeWhile_append_dropWhile (p := p) (l := cs))
  rw [List.getLast?_append, h, Option.some_or] at hh
  exact hh.symm

lemma getLast?_dropWhile_of_not {c : Char} (h : cs.getLast? = some c) (hc : p c = false) :
    (cs.dropWhile p).getLast? = some c := by
  obtain ⟨ds, rfl⟩ := List.getLast?_eq_some_iff.1 h
  rw [List.dropWhile_append]
  split <;> simp [hc]

lemma trim_eq_dropWhile (h : ∀ c, cs.getLast? = some c → p c = false) :
    trim p cs = cs.dropWhile p := by
  rw [trim, dropWhile_of_head, List.reverse_reverse]
  intro c hc
  rw [List.head?_reverse] at hc
  exact h c (getLast?_dropWhile hc)

lemma trim_eq_self (h : Trimmed p cs) : trim p cs = cs := by
  rw [trim_eq_dropWhile h.last, dropWhile_of_head h.head]

lemma trim_eq_nil (h : ∀ c ∈ cs, p c = true) : trim p cs = [] := by
  rw [trim, List.dropWhile_eq_nil_iff.2 h]
  rfl

lemma trim_padded {before after : List Char} (hb : ∀ c ∈ before, p c = true)
    (ha : ∀ c ∈ after, p c = true) (h : Trimmed p cs) (hne : cs ≠ []) :
    trim p (before ++ cs ++ after) = cs := by
  have hhead : ∀ c, (cs ++ after).head? = some c → p c = false := by
    obtain ⟨d, ds, rfl⟩ := List.exists_cons_of_ne_nil hne
    exact h.head
  have hlast : ∀ c, cs.reverse.head? = some c → p c = false := by
    rw [List.head?_reverse]
    exact h.last
  have hafter : ∀ c ∈ after.reverse, p c = true := fun c hc => ha c (List.mem_reverse.1 hc)
  rw [trim, List.append_assoc, List.dropWhile_append_of_pos hb, dropWhile_of_head hhead,
    List.reverse_append, List.dropWhile_append_of_pos hafter, dropWhile_of_head hlast,
    List.reverse_reverse]

lemma eq_trim_padded (p : Char → Bool) (cs : List Char) :
    ∃ before after, (∀ c ∈ before, p c = true) ∧ (∀ c ∈ after, p c = true) ∧
      cs = before ++ trim p cs ++ after := by
  let ds := (cs.dropWhile p).reverse
  refine ⟨cs.takeWhile p, (ds.takeWhile p).reverse, fun c hc => List.mem_takeWhile_imp hc,
    fun c hc => List.mem_takeWhile_imp (List.mem_reverse.1 hc), ?_⟩
  have hback : (ds.dropWhile p).reverse ++ (ds.takeWhile p).reverse = cs.dropWhile p := by
    rw [← List.reverse_append, List.takeWhile_append_dropWhile, List.reverse_reverse]
  rw [trim, List.append_assoc, hback, List.takeWhile_append_dropWhile]

lemma mem_of_mem_trim {c : Char} (h : c ∈ trim p cs) : c ∈ cs := by
  rw [trim, List.mem_reverse] at h
  have hreversed := (List.dropWhile_suffix p).subset h
  rw [List.mem_reverse] at hreversed
  exact (List.dropWhile_suffix p).subset hreversed

lemma trimmed_trim (p : Char → Bool) (cs : List Char) : Trimmed p (trim p cs) := by
  constructor <;> intro c hc
  · rw [trim, List.head?_reverse] at hc
    have hlast := getLast?_dropWhile hc
    rw [List.getLast?_reverse] at hlast
    exact head_of_dropWhile hlast
  · rw [trim, List.getLast?_reverse] at hc
    exact head_of_dropWhile hc

end Trim

section Blank

def Blank (s : String) : Prop := ∀ c ∈ s.toList, isBlank c = true

instance (s : String) : Decidable (Blank s) :=
  decidable_of_iff (s.toList.all isBlank = true) List.all_eq_true

lemma Blank.not_mem {s : String} (h : Blank s) {c : Char} (hc : isBlank c = false) :
    c ∉ s.toList := fun hm => Bool.eq_false_iff.1 hc (h c hm)

lemma Blank.append {s t : String} (hs : Blank s) (ht : Blank t) : Blank (s ++ t) := by
  rw [Blank, String.toList_append, List.forall_mem_append]
  exact ⟨hs, ht⟩

lemma strip_blank {s : String} (h : Blank s) : strip s = "" := by
  rw [strip, trim_eq_nil h, String.ofList_nil]

lemma strip_eq_self {s : String} (h : Trimmed isBlank s.toList) : strip s = s := by
  rw [strip, trim_eq_self h, String.ofList_toList]

lemma strip_padded {before s after : String} (hb : Blank before) (ha : Blank after)
    (h : Trimmed isBlank s.toList) (hne : s ≠ "") : strip (before ++ s ++ after) = s := by
  rw [strip, String.toList_append, String.toList_append, trim_padded hb ha h, String.ofList_toList]
  simpa using hne

lemma eq_strip_padded (s : String) :
    ∃ before after, Blank before ∧ Blank after ∧ s = before ++ strip s ++ after := by
  obtain ⟨before, after, hb, ha, hs⟩ := eq_trim_padded isBlank s.toList
  refine ⟨String.ofList before, String.ofList after, ?_, ?_, String.toList_inj.1 ?_⟩
  · rwa [Blank, String.toList_ofList]
  · rwa [Blank, String.toList_ofList]
  · simpa [strip] using hs

lemma blank_of_strip {s : String} (h : strip s = "") : Blank s := by
  obtain ⟨before, after, hbefore, hafter, hs⟩ := eq_strip_padded s
  rw [hs, h, String.append_empty]
  exact hbefore.append hafter

lemma not_blank_of_trimmed {s : String} (h : Trimmed isBlank s.toList) (hne : s ≠ "") :
    ¬ Blank s := fun hb => hne ((strip_eq_self h).symm.trans (strip_blank hb))

lemma trimmed_ofList_trim (cs : List Char) :
    Trimmed isBlank (String.ofList (trim isBlank cs)).toList := by
  rw [String.toList_ofList]
  exact trimmed_trim _ _

lemma not_mem_ofList_trim {c : Char} {cs : List Char} (h : c ∉ cs) :
    c ∉ (String.ofList (trim isBlank cs)).toList := by
  rw [String.toList_ofList]
  exact fun hm => h (mem_of_mem_trim hm)

end Blank

end TraceFields.Text
