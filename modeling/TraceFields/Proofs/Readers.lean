import Mathlib.Tactic.Lemma
import TraceFields.Toml.Scanner

/-!
The readers of tokens go forward: what one of them leaves of a text is an end of it.
-/

namespace TraceFields.Toml

def Leaves {α : Type} (cs : List Char) (r : Option (α × List Char)) : Prop :=
  ∀ a rest, r = some (a, rest) → rest <:+ cs

namespace Leaves

variable {α β : Type} {c : Char} {cs rest : List Char} {r : Option (α × List Char)}

lemma none : Leaves cs (.none : Option (α × List Char)) := by
  intro a rest h
  cases h

lemma some {a : α} (h : rest <:+ cs) : Leaves cs (.some (a, rest)) := by
  rintro _ _ ⟨⟩
  exact h

lemma mono (hr : Leaves rest r) (h : rest <:+ cs) : Leaves cs r :=
  fun a more hread => (hr a more hread).trans h

lemma cons (hr : Leaves cs r) : Leaves (c :: cs) r := hr.mono (List.suffix_cons c cs)

lemma after {r : Option β} {f : β → Option (α × List Char)}
    (hf : ∀ b, r = .some b → Leaves cs (f b)) : Leaves cs (r.bind f) := by
  intro a rest h
  obtain ⟨b, hread, hf'⟩ := Option.bind_eq_some_iff.1 h
  exact hf b hread a rest hf'

lemma bind {f : α × List Char → Option (β × List Char)} (hr : Leaves cs r)
    (hf : ∀ a rest, rest <:+ cs → Leaves rest (f (a, rest))) : Leaves cs (r.bind f) :=
  .after fun (a, rest) hread => (hf a rest (hr a rest hread)).mono (hr a rest hread)

lemma map (f : α → β) (hr : Leaves cs r) :
    Leaves cs (r.map fun p => (f p.1, p.2)) := by
  intro b rest h
  obtain ⟨⟨a, rest⟩, hread, he⟩ := Option.map_eq_some_iff.1 h
  cases he
  exact hr a rest hread

end Leaves

lemma skipGap_suffix (cs : List Char) : skipGap cs <:+ cs := List.dropWhile_suffix _

lemma skipComment_suffix {cs rest : List Char} (h : skipComment cs = some rest) : rest <:+ cs := by
  unfold skipComment at h
  split at h
  · split at h
    · cases h
    · cases h
      exact (List.dropWhile_suffix _).trans (List.suffix_cons _ _)
  · cases h
    exact List.suffix_rfl

lemma skipLines_suffix {fuel : Nat} {cs rest : List Char} (h : skipLines fuel cs = some rest) :
    rest <:+ cs := by
  induction fuel generalizing cs with
  | zero => cases h
  | succ fuel ih =>
    have hgap : cs.dropWhile isGapOrNewline <:+ cs := List.dropWhile_suffix _
    rw [skipLines] at h
    split at h
    · next he =>
      obtain ⟨line, hline, h⟩ := Option.bind_eq_some_iff.1 h
      rw [he] at hgap
      exact ((ih h).trans (skipComment_suffix hline)).trans hgap
    · cases h
      exact hgap

namespace Strings

lemma literal_leaves (cs : List Char) : Leaves cs (literal cs) := by
  fun_induction literal cs with
  | case1 => exact .none
  | case2 cs => exact .some (List.suffix_cons _ _)
  | case3 => exact .none
  | case4 c cs _ _ ih => exact (ih.map _).cons

lemma literalLines_leaves (cs : List Char) : Leaves cs (literalLines cs) := by
  fun_induction literalLines cs with
  | case1 cs => exact .some (List.suffix_append ['\'', '\'', '\''] cs)
  | case2 => exact .none
  | case3 c cs _ _ ih => exact (ih.map _).cons
  | case4 => exact .none

lemma escape_leaves {α : Type} {cs : List Char} {r : Option (List α × List Char)} (x? : Option α)
    (h : Leaves cs r) :
    Leaves cs (do let x ← x?; let (s, rest) ← r; pure (x :: s, rest)) :=
  .after fun _ _ => h.bind fun _ _ _ => .some List.suffix_rfl

lemma basic_leaves (lines joining : Bool) (cs : List Char) : Leaves cs (basic lines joining cs) := by
  fun_induction basic lines joining cs with
  | case1 => exact .none
  | case2 joining c cs _ ih => exact ih.cons
  | case3 _ _ rest => exact .some (List.suffix_append ['"', '"', '"'] rest)
  | case4 _ cs _ _ _ ih => exact (ih.map _).cons
  | case5 _ cs => exact .some (List.suffix_cons _ _)
  | case6 _ a b d e rest _ _ ih =>
    exact (escape_leaves _ ih).mono (List.suffix_append ['\\', 'u', a, b, d, e] rest)
  | case7 _ a b d e f g h i rest _ _ ih =>
    exact (escape_leaves _ ih).mono (List.suffix_append ['\\', 'U', a, b, d, e, f, g, h, i] rest)
  | case8 _ x rest _ _ _ _ _ ih => exact ih.cons.cons
  | case9 _ x rest _ _ _ _ _ ih => exact (escape_leaves _ ih).cons.cons
  | case10 => exact .none
  | case11 => exact .none
  | case12 _ c cs _ _ _ _ ih => exact (ih.map _).cons

lemma extraQuotes_suffix (quote : Char) (s cs : List Char) : (extraQuotes quote s cs).2 <:+ cs := by
  fun_cases extraQuotes quote s cs with
  | case1 cs => exact List.suffix_append [quote, quote] cs
  | case2 b cs _ => exact List.suffix_cons _ _
  | case3 => exact List.suffix_rfl
  | case4 => exact List.suffix_cons _ _
  | case5 => exact List.suffix_rfl
  | case6 => exact List.suffix_rfl

lemma dropFirstNewline_suffix (cs : List Char) : dropFirstNewline cs <:+ cs := by
  fun_cases dropFirstNewline cs with
  | case1 cs => exact List.suffix_cons _ _
  | case2 => exact List.suffix_rfl

lemma extraQuotes_leaves {quote : Char} {cs : List Char} {r : Option (List Char × List Char)}
    (h : Leaves cs r) : Leaves cs (r.map fun (s, rest) => extraQuotes quote s rest) := by
  intro s rest he
  obtain ⟨⟨s', rest'⟩, hr, hq⟩ := Option.map_eq_some_iff.1 he
  have hsuffix := extraQuotes_suffix quote s' rest'
  rw [show extraQuotes quote s' rest' = (s, rest) from hq] at hsuffix
  exact hsuffix.trans (h s' rest' hr)

lemma any_leaves (cs : List Char) : Leaves cs (any cs) := by
  fun_cases any cs with
  | case1 cs =>
    exact extraQuotes_leaves
      (((basic_leaves _ _ _).mono (dropFirstNewline_suffix cs)).cons.cons.cons)
  | case2 cs _ => exact (basic_leaves _ _ _).cons
  | case3 cs =>
    exact extraQuotes_leaves
      (((literalLines_leaves _).mono (dropFirstNewline_suffix cs)).cons.cons.cons)
  | case4 cs _ => exact (literal_leaves cs).cons
  | case5 => exact .none

end Strings

namespace Keys

lemma part_leaves (cs : List Char) : Leaves cs (part cs) := by
  fun_cases part cs with
  | case1 cs => exact ((Strings.basic_leaves _ _ cs).map _).cons
  | case2 cs => exact ((Strings.literal_leaves cs).map _).cons
  | case3 => exact .none
  | case4 => exact .some (List.dropWhile_suffix _)

lemma dotted_leaves (fuel : Nat) (cs : List Char) : Leaves cs (dotted fuel cs) := by
  induction fuel generalizing cs with
  | zero => exact .none
  | succ fuel ih =>
    refine (part_leaves cs).bind fun s rest _ => ?_
    have hgap := skipGap_suffix rest
    dsimp only
    split
    · next more he =>
      rw [he] at hgap
      refine Leaves.mono (Leaves.bind ?_ fun _ _ _ => .some List.suffix_rfl) hgap
      exact ((ih _).mono (skipGap_suffix more)).cons
    · exact .some hgap

end Keys

namespace Numbers

lemma row_suffix (p : Char → Bool) (cs : List Char) : (row p cs).2 <:+ cs := by
  fun_induction row p cs with
  | case1 c cs _ ds rest he ih =>
    rw [he] at ih
    exact ih.trans (List.suffix_append ['_', c] cs)
  | case2 => exact List.suffix_rfl
  | case3 c cs _ _ ds rest he ih =>
    rw [he] at ih
    exact ih.trans (List.suffix_cons _ _)
  | case4 => exact List.suffix_rfl
  | case5 => exact List.suffix_rfl

lemma row?_leaves (p : Char → Bool) (cs : List Char) : Leaves cs (row? p cs) := by
  fun_cases row? p cs with
  | case1 c cs _ => exact .some (row_suffix p (c :: cs))
  | case2 => exact .none
  | case3 => exact .none

lemma based_leaves (cs : List Char) : Leaves cs (based cs) := by
  fun_cases based cs with
  | case1 cs => exact ((row?_leaves _ cs).map fun ds => (valueIn 16 ds : Int)).cons.cons
  | case2 cs => exact ((row?_leaves _ cs).map fun ds => (valueIn 8 ds : Int)).cons.cons
  | case3 cs => exact ((row?_leaves _ cs).map fun ds => (valueIn 2 ds : Int)).cons.cons
  | case4 => exact .none

lemma signed_suffix (cs : List Char) : (signed cs).2 <:+ cs := by
  fun_cases signed cs with
  | case1 cs => exact List.suffix_cons _ _
  | case2 cs => exact List.suffix_cons _ _
  | case3 => exact List.suffix_rfl

lemma whole_leaves (cs : List Char) : Leaves cs (whole cs) := by
  fun_cases whole cs with
  | case1 cs => exact .some (List.suffix_cons _ _)
  | case2 => exact row?_leaves _ _

lemma fraction_suffix (cs : List Char) : (fraction cs).2 <:+ cs := by
  fun_cases fraction cs with
  | case1 cs ds rest hr => exact (row?_leaves _ _ _ _ hr).trans (List.suffix_cons _ _)
  | case2 cs _ => exact List.suffix_rfl
  | case3 => exact List.suffix_rfl

lemma exponent_suffix (cs : List Char) : (exponent cs).2 <:+ cs := by
  fun_cases exponent cs with
  | case1 c cs _ sign rest hs ds rest' hr =>
    have hsign := signed_suffix cs
    rw [hs] at hsign
    exact ((row?_leaves _ _ _ _ hr).trans hsign).trans (List.suffix_cons _ _)
  | case2 => exact List.suffix_rfl
  | case3 => exact List.suffix_rfl
  | case4 => exact List.suffix_rfl

lemma special_leaves (cs : List Char) : Leaves cs (special cs) := by
  have hsign := signed_suffix cs
  fun_cases special cs with
  | case1 sign rest he =>
    rw [he] at hsign
    exact .some ((List.suffix_append ['i', 'n', 'f'] rest).trans hsign)
  | case2 sign rest he =>
    rw [he] at hsign
    exact .some ((List.suffix_append ['n', 'a', 'n'] rest).trans hsign)
  | case3 => exact .none

end Numbers

namespace Moments

lemma field_leaves (width low high : Nat) (cs : List Char) :
    Leaves cs (field width low high cs) := by
  fun_cases field width low high cs with
  | case1 => exact .some (List.drop_suffix _ _)
  | case2 => exact .none
  | case3 => exact .none

lemma mark_suffix {c : Char} {cs rest : List Char} (h : mark c cs = some rest) : rest <:+ cs := by
  cases cs with
  | nil => cases h
  | cons x cs =>
    rw [mark] at h
    split at h
    · cases h
      exact List.suffix_cons _ _
    · cases h

lemma marked_leaves {α : Type} (c : Char) (cs : List Char)
    {f : List Char → Option (α × List Char)} (hf : ∀ rest, Leaves rest (f rest)) :
    Leaves cs ((mark c cs).bind f) :=
  .after fun rest h => (hf rest).mono (mark_suffix h)

lemma day_leaves (cs : List Char) : Leaves cs (day cs) := by
  refine (field_leaves 4 0 9999 cs).bind fun year cs _ => marked_leaves '-' cs fun cs => ?_
  refine (field_leaves 2 1 12 cs).bind fun month cs _ => marked_leaves '-' cs fun cs => ?_
  exact (field_leaves 2 1 31 cs).bind fun d cs _ => .some List.suffix_rfl

lemma microseconds_suffix (cs : List Char) : (microseconds cs).2 <:+ cs := by
  fun_cases microseconds cs with
  | case1 => exact List.suffix_rfl
  | case2 => exact (List.dropWhile_suffix _).trans (List.suffix_cons _ _)
  | case3 => exact List.suffix_rfl

lemma clock_leaves (cs : List Char) : Leaves cs (clock cs) := by
  refine (field_leaves 2 0 23 cs).bind fun hour cs _ => marked_leaves ':' cs fun cs => ?_
  refine (field_leaves 2 0 59 cs).bind fun minute cs _ => marked_leaves ':' cs fun cs => ?_
  exact (field_leaves 2 0 59 cs).bind fun second cs _ => .some (microseconds_suffix cs)

lemma hoursAndMinutes_leaves (sign : Int) (cs : List Char) :
    Leaves cs (hoursAndMinutes sign cs) := by
  refine (field_leaves 2 0 23 cs).bind fun hour cs _ => marked_leaves ':' cs fun cs => ?_
  exact (field_leaves 2 0 59 cs).bind fun minute cs _ => .some List.suffix_rfl

lemma offset_suffix (cs : List Char) : (offset cs).2 <:+ cs := by
  fun_cases offset cs with
  | case1 found minutes rest he =>
    have hfound : Leaves cs found := by
      unfold found
      split
      · exact .some (List.suffix_cons _ _)
      · exact .some (List.suffix_cons _ _)
      · exact (hoursAndMinutes_leaves _ _).cons
      · exact (hoursAndMinutes_leaves _ _).cons
      · exact .none
    exact hfound _ _ he
  | case2 => exact List.suffix_rfl

lemma dated_leaves (cs : List Char) : Leaves cs (dated cs) := by
  refine (day_leaves cs).bind fun d rest _ => ?_
  dsimp only
  split
  · exact .none
  cases rest with
  | nil => exact .some List.suffix_rfl
  | cons sep rest =>
    dsimp only
    split
    · -- a time that cannot be read is left after the day
      split
      · next c rest' hc =>
        have hclock : rest' <:+ rest := clock_leaves rest _ _ hc
        exact .some (((offset_suffix rest').trans hclock).trans (List.suffix_cons _ _))
      · exact .some List.suffix_rfl
    · exact .some List.suffix_rfl

lemma moment_leaves (cs : List Char) : Leaves cs (moment cs) := by
  fun_cases moment cs with
  | case1 r hr => rw [← hr]; exact dated_leaves cs
  | case2 => exact (clock_leaves cs).map _

end Moments

end TraceFields.Toml
