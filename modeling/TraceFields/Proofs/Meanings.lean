import Mathlib.Data.List.Forall2
import TraceFields.Proofs.Cutting
import TraceFields.Settings.Check

/-!
What values mean as settings, apart from how they are checked.
-/

namespace TraceFields

open Text (Blank)

structure IsListed (name : String) : Prop where
  ne_empty : name ≠ ""
  no_comma : ',' ∉ name.toList
  trimmed : Text.Trimmed Text.isBlank name.toList

/-- Segments with the names among them in this order, each with white space around it; the other
segments are blank. -/
inductive Spread : List String → List String → Prop where
  | nil : Spread [] []
  | blank {names segments : List String} {gap : String} (hgap : Blank gap)
      (h : Spread names segments) : Spread names (gap :: segments)
  | name {names segments : List String} {before name after : String} (hbefore : Blank before)
      (hafter : Blank after) (h : Spread names segments) :
      Spread (name :: names) ((before ++ name ++ after) :: segments)

namespace Spread

variable {names segments : List String}

lemma not_mem {c : Char} (h : Spread names segments) (hc : Text.isBlank c = false)
    (hnames : ∀ n ∈ names, c ∉ n.toList) : ∀ s ∈ segments, c ∉ s.toList := by
  induction h with
  | nil => simp
  | blank hgap _ ih =>
    rw [List.forall_mem_cons]
    exact ⟨hgap.not_mem hc, ih hnames⟩
  | name hbefore hafter _ ih =>
    rw [List.forall_mem_cons] at hnames ⊢
    refine ⟨?_, ih hnames.2⟩
    simp [hbefore.not_mem hc, hafter.not_mem hc, hnames.1]

lemma filter_strip (h : Spread names segments) (hnames : ∀ n ∈ names, IsListed n) :
    (segments.map Text.strip).filter (· ≠ "") = names := by
  induction h with
  | nil => rfl
  | blank hgap _ ih => simpa [Text.strip_blank hgap] using ih hnames
  | @name names segments before name after hbefore hafter _ ih =>
    obtain ⟨hname, hnames⟩ := List.forall_mem_cons.1 hnames
    simpa [Text.strip_padded hbefore hafter hname.trimmed hname.ne_empty, hname.ne_empty] using
      ih hnames

lemma of_strip (segments : List String) :
    Spread ((segments.map Text.strip).filter (· ≠ "")) segments := by
  induction segments with
  | nil => exact .nil
  | cons s segments ih =>
    rw [List.map_cons]
    by_cases hblank : Text.strip s = ""
    · rw [List.filter_cons_of_neg (by simpa using hblank)]
      exact .blank (Text.blank_of_strip hblank) ih
    · obtain ⟨before, after, hbefore, hafter, hs⟩ := Text.eq_strip_padded s
      rw [List.filter_cons_of_pos (by simpa using hblank)]
      have hname := @Spread.name _ _ before (Text.strip s) after hbefore hafter ih
      rwa [← hs] at hname

end Spread

def Lists (text : String) (names : List String) : Prop :=
  ∃ segments, text = Text.joined "," segments ∧ Spread names segments ∧ ∀ n ∈ names, IsListed n

namespace Toml.Value

inductive GivesNames : Value → List String → Prop where
  | text {text : String} {names : List String} (h : Lists text names) :
      GivesNames (.text text) names
  | array {names : List String} (h : ∀ n ∈ names, ¬ Blank n) :
      GivesNames (.array (names.map .text)) names

end Toml.Value

namespace Settings

section Names

variable {names segments : List String}

lemma splitNames_joined (h : ∀ s ∈ segments, ',' ∉ s.toList) :
    splitNames (Text.joined "," segments) = (segments.map Text.strip).filter (· ≠ "") := by
  by_cases hn : segments = []
  · rw [hn]
    decide
  · rw [splitNames, Text.splitOn_joined rfl hn h]

lemma isListed_of_mem_splitNames {text n : String} (h : n ∈ splitNames text) : IsListed n := by
  obtain ⟨hmem, hne⟩ := List.mem_filter.1 h
  obtain ⟨segment, hsegment, rfl⟩ := List.mem_map.1 hmem
  obtain ⟨piece, hpiece, rfl⟩ := List.mem_map.1 hsegment
  refine ⟨by simpa using hne, Text.not_mem_ofList_trim ?_, Text.trimmed_ofList_trim _⟩
  rw [String.toList_ofList]
  exact Text.not_mem_of_mem_pieces hpiece

lemma lists_iff {text : String} : Lists text names ↔ splitNames text = names := by
  constructor
  · rintro ⟨segments, rfl, hspread, hnames⟩
    have hcomma := hspread.not_mem (by decide) fun n hn => (hnames n hn).no_comma
    rw [splitNames_joined hcomma, hspread.filter_strip hnames]
  · rintro rfl
    exact ⟨Text.splitOn ',' text, (Text.joined_splitOn rfl text).symm, Spread.of_strip _,
      fun n hn => isListed_of_mem_splitNames hn⟩

lemma texts?_map (names : List String) : texts? (names.map .text) = some names := by
  induction names with
  | nil => rfl
  | cons name names ih =>
    rw [List.map_cons, texts?, ih]
    rfl

lemma checkFields_of_gives {v : Toml.Value} (h : v.GivesNames names) :
    checkFields v = .ok names := by
  cases h with
  | text h => exact congrArg Except.ok (lists_iff.1 h)
  | array h =>
    have hblank : names.any isBlankName = false := by
      rw [List.any_eq_false]
      intro n hn hb
      exact h n hn (Text.blank_of_strip (of_decide_eq_true hb))
    simp only [checkFields, texts?_map, hblank, if_false, Bool.false_eq_true]

end Names

end Settings

end TraceFields
