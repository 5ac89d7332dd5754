import TraceFields.Proofs.Lowering
import TraceFields.Script.Perform

namespace TraceFields

open Script (NamesForm fieldScheme)

structure IsFieldTable (given table : List String) : Prop where
  ne_nil : table ≠ []
  nodup : table.Nodup
  lower : ∀ n ∈ table, Text.lower n = n
  mem_iff : ∀ n, n ∈ table ↔ n ∈ given.map Text.lower
  ordered : table.Pairwise fun a b =>
    (given.map Text.lower).idxOf a < (given.map Text.lower).idxOf b

lemma isFieldTable_canonicalNames {names : List String} (h : names ≠ []) :
    IsFieldTable names (canonicalNames names) where
  ne_nil := mt canonicalNames_eq_nil.1 h
  nodup := nodup_canonicalNames names
  lower _ := canonicalName_of_mem
  mem_iff _ := List.mem_eraseDups
  ordered := pairwise_idxOf_eraseDups _

lemma nameTexts_of_none_mem {names : List (Option String)} (h : none ∈ names) :
    nameTexts (names.map Datum.ofText?) = .error (.config (.nameNotText .nothing)) := by
  induction names with
  | nil => cases h
  | cons name names ih =>
    cases name with
    | none => rfl
    | some text =>
      rcases List.mem_cons.1 h with h | h
      · cases h
      · rw [List.map_cons, Datum.ofText?, nameTexts, ih h]
        rfl

namespace FieldScheme

lemma ofArguments_eq {delegate : Option Scheme} {names : List Datum}
    (h : ∀ d, names = [d] → ∃ text, d = .text text) :
    ofArguments delegate names = ofCollection delegate (.list names) := by
  match names with
  | [] => rfl
  | [d] =>
    obtain ⟨text, rfl⟩ := h d rfl
    rfl
  | d :: _ :: _ => cases d <;> rfl

lemma ofCollection_of_none_mem (delegate : Scheme) {names : List (Option String)}
    (h : none ∈ names) : ofCollection (some delegate) (.list (names.map Datum.ofText?)) =
      .error (.config (.nameNotText .nothing)) := by
  simp only [ofCollection, Datum.items?, nameTexts_of_none_mem h]

lemma keys_create (f : FieldScheme) (key : KeyFactory) :
    (f.scheme.create key).map Propagation.keys =
      (f.delegate.create key).map fun inner => inner.keys ++ f.names.map key := by
  simp only [scheme, bind, Except.bind]
  cases f.delegate.create key with
  | error fault => rfl
  | ok inner => simp [Except.map, pure, Except.pure, Propagation.withFields, KeyTable.ofNames]

end FieldScheme

namespace Script

lemma fieldScheme_texts (delegate : Scheme) {names : List String} (h : names ≠ [])
    (form : NamesForm) : fieldScheme (some delegate) (.list (names.map .text)) form =
      .ok ⟨delegate, canonicalNames names⟩ := by
  rw [← FieldScheme.ofCollection_texts delegate h]
  cases form with
  | arguments =>
    apply FieldScheme.ofArguments_eq
    intro d hd
    obtain ⟨text, -, rfl⟩ := List.map_eq_singleton_iff.1 hd
    exact ⟨text, rfl⟩
  | iterable => rfl
  | direct => rfl

def refusal (names : List (Option String)) (form : NamesForm) : ConfigFault :=
  match names, form with
  | [], _ => .noNames
  | [none], .arguments => .namesRequired
  | _, _ => .nameNotText .nothing

lemma refusal_eq {names : List (Option String)} {form : NamesForm} (hne : names ≠ [])
    (h : names = [none] → form ≠ .arguments) : refusal names form = .nameNotText .nothing := by
  unfold refusal
  split
  · exact absurd rfl hne
  · exact absurd rfl (h rfl)
  · rfl

lemma fieldScheme_refused (delegate : Scheme) {names : List (Option String)}
    (h : names = [] ∨ none ∈ names) (form : NamesForm) :
    fieldScheme (some delegate) (.list (names.map Datum.ofText?)) form =
      .error (.config (refusal names form)) := by
  rcases h with rfl | h
  · cases form <;> rfl
  have hne : names ≠ [] := List.ne_nil_of_mem h
  have hrefused := FieldScheme.ofCollection_of_none_mem delegate h
  cases form with
  | iterable =>
    have hreport : refusal names .iterable = _ := refusal_eq hne fun _ => nofun
    rw [hreport]
    exact hrefused
  | direct =>
    have hreport : refusal names .direct = _ := refusal_eq hne fun _ => nofun
    rw [hreport]
    exact hrefused
  | arguments =>
    by_cases hone : names = [none]
    · rw [hone]
      rfl
    · rw [refusal_eq hne fun he => absurd he hone, ← hrefused]
      apply FieldScheme.ofArguments_eq
      intro d hd
      obtain ⟨name, rfl, -⟩ := List.map_eq_singleton_iff.1 hd
      exact absurd (List.mem_singleton.1 h ▸ rfl) hone

end Script

theorem table_of_names (delegate : Scheme) :
    (∀ names ≠ [], ∃ table, IsFieldTable names table ∧
      (∀ form, fieldScheme (some delegate) (.list (names.map .text)) form = .ok ⟨delegate, table⟩) ∧
      (∀ form, fieldScheme (some delegate) (.list (table.map .text)) form = .ok ⟨delegate, table⟩) ∧
      ∀ key, ((FieldScheme.mk delegate table).scheme.create key).map Propagation.keys =
        (delegate.create key).map fun inner => inner.keys ++ table.map key) ∧
    ∀ names, names = [] ∨ none ∈ names → ∀ form,
      fieldScheme (some delegate) (.list (names.map Datum.ofText?)) form =
        .error (.config (Script.refusal names form)) := by
  refine ⟨fun names hnames => ?_, fun names => Script.fieldScheme_refused delegate⟩
  have htable := isFieldTable_canonicalNames hnames
  have hagain := Script.fieldScheme_texts delegate htable.ne_nil
  rw [canonicalNames_canonicalNames] at hagain
  exact ⟨_, htable, Script.fieldScheme_texts delegate hnames, hagain, FieldScheme.keys_create _⟩

theorem table_of_names_merged :
    let delegate := FieldScheme.scheme ⟨.identity, ["x-a"]⟩
    let names := ["X-B", "İΣ", "x-b", "X-A"]
    let table := ["x-b", "i\u0307ς", "x-a"]
    (∀ form, fieldScheme (some delegate) (.list (names.map .text)) form = .ok ⟨delegate, table⟩) ∧
    ((FieldScheme.mk delegate table).scheme.create .text).map Propagation.keys =
      .ok (["traceparent", "tracestate", "x-a", "x-b", "i\u0307ς", "x-a"].map .text) ∧
    ∀ form, fieldScheme (some delegate) (.list ([some "x-b", none].map Datum.ofText?)) form =
      .error (.config (.nameNotText .nothing)) := by
  intro delegate names table
  have hnames : names ≠ [] := List.cons_ne_nil _ _
  have hlower : canonicalNames names = table := by decide +kernel
  obtain ⟨hmade, hrefused⟩ := table_of_names delegate
  obtain ⟨made, -, hforms, -, hkeys⟩ := hmade names hnames
  obtain rfl : made = table := by
    have hscheme := hforms .direct
    rw [Script.fieldScheme_texts delegate hnames, hlower] at hscheme
    exact (congrArg FieldScheme.names (Except.ok.inj hscheme)).symm
  refine ⟨hforms, ?_, hrefused [some "x-b", none] (by simp)⟩
  rw [hkeys]
  rfl

end TraceFields
