import TraceFields.Proofs.Checking
import TraceFields.Proofs.Reading

namespace TraceFields

def Answered {α : Type} (r : Except Fault α) : Prop :=
  (∃ a, r = .ok a) ∨ ∃ cause, r = .error (.config cause)

def Legible (limits : Toml.Limits) (data : ByteArray) : Prop :=
  ∃ text, String.fromUTF8? data = some text ∧
    Toml.parse limits text ≠ .error .tooDeep ∧ Toml.parse limits text ≠ .error .tooLong

inductive Fault.Illegible : Fault → Prop
  | encoding : Illegible .encoding
  | depth : Illegible .depth
  | numeral : Illegible .numeral

lemma answered_error {α : Type} {fault : Fault} :
    Answered (.error fault : Except Fault α) ↔ ∃ cause, fault = .config cause := by
  constructor
  · rintro (⟨a, ha⟩ | ⟨cause, hcause⟩)
    · cases ha
    · exact ⟨cause, Except.error.inj hcause⟩
  · rintro ⟨cause, rfl⟩
    exact Or.inr ⟨cause, rfl⟩

lemma not_answered {α : Type} {fault : Fault} (h : fault.Illegible) :
    ¬ Answered (.error fault : Except Fault α) := by
  intro hanswered
  obtain ⟨cause, rfl⟩ := answered_error.1 hanswered
  cases h

lemma answered_bind {α β : Type} {r : Except Fault α} {f : α → Except Fault β}
    (hf : ∀ a, Answered (f a)) : Answered (r.bind f) ↔ Answered r := by
  cases r with
  | ok a => exact iff_of_true (hf a) (Or.inl ⟨a, rfl⟩)
  | error fault => exact answered_error.trans answered_error.symm

namespace Sources

variable {s : Sources} {t : Target} {limits : Toml.Limits} {data : ByteArray}

lemma readTable_eq_ok {path : String} {document : Toml.Table} :
    readTable limits path data = .ok document ↔
      ∃ text, String.fromUTF8? data = some text ∧ Toml.parse limits text = .ok document := by
  unfold readTable
  split
  · next hnone => simp [hnone]
  · next text htext =>
    simp only [htext, Option.some.injEq, exists_eq_left']
    split <;> simp [*]

lemma readTable_answered (path : String) (h : Legible limits data) :
    Answered (readTable limits path data) := by
  obtain ⟨text, htext, hdeep, hlong⟩ := h
  rw [readTable, htext]
  cases hp : Toml.parse limits text with
  | ok document => exact Or.inl ⟨document, by simp only [hp]⟩
  | error flaw =>
    cases flaw with
    | malformed => exact Or.inr ⟨.malformedDocument path, by simp only [hp]⟩
    | tooDeep => exact absurd hp hdeep
    | tooLong => exact absurd hp hlong

lemma readTable_illegible (path : String) (h : ¬ Legible limits data) :
    ∃ fault : Fault, fault.Illegible ∧ readTable limits path data = .error fault := by
  unfold readTable
  split
  · exact ⟨_, .encoding, rfl⟩
  · next text htext =>
    by_cases hdeep : Toml.parse limits text = .error .tooDeep
    · exact ⟨_, .depth, by simp only [hdeep]⟩
    · have hlong : Toml.parse limits text = .error .tooLong := by
        by_contra hlong
        exact h ⟨text, htext, hdeep, hlong⟩
      exact ⟨_, .numeral, by simp only [hlong]⟩

lemma table_eq (h : s.contents? t = .ok (some data)) :
    s.table t = readTable s.limits t.shown data := by
  rw [table, h]
  rfl

end Sources

namespace Settings

variable {s : Sources} {t : Sources.Target} {data : ByteArray} {configFile : Option String}

def OptionsAnswered (s : Sources) (document : Toml.Table) : Prop :=
  ∀ table, section? document = some table → ¬ s.options.Free table →
    Answered (s.options.merge table s.vars)

lemma checked_answered (vars : Entries String String) (table : Toml.Table) :
    Answered (checked vars table) := by
  unfold checked
  split
  · exact Or.inl ⟨_, rfl⟩
  · exact Or.inr ⟨_, rfl⟩

lemma ofSection_answered (table : Toml.Table) :
    Answered (ofSection s table) ↔
      (¬ s.options.Free table → Answered (s.options.merge table s.vars)) := by
  by_cases hfree : s.options.Free table
  · rw [ofSection_of_free hfree]
    exact iff_of_true (checked_answered _ _) (absurd hfree)
  · have htakes : (table.any fun e => s.options.takes e.1) = true := by
      simpa [Options.Free] using hfree
    rw [ofSection, if_pos htakes, answered_bind (checked_answered [])]
    simp [hfree]

lemma ofDocument_answered (path : String) (document : Toml.Table) :
    Answered (ofDocument s path document) ↔ OptionsAnswered s document := by
  unfold ofDocument OptionsAnswered
  cases section? document with
  | none => exact iff_of_true (Or.inr ⟨_, rfl⟩) (by simp)
  | some table => simpa using ofSection_answered table

lemma load_chosen (hchosen : s.choose? configFile = .ok (some t))
    (hdata : s.contents? t = .ok (some data)) :
    load s configFile =
      Sources.readTable s.limits t.shown data >>= fun document =>
        ofDocument s t.shown document := by
  rw [load, Sources.chosenTable, hchosen]
  change (do
    let table ← (do pure (t.shown, ← s.table t))
    ofDocument s table.1 table.2) = _
  rw [Sources.table_eq hdata]
  cases Sources.readTable s.limits t.shown data <;> rfl

lemma table_answered (hdata : s.contents? t = .ok (some data)) :
    Answered (s.table t) ↔ Legible s.limits data := by
  rw [Sources.table_eq hdata]
  refine ⟨fun h => ?_, Sources.readTable_answered _⟩
  by_contra hillegible
  obtain ⟨fault, hfault, he⟩ := Sources.readTable_illegible t.shown hillegible
  rw [he] at h
  exact not_answered hfault h

lemma load_answered (hchosen : s.choose? configFile = .ok (some t))
    (hdata : s.contents? t = .ok (some data)) :
    Answered (load s configFile) ↔
      Answered (s.table t) ∧ ∀ document, s.table t = .ok document → OptionsAnswered s document := by
  rw [load_chosen hchosen hdata, Sources.table_eq hdata]
  cases Sources.readTable s.limits t.shown data with
  | ok document =>
    refine (ofDocument_answered t.shown document).trans ⟨fun h => ?_, fun h => h.2 document rfl⟩
    exact ⟨Or.inl ⟨document, rfl⟩, fun _ he => Except.ok.inj he ▸ h⟩
  | error fault =>
    have heq : Answered (.error fault : Except Fault Settings) ↔
        Answered (.error fault : Except Fault Toml.Table) :=
      answered_error.trans answered_error.symm
    exact heq.trans ⟨fun h => ⟨h, fun _ he => nomatch he⟩, And.left⟩

/-- What a file holds is read or refused as configuration exactly if it is legible. So are settings
loaded from it, unless its section has options that are not. What makes a file illegible fails both.
A file is read as the document of its text, and a text for whose digits and brackets the process has
room is legible. -/
theorem answered_iff_legible (hdata : s.contents? t = .ok (some data)) :
    (Answered (s.table t) ↔ Legible s.limits data) ∧
    (∀ configFile, s.choose? configFile = .ok (some t) →
      (Answered (load s configFile) ↔ Legible s.limits data ∧
        ∀ document, s.table t = .ok document → OptionsAnswered s document)) ∧
    (¬ Legible s.limits data → ∃ fault : Fault, fault.Illegible ∧ s.table t = .error fault ∧
      ∀ configFile, s.choose? configFile = .ok (some t) → load s configFile = .error fault) ∧
    (∀ document, s.table t = .ok document ↔
      ∃ text, String.fromUTF8? data = some text ∧ Toml.parse s.limits text = .ok document) ∧
    ∀ text, String.fromUTF8? data = some text → s.limits.Allow text → Legible s.limits data := by
  refine ⟨table_answered hdata, fun configFile hchosen => ?_, fun hillegible => ?_,
    fun document => ?_, fun text htext hallow => ⟨text, htext, Toml.parse_allowed hallow⟩⟩
  · rw [load_answered hchosen hdata, table_answered hdata]
  · obtain ⟨fault, hfault, he⟩ := Sources.readTable_illegible t.shown hillegible
    refine ⟨fault, hfault, (Sources.table_eq hdata).trans he, fun configFile hchosen => ?_⟩
    rw [load_chosen hchosen hdata, he]
    rfl
  · rw [Sources.table_eq hdata, Sources.readTable_eq_ok]

theorem answered_iff_legible_broken_off :
    let s := inWorkFolder "[propagation" [("FIELDPROP_DEBUG", "on")]
    Answered (s.table (Sources.standard s.work "fieldprop.toml")) ∧ Answered (load s none) ∧
      ¬ ∃ document, s.table (Sources.standard s.work "fieldprop.toml") = .ok document := by
  intro s
  have hdata : s.contents? (Sources.standard s.work "fieldprop.toml") =
      .ok (some "[propagation".toUTF8) := rfl
  have hchosen : s.choose? none = .ok (some (Sources.standard s.work "fieldprop.toml")) := rfl
  obtain ⟨htable, hload, -, hread, hallow⟩ := answered_iff_legible hdata
  have hlegible : Legible s.limits "[propagation".toUTF8 := by
    refine hallow _ (fromUTF8?_toUTF8 _) ⟨rfl, fun calls hcalls rest => decide_eq_true ?_⟩
    have hbrackets : Toml.inlineCalls * Toml.bracketsIn "[propagation".toList ≤ 1000 := by
      decide +kernel
    exact Nat.le_trans hcalls hbrackets
  have hmalformed : Toml.parse s.limits "[propagation" = .error .malformed := by
    with_unfolding_all rfl
  have hnone : ∀ document, s.table (Sources.standard s.work "fieldprop.toml") ≠ .ok document := by
    intro document hdocument
    obtain ⟨text, htext, hparse⟩ := (hread document).1 hdocument
    obtain rfl : "[propagation" = text := Option.some.inj ((fromUTF8?_toUTF8 _).symm.trans htext)
    rw [hmalformed] at hparse
    cases hparse
  refine ⟨htable.2 hlegible, (hload none hchosen).2 ⟨hlegible, fun document hdocument => ?_⟩, ?_⟩
  · exact absurd hdocument (hnone document)
  · rintro ⟨document, hdocument⟩
    exact hnone document hdocument

lemma fails_of_readTable {limits : Toml.Limits} {fault : Fault}
    (h : Sources.readTable limits "w/fieldprop.toml" data = .error fault) :
    let s : Sources := { inWorkFolder "" [] with
      files := { contents := [(["w", "fieldprop.toml"], data)], folders := [["w"], []] }, limits }
    s.table (Sources.standard s.work "fieldprop.toml") = .error fault ∧
      load s none = .error fault := by
  intro s
  refine ⟨h, ?_⟩
  rw [load_chosen (t := Sources.standard s.work "fieldprop.toml") rfl rfl]
  exact congrArg (· >>= fun document => ofDocument s "w/fieldprop.toml" document) h

lemma readTable_deep {limits : Toml.Limits} {text : String}
    (h : Toml.parse limits text = .error .tooDeep) (path : String) :
    Sources.readTable limits path text.toUTF8 = .error .depth := by
  rw [Sources.readTable, fromUTF8?_toUTF8]
  simp only [h]

lemma readTable_long {limits : Toml.Limits} {text : String}
    (h : Toml.parse limits text = .error .tooLong) (path : String) :
    Sources.readTable limits path text.toUTF8 = .error .numeral := by
  rw [Sources.readTable, fromUTF8?_toUTF8]
  simp only [h]

theorem illegible_escapes :
    let holding (data : ByteArray) (limits : Toml.Limits) : Sources := { inWorkFolder "" [] with
      files := { contents := [(["w", "fieldprop.toml"], data)], folders := [["w"], []] }, limits }
    let fails (s : Sources) (fault : Fault) : Prop :=
      s.table (Sources.standard s.work "fieldprop.toml") = .error fault ∧ load s none = .error fault
    fails (holding ⟨#[0xff]⟩ {}) .encoding ∧
    fails (holding (String.ofList ('a' :: '=' :: List.replicate 501 '[')).toUTF8 {}) .depth ∧
    fails (holding (String.ofList ('a' :: '=' :: List.replicate 4301 '1')).toUTF8
      { digits := some 4300 }) .numeral := by
  intro holding fails
  have hdeep : Toml.parse {} (String.ofList ('a' :: '=' :: List.replicate 501 '[')) =
      .error .tooDeep :=
    Toml.parse_deep (fun _ _ => rfl) (by decide)
  have hlong : Toml.parse { digits := some 4300 }
      (String.ofList ('a' :: '=' :: List.replicate 4301 '1')) = .error .tooLong :=
    Toml.parse_long rfl (fun _ => rfl) (Nat.lt_succ_self 4300)
  refine ⟨fails_of_readTable ?_, fails_of_readTable (readTable_deep hdeep _),
    fails_of_readTable (readTable_long hlong _)⟩
  with_unfolding_all rfl

end Settings

end TraceFields
