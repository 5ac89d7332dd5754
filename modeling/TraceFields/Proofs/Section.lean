import TraceFields.Proofs.Legibility

namespace TraceFields

inductive Toml.Value.Blank : Value → Prop
  | text : Blank (.text "")
  | truth : Blank (.truth false)
  | whole : Blank (.whole 0)
  | real (negative : Bool) (exponent : Int) : Blank (.real (.finite negative 0 exponent))
  | array : Blank (.array [])

lemma Toml.Value.blank_iff {v : Value} (h : ∀ entries, v ≠ .table entries) :
    v.Blank ↔ v.isVoid = true := by
  constructor
  · intro hv
    cases hv <;> rfl
  · intro hv
    cases v with
    | text s =>
      obtain rfl : s = "" := String.isEmpty_iff.1 hv
      exact .text
    | truth b =>
      obtain rfl : b = false := by simpa [isVoid] using hv
      exact .truth
    | whole n =>
      obtain rfl : n = 0 := by simpa [isVoid] using hv
      exact .whole
    | real x =>
      cases x with
      | finite negative mantissa exponent =>
        obtain rfl : mantissa = 0 := by simpa [isVoid, Numeral.Real64.isZero] using hv
        exact .real negative exponent
      | infinite negative => cases hv
      | nan => cases hv
    | moment m => cases hv
    | array items =>
      obtain rfl : items = [] := List.isEmpty_iff.1 hv
      exact .array
    | table entries => exact absurd rfl (h entries)

namespace Settings

section Load

variable {s r : Sources} {t : Sources.Target} {data : ByteArray} {text path : String}
  {document : Toml.Table} {v : Toml.Value} {configFile noFile : Option String}

lemma section?_of_no_table (hsection : Entries.at? document "propagation" = some v)
    (htable : ∀ entries, v ≠ .table entries) : section? document =
      if v.isVoid then some [] else none := by
  unfold section?
  rw [hsection]
  cases v with
  | table entries => exact absurd rfl (htable entries)
  | _ => rfl

lemma chosenTable_of_parse (hchosen : s.choose? configFile = .ok (some t))
    (hdata : s.contents? t = .ok (some data)) (htext : String.fromUTF8? data = some text)
    (hparse : Toml.parse s.limits text = .ok document) :
    s.chosenTable configFile = .ok (t.shown, document) := by
  have htable : s.table t = .ok document := by
    rw [Sources.table_eq hdata, Sources.readTable_eq_ok]
    exact ⟨text, htext, hparse⟩
  rw [Sources.chosenTable, hchosen]
  simp only [bind, Except.bind, htable]
  rfl

lemma load_of_no_section (hfile : s.chosenTable configFile = .ok (path, document))
    (hsection : section? document = none) :
    load s configFile = .error (.config (.sectionNotTable path)) := by
  rw [load, hfile]
  simp only [bind, Except.bind, ofDocument, hsection]

lemma load_eq_of_vars (hfile : s.chosenTable configFile = .ok (t.shown, document))
    (hsection : section? document = some []) (hnone : r.chosenTable noFile = .ok (path, []))
    (hvars : r.vars = s.vars) : load s configFile = load r noFile := by
  rw [load_eq hfile hsection s.options.free_nil, load_eq hnone rfl r.options.free_nil, hvars]

lemma load_ne_not_table (hfile : s.chosenTable configFile = .ok (t.shown, document))
    (hsection : section? document = some []) :
    load s configFile ≠ .error (.config (.sectionNotTable path)) := by
  rw [load_eq hfile hsection s.options.free_nil, checked]
  cases check s.vars [] <;> simp

theorem section_refused_iff (hchosen : s.choose? configFile = .ok (some t))
    (hdata : s.contents? t = .ok (some data)) (htext : String.fromUTF8? data = some text)
    (hparse : Toml.parse s.limits text = .ok document)
    (hsection : Entries.at? document "propagation" = some v)
    (htable : ∀ entries, v ≠ .table entries) :
    (load s configFile = .error (.config (.sectionNotTable t.shown)) ↔ ¬ v.Blank) ∧
    ∀ (r : Sources) (noFile : Option String) (path : String),
      r.chosenTable noFile = .ok (path, []) → r.vars = s.vars →
      (v.Blank → load s configFile = load r noFile) ∧
      (Refused (load s configFile) ↔ ¬ v.Blank ∨ Refused (load r noFile)) := by
  have hfile := chosenTable_of_parse hchosen hdata htext hparse
  have hvalue := section?_of_no_table hsection htable
  rw [Toml.Value.blank_iff htable]
  cases hvoid : v.isVoid with
  | true =>
    rw [hvoid, if_pos rfl] at hvalue
    refine ⟨?_, fun r noFile path hnone hvars => ?_⟩
    · exact iff_of_false (load_ne_not_table hfile hvalue) (not_not_intro rfl)
    · have heq := load_eq_of_vars hfile hvalue hnone hvars
      refine ⟨fun _ => heq, ?_⟩
      rw [heq]
      simp
  | false =>
    rw [hvoid, if_neg Bool.false_ne_true] at hvalue
    have hload := load_of_no_section hfile hvalue
    refine ⟨iff_of_true hload Bool.false_ne_true, fun r noFile path _ _ => ?_⟩
    refine ⟨fun h => absurd h Bool.false_ne_true, ?_⟩
    exact iff_of_true ⟨_, hload⟩ (Or.inl Bool.false_ne_true)

end Load

theorem section_refused_iff_list :
    let s := inWorkFolder "propagation = ['x-a']\n" [("FIELDPROP_DEBUG", "on")]
    let empty := inWorkFolder "propagation = []\n" [("FIELDPROP_DEBUG", "on")]
    load s none = .error (.config (.sectionNotTable "w/fieldprop.toml")) ∧
      load empty none = load { empty with files := {} } none := by
  have hparse : Toml.parse {} "propagation = ['x-a']\n" =
      .ok [("propagation", .array [.text "x-a"])] := by
    with_unfolding_all rfl
  have hparse' : Toml.parse {} "propagation = []\n" = .ok [("propagation", .array [])] := by
    with_unfolding_all rfl
  intro s empty
  have hchosen : s.choose? none = .ok (some (Sources.standard s.work "fieldprop.toml")) := rfl
  have hchosen' : empty.choose? none = .ok (some (Sources.standard s.work "fieldprop.toml")) := rfl
  have hrefused := section_refused_iff hchosen rfl (fromUTF8?_toUTF8 _) hparse rfl
    (fun entries h => by cases h)
  have hempty := section_refused_iff hchosen' rfl (fromUTF8?_toUTF8 _) hparse' rfl
    (fun entries h => by cases h)
  refine ⟨hrefused.1.2 fun h => ?_, (hempty.2 { empty with files := {} } none "" rfl rfl).1 .array⟩
  cases h

theorem false_section_accepted :
    Toml.parse {} "propagation = false\n" = .ok [("propagation", .truth false)] ∧
      load (inWorkFolder "propagation = false\n" []) none = .ok {} := by
  have hparse : Toml.parse {} "propagation = false\n" = .ok [("propagation", .truth false)] := by
    with_unfolding_all rfl
  refine ⟨hparse, ?_⟩
  rw [load_eq (chosenTable_inWorkFolder hparse []) rfl (Options.free_nil _)]
  with_unfolding_all rfl

end Settings

end TraceFields
