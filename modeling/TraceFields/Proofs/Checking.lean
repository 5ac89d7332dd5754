import Mathlib.Tactic.Lemma
import Mathlib.Tactic.Tauto
import TraceFields.Settings.Load

/-!
A variable takes the place of the table's value before the check is made, so what is wrong with the
table is found unless a variable hides it.
-/

namespace TraceFields

namespace Options

variable (options : Options)

def Free (table : Toml.Table) : Prop := ∀ e ∈ table, options.takes e.1 = false

lemma free_nil : options.Free [] := fun _ he => (nomatch he)

lemma free_of_head {table : Toml.Table} (h : ∀ e ∈ table, e.1.toList.head? ≠ some '_') :
    options.Free table := fun e he =>
  Bool.eq_false_iff.2 fun htakes => h e he (options.begins e.1 htakes)

end Options

namespace Settings

section Issues

variable {α : Type}

def checkOr (checkValue : Toml.Value → Except (List Issue) α) (unset : α) :
    Option Toml.Value → Except (List Issue) α
  | some v => checkValue v
  | none => .ok unset

lemma exists_ok_iff {r : Except (List Issue) α} (h : r ≠ .error []) :
    (∃ a, r = .ok a) ↔ issuesOf r = [] := by
  cases r with
  | ok a => simp [issuesOf]
  | error issues => simpa [issuesOf] using h

lemma checkOr_ne {checkValue : Toml.Value → Except (List Issue) α}
    (h : ∀ v, checkValue v ≠ .error []) (unset : α) (v : Option Toml.Value) :
    checkOr checkValue unset v ≠ .error [] := by
  cases v with
  | none => intro hr; cases hr
  | some v => exact h v

lemma mem_issuesOf_checkOr {checkValue : Toml.Value → Except (List Issue) α} {unset : α}
    {v : Option Toml.Value} {i : Issue} (h : i ∈ issuesOf (checkOr checkValue unset v)) :
    ∃ w, v = some w ∧ i ∈ issuesOf (checkValue w) := by
  cases v with
  | none => cases h
  | some w => exact ⟨w, rfl, h⟩

end Issues

lemma setting_of_mem_itemIssues {n : Nat} {items : List Toml.Value} {i : Issue}
    (h : i ∈ itemIssues n items) : i.setting = "extra_fields" := by
  induction items generalizing n with
  | nil => cases h
  | cons v items ih =>
    cases v with
    | text s => exact ih h
    | _ =>
      rcases List.mem_cons.1 h with rfl | h
      · rfl
      · exact ih h

lemma itemIssues_ne_nil {items : List Toml.Value} (h : texts? items = none) (n : Nat) :
    itemIssues n items ≠ [] := by
  induction items generalizing n with
  | nil => cases h
  | cons v items ih =>
    cases v with
    | text s => exact ih (Option.map_eq_none_iff.1 h) (n + 1)
    | _ => exact List.cons_ne_nil _ _

lemma checkFields_ne (v : Toml.Value) : checkFields v ≠ .error [] := by
  intro he
  unfold checkFields at he
  split at he
  · cases he
  · split at he
    · split at he <;> cases he
    · next hn => exact itemIssues_ne_nil hn 0 (Except.error.inj he)
  · cases he

lemma setting_of_checkFields {v : Toml.Value} {i : Issue} (h : i ∈ issuesOf (checkFields v)) :
    i.setting = "extra_fields" := by
  unfold checkFields at h
  split at h
  · cases h
  · split at h
    · split at h
      · rw [List.mem_singleton.1 h]
      · cases h
    · exact setting_of_mem_itemIssues h
  · rw [List.mem_singleton.1 h]

lemma checkDebug_ne (v : Toml.Value) : checkDebug v ≠ .error [] := by
  intro he
  unfold checkDebug at he
  split at he <;> cases he

lemma setting_of_checkDebug {v : Toml.Value} {i : Issue} (h : i ∈ issuesOf (checkDebug v)) :
    i.setting = "debug" := by
  unfold checkDebug at h
  split at h
  · cases h
  · rw [List.mem_singleton.1 h]

lemma setting_of_unknownKeys {table : Toml.Table} {i : Issue} (h : i ∈ unknownKeys table) :
    i.setting ≠ "extra_fields" ∧ i.setting ≠ "debug" := by
  obtain ⟨e, he, rfl⟩ := List.mem_map.1 h
  have hkey := of_decide_eq_true (List.mem_filter.1 he).2
  constructor
  · intro hf
    exact hkey.1 ((congrArg Text.lower hf).trans (by decide +kernel))
  · intro hd
    exact hkey.2 ((congrArg Text.lower hd).trans (by decide +kernel))

section Check

variable (vars : Entries String String) (table : Toml.Table)

def fieldsFrom : Except (List Issue) (List String) :=
  checkOr checkFields [] (raw? vars table "extra_fields")

def debugFrom : Except (List Issue) Bool := checkOr checkDebug false (raw? vars table "debug")

lemma check_eq :
    check vars table = match fieldsFrom vars table, debugFrom vars table, unknownKeys table with
      | .ok fields, .ok debug, [] => .ok { fields, debug }
      | fields, debug, unknown => .error (issuesOf fields ++ issuesOf debug ++ unknown) := rfl

lemma issuesOf_check :
    issuesOf (check vars table) =
      issuesOf (fieldsFrom vars table) ++ issuesOf (debugFrom vars table) ++ unknownKeys table := by
  rw [check_eq]
  split
  · next hf hd hu =>
    rw [hf, hd, hu]
    rfl
  · rfl

lemma check_ne : check vars table ≠ .error [] := by
  intro he
  have hnil : issuesOf (check vars table) = [] := by
    rw [he]
    rfl
  rw [issuesOf_check, List.append_eq_nil_iff, List.append_eq_nil_iff] at hnil
  obtain ⟨⟨hf, hd⟩, hu⟩ := hnil
  obtain ⟨fields, hf⟩ := (exists_ok_iff (checkOr_ne checkFields_ne _ _)).2 hf
  obtain ⟨debug, hd⟩ := (exists_ok_iff (checkOr_ne checkDebug_ne _ _)).2 hd
  rw [check_eq, fieldsFrom, hf, debugFrom, hd, hu] at he
  cases he

lemma raw?_eq (setting : String) :
    raw? vars table setting =
      ((fromVariables? vars ("fieldprop_" ++ setting)).map .text).or (raw? [] table setting) := by
  rw [raw?]
  cases fromVariables? vars ("fieldprop_" ++ setting) <;> rfl

def Hides (i : Issue) : Prop :=
  (i.setting = "extra_fields" ∨ i.setting = "debug") ∧
    fromVariables? vars ("fieldprop_" ++ i.setting) ≠ none

end Check

variable {vars : Entries String String} {table : Toml.Table} {i : Issue}

lemma mem_issuesOf_raw? {α : Type} {checkValue : Toml.Value → Except (List Issue) α} {unset : α}
    {setting : String} :
    i ∈ issuesOf (checkOr checkValue unset (raw? vars table setting)) ↔
      i ∈ issuesOf (checkOr checkValue unset (raw? vars [] setting)) ∨
        i ∈ issuesOf (checkOr checkValue unset (raw? [] table setting)) ∧
          fromVariables? vars ("fieldprop_" ++ setting) = none := by
  have hnone : raw? [] [] setting = none := rfl
  rw [raw?_eq vars table, raw?_eq vars [], hnone]
  cases fromVariables? vars ("fieldprop_" ++ setting) with
  | none => simp [checkOr, issuesOf]
  | some s => simp

lemma mem_fieldsFrom :
    i ∈ issuesOf (fieldsFrom vars table) ↔
      i ∈ issuesOf (fieldsFrom vars []) ∨ i ∈ issuesOf (fieldsFrom [] table) ∧ ¬ Hides vars i := by
  rw [fieldsFrom, mem_issuesOf_raw?]
  apply or_congr_right
  apply and_congr_right
  intro hi
  obtain ⟨_, -, hv⟩ := mem_issuesOf_checkOr hi
  rw [Hides, setting_of_checkFields hv]
  simp

lemma mem_debugFrom :
    i ∈ issuesOf (debugFrom vars table) ↔
      i ∈ issuesOf (debugFrom vars []) ∨ i ∈ issuesOf (debugFrom [] table) ∧ ¬ Hides vars i := by
  rw [debugFrom, mem_issuesOf_raw?]
  apply or_congr_right
  apply and_congr_right
  intro hi
  obtain ⟨_, -, hv⟩ := mem_issuesOf_checkOr hi
  rw [Hides, setting_of_checkDebug hv]
  simp

lemma mem_unknownKeys : i ∈ unknownKeys table ↔ i ∈ unknownKeys table ∧ ¬ Hides vars i := by
  -- only the known settings are looked for among the variables
  refine ⟨fun hi => ⟨hi, fun h => ?_⟩, And.left⟩
  obtain ⟨hf, hd⟩ := setting_of_unknownKeys hi
  exact h.1.elim hf hd

theorem mem_issuesOf_check :
    i ∈ issuesOf (check vars table) ↔
      i ∈ issuesOf (check vars []) ∨ i ∈ issuesOf (check [] table) ∧ ¬ Hides vars i := by
  have hnone : unknownKeys [] = [] := rfl
  rw [issuesOf_check, issuesOf_check, issuesOf_check, hnone, List.append_nil]
  simp only [List.mem_append]
  rw [mem_fieldsFrom, mem_debugFrom, mem_unknownKeys]
  tauto

section Load

def reported : Except Fault Settings → List Issue
  | .error (.config (.invalidSettings issues)) => issues
  | _ => []

def Refused (r : Except Fault Settings) : Prop := ∃ cause, r = .error (.config cause)

variable {s t : Sources} {configFile noFile : Option String} {path path' : String}
  {document : Toml.Table}

lemma ofSection_of_free (h : s.options.Free table) : ofSection s table = checked s.vars table := by
  have hnone : (table.any fun e => s.options.takes e.1) = false := by simpa [Options.Free] using h
  rw [ofSection, hnone, if_neg Bool.false_ne_true]

lemma load_eq (hfile : s.chosenTable configFile = .ok (path, document))
    (hsection : section? document = some table) (hfree : s.options.Free table) :
    load s configFile = checked s.vars table := by
  rw [load, hfile]
  change ofDocument s path document = _
  rw [ofDocument, hsection, ← ofSection_of_free hfree]

lemma reported_checked (vars : Entries String String) (table : Toml.Table) :
    reported (checked vars table) = issuesOf (check vars table) := by
  unfold checked
  cases check vars table <;> rfl

lemma refused_checked (vars : Entries String String) (table : Toml.Table) :
    Refused (checked vars table) ↔ ∃ i, i ∈ issuesOf (check vars table) := by
  rw [checked, Refused]
  have hne := check_ne vars table
  cases hc : check vars table with
  | ok settings => simp [issuesOf]
  | error issues =>
    obtain ⟨i, rest, rfl⟩ := List.exists_cons_of_ne_nil (fun h => hne (h ▸ hc))
    simp [issuesOf]


lemma chosenTable_without_vars (s : Sources) (configFile : Option String) :
    { s with vars := [] : Sources }.chosenTable configFile = s.chosenTable configFile := rfl

/-- A file without options and variables are refused together exactly for the issues of the variables
alone and those of the file alone that no variable hides. -/
theorem refused_together (hfile : s.chosenTable configFile = .ok (path, document))
    (hsection : section? document = some table) (hfree : s.options.Free table)
    (hnone : t.chosenTable noFile = .ok (path', [])) (hvars : t.vars = s.vars) :
    (∀ i, i ∈ reported (load s configFile) ↔ i ∈ reported (load t noFile) ∨
      i ∈ reported (load { s with vars := [] } configFile) ∧ ¬ Hides s.vars i) ∧
    (Refused (load s configFile) ↔ Refused (load t noFile) ∨
      ∃ i ∈ reported (load { s with vars := [] } configFile), ¬ Hides s.vars i) := by
  have hfile' := (chosenTable_without_vars s configFile).trans hfile
  have hempty : section? [] = some [] := rfl
  rw [load_eq hfile hsection hfree, load_eq hfile' hsection hfree,
    load_eq hnone hempty t.options.free_nil, hvars]
  simp only [reported_checked, refused_checked]
  refine ⟨fun _ => mem_issuesOf_check, ?_⟩
  rw [← exists_or]
  exact exists_congr fun _ => mem_issuesOf_check

def inWorkFolder (text : String) (vars : Entries String String) : Sources where
  files := { contents := [(["w", "fieldprop.toml"], text.toUTF8)], folders := [["w"], []] }
  work := ⟨"w", ["w"]⟩
  home := ⟨"h", ["h"]⟩
  vars := vars

lemma fromUTF8?_toUTF8 (text : String) : String.fromUTF8? text.toUTF8 = some text := by
  exact dif_pos text.isValidUTF8

lemma chosenTable_inWorkFolder {text : String} (hparse : Toml.parse {} text = .ok document)
    (vars : Entries String String) :
    (inWorkFolder text vars).chosenTable none = .ok ("w/fieldprop.toml", document) := by
  change (do pure ("w/fieldprop.toml", ← Sources.readTable {} "w/fieldprop.toml" text.toUTF8)) = _
  rw [Sources.readTable, fromUTF8?_toUTF8]
  simp only [hparse]
  rfl

theorem refused_together_unknown_key :
    let options : Options :=
      { Options.none with
        takes := fun key => key.toList.head? = some '_', begins := fun _ => of_decide_eq_true }
    let s := { inWorkFolder "[propagation]\nextra_fields = 3\ndepth = 1\n"
      [("FIELDPROP_EXTRA_FIELDS", "x-a")] with options }
    Refused (load s none) ∧ ∀ i, i ∈ reported (load s none) ↔
      i ∈ reported (load { s with vars := [] } none) ∧ ¬ Hides s.vars i := by
  have hparse : Toml.parse {} "[propagation]\nextra_fields = 3\ndepth = 1\n" =
      .ok [("propagation", .table [("extra_fields", .whole 3), ("depth", .whole 1)])] := by
    with_unfolding_all rfl
  intro options s
  have hfile : s.chosenTable none = .ok _ := chosenTable_inWorkFolder hparse s.vars
  have hnone : { s with files := {} : Sources }.chosenTable none = .ok ("", []) := rfl
  have hfree : options.Free [("extra_fields", .whole 3), ("depth", .whole 1)] := by
    simp [options, Options.Free]
  obtain ⟨hissues, hrefused⟩ := refused_together hfile rfl hfree hnone rfl
  have hvalid : reported (load { s with files := {} } none) = [] := by
    rw [load_eq hnone rfl options.free_nil, reported_checked]
    decide +kernel
  refine ⟨hrefused.2 (Or.inr ⟨⟨.unknownKey, "depth", none, .whole 1⟩, ?_, ?_⟩), ?_⟩
  · rw [load_eq ((chosenTable_without_vars s none).trans hfile) rfl hfree, reported_checked]
    exact List.mem_cons_of_mem _ List.mem_cons_self
  · intro h
    exact absurd h.1 (by decide)
  · intro i
    rw [hissues, hvalid]
    simp

theorem invalid_value_hidden :
    let s := inWorkFolder "[propagation]\nextra_fields = 3\n" [("FIELDPROP_EXTRA_FIELDS", "x-a")]
    Refused (load { s with vars := [] } none) ∧ load s none = .ok { fields := ["x-a"] } := by
  have hparse : Toml.parse {} "[propagation]\nextra_fields = 3\n" =
      .ok [("propagation", .table [("extra_fields", .whole 3)])] := by
    with_unfolding_all rfl
  intro s
  have hfile : s.chosenTable none = .ok _ := chosenTable_inWorkFolder hparse _
  have hfree : s.options.Free [("extra_fields", .whole 3)] := fun _ _ => rfl
  constructor
  · refine ⟨.invalidSettings [⟨.notAList, "extra_fields", none, .whole 3⟩], ?_⟩
    exact load_eq ((chosenTable_without_vars s none).trans hfile) rfl hfree
  · rw [load_eq hfile rfl hfree]
    with_unfolding_all rfl

end Load

end Settings

end TraceFields
