import TraceFields.Proofs.Checking
import TraceFields.Proofs.Lifecycle
import TraceFields.Proofs.Lowering
import TraceFields.Proofs.Meanings

namespace TraceFields

structure Given where
  fields : Option (List String) := none
  debug : Option Bool := none

namespace Given

def or (g h : Given) : Given := ⟨g.fields.or h.fields, g.debug.or h.debug⟩

def settings (g : Given) : Settings := ⟨g.fields.getD [], g.debug.getD false⟩

end Given

/-- The contents of the file from which settings are read: the one that is named, else the one of the
working folder, else the one of the home folder. It has to be known where home is even if the second
is there. -/
inductive Sources.Serves (s : Sources) : Option String → Option ByteArray → Prop where
  | named {path : String} {data : Option ByteArray} (hpath : path ≠ "")
      (hdata : s.contents? (s.target path) = .ok data) : Serves s (some path) data
  | here {configFile : Option String} {home : Option Target} {data : ByteArray}
      (hunnamed : configFile.getD "" = "") (hhome : s.homeTarget? ".fieldprop.toml" = .ok home)
      (hdata : s.contents? (standard s.work "fieldprop.toml") = .ok (some data)) :
      Serves s configFile (some data)
  | atHome {configFile : Option String} {home : Target} {data : Option ByteArray}
      (hunnamed : configFile.getD "" = "") (hhome : s.homeTarget? ".fieldprop.toml" = .ok (some home))
      (hmissing : s.contents? (standard s.work "fieldprop.toml") = .ok none)
      (hdata : s.contents? home = .ok data) : Serves s configFile data
  | nowhere {configFile : Option String} (hunnamed : configFile.getD "" = "")
      (hhome : s.homeTarget? ".fieldprop.toml" = .ok none)
      (hmissing : s.contents? (standard s.work "fieldprop.toml") = .ok none) :
      Serves s configFile none

namespace Settings

def valuesOf (vars : Entries String String) (setting : String) : List String :=
  (vars.filter fun e => Text.lower e.1 = "fieldprop_" ++ setting).map Prod.snd

variable {vars : Entries String String} {table : Toml.Table} {env file : Given}

lemma fromVariables?_eq (setting : String) :
    fromVariables? vars ("fieldprop_" ++ setting) = (valuesOf vars setting).getLast? := by
  rw [fromVariables?, valuesOf, List.getLast?_map, ← List.head?_reverse, ← List.filter_reverse,
    List.head?_filter]

lemma raw?_known (h : ∀ e ∈ table, e.1 = "extra_fields" ∨ e.1 = "debug") (setting : String) :
    raw? [] table setting = Entries.at? table setting := by
  change (table.find? fun e => Text.lower e.1 = setting).map Prod.snd = _
  induction table with
  | nil => rfl
  | cons e table ih =>
    -- the known keys are in lower case, so looking them up in any case finds no others
    have hlower : Text.lower e.1 = e.1 := by
      rcases h e List.mem_cons_self with he | he <;> rw [he] <;> decide +kernel
    have ih := ih fun e he => h e (List.mem_cons_of_mem _ he)
    rw [List.find?_cons, hlower, Entries.at?]
    by_cases he : e.1 = setting
    · simp [he]
    · simpa [he] using ih

section Setting

variable {α : Type} {checkValue : Toml.Value → Except (List Issue) α} {setting : String}
  {given filed : Option α} {Means : Toml.Value → α → Prop}

end Setting

lemma unknownKeys_eq_nil (h : ∀ e ∈ table, e.1 = "extra_fields" ∨ e.1 = "debug") :
    unknownKeys table = [] := by
  rw [unknownKeys, List.map_eq_nil_iff, List.filter_eq_nil_iff]
  intro e he
  rcases h e he with he | he <;> rw [he] <;> decide +kernel

section Load

variable {s : Sources} {configFile : Option String} {data : Option ByteArray}

lemma choose?_unnamed (h : configFile.getD "" = "") : s.choose? configFile = s.find? := by
  cases configFile with
  | none => rfl
  | some path =>
    obtain rfl : path = "" := h
    rfl

lemma choose?_named {path : String} (h : path ≠ "") :
    s.choose? (some path) = .ok (some (s.target path)) := by
  unfold Sources.choose?
  split
  · next he => cases he
  · next he => exact absurd (Option.some.inj he) h
  · next he => rw [Option.some.inj he]

lemma contents?_cases (s : Sources) (t : Sources.Target) :
    (∃ data, s.contents? t = .ok data) ∨ s.contents? t = .error .badPath := by
  unfold Sources.contents?
  split
  · exact Or.inl ⟨_, rfl⟩
  · exact Or.inr rfl
  · exact Or.inl ⟨_, rfl⟩

lemma homeTarget?_cases (s : Sources) (name : String) :
    (∃ home, s.homeTarget? name = .ok home) ∨ s.homeTarget? name = .error .homeless := by
  unfold Sources.homeTarget?
  split
  · exact Or.inl ⟨_, rfl⟩
  · exact Or.inl ⟨_, rfl⟩
  · exact Or.inl ⟨_, rfl⟩
  · split
    · exact Or.inr rfl
    · exact Or.inl ⟨_, rfl⟩

lemma load_of_choose?_error {fault : Fault} (h : s.choose? configFile = .error fault) :
    load s configFile = .error fault := by
  rw [load, Sources.chosenTable, h]
  rfl

theorem serves_or_fault (s : Sources) (configFile : Option String) :
    (∃ data, s.Serves configFile data) ∨
      load s configFile = .error .badPath ∨ load s configFile = .error .homeless := by
  by_cases hunnamed : configFile.getD "" = ""
  -- home is asked for before the working folder is looked at
  · rcases homeTarget?_cases s ".fieldprop.toml" with ⟨home, hhome⟩ | hhome
    · cases hhere : s.files.read? (s.work.location ++ ["fieldprop.toml"]) with
      | some data => exact Or.inl ⟨some data, .here hunnamed hhome (congrArg Except.ok hhere)⟩
      | none =>
        have hmissing : s.contents? (Sources.standard s.work "fieldprop.toml") = .ok none :=
          congrArg Except.ok hhere
        cases home with
        | none => exact Or.inl ⟨none, .nowhere hunnamed hhome hmissing⟩
        | some t =>
          rcases contents?_cases s t with ⟨data, hdata⟩ | hlong
          · exact Or.inl ⟨data, .atHome hunnamed hhome hmissing hdata⟩
          · refine Or.inr (Or.inl (load_of_choose?_error ((choose?_unnamed hunnamed).trans ?_)))
            rw [Sources.find?, hhome]
            simp only [bind, Except.bind, Sources.isFile, hmissing, hlong]
            rfl
    · refine Or.inr (Or.inr (load_of_choose?_error ((choose?_unnamed hunnamed).trans ?_)))
      rw [Sources.find?, hhome]
      rfl
  · obtain ⟨path, rfl⟩ := Option.ne_none_iff_exists'.1 fun h => hunnamed (congrArg (·.getD "") h)
    have hpath : path ≠ "" := hunnamed
    rcases contents?_cases s (s.target path) with ⟨data, hdata⟩ | hlong
    · exact Or.inl ⟨data, .named hpath hdata⟩
    · refine Or.inr (Or.inl ?_)
      rw [load, Sources.chosenTable, choose?_named hpath]
      simp only [bind, Except.bind, Sources.table, hlong]

end Load

end Settings

lemma nameTexts_refused {names : List Datum} (h : ∃ d ∈ names, ∀ text, d ≠ .text text) :
    ∃ d, nameTexts names = .error (.config (.nameNotText d)) := by
  induction names with
  | nil =>
    obtain ⟨_, hd, -⟩ := h
    cases hd
  | cons d names ih =>
    cases d with
    | text s =>
      obtain ⟨d, hd, htext⟩ := h
      rcases List.mem_cons.1 hd with rfl | hd
      · exact absurd rfl (htext s)
      · obtain ⟨d, hn⟩ := ih ⟨d, hd, htext⟩
        refine ⟨d, ?_⟩
        rw [nameTexts, hn]
        rfl
    | _ => exact ⟨_, rfl⟩

lemma texts_or_refused (names : List Datum) :
    (∃ texts : List String, texts ≠ [] ∧ names = texts.map .text) ∨
      names = [] ∨ ∃ d ∈ names, ∀ text, d ≠ .text text := by
  induction names with
  | nil => exact Or.inr (Or.inl rfl)
  | cons d names ih =>
    cases d with
    | text s =>
      rcases ih with ⟨texts, -, rfl⟩ | rfl | ⟨d, hd, htext⟩
      · exact Or.inl ⟨s :: texts, List.cons_ne_nil _ _, rfl⟩
      · exact Or.inl ⟨[s], List.cons_ne_nil _ _, rfl⟩
      · exact Or.inr (Or.inr ⟨d, List.mem_cons_of_mem _ hd, htext⟩)
    | _ => exact Or.inr (Or.inr ⟨_, List.mem_cons_self, fun text ht => by cases ht⟩)

def SetupArguments.names? (args : SetupArguments) (settings : Settings) : Option (List Datum) :=
  args.fields.elim (some (settings.fields.map .text)) Datum.items?

namespace Registration

open Settings

section Build

variable {args : SetupArguments} {settings : Settings} {names : List Datum}

lemma chooseNames_eq (h : args.names? settings = some names) :
    chooseNames args.fields settings = .ok names := by
  unfold SetupArguments.names? at h
  cases hf : args.fields with
  | none =>
    rw [hf] at h
    exact congrArg Except.ok (Option.some.inj h)
  | some d =>
    rw [hf] at h
    change d.items? = some names at h
    rw [chooseNames, h]

lemma buildScheme_refused (h : args.names? settings = some names)
    (hnames : names = [] ∨ ∃ d ∈ names, ∀ text, d ≠ .text text) :
    ∃ cause, buildScheme args settings = .error (.config cause) := by
  rw [buildScheme, chooseNames_eq h]
  cases names with
  | nil => exact ⟨_, rfl⟩
  | cons d names =>
    obtain ⟨d', hd⟩ := nameTexts_refused (hnames.resolve_left (List.cons_ne_nil _ _))
    refine ⟨.nameNotText d', ?_⟩
    simp only [FieldScheme.ofArguments, FieldScheme.ofCollection, Datum.items?, hd]

lemma buildScheme_texts {texts : List String} (h : args.names? settings = some (texts.map .text))
    (htexts : texts ≠ []) :
    buildScheme args settings =
      .ok ⟨args.delegate.getD .identity, canonicalNames texts⟩ := by
  rw [buildScheme, chooseNames_eq h]
  cases texts with
  | nil => exact absurd rfl htexts
  | cons text texts => exact FieldScheme.ofCollection_texts _ htexts

end Build

section Init

variable {σ ρ : Type} {r : Registration σ ρ} {s : Sources} {args : SetupArguments}
  {hold : FieldScheme → σ} {fresh : ρ} {settings : Settings}

end Init

end Registration

end TraceFields
