import TraceFields.Proofs.Configuration
import TraceFields.Proofs.Lifecycle
import TraceFields.Proofs.Marks

namespace TraceFields

open Text (Blank)

lemma exists_blank_canonicalNames {names : List String} :
    (∃ name ∈ canonicalNames names, Blank name) ↔ ∃ name ∈ names, Blank name := by
  constructor
  · rintro ⟨name, hname, hblank⟩
    obtain ⟨given, hgiven, rfl⟩ := mem_canonicalNames.1 hname
    exact ⟨given, hgiven, Text.blank_lower.1 hblank⟩
  · rintro ⟨name, hname, hblank⟩
    exact ⟨canonicalName name, mem_canonicalNames.2 ⟨name, hname, rfl⟩, Text.blank_lower.2 hblank⟩

namespace Settings

lemma not_blank_of_checkFields {v : Toml.Value} {names : List String}
    (h : checkFields v = .ok names) : ∀ name ∈ names, ¬ Blank name := by
  unfold checkFields at h
  split at h
  · cases h
    intro name hname
    have hlisted := isListed_of_mem_splitNames hname
    exact Text.not_blank_of_trimmed hlisted.trimmed hlisted.ne_empty
  · split at h
    · split at h
      · cases h
      · next hany =>
        cases h
        intro name hname hblank
        exact hany (List.any_eq_true.2 ⟨name, hname, decide_eq_true (Text.strip_blank hblank)⟩)
    · cases h
  · cases h

lemma fieldsFrom_of_check {vars : Entries String String} {table : Toml.Table} {settings : Settings}
    (h : check vars table = .ok settings) : fieldsFrom vars table = .ok settings.fields := by
  rw [check_eq] at h
  split at h
  · next hfields _ _ =>
    cases h
    exact hfields
  · cases h

lemma not_blank_of_check {vars : Entries String String} {table : Toml.Table} {settings : Settings}
    (h : check vars table = .ok settings) : ∀ name ∈ settings.fields, ¬ Blank name := by
  have hfields := fieldsFrom_of_check h
  rw [fieldsFrom] at hfields
  cases hraw : raw? vars table "extra_fields" with
  | none =>
    rw [hraw] at hfields
    have hnil : settings.fields = [] := (Except.ok.inj hfields).symm
    simp [hnil]
  | some v =>
    rw [hraw] at hfields
    exact not_blank_of_checkFields hfields

lemma not_blank_of_checked {vars : Entries String String} {table : Toml.Table} {settings : Settings}
    (h : checked vars table = .ok settings) : ∀ name ∈ settings.fields, ¬ Blank name := by
  unfold checked at h
  split at h
  · next hcheck =>
    cases h
    exact not_blank_of_check hcheck
  · cases h

lemma not_blank_of_load {s : Sources} {configFile : Option String} {settings : Settings}
    (h : load s configFile = .ok settings) : ∀ name ∈ settings.fields, ¬ Blank name := by
  cases hfile : s.chosenTable configFile with
  | error fault =>
    rw [load, hfile] at h
    cases h
  | ok found =>
    obtain ⟨path, document⟩ := found
    rw [load, hfile] at h
    change ofDocument s path document = .ok settings at h
    unfold ofDocument at h
    split at h
    · cases h
    · next table _ =>
      unfold ofSection at h
      split at h
      · -- in whatever way options merge the table with the variables, the outcome is checked
        cases hmerge : s.options.merge table s.vars with
        | error fault =>
          rw [hmerge] at h
          cases h
        | ok merged =>
          rw [hmerge] at h
          exact not_blank_of_checked h
      · exact not_blank_of_checked h

end Settings

def SetupArguments.PassesBlank (args : SetupArguments) : Prop :=
  ∃ passed items name, args.fields = some passed ∧ passed.items? = some items ∧
    Datum.text name ∈ items ∧ Blank name

namespace Registration

open Settings (load)

variable {σ ρ : Type} {r r' : Registration σ ρ} {s : Sources} {args : SetupArguments}
  {hold : FieldScheme → σ} {fresh : ρ} {settings : Settings} {f : FieldScheme} {held : σ}

lemma SameButLog.scheme (h : r.SameButLog r') : r'.scheme = r.scheme := by
  obtain ⟨log, rfl⟩ := h
  rfl

def Makes (r : Registration σ ρ) (s : Sources) (args : SetupArguments) (f : FieldScheme) : Prop :=
  r.scheme = none ∧
    ∃ settings, load s args.configFile = .ok settings ∧ buildScheme args settings = .ok f

lemma texts_of_buildScheme (h : buildScheme args settings = .ok f) :
    ∃ texts : List String, args.names? settings = some (texts.map .text) ∧
      f.names = canonicalNames texts := by
  cases hnames : args.names? settings with
  | none =>
    unfold SetupArguments.names? at hnames
    cases hfields : args.fields with
    | none =>
      rw [hfields] at hnames
      cases hnames
    | some passed =>
      rw [hfields] at hnames
      change passed.items? = none at hnames
      simp only [buildScheme, hfields, chooseNames, hnames] at h
      cases h
  | some names =>
    rcases texts_or_refused names with ⟨texts, htexts, rfl⟩ | hrefused
    · rw [buildScheme_texts hnames htexts] at h
      cases h
      exact ⟨texts, rfl, rfl⟩
    · obtain ⟨cause, hcause⟩ := buildScheme_refused hnames hrefused
      rw [hcause] at h
      cases h

lemma Makes.blank_iff (h : r.Makes s args f) :
    (∃ name ∈ f.names, Blank name) ↔ args.PassesBlank := by
  obtain ⟨-, settings, hload, hbuild⟩ := h
  obtain ⟨texts, hnames, hf⟩ := texts_of_buildScheme hbuild
  have hinj : Function.Injective Datum.text := fun _ _ he => Datum.text.inj he
  rw [hf, exists_blank_canonicalNames, SetupArguments.PassesBlank]
  unfold SetupArguments.names? at hnames
  cases hfields : args.fields with
  | none =>
    rw [hfields] at hnames
    obtain rfl : settings.fields = texts :=
      List.map_injective_iff.2 hinj (Option.some.inj hnames)
    constructor
    · rintro ⟨name, hname, hblank⟩
      exact absurd hblank (Settings.not_blank_of_load hload name hname)
    · rintro ⟨_, _, _, hpassed, -⟩
      cases hpassed
  | some passed =>
    rw [hfields] at hnames
    change passed.items? = some (texts.map .text) at hnames
    constructor
    · rintro ⟨name, hname, hblank⟩
      exact ⟨passed, _, name, rfl, hnames, List.mem_map_of_mem hname, hblank⟩
    · rintro ⟨_, items, name, hpassed, hitems, hmem, hblank⟩
      cases hpassed
      obtain rfl : texts.map .text = items := Option.some.inj (hnames.symm.trans hitems)
      exact ⟨name, (List.mem_map_of_injective hinj).1 hmem, hblank⟩

lemma makes_of_ok (hs : r.scheme = none) (h : (r.init s args hold fresh).1 = .ok held) :
    ∃ f, r.Makes s args f ∧ held = hold f := by
  cases hload : load s args.configFile with
  | error fault =>
    simp only [init, hs, hload] at h
    cases h
  | ok settings =>
    cases hbuild : buildScheme args settings with
    | error fault =>
      simp only [init, hs, hload, hbuild] at h
      cases h
    | ok f =>
      simp only [init, hs, hload, hbuild] at h
      exact ⟨f, ⟨hs, settings, hload, hbuild⟩, (Except.ok.inj h).symm⟩

lemma scheme_of_ok (h : (r.init s args hold fresh).1 = .ok held) :
    (r.init s args hold fresh).2.scheme = some held := by
  rcases r.init_cases s args hold fresh with
    ⟨other, hs, hok, hsame⟩ | ⟨-, ⟨fault, herror⟩, -⟩ | ⟨-, scheme, debug, hok, hsame⟩
  · rw [hsame.scheme, hs, Except.ok.inj (hok.symm.trans h)]
  · rw [herror] at h
    cases h
  · rw [hsame.scheme, ← Except.ok.inj (hok.symm.trans h)]
    rfl

lemma scheme_after {call : Call σ ρ} (h : (r.after call).scheme = some held) :
    r.scheme = some held ∨ ∃ s args hold fresh f, call = .init s args hold fresh ∧
      r.Makes s args f ∧ held = hold f := by
  cases call with
  | reset => cases h
  | init s args hold fresh =>
    change (r.init s args hold fresh).2.scheme = some held at h
    rcases r.init_cases s args hold fresh with
      ⟨other, hs, -, hsame⟩ | ⟨hs, -, hsame⟩ | ⟨hs, scheme, debug, hok, -⟩
    · exact Or.inl (hsame.scheme ▸ h)
    · exact Or.inl (hsame.scheme ▸ h)
    · rw [scheme_of_ok hok] at h
      obtain ⟨f, hmakes, hf⟩ := makes_of_ok hs hok
      exact Or.inr ⟨s, args, hold, fresh, f, rfl, hmakes, (Option.some.inj h).symm.trans hf⟩

lemma scheme_run {calls : List (Call σ ρ)} (h : (run calls).scheme = some held) :
    ∃ before s args hold fresh after f, calls = before ++ .init s args hold fresh :: after ∧
      (run before).Makes s args f ∧ held = hold f := by
  induction calls using List.reverseRecOn with
  | nil => cases h
  | append_singleton calls call ih =>
    rw [run, List.foldl_append] at h
    rcases scheme_after h with h | ⟨s, args, hold, fresh, f, rfl, hmakes, hf⟩
    · obtain ⟨before, s, args, hold, fresh, after, f, rfl, hmakes, hf⟩ := ih h
      exact ⟨before, s, args, hold, fresh, after ++ [call], f, by simp, hmakes, hf⟩
    · exact ⟨calls, s, args, hold, fresh, [], f, rfl, hmakes, hf⟩

/-- After any calls, a scheme that setting up gives was made by it or by one of the calls, when
nothing was registered; and it has a blank name exactly if one was passed there. -/
theorem blank_name_iff_passed (calls : List (Call σ ρ))
    (h : ((run calls).init s args hold fresh).1 = .ok held) :
    ∃ before s' args' hold' fresh' after f,
      calls ++ [.init s args hold fresh] = before ++ .init s' args' hold' fresh' :: after ∧
      (run before).Makes s' args' f ∧ held = hold' f ∧
      ((∃ name ∈ f.names, Blank name) ↔ args'.PassesBlank) := by
  have hrun : (run (calls ++ [.init s args hold fresh])).scheme = some held := by
    rw [run, List.foldl_append]
    exact scheme_of_ok h
  obtain ⟨before, s', args', hold', fresh', after, f, hcalls, hmakes, hf⟩ := scheme_run hrun
  exact ⟨before, s', args', hold', fresh', after, f, hcalls, hmakes, hf, hmakes.blank_iff⟩

theorem blank_name_iff_passed_set_up_twice :
    let s : Sources :=
      { work := ⟨"w", ["w"]⟩, home := ⟨"h", ["h"]⟩, vars := [("FIELDPROP_EXTRA_FIELDS", " ,X-B")] }
    let late : SetupArguments := { fields := some (.list [.text " "]) }
    let calls : List (Call (List String) Nat) := [.reset, .init s {} FieldScheme.names 0]
    ((run calls).init s late FieldScheme.names 1).1 = .ok ["x-b"] ∧
    ∃ before s' args' hold' fresh' after f,
      calls ++ [.init s late FieldScheme.names 1] = before ++ .init s' args' hold' fresh' :: after ∧
      (run before).Makes s' args' f ∧ ["x-b"] = hold' f ∧
      ((∃ name ∈ f.names, Blank name) ↔ args'.PassesBlank) := by
  intro s late calls
  have hheld : ((run calls).init s late FieldScheme.names 1).1 = .ok ["x-b"] := by
    with_unfolding_all rfl
  exact ⟨hheld, blank_name_iff_passed calls hheld⟩

theorem blank_name_registered :
    let s : Sources := { work := ⟨"w", ["w"]⟩, home := ⟨"h", ["h"]⟩ }
    let args : SetupArguments := { fields := some (.list [.text " "]) }
    let r : Registration (List String) Nat := run [.init s args FieldScheme.names 0]
    r.scheme = some [" "] ∧ Blank " " ∧
      Settings.checkFields (.array [.text " "]) =
        .error [⟨.blankName, "extra_fields", none, .array [.text " "]⟩] := by
  exact ⟨by decide +kernel, by decide, by with_unfolding_all rfl⟩

end Registration

end TraceFields
