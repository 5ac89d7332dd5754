import TraceFields.Proofs.Configuration
import TraceFields.Proofs.Cutting

namespace TraceFields

structure IsListName (name : String) : Prop extends IsListed name where
  no_null : '\x00' ∉ name.toList

namespace Settings

section Variables

variable {vars : Entries String String} {setting key : String}

lemma valuesOf_cons (e : String × String) : valuesOf (e :: vars) setting =
    if Text.lower e.1 = "fieldprop_" ++ setting then e.2 :: valuesOf vars setting
    else valuesOf vars setting := by
  rw [valuesOf, List.filter_cons]
  split <;> simp_all [valuesOf]

lemma valuesOf_eq_nil (h : ∀ e ∈ vars, Text.lower e.1 ≠ "fieldprop_" ++ setting) :
    valuesOf vars setting = [] := by
  rw [valuesOf, List.map_eq_nil_iff, List.filter_eq_nil_iff]
  exact fun e he hname => h e he (of_decide_eq_true hname)

lemma valuesOf_put_of_ne (h : Text.lower key ≠ "fieldprop_" ++ setting) (value : String) :
    valuesOf (vars.put key value) setting = valuesOf vars setting := by
  induction vars with
  | nil => rw [Entries.put, valuesOf_cons, if_neg h]
  | cons e vars ih =>
    rw [Entries.put]
    split
    · next he => rw [valuesOf_cons, valuesOf_cons, he, if_neg h, if_neg h]
    · rw [valuesOf_cons, valuesOf_cons, ih]

lemma valuesOf_put_self (hkey : Text.lower key = "fieldprop_" ++ setting)
    (hn : (Entries.keys vars).Nodup)
    (hothers : ∀ e ∈ vars, Text.lower e.1 = "fieldprop_" ++ setting → e.1 = key) (value : String) :
    valuesOf (vars.put key value) setting = [value] := by
  induction vars with
  | nil =>
    rw [Entries.put, valuesOf_cons, if_pos hkey]
    rfl
  | cons e vars ih =>
    obtain ⟨he, hothers⟩ := List.forall_mem_cons.1 hothers
    obtain ⟨hnew, hn⟩ := List.nodup_cons.1 hn
    rw [Entries.put]
    split
    · next heq =>
      have hrest : valuesOf vars setting = [] := by
        refine valuesOf_eq_nil fun f hf hname => ?_
        have hsame : e.1 = f.1 := heq.trans (hothers f hf hname).symm
        exact hnew (hsame ▸ List.mem_map_of_mem hf)
      have hlower : Text.lower e.1 = "fieldprop_" ++ setting := heq ▸ hkey
      rw [valuesOf_cons, if_pos hlower, hrest]
    · next hne => rw [valuesOf_cons, if_neg fun hname => hne (he hname), ih hn hothers]

end Variables

structure ValidApart (s : Sources) (configFile : Option String) (table : Toml.Table)
    (debug : Bool) : Prop where
  read : ∃ path document,
    s.chosenTable configFile = .ok (path, document) ∧ section? document = some table
  known : unknownKeys table = []
  debug : debugFrom s.vars table = .ok debug

section Load

variable {s : Sources} {configFile : Option String} {table : Toml.Table} {debug : Bool}
  {names segments : List String}

lemma free_of_unknownKeys (options : Options) (h : unknownKeys table = []) :
    options.Free table := by
  refine options.free_of_head fun e he hhead => ?_
  rw [unknownKeys, List.map_eq_nil_iff, List.filter_eq_nil_iff] at h
  have hunderscore : Text.Lower.Settled '_' := by decide +kernel
  have hlower := Text.head?_lower hunderscore hhead
  have hknown := h e he
  rw [decide_eq_true_eq, ne_eq, ne_eq, ← not_or, not_not] at hknown
  rcases hknown with hk | hk <;> rw [hk] at hlower <;> revert hlower <;> decide

lemma ValidApart.load (h : ValidApart s configFile table debug)
    (hfields : fieldsFrom s.vars table = .ok names) :
    Settings.load s configFile = .ok ⟨names, debug⟩ := by
  obtain ⟨path, document, hchosen, hsection⟩ := h.read
  rw [load_eq hchosen hsection (free_of_unknownKeys s.options h.known), checked, check_eq, hfields,
    h.debug, h.known]

lemma setVariable_fields (s : Sources) {value : String} (h : '\x00' ∉ value.toList) :
    s.setVariable "FIELDPROP_EXTRA_FIELDS" (some value) =
      .ok { s with vars := s.vars.put "FIELDPROP_EXTRA_FIELDS" value } := by
  have hhome : "FIELDPROP_EXTRA_FIELDS" ≠ Sources.homeVariable := by decide
  have hname : ("FIELDPROP_EXTRA_FIELDS".toList.contains '=' ||
      Files.hasNull "FIELDPROP_EXTRA_FIELDS") = false := by decide +kernel
  have hvalue : Files.hasNull value = false := by simpa [Files.hasNull] using h
  simp only [Sources.setVariable, if_neg hhome, hname, hvalue, Bool.or_self, Bool.false_eq_true,
    if_false]
  rfl

lemma ValidApart.put_fields (h : ValidApart s configFile table debug) (value : String) :
    ValidApart { s with vars := s.vars.put "FIELDPROP_EXTRA_FIELDS" value } configFile table
      debug where
  read := h.read
  known := h.known
  debug := by
    have hne : Text.lower "FIELDPROP_EXTRA_FIELDS" ≠ "fieldprop_" ++ "debug" := by decide +kernel
    rw [← h.debug, debugFrom, debugFrom, raw?_eq, raw?_eq s.vars, fromVariables?_eq,
      fromVariables?_eq, valuesOf_put_of_ne hne]

theorem name_forms_agree (hnames : ∀ n ∈ names, IsListName n) (hspread : Spread names segments)
    (hs : ValidApart s configFile table debug) :
    let value := Text.joined "," segments
    ((Entries.keys s.vars).Nodup →
      (∀ e ∈ s.vars, Text.lower e.1 = "fieldprop_extra_fields" → e.1 = "FIELDPROP_EXTRA_FIELDS") →
      ∃ s', s.setVariable "FIELDPROP_EXTRA_FIELDS" (some value) = .ok s' ∧
        load s' configFile = .ok ⟨names, debug⟩) ∧
    ((∀ e ∈ s.vars, Text.lower e.1 ≠ "fieldprop_extra_fields") →
      ∀ v, v = .text value ∨ v = .array (names.map .text) → entry? table "extra_fields" = some v →
        load s configFile = .ok ⟨names, debug⟩) := by
  intro value
  have hlisted : ∀ n ∈ names, IsListed n := fun n hn => (hnames n hn).toIsListed
  have hvalue : checkFields (.text value) = .ok names :=
    checkFields_of_gives (.text ⟨segments, rfl, hspread, hlisted⟩)
  have hvariable : "fieldprop_extra_fields" = "fieldprop_" ++ "extra_fields" := by decide
  rw [hvariable]
  constructor
  · intro hn hothers
    have hnull : '\x00' ∉ value.toList := by
      intro hm
      rcases Text.mem_joined hm with hm | ⟨segment, hsegment, hm⟩
      · exact absurd hm (by decide)
      · exact hspread.not_mem (by decide) (fun n hn => (hnames n hn).no_null) segment hsegment hm
    have hput : valuesOf (s.vars.put "FIELDPROP_EXTRA_FIELDS" value) "extra_fields" = [value] :=
      valuesOf_put_self (by decide +kernel) hn hothers value
    refine ⟨_, setVariable_fields s hnull, (hs.put_fields value).load ?_⟩
    rw [fieldsFrom, raw?_eq, fromVariables?_eq, hput]
    exact hvalue
  · intro hnone v hv hentry
    have hunset : valuesOf s.vars "extra_fields" = [] := valuesOf_eq_nil hnone
    have hraw : raw? [] table "extra_fields" = some v := hentry
    refine hs.load ?_
    rw [fieldsFrom, raw?_eq, fromVariables?_eq, hunset, hraw]
    change checkFields v = .ok names
    rcases hv with rfl | rfl
    · exact hvalue
    · refine checkFields_of_gives (.array fun n hn => ?_)
      exact Text.not_blank_of_trimmed (hlisted n hn).trimmed (hlisted n hn).ne_empty

end Load

theorem name_forms_agree_padded :
    let value := " ,X-B\t,,\u2003x a,X-B"
    let text := inWorkFolder "[propagation]\nextra_fields = ' ,X-B\t,,\u2003x a,X-B'\n" []
    let list := inWorkFolder "[propagation]\nextra_fields = ['X-B', 'x a', 'X-B']\n" []
    let names := ["X-B", "x a", "X-B"]
    load text none = .ok ⟨names, false⟩ ∧ load list none = .ok ⟨names, false⟩ ∧
      ∃ s, list.setVariable "FIELDPROP_EXTRA_FIELDS" (some value) = .ok s ∧
        load s none = .ok ⟨names, false⟩ := by
  intro value text list names
  let segments := [" ", "" ++ "X-B" ++ "\t", "", "\u2003" ++ "x a" ++ "", "" ++ "X-B" ++ ""]
  have hspread : Spread names segments :=
    .blank (by decide) (.name (by decide) (by decide) (.blank (by decide)
      (.name (by decide) (by decide) (.name (by decide) (by decide) .nil))))
  have hnames : ∀ n ∈ names, IsListName n := by
    have hn : ∀ n ∈ names, n ≠ "" ∧ ',' ∉ n.toList ∧ '\x00' ∉ n.toList ∧
        Text.trim Text.isBlank n.toList = n.toList := by decide
    intro n hm
    obtain ⟨hne, hcomma, hnull, htrim⟩ := hn n hm
    exact ⟨⟨hne, hcomma, htrim ▸ Text.trimmed_trim _ _⟩, hnull⟩
  have hparse : Toml.parse {} "[propagation]\nextra_fields = ' ,X-B\t,,\u2003x a,X-B'\n" =
      .ok [("propagation", .table [("extra_fields", .text value)])] := by
    with_unfolding_all rfl
  have hparse' : Toml.parse {} "[propagation]\nextra_fields = ['X-B', 'x a', 'X-B']\n" =
      .ok [("propagation", .table [("extra_fields", .array (names.map .text))])] := by
    with_unfolding_all rfl
  have hvalue : value = Text.joined "," segments := by decide
  have hkeys : ∀ v : Toml.Value, ∀ e ∈ [("extra_fields", v)],
      e.1 = "extra_fields" ∨ e.1 = "debug" := by
    simp
  have hentry : ∀ v, entry? [("extra_fields", v)] "extra_fields" = some v := fun v =>
    raw?_known (hkeys v) "extra_fields"
  have hdebug : ∀ v, debugFrom [] [("extra_fields", v)] = .ok false := fun v =>
    congrArg (checkOr checkDebug false) (raw?_known (hkeys v) "debug")
  have htext : ValidApart text none [("extra_fields", .text value)] false :=
    ⟨⟨_, _, chosenTable_inWorkFolder hparse [], rfl⟩, unknownKeys_eq_nil (hkeys _), hdebug _⟩
  have hlist : ValidApart list none [("extra_fields", .array (names.map .text))] false :=
    ⟨⟨_, _, chosenTable_inWorkFolder hparse' [], rfl⟩, unknownKeys_eq_nil (hkeys _), hdebug _⟩
  have hunset : ∀ e ∈ ([] : Entries String String), Text.lower e.1 ≠ "fieldprop_extra_fields" := by
    simp
  refine ⟨?_, ?_, ?_⟩
  · exact (name_forms_agree hnames hspread htext).2 hunset _ (Or.inl (by rw [hvalue])) (hentry _)
  · exact (name_forms_agree hnames hspread hlist).2 hunset _ (Or.inr rfl) (hentry _)
  · rw [hvalue]
    exact (name_forms_agree hnames hspread hlist).1 List.nodup_nil (by simp [list, inWorkFolder])

end Settings

end TraceFields
