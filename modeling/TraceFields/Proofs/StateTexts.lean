import TraceFields.Proofs.Marks
import TraceFields.Proofs.StateMembers

namespace TraceFields.Identity.Tracestate

open Text (Blank Trimmed isBlank trim)

structure IsPlain (e : String × String) : Prop where
  key_ne : e.1 ≠ ""
  key_lower : Text.lower e.1 = e.1
  key_uncut : ',' ∉ e.1.toList ∧ '=' ∉ e.1.toList
  key_trimmed : Trimmed isBlank e.1.toList
  value_ne : e.2 ≠ ""
  value_uncut : ',' ∉ e.2.toList
  value_trimmed : Trimmed isBlank e.2.toList

/-- Items with the members among them in this order, each with white space around its parts; the
other items are blank. -/
inductive Laid : Tracestate → List String → Prop where
  | nil : Laid [] []
  | blank {es : Tracestate} {items : List String} {gap : String} (hgap : Blank gap)
      (h : Laid es items) : Laid es (gap :: items)
  | member {es : Tracestate} {items : List String} {e : String × String}
      {before afterKey beforeValue after : String} (hbefore : Blank before)
      (hafterKey : Blank afterKey) (hbeforeValue : Blank beforeValue) (hafter : Blank after)
      (h : Laid es items) :
      Laid (e :: es) ((before ++ e.1 ++ afterKey ++ "=" ++ beforeValue ++ e.2 ++ after) :: items)

section Item

variable {e : String × String} {before afterKey beforeValue after : String}

lemma readMember?_laid (he : IsPlain e) (hbefore : Blank before) (hafterKey : Blank afterKey)
    (hbeforeValue : Blank beforeValue) (hafter : Blank after) :
    readMember? (before ++ e.1 ++ afterKey ++ "=" ++ beforeValue ++ e.2 ++ after) = some e := by
  have hk : e.1.toList ≠ [] := by simpa using he.key_ne
  have hv : e.2.toList ≠ [] := by simpa using he.value_ne
  have hinner := Trimmed.of_ends hk hv he.key_trimmed.head he.value_trimmed.last
    (afterKey.toList ++ '=' :: beforeValue.toList)
  have htrim : trim isBlank
      (before ++ e.1 ++ afterKey ++ "=" ++ beforeValue ++ e.2 ++ after).toList =
      e.1.toList ++ afterKey.toList ++ '=' :: (beforeValue.toList ++ e.2.toList) := by
    have h := Text.trim_padded hbefore hafter hinner (by simp [hk])
    simpa [List.append_assoc] using h
  have hcut : '=' ∉ e.1.toList ++ afterKey.toList := by
    rw [List.mem_append, not_or]
    exact ⟨he.key_uncut.2, hafterKey.not_mem (by decide)⟩
  have hkey : trim isBlank (e.1.toList ++ afterKey.toList) = e.1.toList := by
    have h := Text.trim_padded (List.forall_mem_nil _) hafterKey he.key_trimmed hk
    rwa [List.nil_append] at h
  have hvalue : trim isBlank (beforeValue.toList ++ e.2.toList) = e.2.toList := by
    have h := Text.trim_padded hbeforeValue (List.forall_mem_nil _) he.value_trimmed hv
    rwa [List.append_nil] at h
  rw [readMember?, htrim, Text.cut?_append hcut]
  dsimp only
  rw [hkey, hvalue, String.ofList_toList, String.ofList_toList, he.key_lower,
    if_neg (not_or.2 ⟨he.key_ne, he.value_ne⟩)]

lemma readMember?_blank {gap : String} (h : Blank gap) : readMember? gap = none := by
  rw [readMember?, Text.trim_eq_nil h]
  rfl

lemma isPlain_of_readMember? {item : String} (hitem : ',' ∉ item.toList)
    (h : readMember? item = some e) : IsPlain e := by
  obtain ⟨key, value, htrim, hcut, hk, hv, rfl⟩ := readMember?_eq_some h
  have hinside : ',' ∉ key ++ '=' :: value := fun hm => hitem (Text.mem_of_mem_trim (htrim ▸ hm))
  rw [List.mem_append, List.mem_cons, not_or, not_or] at hinside
  obtain ⟨hkey, -, hvalue⟩ := hinside
  have hkeyComma := Text.not_mem_lower (Or.inl rfl) (Text.not_mem_ofList_trim hkey)
  have hkeyEquals := Text.not_mem_lower (Or.inr (Or.inl rfl)) (Text.not_mem_ofList_trim hcut)
  exact ⟨hk, Text.lower_lower _, ⟨hkeyComma, hkeyEquals⟩,
    Text.trimmed_lower (Text.trimmed_ofList_trim key), hv, Text.not_mem_ofList_trim hvalue,
    Text.trimmed_ofList_trim value⟩

end Item

namespace Laid

variable {es : Tracestate} {items : List String}

lemma uncut (h : Laid es items) (hes : ∀ e ∈ es, IsPlain e) : ∀ item ∈ items, ',' ∉ item.toList := by
  have hcomma : isBlank ',' = false := by decide
  induction h with
  | nil => simp
  | blank hgap _ ih =>
    rw [List.forall_mem_cons]
    exact ⟨hgap.not_mem hcomma, ih hes⟩
  | @member es items e _ _ _ _ hbefore hafterKey hbeforeValue hafter _ ih =>
    obtain ⟨he, hes⟩ := List.forall_mem_cons.1 hes
    rw [List.forall_mem_cons]
    refine ⟨?_, ih hes⟩
    simp [hbefore.not_mem hcomma, hafterKey.not_mem hcomma, hbeforeValue.not_mem hcomma,
      hafter.not_mem hcomma, he.key_uncut.1, he.value_uncut]

lemma filterMap_readMember? (h : Laid es items) (hes : ∀ e ∈ es, IsPlain e) :
    items.filterMap readMember? = es := by
  induction h with
  | nil => rfl
  | blank hgap _ ih => rw [List.filterMap_cons_none (readMember?_blank hgap), ih hes]
  | member hbefore hafterKey hbeforeValue hafter _ ih =>
    obtain ⟨he, hes⟩ := List.forall_mem_cons.1 hes
    rw [List.filterMap_cons_some
      (readMember?_laid he hbefore hafterKey hbeforeValue hafter), ih hes]

lemma memberTexts (es : Tracestate) : Laid es (es.map memberText) := by
  have hempty : Blank "" := by decide
  induction es with
  | nil => exact .nil
  | cons e es ih =>
    have h : Laid (e :: es) _ := .member hempty hempty hempty hempty ih
    simpa [memberText] using h

lemma parse_joined (h : Laid es items) (hn : (Entries.keys es).Nodup) (hes : ∀ e ∈ es, IsPlain e) :
    parse (Text.joined "," items) = es := by
  by_cases hitems : items = []
  · subst hitems
    cases h
    rfl
  · rw [parse, Text.splitOn_joined rfl hitems (h.uncut hes), h.filterMap_readMember? hes,
      Entries.ofPairs_of_nodup hn]

end Laid

lemma parse_render_of_plain {es : Tracestate} (hn : (Entries.keys es).Nodup)
    (hes : ∀ e ∈ es, IsPlain e) : parse (render es) = es :=
  (Laid.memberTexts es).parse_joined hn hes

lemma isPlain_of_mem_parse {header : String} {e : String × String} (h : e ∈ parse header) :
    IsPlain e := by
  obtain ⟨item, hmem, hitem⟩ := exists_item_of_mem_parse header h
  obtain ⟨piece, hpiece, rfl⟩ := List.mem_map.1 hmem
  refine isPlain_of_readMember? ?_ hitem
  rw [String.toList_ofList]
  exact Text.not_mem_of_mem_pieces hpiece

theorem parse_inverts_render :
    (∀ es : Tracestate, (Entries.keys es).Nodup → (∀ e ∈ es, IsPlain e) →
      parse (render es) = es ∧ ∀ items, Laid es items → parse (Text.joined "," items) = es) ∧
    ∀ header, parse (render (parse header)) = parse header := by
  refine ⟨fun es hn hes => ⟨parse_render_of_plain hn hes, fun items h => h.parse_joined hn hes⟩,
    fun header => ?_⟩
  exact parse_render_of_plain (nodup_parse header) fun _ => isPlain_of_mem_parse

theorem parse_inverts_render_spread :
    let es := [("τ ος", "1=2"), ("b", "x y")]
    render es = "τ ος=1=2,b=x y" ∧ parse (render es) = es ∧
      parse " ,\u2003τ ος\t=  1=2,,b=x y " = es ∧
      parse (render (parse "Τ ΟΣ=1, b = x y,=, τ ος=1=2")) = es := by
  intro es
  have hn : (Entries.keys es).Nodup := by decide
  have hparts : ∀ e ∈ es, e.1 ≠ "" ∧ Text.lower e.1 = e.1 ∧
      (',' ∉ e.1.toList ∧ '=' ∉ e.1.toList) ∧ trim isBlank e.1.toList = e.1.toList ∧
      e.2 ≠ "" ∧ ',' ∉ e.2.toList ∧ trim isBlank e.2.toList = e.2.toList := by decide +kernel
  have hes : ∀ e ∈ es, IsPlain e := by
    intro e he
    obtain ⟨hk, hlower, hcut, hkey, hv, hcomma, hvalue⟩ := hparts e he
    exact ⟨hk, hlower, hcut, hkey ▸ Text.trimmed_trim _ _, hv, hcomma,
      hvalue ▸ Text.trimmed_trim _ _⟩
  have hlaid : Laid es [" ", "\u2003" ++ "τ ος" ++ "\t" ++ "=" ++ "  " ++ "1=2" ++ "", "",
      "" ++ "b" ++ "" ++ "=" ++ "" ++ "x y" ++ " "] :=
    .blank (by decide) (.member (by decide) (by decide) (by decide) (by decide)
      (.blank (by decide) (.member (by decide) (by decide) (by decide) (by decide) .nil)))
  obtain ⟨hplain, hagain⟩ := parse_inverts_render
  obtain ⟨hrender, hjoined⟩ := hplain es hn hes
  refine ⟨by decide, hrender, hjoined _ hlaid, ?_⟩
  rw [hagain]
  decide +kernel

end TraceFields.Identity.Tracestate
