import TraceFields.Identity.Tracestate
import TraceFields.Proofs.Cutting
import TraceFields.Proofs.Lowering

/-!
Members of a trace state as texts.
-/

namespace TraceFields.Identity.Tracestate

open Text (Trimmed cut? isBlank isGap of_ascii strip trim)

section Characters

lemma isBlank_of_isGap {c : Char} (h : isGap c = true) : isBlank c = true := by
  simp only [isGap, Bool.or_eq_true, decide_eq_true_eq] at h
  rcases h with rfl | rfl <;> decide

def InKey (c : Char) : Prop := isKeyChar c = true ∨ c = '@'

lemma InKey.ascii {c : Char} (h : InKey c) : c.toNat < 128 := by
  simp only [InKey, isKeyChar, isLowerAlpha, Numeral.Decimal.isDigit, Bool.or_eq_true,
    Bool.and_eq_true, decide_eq_true_eq, Char.le_def, UInt32.le_iff_toNat_le] at h
  change c.val.toNat < 128
  rcases h with (((((h | h) | rfl) | rfl) | rfl) | rfl) | rfl
  · exact Nat.lt_of_le_of_lt h.2 (by decide)
  · exact Nat.lt_of_le_of_lt h.2 (by decide)
  all_goals decide

lemma InKey.spec {c : Char} (h : InKey c) :
    c ≠ ',' ∧ c ≠ '=' ∧ isBlank c = false ∧ Text.Lower.Settled c := by
  have hs : ∀ n < 128, (isKeyChar (Char.ofNat n) = true ∨ Char.ofNat n = '@') →
      Char.ofNat n ≠ ',' ∧ Char.ofNat n ≠ '=' ∧ isBlank (Char.ofNat n) = false ∧
        Text.Lower.Settled (Char.ofNat n) := by decide +kernel
  exact of_ascii (P := fun c => InKey c → c ≠ ',' ∧ c ≠ '=' ∧ isBlank c = false ∧
    Text.Lower.Settled c) hs h.ascii h

lemma isValueChar_spec {c : Char} (h : isValueChar c = true) :
    c ≠ ',' ∧ (c ≠ ' ' → isBlank c = false) := by
  have hs : ∀ n < 128, isValueChar (Char.ofNat n) = true →
      Char.ofNat n ≠ ',' ∧ (Char.ofNat n ≠ ' ' → isBlank (Char.ofNat n) = false) := by
    decide +kernel
  have hc : c.toNat < 128 := by
    simp only [isValueChar, Bool.and_eq_true, decide_eq_true_eq, Char.le_def,
      UInt32.le_iff_toNat_le] at h
    exact Nat.lt_of_le_of_lt h.1.1.2 (by decide)
  exact of_ascii (P := fun c => isValueChar c = true → c ≠ ',' ∧ (c ≠ ' ' → isBlank c = false))
    hs hc h

end Characters

section Parts

variable {cs : List Char}

lemma inKey_of_isWord {first : Char → Bool} (hf : ∀ c, first c = true → InKey c) {more : Nat}
    (h : isWord first more cs = true) : cs ≠ [] ∧ ∀ c ∈ cs, InKey c := by
  cases cs with
  | nil => cases h
  | cons c cs =>
    simp only [isWord, Bool.and_eq_true, List.all_eq_true] at h
    refine ⟨List.cons_ne_nil c cs, fun d hd => ?_⟩
    rcases List.mem_cons.1 hd with rfl | hd
    · exact hf d h.1.1
    · exact Or.inl (h.1.2 d hd)

lemma inKey_of_isKey (h : isKey cs = true) : cs ≠ [] ∧ ∀ c ∈ cs, InKey c := by
  have halpha : ∀ c, isLowerAlpha c = true → InKey c := by
    intro c hc
    simp [InKey, isKeyChar, hc]
  have halnum : ∀ c, (isLowerAlpha c || Numeral.Decimal.isDigit c) = true → InKey c := by
    intro c hc
    simp only [Bool.or_eq_true] at hc
    rcases hc with hc | hc <;> simp [InKey, isKeyChar, hc]
  rw [isKey] at h
  cases hcut : cut? '@' cs with
  | none =>
    rw [hcut] at h
    exact inKey_of_isWord halpha h
  | some parts =>
    obtain ⟨tenant, system⟩ := parts
    rw [hcut, Bool.and_eq_true] at h
    obtain ⟨-, htenant⟩ := inKey_of_isWord halnum h.1
    obtain ⟨-, hsystem⟩ := inKey_of_isWord halpha h.2
    rw [Text.eq_of_cut? hcut]
    refine ⟨by simp, fun c hc => ?_⟩
    rcases List.mem_append.1 hc with hc | hc
    · exact htenant c hc
    · rcases List.mem_cons.1 hc with rfl | hc
      · exact Or.inr rfl
      · exact hsystem c hc

lemma trimmed_of_inKey (h : ∀ c ∈ cs, InKey c) : Trimmed isBlank cs :=
  .of_forall fun c hc => (h c hc).spec.2.2.1

lemma isValue_spec (h : isValue cs = true) :
    (∃ c, cs.getLast? = some c ∧ isBlank c = false) ∧ ∀ c ∈ cs, isValueChar c = true := by
  rw [isValue, Bool.and_eq_true, Bool.and_eq_true, List.all_eq_true] at h
  obtain ⟨⟨hall, -⟩, hlast⟩ := h
  cases hl : cs.getLast? with
  | none => simp [hl] at hlast
  | some c =>
    have hc : c ≠ ' ' := by simpa [hl] using hlast
    exact ⟨⟨c, rfl, (isValueChar_spec (hall c (List.mem_of_getLast? hl))).2 hc⟩, hall⟩

lemma getLast_of_isValue (h : isValue cs = true) :
    ∀ c, cs.getLast? = some c → isBlank c = false := by
  obtain ⟨⟨c, hl, hc⟩, -⟩ := isValue_spec h
  intro d hd
  obtain rfl : c = d := Option.some.inj (hl.symm.trans hd)
  exact hc

end Parts

def memberText (e : String × String) : String := e.1 ++ "=" ++ e.2

def unpadded (e : String × String) : String × String := (e.1, strip e.2)

lemma toList_memberText (e : String × String) :
    (memberText e).toList = e.1.toList ++ '=' :: e.2.toList := by
  simp [memberText]

section Member

variable {e : String × String} (h : isMember e = true)

include h

lemma isMember_parts : isKey e.1.toList = true ∧ isValue e.2.toList = true := by
  rwa [isMember, Bool.and_eq_true] at h

lemma equals_not_mem_key : '=' ∉ e.1.toList := by
  intro hm
  exact ((inKey_of_isKey (isMember_parts h).1).2 _ hm).spec.2.1 rfl

lemma comma_not_mem_memberText : ',' ∉ (memberText e).toList := by
  obtain ⟨hkey, hvalue⟩ := isMember_parts h
  rw [toList_memberText, List.mem_append, List.mem_cons]
  rintro (hm | hm | hm)
  · exact ((inKey_of_isKey hkey).2 _ hm).spec.1 rfl
  · cases hm
  · exact (isValueChar_spec ((isValue_spec hvalue).2 _ hm)).1 rfl

lemma trimmed_memberText : Trimmed isBlank (memberText e).toList := by
  obtain ⟨hkey, hvalue⟩ := isMember_parts h
  obtain ⟨hn, hall⟩ := inKey_of_isKey hkey
  obtain ⟨⟨d, hlast, -⟩, -⟩ := isValue_spec hvalue
  have hvn : e.2.toList ≠ [] := List.ne_nil_of_mem (List.mem_of_getLast? hlast)
  have htrimmed := Trimmed.of_ends hn hvn (trimmed_of_inKey hall).head
    (getLast_of_isValue hvalue) ['=']
  rwa [toList_memberText, ← List.singleton_append, ← List.append_assoc]

lemma toList_strip : (strip e.2).toList = e.2.toList.dropWhile isBlank := by
  rw [strip, String.toList_ofList,
    Text.trim_eq_dropWhile (getLast_of_isValue (isMember_parts h).2)]

lemma strip_ne_empty : strip e.2 ≠ "" := by
  obtain ⟨⟨c, hlast, hc⟩, -⟩ := isValue_spec (isMember_parts h).2
  intro hs
  have hend := Text.getLast?_dropWhile_of_not hlast hc
  rw [← toList_strip h, hs] at hend
  cases hend

lemma readMember?_memberText : readMember? (memberText e) = some (unpadded e) := by
  obtain ⟨hn, hall⟩ := inKey_of_isKey (isMember_parts h).1
  have hkey : Text.lower e.1 = e.1 := by
    rw [Text.lower, Text.Lower.chars_of_settled fun c hc => (hall c hc).spec.2.2.2,
      String.ofList_toList]
  have hne : e.1 ≠ "" := fun hz => hn (by rw [hz]; rfl)
  rw [readMember?, Text.trim_eq_self (trimmed_memberText h), toList_memberText,
    Text.cut?_append (equals_not_mem_key h)]
  dsimp only
  rw [Text.trim_eq_self (trimmed_of_inKey hall), String.ofList_toList, hkey, if_neg]
  · rfl
  · rintro (hz | hz)
    · exact hne hz
    · exact strip_ne_empty h hz

lemma strictMember?_memberText : strictMember? (memberText e).toList = some e := by
  obtain ⟨hkey, hvalue⟩ := isMember_parts h
  rw [strictMember?, toList_memberText, Text.cut?_append (equals_not_mem_key h)]
  dsimp only
  rw [hkey, hvalue, Bool.and_self, if_pos rfl, String.ofList_toList, String.ofList_toList]

lemma isMember_unpadded : isMember (unpadded e) = true := by
  obtain ⟨hkey, hvalue⟩ := isMember_parts h
  obtain ⟨⟨c, hlast, hc⟩, hall⟩ := isValue_spec hvalue
  have hend := Text.getLast?_dropWhile_of_not hlast hc
  have hsub := List.dropWhile_sublist isBlank (l := e.2.toList)
  have hlength : e.2.toList.length ≤ 256 := by
    rw [isValue, Bool.and_eq_true, Bool.and_eq_true, decide_eq_true_eq] at hvalue
    exact hvalue.1.2
  have hspace : c ≠ ' ' := by
    rintro rfl
    cases hc
  rw [isMember, unpadded, hkey, Bool.true_and, toList_strip h, isValue, hend]
  simp only [Bool.and_eq_true, List.all_eq_true, decide_eq_true_eq]
  exact ⟨⟨fun d hd => hall d (hsub.subset hd), Nat.le_trans hsub.length_le hlength⟩, hspace⟩

lemma unpadded_eq_self_iff : unpadded e = e ↔ e.2.toList.head? ≠ some ' ' := by
  have hall := (isValue_spec (isMember_parts h).2).2
  constructor
  · intro he hhead
    have hdrop : e.2.toList.dropWhile isBlank = e.2.toList := by
      rw [← toList_strip h]
      exact congrArg (fun f => f.2.toList) he
    rw [← hdrop] at hhead
    cases Text.head_of_dropWhile hhead
  · intro hhead
    have hdrop : e.2.toList.dropWhile isBlank = e.2.toList := by
      apply Text.dropWhile_of_head
      intro c hc
      apply (isValueChar_spec (hall c (List.mem_of_head? hc))).2
      rintro rfl
      exact hhead hc
    rw [← toList_strip h] at hdrop
    exact Prod.ext rfl (String.toList_inj.1 hdrop)

end Member

structure WellFormed (es : Tracestate) : Prop where
  nodup : (Entries.keys es).Nodup
  member : ∀ e ∈ es, isMember e = true
  few : es.length ≤ mostMembers

lemma keys_unpadded (es : Tracestate) : Entries.keys (es.map unpadded) = Entries.keys es := by
  rw [Entries.keys, List.map_map]
  rfl

lemma render_eq (es : Tracestate) : render es = Text.joined "," (es.map memberText) := rfl

lemma filter_trim_memberText {es : Tracestate} (hm : ∀ e ∈ es, isMember e = true) :
    (es.map (trim isGap ∘ String.toList ∘ memberText)).filter (· ≠ []) =
      es.map fun e => (memberText e).toList := by
  induction es with
  | nil => rfl
  | cons e es ih =>
    have he := hm e List.mem_cons_self
    have htrim : trim isGap (memberText e).toList = (memberText e).toList :=
      Text.trim_eq_self ((trimmed_memberText he).of_imp fun c => isBlank_of_isGap)
    have hn : (memberText e).toList ≠ [] := by simp [toList_memberText]
    rw [List.map_cons, Function.comp_apply, Function.comp_apply, htrim, List.filter_cons,
      if_pos (by simpa using hn), ih fun f hf => hm f (List.mem_cons_of_mem e hf), List.map_cons]

lemma filterMap_readMember? {es : Tracestate} (hm : ∀ e ∈ es, isMember e = true) :
    (es.map memberText).filterMap readMember? = es.map unpadded := by
  induction es with
  | nil => rfl
  | cons e es ih =>
    rw [List.map_cons, List.filterMap_cons, readMember?_memberText (hm e List.mem_cons_self),
      ih fun f hf => hm f (List.mem_cons_of_mem e hf), List.map_cons]

lemma strictMembers?_map {es : Tracestate} (hn : (Entries.keys es).Nodup)
    (hm : ∀ e ∈ es, isMember e = true) :
    strictMembers? (es.map fun e => (memberText e).toList) = some es := by
  induction es with
  | nil => rfl
  | cons e es ih =>
    have hn' := List.nodup_cons.1 hn
    rw [List.map_cons, strictMembers?, strictMember?_memberText (hm e List.mem_cons_self),
      ih hn'.2 fun f hf => hm f (List.mem_cons_of_mem e hf)]
    have hc : (Entries.keys es).contains e.1 = false :=
      Bool.eq_false_iff.2 (mt List.contains_iff_mem.1 hn'.1)
    simp only [Option.bind_eq_bind, Option.bind_some, hc, Bool.false_eq_true, if_false]

lemma wellFormed_strictMembers? {items : List (List Char)} {es : Tracestate}
    (h : strictMembers? items = some es) :
    es.length = items.length ∧ (Entries.keys es).Nodup ∧ ∀ e ∈ es, isMember e = true := by
  induction items generalizing es with
  | nil =>
    cases h
    simp [Entries.keys]
  | cons item items ih =>
    obtain ⟨e, he, h⟩ := Option.bind_eq_some_iff.1 h
    obtain ⟨es', hes, h⟩ := Option.bind_eq_some_iff.1 h
    obtain ⟨hl, hn, hm⟩ := ih hes
    split at h
    · cases h
    · next hc =>
      cases h
      have hmember : isMember e = true := by
        rw [strictMember?] at he
        split at he
        · cases he
        · split at he
          · next hparts =>
            cases he
            rw [isMember, String.toList_ofList, String.toList_ofList]
            exact hparts
          · cases he
      refine ⟨by simp [hl], List.nodup_cons.2 ⟨mt List.contains_iff_mem.2 hc, hn⟩, fun f hf => ?_⟩
      rcases List.mem_cons.1 hf with rfl | hf
      · exact hmember
      · exact hm f hf

lemma wellFormed_nil : WellFormed [] := ⟨List.nodup_nil, by simp, Nat.zero_le _⟩

lemma wellFormed_ofHeader (header : String) : WellFormed (ofHeader header) := by
  unfold ofHeader
  split
  · dsimp only
    split
    · next hfew =>
      cases hes : strictMembers? _ with
      | none => exact wellFormed_nil
      | some es =>
        obtain ⟨hl, hn, hm⟩ := wellFormed_strictMembers? hes
        exact ⟨hn, hm, hl ▸ hfew⟩
    · exact wellFormed_nil
  · exact wellFormed_nil

lemma wellFormed_forwarded {pairs : Tracestate} (hn : (Entries.keys pairs).Nodup) :
    WellFormed (forwarded pairs) := by
  unfold forwarded
  split
  · next hfew =>
    refine ⟨hn.sublist (List.filter_sublist.map _), fun e he => (List.mem_filter.1 he).2, ?_⟩
    exact Nat.le_trans (List.length_filter_le _ _) hfew
  · exact wellFormed_nil

section Parse

variable (header : String)

lemma nodup_parse : (Entries.keys (parse header)).Nodup := by
  apply Entries.nodup_keys_putAll
  exact List.nodup_nil

lemma exists_item_of_mem_parse {e : String × String} (h : e ∈ parse header) :
    ∃ item ∈ Text.splitOn ',' header, readMember? item = some e := by
  obtain h | h := Entries.mem_putAll h
  · cases h
  · exact List.mem_filterMap.1 h

lemma readMember?_eq_some {item : String} {e : String × String} (h : readMember? item = some e) :
    ∃ key value, trim isBlank item.toList = key ++ '=' :: value ∧ '=' ∉ key ∧ e.1 ≠ "" ∧
      e.2 ≠ "" ∧ e = (Text.lower (String.ofList (trim isBlank key)),
        String.ofList (trim isBlank value)) := by
  rw [readMember?] at h
  split at h
  · cases h
  · next key value hcut =>
    dsimp only at h
    split at h
    · cases h
    · next hne =>
      cases h
      rw [not_or] at hne
      exact ⟨key, value, Text.eq_of_cut? hcut, Text.not_mem_of_cut? hcut, hne.1, hne.2, rfl⟩

lemma unpadded_of_mem_parse {e : String × String} (h : e ∈ parse header) : unpadded e = e := by
  obtain ⟨item, -, hitem⟩ := exists_item_of_mem_parse header h
  obtain ⟨key, value, -, -, -, -, rfl⟩ := readMember?_eq_some hitem
  exact Prod.ext rfl (Text.strip_eq_self (Text.trimmed_ofList_trim value))

lemma map_unpadded_forwarded : (forwarded (parse header)).map unpadded = forwarded (parse header) := by
  have hmem : ∀ e ∈ forwarded (parse header), e ∈ parse header := by
    intro e he
    unfold forwarded at he
    split at he
    · exact (List.mem_filter.1 he).1
    · cases he
  calc (forwarded (parse header)).map unpadded
      = (forwarded (parse header)).map id :=
        List.map_congr_left fun e he => unpadded_of_mem_parse header (hmem e he)
    _ = forwarded (parse header) := List.map_id _

end Parse

namespace WellFormed

variable {es : Tracestate} (h : WellFormed es)

include h

lemma forwarded_eq : forwarded es = es := by
  rw [forwarded, if_pos h.few, List.filter_eq_self]
  exact h.member

lemma map_unpadded : WellFormed (es.map unpadded) := by
  refine ⟨keys_unpadded es ▸ h.nodup, ?_, by simpa using h.few⟩
  intro e he
  obtain ⟨f, hf, rfl⟩ := List.mem_map.1 he
  exact isMember_unpadded (h.member f hf)

lemma map_unpadded_eq_self_iff : es.map unpadded = es ↔ ∀ e ∈ es, e.2.toList.head? ≠ some ' ' := by
  have hmap := List.map_eq_map_iff (f := unpadded) (g := id) (l := es)
  rw [List.map_id] at hmap
  rw [hmap]
  exact forall₂_congr fun e he => unpadded_eq_self_iff (h.member e he)

lemma comma_not_mem : ∀ s ∈ es.map memberText, ',' ∉ s.toList := by
  intro s hs
  obtain ⟨e, he, rfl⟩ := List.mem_map.1 hs
  exact comma_not_mem_memberText (h.member e he)

lemma parse_render : parse (render es) = es.map unpadded := by
  rcases List.eq_nil_or_concat es with rfl | ⟨init, last, he⟩
  · rfl
  have hn : es.map memberText ≠ [] := by simp [he]
  rw [parse, render_eq, Text.splitOn_joined rfl hn h.comma_not_mem, filterMap_readMember? h.member]
  exact Entries.ofPairs_of_nodup h.map_unpadded.nodup

lemma strictMembers?_render (hn : es ≠ []) :
    strictMembers? (Text.pieces ',' (render es).toList) = some es := by
  rw [render_eq, Text.pieces_joined rfl (by simpa using hn) h.comma_not_mem, List.map_map]
  exact strictMembers?_map h.nodup h.member

lemma ofHeader_render :
    ofHeader (render es) = if (render es).toList.length ≤ longest then es else [] := by
  rcases List.eq_nil_or_concat es with rfl | ⟨init, last, he⟩
  · rfl
  have hn : es.map memberText ≠ [] := by simp [he]
  have hitems : ((Text.pieces ',' (render es).toList).map (trim isGap)).filter (· ≠ []) =
      es.map fun e => (memberText e).toList := by
    rw [render_eq, Text.pieces_joined rfl hn h.comma_not_mem, List.map_map, List.map_map]
    exact filter_trim_memberText h.member
  rw [ofHeader]
  split
  · dsimp only
    rw [hitems, List.length_map, if_pos h.few, strictMembers?_map h.nodup h.member, Option.getD_some]
  · rfl

end WellFormed

end TraceFields.Identity.Tracestate
