import TraceFields.Proofs.Carriage
import TraceFields.Proofs.IdentityHeaders

namespace TraceFields

namespace Identity

open Numeral
open Traceparent (isLowerHex hexField addition? readChars)

lemma isId_write {width n : Nat} (hw : 0 < width) (h0 : 0 < n) (h1 : n < 16 ^ width) :
    IsId width (Hex.write width n) := by
  have hz : ¬ Traceparent.isZero (Hex.chars width n) = true := by
    rw [← Hex.value_eq_zero_iff Hex.all_lowerHex_chars, Hex.value_chars]
    omega
  refine ⟨?_, ?_, ?_⟩ <;> rw [Hex.write, String.toList_ofList]
  · exact Hex.length_chars hw h1
  · exact Hex.all_lowerHex_chars
  · exact Bool.not_eq_true _ ▸ hz

lemma value_write (width n : Nat) : Hex.value (Hex.write width n).toList = n := by
  rw [Hex.write, String.toList_ofList, Hex.value_chars]

lemma eq_nat_of_isTraceId {t : Int} (h : isTraceId t = true) :
    ∃ n : Nat, t = n ∧ IsId 32 (Hex.write 32 n) := by
  simp only [isTraceId, Bool.and_eq_true, decide_eq_true_eq] at h
  obtain ⟨n, rfl⟩ := Int.eq_ofNat_of_zero_le (by omega : 0 ≤ t)
  have hlt : n < 16 ^ 32 := Int.ofNat_lt.1 h.2
  exact ⟨n, rfl, isId_write (by decide) (by omega) hlt⟩

lemma eq_nat_of_isSpanId {s : Int} (h : isSpanId s = true) :
    ∃ n : Nat, s = n ∧ IsId 16 (Hex.write 16 n) := by
  simp only [isSpanId, Bool.and_eq_true, decide_eq_true_eq] at h
  obtain ⟨n, rfl⟩ := Int.eq_ofNat_of_zero_le (by omega : 0 ≤ s)
  have hlt : n < 16 ^ 16 := Int.ofNat_lt.1 h.2
  exact ⟨n, rfl, isId_write (by decide) (by omega) hlt⟩

lemma long_field_refused {cs : List Char} (h : cs.all isLowerHex = true) (hl : 2 < cs.length) :
    ((hexField 2 cs).bind fun p => addition? p.2) = none := by
  have hsplit := List.take_append_drop 2 cs
  rw [← hsplit, List.all_append, Bool.and_eq_true] at h
  have hfield : hexField 2 cs = some (cs.take 2, cs.drop 2) := by
    conv_lhs => rw [← hsplit]
    exact hexField_append h.1 (List.length_take_of_le hl.le) _
  have hdrop : cs.drop 2 ≠ [] := by
    rw [Ne, List.drop_eq_nil_iff]
    omega
  rw [hfield, Option.bind_some]
  exact addition?_lowerHex h.2 hdrop

lemma flags_refused {f : Int} (hf : ¬ (0 ≤ f ∧ f < 256)) :
    ((hexField 2 (Hex.chars 2 f)).bind fun p => addition? p.2) = none := by
  rcases Int.lt_or_le f 0 with h | h
  · have hminus : ∀ cs, hexField 2 ('-' :: cs) = none := by
      intro cs
      simp [hexField, isLowerHex]
    rw [Hex.chars, if_pos h, hminus, Option.bind_none]
  · obtain ⟨n, rfl⟩ := Int.eq_ofNat_of_zero_le h
    exact long_field_refused Hex.all_lowerHex_chars (Hex.lt_length_chars (by omega))

lemma read?_write_nat {n m : Nat} (hn : IsId 32 (Hex.write 32 n)) (hm : IsId 16 (Hex.write 16 m))
    (f : Int) : Traceparent.read? (Traceparent.write n m f) =
      if 0 ≤ f ∧ f < 256 then some ⟨Hex.write 32 n, Hex.write 16 m, decide (f % 2 = 1)⟩
      else none := by
  split
  · next hf =>
    have hread := read?_write hn hm hf.1 hf.2
    rw [value_write, value_write] at hread
    exact hread
  · next hf =>
    rw [Traceparent.read?]
    split
    · have hrefused := flags_refused hf
      have lt := hn.length
      have ls := hm.length
      rw [Hex.write, String.toList_ofList] at lt ls
      rw [toList_write, readChars_append (by decide) Hex.all_lowerHex_chars Hex.all_lowerHex_chars
        rfl lt ls]
      cases hfield : hexField 2 (Hex.chars 2 f) with
      | none => rfl
      | some p =>
        rw [hfield, Option.bind_some] at hrefused
        rw [Option.bind_some, hrefused, Option.bind_none]
    · rfl

structure SameIdentity (c d : TraceContext) : Prop where
  traceId : readId d.traceId = readId c.traceId
  spanId : readId d.spanId = readId c.spanId
  sampled : d.isSampled = c.isSampled

lemma ids_of_headers {c : TraceContext} {hs : Entries String String} (h : headers c = .ok hs) :
    ∃ t s, readId c.traceId = .ok t ∧ readId c.spanId = .ok s := by
  obtain ⟨t, ht, h⟩ := bind_eq_ok.1 h
  obtain ⟨s, hs, -⟩ := bind_eq_ok.1 h
  exact ⟨t, s, ht, hs⟩

section Ids

variable {c : TraceContext} {t s : Int} (ht : readId c.traceId = .ok t)
  (hs : readId c.spanId = .ok s)

include ht hs

lemma parentText_of_ids : parentText c =
    .ok (if isTraceId t && isSpanId s then Traceparent.write t s c.flags else "") := by
  rw [parentText, headers_of_ids ht hs]
  split <;> rfl

lemma context?_write (hv : (isTraceId t && isSpanId s) = true) (h0 : 0 ≤ c.flags)
    (h1 : c.flags < 256) (state : Option String) :
    ∃ d, context? (Traceparent.write t s c.flags) state = some d ∧ SameIdentity c d := by
  rw [Bool.and_eq_true] at hv
  obtain ⟨n, rfl, hn⟩ := eq_nat_of_isTraceId hv.1
  obtain ⟨m, rfl, hm⟩ := eq_nat_of_isSpanId hv.2
  have hread := read?_write_nat hn hm c.flags
  rw [if_pos ⟨h0, h1⟩] at hread
  refine ⟨_, by rw [context?, hread, Option.map_some], ?_, ?_, ?_⟩
  · rw [ht, hn.readId_eq (by decide), value_write]
  · rw [hs, hm.readId_eq (by decide), value_write]
  · change decide ((if decide (c.flags % 2 = 1) = true then (1 : Int) else 0) % 2 = 1) = c.isSampled
    rw [TraceContext.isSampled]
    by_cases hf : c.flags % 2 = 1 <;> simp [hf]

lemma context?_write_of_not_byte (hv : (isTraceId t && isSpanId s) = true)
    (hf : ¬ (0 ≤ c.flags ∧ c.flags < 256)) (state : Option String) :
    context? (Traceparent.write t s c.flags) state = none := by
  rw [Bool.and_eq_true] at hv
  obtain ⟨n, rfl, hn⟩ := eq_nat_of_isTraceId hv.1
  obtain ⟨m, rfl, hm⟩ := eq_nat_of_isSpanId hv.2
  rw [context?, read?_write_nat hn hm, if_neg hf, Option.map_none]

end Ids

end Identity

open Identity

namespace Propagation

def Conveys (p : Propagation) (parent : Key) (c : TraceContext) (heap : Heap) : Prop :=
  ∃ d, p.injectInto c heap [] = (.ok (), d) ∧
    ((d.carrier = [] ∧ parentText c = .ok "") ∨
      ∃ text r c', Entries.at? d.carrier parent = some (some text) ∧ parentText c = .ok text ∧
        p.extractFrom d.carrier d.heap = .ok (r, d.heap) ∧ r.context = some c' ∧
        SameIdentity c c')

variable {key : KeyFactory} {c : TraceContext} {t s : Int}

lemma extractFrom_of_parent {carrier : Carrier} {text : String}
    (h : Entries.at? carrier (key parentName) = some (some text)) (heap : Heap) :
    ∃ state, (identity (.ofNames key Scheme.identityNames)).extractFrom carrier heap =
      .ok ({ context := context? text state }, heap) := by
  refine ⟨(Entries.at? carrier (key stateName)).join, ?_⟩
  rw [extractFrom_identity, identityFound_eq, h]
  rfl

lemma injectInto_of_valid (hk : key parentName ≠ .absent) (hd : key parentName ≠ key stateName)
    (ht : readId c.traceId = .ok t) (hs : readId c.spanId = .ok s)
    (hv : (isTraceId t && isSpanId s) = true) (heap : Heap) :
    ∃ carrier, (identity (.ofNames key Scheme.identityNames)).injectInto c heap [] =
        (.ok (), ⟨heap, carrier⟩) ∧
      Entries.at? carrier (key parentName) = some (some (Traceparent.write t s c.flags)) := by
  have hh := headers_of_ids ht hs
  rw [if_pos hv] at hh
  exact ⟨_, injectInto_identity hh _ heap [], at?_parent (Ne.symm hd) hk [] _ _⟩

lemma sent_ne_nil_iff (hk : key parentName ≠ .absent) (hd : key parentName ≠ key stateName)
    (c : TraceContext) (heap : Heap) :
    ((identity (.ofNames key Scheme.identityNames)).injectInto c heap []).2.carrier ≠ [] ↔
      ∃ t s, readId c.traceId = .ok t ∧ readId c.spanId = .ok s ∧ isTraceId t = true ∧
        isSpanId s = true := by
  constructor
  · intro hsent
    rw [injectInto_identity_eq, identitySent] at hsent
    cases hh : headers c with
    | error fault => exact absurd (by rw [hh]; rfl) hsent
    | ok hs =>
      obtain ⟨t, s, ht, hs⟩ := ids_of_headers hh
      by_cases hv : (isTraceId t && isSpanId s) = true
      · exact ⟨t, s, ht, hs, Bool.and_eq_true_iff.1 hv⟩
      · rw [headers_of_ids ht hs, if_neg hv] at hsent
        exact absurd rfl hsent
  · rintro ⟨t, s, ht, hs, hv⟩
    obtain ⟨carrier, hsent, hparent⟩ :=
      injectInto_of_valid hk hd ht hs (Bool.and_eq_true_iff.2 hv) heap
    rw [hsent]
    rintro rfl
    cases hparent

lemma ids_of_conveys {table : KeyTable} {parent : Key} {heap : Heap}
    (h : (identity table).Conveys parent c heap) :
    ∃ t s, readId c.traceId = .ok t ∧ readId c.spanId = .ok s := by
  obtain ⟨d, hsent, -⟩ := h
  rw [injectInto_identity_eq] at hsent
  cases hh : headers c with
  | ok hs => exact ids_of_headers hh
  | error fault =>
    rw [hh] at hsent
    cases hsent

lemma conveys_of_byte (hk : key parentName ≠ .absent) (hd : key parentName ≠ key stateName)
    (ht : readId c.traceId = .ok t) (hs : readId c.spanId = .ok s)
    (hv : (isTraceId t && isSpanId s) = true) (h0 : 0 ≤ c.flags) (h1 : c.flags < 256)
    (heap : Heap) :
    (identity (.ofNames key Scheme.identityNames)).Conveys (key parentName) c heap := by
  obtain ⟨carrier, hsent, hparent⟩ := injectInto_of_valid hk hd ht hs hv heap
  obtain ⟨state, hfound⟩ := extractFrom_of_parent hparent heap
  obtain ⟨c', hc, hsame⟩ := context?_write ht hs hv h0 h1 state
  have htext := parentText_of_ids ht hs
  rw [if_pos hv] at htext
  exact ⟨_, hsent, .inr ⟨_, _, c', hparent, htext, hfound, hc, hsame⟩⟩

lemma conveys_of_invalid (ht : readId c.traceId = .ok t) (hs : readId c.spanId = .ok s)
    (hv : ¬ (isTraceId t && isSpanId s) = true) (table : KeyTable) (parent : Key) (heap : Heap) :
    (identity table).Conveys parent c heap := by
  have hh := headers_of_ids ht hs
  have htext := parentText_of_ids ht hs
  rw [if_neg hv] at hh htext
  exact ⟨_, injectInto_identity hh table heap [], .inl ⟨rfl, htext⟩⟩

lemma not_conveys_of_not_byte (hk : key parentName ≠ .absent)
    (hd : key parentName ≠ key stateName) (ht : readId c.traceId = .ok t)
    (hs : readId c.spanId = .ok s) (hv : (isTraceId t && isSpanId s) = true)
    (hf : ¬ (0 ≤ c.flags ∧ c.flags < 256)) (heap : Heap) :
    ¬ (identity (.ofNames key Scheme.identityNames)).Conveys (key parentName) c heap := by
  rintro ⟨d, hsent', hconveyed⟩
  obtain ⟨carrier, hsent, hparent⟩ := injectInto_of_valid hk hd ht hs hv heap
  obtain rfl : d = ⟨heap, carrier⟩ := congrArg Prod.snd (hsent'.symm.trans hsent)
  rcases hconveyed with ⟨rfl, -⟩ | ⟨text, r, c', -, -, hextract, hr, -⟩
  · cases hparent
  · obtain ⟨state, hfound⟩ := extractFrom_of_parent hparent heap
    rw [context?_write_of_not_byte ht hs hv hf, hextract] at hfound
    cases hfound
    cases hr

/-- A context is conveyed exactly if its ids are numerals and, if both are in range, its flags are
one byte. Sending fails where the text of the header has a fault, and leaves something exactly if
both ids are in range. -/
theorem conveys_iff (hk : key parentName ≠ .absent) (hd : key parentName ≠ key stateName)
    (c : TraceContext) (heap : Heap) :
    ∃ p, Scheme.identity.create key = .ok p ∧
      (p.injectInto c heap []).1 = (parentText c).map (fun _ => ()) ∧
      ((p.injectInto c heap []).2.carrier ≠ [] ↔ ∃ t s, readId c.traceId = .ok t ∧
        readId c.spanId = .ok s ∧ isTraceId t = true ∧ isSpanId s = true) ∧
      (p.Conveys (key parentName) c heap ↔ ∃ t s, readId c.traceId = .ok t ∧
        readId c.spanId = .ok s ∧
        (isTraceId t = true → isSpanId s = true → 0 ≤ c.flags ∧ c.flags < 256)) := by
  refine ⟨_, rfl, ?fault, sent_ne_nil_iff hk hd c heap, ⟨?conveyed, ?byte⟩⟩
  case fault =>
    rw [injectInto_identity_eq, parentText]
    cases headers c <;> rfl
  case conveyed =>
    intro hconveyed
    obtain ⟨t, s, ht, hs⟩ := ids_of_conveys hconveyed
    refine ⟨t, s, ht, hs, fun rt rs => ?_⟩
    by_contra hf
    exact not_conveys_of_not_byte hk hd ht hs (Bool.and_eq_true_iff.2 ⟨rt, rs⟩) hf heap hconveyed
  case byte =>
    rintro ⟨t, s, ht, hs, hbyte⟩
    by_cases hv : (isTraceId t && isSpanId s) = true
    · obtain ⟨rt, rs⟩ := Bool.and_eq_true_iff.1 hv
      obtain ⟨h0, h1⟩ := hbyte rt rs
      exact conveys_of_byte hk hd ht hs hv h0 h1 heap
    · exact conveys_of_invalid ht hs hv _ _ heap

theorem conveys_iff_liberal_ids :
    let c : TraceContext := { traceId := some " 0x1_F ", spanId := some "+B7", flags := 3 }
    ∃ p, Scheme.identity.create .text = .ok p ∧ p.Conveys (.text "traceparent") c ⟨[], []⟩ ∧
      (p.injectInto c ⟨[], []⟩ []).2.carrier ≠ [] := by
  intro c
  have hk : Key.text parentName ≠ .absent := by decide
  have hd : Key.text parentName ≠ .text stateName := by decide
  have ht : readId c.traceId = .ok 31 := by rfl
  have hs : readId c.spanId = .ok 183 := by rfl
  obtain ⟨p, hp, -, hsent, hiff⟩ := conveys_iff hk hd c ⟨[], []⟩
  exact ⟨p, hp, hiff.2 ⟨31, 183, ht, hs, fun _ _ => by decide⟩,
    hsent.2 ⟨31, 183, ht, hs, by decide, by decide⟩⟩

theorem not_conveyed :
    let c : TraceContext := { traceId := some "xyz", spanId := some "b7ad6b7169203331" }
    let d : TraceContext := { traceId := some "1f", spanId := some "b7", flags := 256 }
    ∃ p, Scheme.identity.create .text = .ok p ∧
      parentText c = .error .numeral ∧ ¬ p.Conveys (.text "traceparent") c ⟨[], []⟩ ∧
      parentText d = .ok "00-0000000000000000000000000000001f-00000000000000b7-100" ∧
      ¬ p.Conveys (.text "traceparent") d ⟨[], []⟩ := by
  intro c d
  have hk : Key.text parentName ≠ .absent := by decide
  have hd : Key.text parentName ≠ .text stateName := by decide
  have ht : readId d.traceId = .ok 31 := by rfl
  have hs : readId d.spanId = .ok 183 := by rfl
  have hv : (isTraceId 31 && isSpanId 183) = true := by decide
  have hf : ¬ (0 ≤ d.flags ∧ d.flags < 256) := by decide
  have hc : parentText c = .error .numeral := by rfl
  refine ⟨_, rfl, hc, ?_, ?_, not_conveys_of_not_byte hk hd ht hs hv hf _⟩
  · rintro ⟨e, -, ⟨-, htext⟩ | ⟨text, r, c', -, htext, -⟩⟩
    · rw [hc] at htext
      cases htext
    · rw [hc] at htext
      cases htext
  · rw [parentText_of_ids ht hs, if_pos hv]
    congr 1
    decide +kernel

end Propagation

end TraceFields
