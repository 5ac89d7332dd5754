import Mathlib.Data.List.TakeWhile
import TraceFields.Identity.Headers
import TraceFields.Proofs.Hexadecimal

namespace TraceFields.Identity

open Numeral
open Traceparent (isLowerHex isZero hexField isOdd addition? readChars)

lemma readId_of_read? {s : String} {n : Int} (h : Hex.read? s = some n) :
    readId (some s) = .ok n := by
  have hs : s ≠ "" := by
    rintro rfl
    cases (rfl : Hex.read? "" = none).symm.trans h
  rw [readId, h]
  simpa using hs

structure IsId (width : Nat) (s : String) : Prop where
  length : s.toList.length = width
  lowerHex : s.toList.all isLowerHex = true
  nonzero : isZero s.toList = false

instance (width : Nat) (s : String) : Decidable (IsId width s) :=
  decidable_of_iff (s.toList.length = width ∧ s.toList.all isLowerHex = true ∧
    isZero s.toList = false)
    ⟨fun h => ⟨h.1, h.2.1, h.2.2⟩, fun h => ⟨h.1, h.2, h.3⟩⟩

namespace IsId

variable {width : Nat} {s : String}

lemma value_pos (h : IsId width s) : 0 < Hex.value s.toList := by
  refine Nat.pos_of_ne_zero fun hz => ?_
  rw [Hex.value_eq_zero_iff h.lowerHex, h.nonzero] at hz
  exact Bool.noConfusion hz

lemma value_lt (h : IsId width s) : Hex.value s.toList < 16 ^ width :=
  h.length ▸ Hex.value_lt h.lowerHex

lemma readId_eq (h : IsId width s) (hw : 0 < width) :
    readId (some s) = .ok (Hex.value s.toList : Nat) := by
  have hn : s.toList ≠ [] := fun hz => by
    have := h.length
    simp only [hz, List.length_nil] at this
    omega
  have hr := Hex.read?_lowerHex h.lowerHex hn
  rw [String.ofList_toList] at hr
  exact readId_of_read? hr

end IsId

section Parent

lemma hexField_append {width : Nat} {cs : List Char} (h : cs.all isLowerHex = true)
    (hl : cs.length = width) (rest : List Char) :
    hexField width (cs ++ rest) = some (cs, rest) := by
  subst hl
  simp only [hexField, List.take_left, List.drop_left, h, and_self, if_true]

lemma isOdd_eq {cs : List Char} (h : cs.all isLowerHex = true) :
    isOdd cs = decide (Hex.value cs % 2 = 1) := by
  rcases List.eq_nil_or_concat cs with rfl | ⟨ds, d, rfl⟩
  · rfl
  · simp only [isOdd, List.concat_eq_append, List.getLast?_append, List.getLast?_singleton,
      Option.some_or, Hex.value, Hex.valueFrom_append]
    simp only [Hex.valueFrom, List.foldl_cons, List.foldl_nil]
    congr 1
    rw [eq_iff_iff]
    omega

lemma isGap_lowerHex {c : Char} (h : isLowerHex c = true) : Text.isGap c = false ∧ c ≠ '\n' := by
  obtain ⟨n, hlt, -, rfl⟩ := Hex.digitValue?_of_lowerHex h
  have hs : ∀ n < 16, Text.isGap (Hex.digit n) = false ∧ Hex.digit n ≠ '\n' := by decide
  exact hs n hlt

lemma dropWhile_lowerHex {cs : List Char} (h : cs.all isLowerHex = true) (hn : cs ≠ [])
    (rest : List Char) : (cs ++ rest).dropWhile Text.isGap = cs ++ rest := by
  cases cs with
  | nil => exact absurd rfl hn
  | cons c cs =>
    simp only [List.all_cons, Bool.and_eq_true] at h
    simp [(isGap_lowerHex h.1).1]

lemma addition?_lowerHex {cs : List Char} (h : cs.all isLowerHex = true) (hn : cs ≠ []) :
    addition? cs = none := by
  have hall : ∀ c ∈ cs, isLowerHex c = true := List.all_eq_true.1 h
  have hend : Traceparent.dropLineEnd cs = cs := by
    rw [Traceparent.dropLineEnd, if_neg]
    intro hlast
    exact (isGap_lowerHex (hall _ (List.mem_of_getLast? hlast))).2 rfl
  rw [addition?, hend]
  cases cs with
  | nil => exact absurd rfl hn
  | cons c cs =>
    have hc := hall c (by simp)
    have hm : c ≠ '-' := (Hex.lowerHex_plain c hc).2.2.1
    split
    · next he => exact absurd (List.cons.inj he).1 hm
    · simp [(isGap_lowerHex hc).1]

lemma readChars_append {v t s : List Char} (hv : v.all isLowerHex = true)
    (ht : t.all isLowerHex = true) (hs : s.all isLowerHex = true)
    (lv : v.length = 2) (lt : t.length = 32) (ls : s.length = 16) (f : List Char) :
    readChars (v ++ '-' :: (t ++ '-' :: (s ++ '-' :: f))) =
      (hexField 2 f).bind fun p => (addition? p.2).bind fun addition =>
        if isZero t ∨ isZero s ∨ v = ['f', 'f'] ∨ (v = ['0', '0'] ∧ addition = true) then none
        else some ⟨String.ofList t, String.ofList s, isOdd p.1⟩ := by
  have hn : v ≠ [] := fun hz => by simp [hz] at lv
  rw [readChars, dropWhile_lowerHex hv hn]
  simp only [hexField_append hv lv, hexField_append ht lt, hexField_append hs ls,
    Traceparent.hyphen, Option.bind_eq_bind, Option.bind_some]

lemma readChars_fields {v t s f : List Char} (hv : v.all isLowerHex = true)
    (ht : t.all isLowerHex = true) (hs : s.all isLowerHex = true) (hf : f.all isLowerHex = true)
    (lv : v.length = 2) (lt : t.length = 32) (ls : s.length = 16) (lf : f.length = 2) :
    readChars (v ++ '-' :: (t ++ '-' :: (s ++ '-' :: f))) =
      if isZero t ∨ isZero s ∨ v = ['f', 'f'] then none
      else some ⟨String.ofList t, String.ofList s, isOdd f⟩ := by
  have hlast : hexField 2 f = some (f, []) := by simpa using hexField_append hf lf []
  have ha : addition? [] = some false := rfl
  rw [readChars_append hv ht hs lv lt ls, hlast, Option.bind_some, ha, Option.bind_some]
  simp only [Bool.false_eq_true, and_false, or_false]

lemma toList_write (t s f : Int) : (Traceparent.write t s f).toList =
    ['0', '0'] ++ '-' :: (Hex.chars 32 t ++ '-' :: (Hex.chars 16 s ++ '-' :: Hex.chars 2 f)) := by
  simp [Traceparent.write, Text.joined, Hex.write]

lemma Traceparent.write_ne_empty (t s f : Int) : Traceparent.write t s f ≠ "" := by
  intro he
  have hchars := congrArg String.toList he
  rw [toList_write] at hchars
  exact List.cons_ne_nil _ _ hchars

lemma read?_write {t s : String} (ht : IsId 32 t) (hs : IsId 16 s) {f : Int} (h0 : 0 ≤ f)
    (h1 : f < 256) :
    Traceparent.read? (Traceparent.write (Hex.value t.toList : Nat) (Hex.value s.toList : Nat) f) =
      some ⟨t, s, decide (f % 2 = 1)⟩ := by
  obtain ⟨n, rfl⟩ := Int.eq_ofNat_of_zero_le h0
  have hn : n < 16 ^ 2 := by omega
  have ct := Hex.chars_value ht.lowerHex (by rw [ht.length]; decide)
  have cs := Hex.chars_value hs.lowerHex (by rw [hs.length]; decide)
  rw [ht.length] at ct
  rw [hs.length] at cs
  have hl := toList_write (Hex.value t.toList : Nat) (Hex.value s.toList : Nat) n
  have lf : (Hex.chars 2 n).length = 2 := Hex.length_chars (by decide) hn
  rw [ct, cs] at hl
  have hlen : (Traceparent.write (Hex.value t.toList : Nat) (Hex.value s.toList : Nat)
      n).toList.length ≤ Traceparent.longest := by
    rw [hl]
    simp only [List.length_append, List.length_cons, List.length_nil, ht.length, hs.length, lf]
    decide
  have hodd : isOdd (Hex.chars 2 n) = decide ((n : Int) % 2 = 1) := by
    rw [isOdd_eq Hex.all_lowerHex_chars, Hex.value_chars]
    congr 1
    rw [eq_iff_iff]
    omega
  rw [Traceparent.read?, if_pos hlen, hl,
    readChars_fields (by decide) ht.lowerHex hs.lowerHex Hex.all_lowerHex_chars (by decide)
      ht.length hs.length lf]
  simp [ht.nonzero, hs.nonzero, String.ofList_toList, hodd]

lemma hexField_eq_some {width : Nat} {cs ds rest : List Char}
    (h : hexField width cs = some (ds, rest)) : ds.length = width ∧ ds.all isLowerHex = true := by
  rw [hexField] at h
  split at h
  · next hd =>
    cases h
    exact hd
  · cases h

lemma eq_append_of_hexField {width : Nat} {cs ds rest : List Char}
    (h : hexField width cs = some (ds, rest)) : cs = ds ++ rest := by
  rw [hexField] at h
  split at h
  · cases h
    exact (List.take_append_drop width cs).symm
  · cases h

lemma eq_cons_of_hyphen {cs rest : List Char} (h : Traceparent.hyphen cs = some rest) :
    cs = '-' :: rest := by
  unfold Traceparent.hyphen at h
  split at h
  · cases h
    rfl
  · cases h

structure Traceparent.Shows (header : List Char) (traceId spanId : String) (flags : List Char) :
    Prop where
  parts : ∃ gaps version rest, (∀ c ∈ gaps, Text.isGap c = true) ∧ version.length = 2 ∧
    version.all isLowerHex = true ∧ header = gaps ++ (version ++ '-' :: (traceId.toList ++
      '-' :: (spanId.toList ++ '-' :: (flags ++ rest))))
  traceId : IsId 32 traceId
  spanId : IsId 16 spanId
  flags_length : flags.length = 2
  flags_lowerHex : flags.all isLowerHex = true

lemma shows_of_readChars {cs : List Char} {p : Traceparent} (h : readChars cs = some p) :
    ∃ flags, Traceparent.Shows cs p.traceId p.spanId flags ∧ p.sampled = isOdd flags := by
  obtain ⟨⟨v, r₁⟩, hv, h⟩ := Option.bind_eq_some_iff.1 h
  obtain ⟨r₂, h₂, h⟩ := Option.bind_eq_some_iff.1 h
  obtain ⟨⟨t, r₃⟩, ht, h⟩ := Option.bind_eq_some_iff.1 h
  obtain ⟨r₄, h₄, h⟩ := Option.bind_eq_some_iff.1 h
  obtain ⟨⟨s, r₅⟩, hs, h⟩ := Option.bind_eq_some_iff.1 h
  obtain ⟨r₆, h₆, h⟩ := Option.bind_eq_some_iff.1 h
  obtain ⟨⟨f, r₇⟩, hf, h⟩ := Option.bind_eq_some_iff.1 h
  obtain ⟨addition, -, h⟩ := Option.bind_eq_some_iff.1 h
  split at h
  · cases h
  · next hz =>
    cases h
    obtain ⟨lv, av⟩ := hexField_eq_some hv
    obtain ⟨lt, at_⟩ := hexField_eq_some ht
    obtain ⟨ls, as_⟩ := hexField_eq_some hs
    obtain ⟨lf, af⟩ := hexField_eq_some hf
    simp only [not_or, Bool.not_eq_true] at hz
    have hcs : cs.dropWhile Text.isGap = v ++ '-' :: (t ++ '-' :: (s ++ '-' :: (f ++ r₇))) := by
      rw [eq_append_of_hexField hv, eq_cons_of_hyphen h₂, eq_append_of_hexField ht,
        eq_cons_of_hyphen h₄, eq_append_of_hexField hs, eq_cons_of_hyphen h₆,
        eq_append_of_hexField hf]
    refine ⟨f, ⟨⟨cs.takeWhile Text.isGap, v, r₇, ?_, lv, av, ?_⟩, ?_, ?_, lf, af⟩, rfl⟩
    · exact fun c => List.mem_takeWhile_imp
    · rw [String.toList_ofList, String.toList_ofList, ← hcs, List.takeWhile_append_dropWhile]
    · exact ⟨by rw [String.toList_ofList, lt], by rw [String.toList_ofList, at_],
        by rw [String.toList_ofList, hz.1]⟩
    · exact ⟨by rw [String.toList_ofList, ls], by rw [String.toList_ofList, as_],
        by rw [String.toList_ofList, hz.2.1]⟩

lemma shows_of_read? {header : String} {p : Traceparent} (h : Traceparent.read? header = some p) :
    ∃ flags, Traceparent.Shows header.toList p.traceId p.spanId flags ∧
      p.sampled = isOdd flags := by
  rw [Traceparent.read?] at h
  split at h
  · exact shows_of_readChars h
  · cases h

lemma isId_of_read? {header : String} {p : Traceparent} (h : Traceparent.read? header = some p) :
    IsId 32 p.traceId ∧ IsId 16 p.spanId := by
  obtain ⟨_, hshows, -⟩ := shows_of_read? h
  exact ⟨hshows.traceId, hshows.spanId⟩

end Parent

structure Canonical (c : TraceContext) (traceId spanId : String) : Prop where
  trace_eq : c.traceId = some traceId
  span_eq : c.spanId = some spanId
  trace : IsId 32 traceId
  span : IsId 16 spanId
  nonneg : 0 ≤ c.flags
  lt : c.flags < 256

def Tracestate.text? : Tracestate → Option String
  | [] => none
  | state => some state.render

def stateHeader (c : TraceContext) : Option String :=
  match sentState c with
  | [] => none
  | state => some state.render

lemma stateHeader_eq (c : TraceContext) : stateHeader c = (sentState c).text? := by
  unfold stateHeader Tracestate.text?
  cases sentState c <;> rfl

lemma headers_of_ids {c : TraceContext} {t s : Int} (ht : readId c.traceId = .ok t)
    (hs : readId c.spanId = .ok s) :
    headers c = .ok (if isTraceId t && isSpanId s then
      (parentName, Traceparent.write t s c.flags) :: (stateHeader c).toList.map (stateName, ·)
      else []) := by
  rw [headers, ht, hs]
  simp only [bind, Except.bind, stateHeader]
  split
  · cases sentState c <;> rfl
  · rfl

namespace Canonical

variable {c : TraceContext} {t s : String}

def parent (t s : String) (flags : Int) : String :=
  Traceparent.write (Hex.value t.toList : Nat) (Hex.value s.toList : Nat) flags

def arrival (t s : String) (sampled : Bool) (state : Option String) : TraceContext :=
  { traceId := some t, spanId := some s, flags := if sampled then 1 else 0, traceState := state }

section Ids

variable (ht : IsId 32 t) (hs : IsId 16 s)

include ht hs

lemma headers_of_isId (htrace : c.traceId = some t) (hspan : c.spanId = some s) :
    headers c = .ok ((parentName, parent t s c.flags) ::
    (stateHeader c).toList.map (stateName, ·)) := by
  have rt : isTraceId (Hex.value t.toList : Nat) = true := by
    have h0 := ht.value_pos
    have h1 := ht.value_lt
    simp only [isTraceId, Bool.and_eq_true, decide_eq_true_eq]
    exact ⟨by exact_mod_cast h0, by exact_mod_cast h1⟩
  have rs : isSpanId (Hex.value s.toList : Nat) = true := by
    have h0 := hs.value_pos
    have h1 := hs.value_lt
    simp only [isSpanId, Bool.and_eq_true, decide_eq_true_eq]
    exact ⟨by exact_mod_cast h0, by exact_mod_cast h1⟩
  have hreadt := ht.readId_eq (by decide)
  have hreads := hs.readId_eq (by decide)
  rw [← htrace] at hreadt
  rw [← hspan] at hreads
  rw [headers_of_ids hreadt hreads, rt, rs]
  rfl

lemma parent_eq (flags : Int) :
    parent t s flags = "00-" ++ t ++ "-" ++ s ++ "-" ++ Hex.write 2 flags := by
  have ct := Hex.chars_value ht.lowerHex (by rw [ht.length]; decide)
  have cs := Hex.chars_value hs.lowerHex (by rw [hs.length]; decide)
  rw [ht.length] at ct
  rw [hs.length] at cs
  apply String.toList_injective
  rw [parent, toList_write, ct, cs]
  simp [Hex.write]

end Ids

lemma headers_eq (h : Canonical c t s) : headers c = .ok ((parentName, parent t s c.flags) ::
    (stateHeader c).toList.map (stateName, ·)) :=
  headers_of_isId h.trace h.span h.trace_eq h.span_eq

lemma context?_eq (header : String) (state : Option String) : context? header state =
    (Traceparent.read? header).map fun p =>
      arrival p.traceId p.spanId p.sampled (Tracestate.ofHeader (state.getD "")).text? := by
  unfold context? Tracestate.text?
  cases Tracestate.ofHeader (state.getD "") <;> rfl

lemma context?_parent (h : Canonical c t s) (state : Option String) :
    context? (parent t s c.flags) state =
      some (arrival t s c.isSampled (Tracestate.ofHeader (state.getD "")).text?) := by
  rw [context?_eq, parent, read?_write h.trace h.span h.nonneg h.lt, Option.map_some]
  rfl

lemma traceState_arrival (t s : String) (sampled : Bool) (state : Option String) :
    (arrival t s sampled state).traceState = state := rfl

lemma isSampled_arrival (t s : String) (sampled : Bool) (state : Option String) :
    (arrival t s sampled state).isSampled = sampled := by
  change decide ((if sampled = true then (1 : Int) else 0) % 2 = 1) = sampled
  cases sampled <;> rfl

lemma canonical_arrival (ht : IsId 32 t) (hs : IsId 16 s) (sampled : Bool)
    (state : Option String) : Canonical (arrival t s sampled state) t s := by
  refine ⟨rfl, rfl, ht, hs, ?_, ?_⟩
  · change 0 ≤ if sampled = true then (1 : Int) else 0
    split <;> omega
  · change (if sampled = true then (1 : Int) else 0) < 256
    split <;> omega

lemma arrival_append (h : Canonical c t s) (sampled : Bool) (state : Option String)
    (e : Extension) : Canonical ((arrival t s sampled state).append e) t s := by
  have ha := canonical_arrival h.trace h.span sampled state
  exact ⟨rfl, rfl, ha.trace, ha.span, ha.nonneg, ha.lt⟩

lemma canonical_of_context? {header : String} {state : Option String}
    (h : context? header state = some c) :
    c.traceState = (Tracestate.ofHeader (state.getD "")).text? ∧ ∃ t s, Canonical c t s := by
  rw [context?_eq] at h
  obtain ⟨p, hp, rfl⟩ := Option.map_eq_some_iff.1 h
  obtain ⟨ht, hs⟩ := isId_of_read? hp
  exact ⟨rfl, _, _, canonical_arrival ht hs _ _⟩

end Canonical

end TraceFields.Identity
