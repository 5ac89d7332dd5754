import TraceFields.Proofs.HeaderTexts
import TraceFields.Proofs.StateHeader

namespace TraceFields.Identity

open Numeral
open Traceparent (Shows)

namespace Tracestate

lemma render_ne_empty {es : Tracestate} (h : es ≠ []) : es.render ≠ "" := by
  intro hr
  have hmember : ∀ s ∈ es.map memberText, 1 ≤ s.toList.length := by
    intro s hs
    obtain ⟨e, -, rfl⟩ := List.mem_map.1 hs
    rw [toList_memberText, List.length_append, List.length_cons]
    omega
  have hlength := Text.le_length_joined "," hmember
  rw [← render_eq, hr, List.length_map, Nat.mul_one] at hlength
  exact h (List.length_eq_zero_iff.1 (Nat.le_zero.1 hlength))

lemma text?_ne_empty (es : Tracestate) : es.text? ≠ some "" := by
  cases es with
  | nil => exact nofun
  | cons e es => exact fun h => render_ne_empty (List.cons_ne_nil e es) (Option.some.inj h)

end Tracestate

namespace Canonical

variable {c : TraceContext} {t s : String}

lemma parentText_eq (h : Canonical c t s) : parentText c = .ok (parent t s c.flags) := by
  rw [parentText, h.headers_eq]
  rfl

lemma flags_arrival (t s : String) {flags : List Char}
    (h : flags.all Traceparent.isLowerHex = true) (state : Option String) :
    (arrival t s (Traceparent.isOdd flags) state).flags = (Hex.value flags % 2 : Nat) := by
  change (if Traceparent.isOdd flags = true then (1 : Int) else 0) = _
  rw [isOdd_eq h]
  rcases Nat.mod_two_eq_zero_or_one (Hex.value flags) with hz | ho
  · rw [hz]
    rfl
  · rw [ho]
    rfl

lemma parent_arrival (ht : IsId 32 t) (hs : IsId 16 s) (sampled : Bool) (state : Option String) :
    parent t s (arrival t s sampled state).flags =
      "00-" ++ t ++ "-" ++ s ++ "-0" ++ if sampled then "1" else "0" := by
  rw [parent_eq ht hs]
  cases sampled <;> apply String.toList_injective <;>
    simp [arrival, Hex.write, Hex.chars, Hex.digits, Hex.pad, Hex.digit]

lemma ofTexts?_parent (h : Canonical c t s) :
    ofTexts? (some (parent t s c.flags)) none = some (arrival t s c.isSampled none) := by
  rw [ofTexts?_eq_bind, Option.bind_some, h.context?_parent]
  rfl

end Canonical

theorem parent_retracts {header : String} {state : Option String} {c : TraceContext}
    (h : ofTexts? (some header) state = some c) :
    ∃ t s flags text, Shows header.toList t s flags ∧ c.traceId = some t ∧ c.spanId = some s ∧
      c.flags = (Hex.value flags % 2 : Nat) ∧ (c.flags = 0 ∨ c.flags = 1) ∧ c.parentId = none ∧
      c.extensions = [] ∧ c.traceState ≠ some "" ∧
      text = "00-" ++ t ++ "-" ++ s ++ "-0" ++ (if c.flags = 1 then "1" else "0") ∧
      parentText c = .ok text ∧ ofTexts? (some text) none = some { c with traceState := none } ∧
      parentText { c with traceState := none } = .ok text := by
  rw [ofTexts?_eq_bind, Option.bind_some, Canonical.context?_eq] at h
  obtain ⟨p, hp, rfl⟩ := Option.map_eq_some_iff.1 h
  obtain ⟨flags, hshows, hsampled⟩ := shows_of_read? hp
  obtain ⟨t, s, sampled⟩ := p
  obtain rfl : sampled = Traceparent.isOdd flags := hsampled
  set state' := (Tracestate.ofHeader (state.getD "")).text?
  have ht : IsId 32 t := hshows.traceId
  have hs : IsId 16 s := hshows.spanId
  have hc := Canonical.canonical_arrival ht hs (Traceparent.isOdd flags) state'
  have hbare := Canonical.canonical_arrival ht hs (Traceparent.isOdd flags) none
  have hflags := Canonical.flags_arrival t s hshows.flags_lowerHex state'
  refine ⟨t, s, flags, _, hshows, rfl, rfl, hflags, ?_, rfl, rfl, Tracestate.text?_ne_empty _, ?_,
    hc.parentText_eq, ?_, hbare.parentText_eq⟩
  · rw [hflags]
    omega
  · rw [Canonical.parent_arrival ht hs]
    cases Traceparent.isOdd flags <;> rfl
  · rw [hc.ofTexts?_parent, Canonical.isSampled_arrival]
    rfl

theorem parent_retracts_future_version :
    let header := " \tcc-0af7651916cd43dd8448eb211c80319c-b7ad6b7169203331-0b-more\n"
    let text := "00-0af7651916cd43dd8448eb211c80319c-b7ad6b7169203331-01"
    ∃ c, ofTexts? (some header) (some "a=1,b= 2") = some c ∧ c.traceState = some "a=1,b= 2" ∧
      parentText c = .ok text ∧ ofTexts? (some text) none = some { c with traceState := none } ∧
      parentText { c with traceState := none } = .ok text := by
  intro header text
  have h : ofTexts? (some header) (some "a=1,b= 2") =
      some (Canonical.arrival "0af7651916cd43dd8448eb211c80319c" "b7ad6b7169203331" true
        (some "a=1,b= 2")) := by decide +kernel
  obtain ⟨t, s, flags, text', -, ht, hs, -, -, -, -, -, htext, hsent, hread, hagain⟩ :=
    parent_retracts h
  cases ht
  cases hs
  obtain rfl : text' = text := htext.trans (by decide +kernel)
  exact ⟨_, h, rfl, hsent, hread, hagain⟩

end TraceFields.Identity
