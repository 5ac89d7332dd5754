import Mathlib.Data.List.Nodup
import TraceFields.Proofs.Carriage
import TraceFields.Proofs.IdentityHeaders
import TraceFields.Proofs.StateMembers

/-!
The state header of contexts that are sent on.
-/

namespace TraceFields

open KeyTable (ofNames)

namespace Identity

namespace Tracestate

lemma getD_text? (es : Tracestate) : es.text?.getD "" = es.render := by
  cases es <;> rfl

lemma text?_eq_none_iff {es : Tracestate} : es.text? = none ↔ es = [] := by
  cases es with
  | nil => simp [text?]
  | cons e es => simp [text?]

lemma render_of_text? {es : Tracestate} {s : String} (h : es.text? = some s) : es.render = s := by
  rw [← getD_text?, h, Option.getD_some]

lemma WellFormed.text?_inj {es fs : Tracestate} (he : WellFormed es) (hf : WellFormed fs)
    (h : es.text? = fs.text?) : es = fs := by
  by_cases hne : es = []
  · have hnf : fs.text? = none := h ▸ text?_eq_none_iff.2 hne
    rw [hne, text?_eq_none_iff.1 hnf]
  · have hnf : fs ≠ [] := fun hz => hne (text?_eq_none_iff.1 (h.trans (text?_eq_none_iff.2 hz)))
    obtain ⟨s, hs⟩ := Option.ne_none_iff_exists'.1 (mt text?_eq_none_iff.1 hnf)
    have hread := he.strictMembers?_render hne
    rw [render_of_text? (h.trans hs), ← render_of_text? hs, hf.strictMembers?_render hnf] at hread
    exact (Option.some.inj hread).symm

end Tracestate

open Tracestate (WellFormed)

variable {c : TraceContext}

def keptState (c : TraceContext) : Tracestate :=
  let pairs := Tracestate.parse (c.traceState.getD "")
  if pairs.length ≤ Tracestate.mostMembers then pairs.filter Tracestate.isMember else []

lemma sentState_eq (c : TraceContext) : sentState c = keptState c := rfl

lemma wellFormed_keptState (c : TraceContext) : WellFormed (keptState c) :=
  Tracestate.wellFormed_forwarded (Tracestate.nodup_parse _)

lemma map_unpadded_keptState (c : TraceContext) :
    (keptState c).map Tracestate.unpadded = keptState c :=
  Tracestate.map_unpadded_forwarded _

lemma keptState_of_text? {es : Tracestate} (h : WellFormed es) (hc : c.traceState = es.text?) :
    keptState c = es.map Tracestate.unpadded := by
  rw [← sentState_eq, sentState, hc, Tracestate.getD_text?, h.parse_render]
  exact h.map_unpadded.forwarded_eq

def arrivingState (c : TraceContext) : Tracestate :=
  if (keptState c).render.toList.length ≤ Tracestate.longest then keptState c else []

lemma ofHeader_stateHeader (c : TraceContext) :
    Tracestate.ofHeader ((stateHeader c).getD "") = arrivingState c := by
  rw [stateHeader_eq, Tracestate.getD_text?, sentState_eq,
    (wellFormed_keptState c).ofHeader_render, arrivingState]

lemma arrivingState_cases (c : TraceContext) :
    (arrivingState c = keptState c ∧ (keptState c).render.toList.length ≤ Tracestate.longest) ∨
      arrivingState c = [] := by
  unfold arrivingState
  split
  · next hfits => exact Or.inl ⟨rfl, hfits⟩
  · exact Or.inr rfl

lemma arrivingState_of_text? {d : TraceContext} (hd : d.traceState = (arrivingState c).text?) :
    arrivingState d = arrivingState c := by
  rcases arrivingState_cases c with ⟨ha, hfits⟩ | ha <;> rw [ha] at hd ⊢
  · have hkept : keptState d = keptState c :=
      (keptState_of_text? (wellFormed_keptState c) hd).trans (map_unpadded_keptState c)
    rw [arrivingState, hkept, if_pos hfits]
  · have hkept : keptState d = [] := keptState_of_text? Tracestate.wellFormed_nil hd
    rw [arrivingState, hkept]
    rfl

end Identity

namespace Propagation

open Identity

def carry (p : Propagation) (c : TraceContext) (heap : Heap) : Except Fault (Extraction × Heap) := do
  let (result, d) := p.injectInto c heap []
  result
  p.extractFrom d.carrier d.heap

lemma context?_of_identityFound {table : KeyTable} {carrier : Carrier} {c : TraceContext}
    (h : (identityFound table carrier).context = some c) :
    ∃ parent, context? parent (Entries.at? (table.found carrier) stateName) = some c := by
  unfold identityFound at h
  split at h
  · next d hd =>
    cases h
    unfold ofHeaders? at hd
    split at hd
    · cases hd
    · exact ⟨_, hd⟩
  · cases h

variable {key : KeyFactory}

theorem state_forwarded_iff (hs : key stateName ≠ .absent) (hd : key parentName ≠ key stateName)
    (carrier : Carrier) (heap : Heap) :
    ∃ p, Scheme.identity.create key = .ok p ∧
      ∀ r heap' c, p.extractFrom carrier heap = .ok (r, heap') → r.context = some c →
        ∃ received sent,
          received = Tracestate.ofHeader ((Entries.at? carrier (key stateName)).join.getD "") ∧
          c.traceState = received.text? ∧
          p.injectInto c heap' [] = (.ok (), ⟨heap', sent⟩) ∧
          Entries.at? sent (key stateName) =
            (Tracestate.text? (received.map Tracestate.unpadded)).map some ∧
          (Entries.at? sent (key stateName) = c.traceState.map some ↔
            ∀ e ∈ received, e.2.toList.head? ≠ some ' ') := by
  refine ⟨_, rfl, fun r heap' c hextract hr => ?_⟩
  rw [extractFrom_identity] at hextract
  cases hextract
  obtain ⟨parent, hparent⟩ := context?_of_identityFound hr
  rw [KeyTable.at?_found, if_pos (by decide)] at hparent
  obtain ⟨hstate, t, s, hc⟩ := Canonical.canonical_of_context? hparent
  set received := Tracestate.ofHeader ((Entries.at? carrier (key stateName)).join.getD "")
  have hw : received.WellFormed := Tracestate.wellFormed_ofHeader _
  have hsent := injectInto_identity hc.headers_eq (ofNames key Scheme.identityNames) heap []
  have hat := at?_state hd.symm hs [] (Canonical.parent t s c.flags) (stateHeader c)
  rw [stateHeader_eq, sentState_eq, keptState_of_text? hw hstate, Entries.at?_nil,
    Option.or_none] at hat
  refine ⟨received, _, rfl, hstate, hsent, ?_, ?_⟩
  · rw [stateHeader_eq, sentState_eq, keptState_of_text? hw hstate]
    exact hat
  · rw [stateHeader_eq, sentState_eq, keptState_of_text? hw hstate, hat, hstate,
      ← hw.map_unpadded_eq_self_iff]
    constructor
    · intro he
      exact hw.map_unpadded.text?_inj hw (Option.map_injective (Option.some_injective _) he)
    · intro he
      rw [he]

def sampledWith (state : String) : TraceContext :=
  { traceId := some "0af7651916cd43dd8448eb211c80319c", spanId := some "b7ad6b7169203331"
    traceState := some state }

def carrierWith (state : String) : Carrier :=
  [(.text "traceparent", some "00-0af7651916cd43dd8448eb211c80319c-b7ad6b7169203331-01"),
    (.text "tracestate", some state)]

lemma canonical_sampledWith (state : String) : Canonical (sampledWith state)
    "0af7651916cd43dd8448eb211c80319c" "b7ad6b7169203331" :=
  ⟨rfl, rfl, by decide, by decide, Int.zero_le_ofNat 1, (by decide : (1 : Int) < 256)⟩

lemma text_names : Key.text parentName ≠ .absent ∧ Key.text stateName ≠ .absent ∧
    Key.text parentName ≠ .text stateName := by decide

theorem state_forwarded_iff_two_members :
    let carrier := carrierWith "\tb=2 , a@x= 1"
    let c := sampledWith "b=2,a@x= 1"
    ∃ p sent, Scheme.identity.create .text = .ok p ∧
      p.extractFrom carrier ⟨[], []⟩ = .ok ({ context := some c }, ⟨[], []⟩) ∧
      p.injectInto c ⟨[], []⟩ [] = (.ok (), ⟨⟨[], []⟩, sent⟩) ∧
      Entries.at? sent (.text "tracestate") = some (some "b=2,a@x=1") := by
  intro carrier c
  obtain ⟨-, hs, hd⟩ := text_names
  obtain ⟨p, hp, hforwarded⟩ := state_forwarded_iff hs hd carrier ⟨[], []⟩
  cases hp
  have hfound : identityFound (ofNames .text Scheme.identityNames) carrier =
      { context := some c } := by decide +kernel
  have hextract := extractFrom_identity (ofNames .text Scheme.identityNames) carrier ⟨[], []⟩
  rw [hfound] at hextract
  obtain ⟨_, sent, rfl, hstate, hsent, hat, -⟩ := hforwarded _ _ c hextract rfl
  refine ⟨_, sent, rfl, hextract, hsent, ?_⟩
  change Entries.at? sent (.text stateName) = _
  rw [hat]
  decide +kernel

theorem blank_before_value_dropped :
    let carrier := carrierWith "a= 1"
    let c := sampledWith "a= 1"
    ∃ p sent, Scheme.identity.create .text = .ok p ∧
      p.extractFrom carrier ⟨[], []⟩ = .ok ({ context := some c }, ⟨[], []⟩) ∧
      p.injectInto c ⟨[], []⟩ [] = (.ok (), ⟨⟨[], []⟩, sent⟩) ∧
      Entries.at? sent (.text "tracestate") = some (some "a=1") := by
  intro carrier c
  have hfound : identityFound (ofNames .text Scheme.identityNames) carrier =
      { context := some c } := by decide +kernel
  have hextract := extractFrom_identity (ofNames .text Scheme.identityNames) carrier ⟨[], []⟩
  rw [hfound] at hextract
  have hstate : stateHeader c = some "a=1" := by decide +kernel
  refine ⟨_, _, rfl, hextract, injectInto_identity (canonical_sampledWith _).headers_eq _ _ _, ?_⟩
  obtain ⟨-, hs, hd⟩ := text_names
  have hat := at?_state hd.symm hs [] (Canonical.parent "0af7651916cd43dd8448eb211c80319c"
    "b7ad6b7169203331" c.flags) (stateHeader c)
  rw [hstate] at hat ⊢
  exact hat

section Carry

variable (hp : key parentName ≠ .absent) (hs : key stateName ≠ .absent)
  (hd : key parentName ≠ key stateName) {c : TraceContext} {t s : String}

include hp hs hd

lemma carry_eq (hc : Canonical c t s) (heap : Heap) :
    (identity (ofNames key Scheme.identityNames)).carry c heap =
      .ok ({ context := some (Canonical.arrival t s c.isSampled (arrivingState c).text?) }, heap) := by
  have hsent := injectInto_identity hc.headers_eq (ofNames key Scheme.identityNames) heap []
  rw [carry, hsent]
  simp only [bind, Except.bind]
  rw [extractFrom_identity, identityFound_eq, at?_parent hd.symm hp, at?_state hd.symm hs,
    Entries.at?_nil, Option.or_none]
  have hjoin : ((stateHeader c).map some).join = stateHeader c := by cases stateHeader c <;> rfl
  rw [hjoin, Option.join_some, Option.bind_some, hc.context?_parent, ofHeader_stateHeader]

theorem state_settles (hc : Canonical c t s) (heap : Heap) :
    ∃ p d, Scheme.identity.create key = .ok p ∧
      p.carry c heap = .ok ({ context := some d }, heap) ∧
      d.traceState = (if (keptState c).render.toList.length ≤ Tracestate.longest
        then (keptState c).text? else none) ∧
      p.carry d heap = .ok ({ context := some d }, heap) := by
  let d := Canonical.arrival t s c.isSampled (arrivingState c).text?
  have htext : d.traceState = (arrivingState c).text? := Canonical.traceState_arrival t s _ _
  have hstate : arrivingState d = arrivingState c := arrivingState_of_text? htext
  have hsampled : d.isSampled = c.isSampled := Canonical.isSampled_arrival t s c.isSampled _
  have hagain := carry_eq hp hs hd (Canonical.canonical_arrival hc.trace hc.span _ _ :
    Canonical d t s) heap
  rw [hstate, hsampled] at hagain
  refine ⟨_, d, rfl, carry_eq hp hs hd hc heap, ?_, hagain⟩
  rw [htext, arrivingState]
  split <;> rfl

end Carry

theorem state_settles_mixed :
    let c := sampledWith "Vendor = x, 9=1, b= 2 ,vendor=y"
    ∃ p d, Scheme.identity.create .text = .ok p ∧
      p.carry c ⟨[], []⟩ = .ok ({ context := some d }, ⟨[], []⟩) ∧
      d.traceState = some "vendor=y,b=2" ∧
      p.carry d ⟨[], []⟩ = .ok ({ context := some d }, ⟨[], []⟩) := by
  intro c
  obtain ⟨hp, hs, hd⟩ := text_names
  obtain ⟨p, d, hcreate, hcarry, hstate, hagain⟩ :=
    state_settles hp hs hd (canonical_sampledWith _) ⟨[], []⟩
  refine ⟨p, d, hcreate, hcarry, ?_, hagain⟩
  rw [hstate]
  decide +kernel

def uniformState (count width : Nat) : Tracestate := (List.range count).map fun n =>
  (String.ofList (List.replicate (n + 1) 'k'), String.ofList (List.replicate width 'v'))

section Uniform

variable {count width : Nat}

lemma length_uniformState : (uniformState count width).length = count := by
  rw [uniformState, List.length_map, List.length_range]

lemma isMember_uniformState (hc : count ≤ 256) (hw : 0 < width) (hl : width ≤ 256) :
    ∀ e ∈ uniformState count width, Tracestate.isMember e = true := by
  intro e he
  obtain ⟨n, hn, rfl⟩ := List.mem_map.1 he
  have hat : '@' ∉ List.replicate (n + 1) 'k' := fun hm => by
    cases (List.mem_replicate.1 hm).2
  have hkey : Tracestate.isKeyChar 'k' = true := by decide
  have halpha : Tracestate.isLowerAlpha 'k' = true := by decide
  have hvalue : Tracestate.isValueChar 'v' = true := by decide
  have hlast : (List.replicate width 'v').getLast? = some 'v' := by
    rw [List.getLast?_replicate, if_neg (by omega)]
  rw [List.mem_range] at hn
  rw [Tracestate.isMember, String.toList_ofList, String.toList_ofList, Bool.and_eq_true]
  constructor
  · rw [Tracestate.isKey, Text.cut?_of_not_mem hat]
    simp only [List.replicate_succ, Tracestate.isWord, halpha, List.all_replicate, hkey, ite_self,
      Bool.and_self, Bool.true_and, List.length_replicate, decide_eq_true_eq]
    omega
  · rw [Tracestate.isValue, hlast]
    simp only [List.all_replicate, hvalue, ite_self, List.length_replicate, Bool.true_and,
      Bool.and_eq_true, decide_eq_true_eq]
    exact ⟨hl, by decide⟩

lemma wellFormed_uniformState (hc : count ≤ 32) (hw : 0 < width) (hl : width ≤ 256) :
    (uniformState count width).WellFormed := by
  refine ⟨?_, isMember_uniformState (by omega) hw hl, length_uniformState.trans_le hc⟩
  rw [uniformState, Entries.keys, List.map_map]
  apply List.nodup_range.map
  intro m n he
  have hlength := congrArg (fun s => s.toList.length) he
  simpa using hlength

lemma le_length_uniformState :
    count * (width + 2) ≤ (uniformState count width).render.toList.length := by
  have hlength : ∀ s ∈ (uniformState count width).map Tracestate.memberText,
      width + 2 ≤ s.toList.length := by
    intro s hs
    obtain ⟨e, he, rfl⟩ := List.mem_map.1 hs
    obtain ⟨n, -, rfl⟩ := List.mem_map.1 he
    rw [Tracestate.toList_memberText, String.toList_ofList, String.toList_ofList,
      List.length_append, List.length_cons, List.length_replicate, List.length_replicate]
    omega
  have hh := Text.le_length_joined "," hlength
  rwa [List.length_map, length_uniformState] at hh

end Uniform

theorem long_state_dropped :
    let c := sampledWith (uniformState 32 256).render
    keptState c = uniformState 32 256 ∧ (uniformState 32 256).length = 32 ∧
    ∃ p d, Scheme.identity.create .text = .ok p ∧
      p.carry c ⟨[], []⟩ = .ok ({ context := some d }, ⟨[], []⟩) ∧ d.traceState = none := by
  intro c
  have hw : (uniformState 32 256).WellFormed :=
    wellFormed_uniformState (by decide) (by decide) (by decide)
  have hkept : keptState c = uniformState 32 256 := by
    rw [keptState_of_text? hw rfl, hw.map_unpadded_eq_self_iff]
    intro e he
    obtain ⟨n, -, rfl⟩ := List.mem_map.1 he
    rw [String.toList_ofList, List.head?_replicate]
    decide
  have hlong : ¬ (uniformState 32 256).render.toList.length ≤ Tracestate.longest := by
    have hlength : 32 * (256 + 2) ≤ (uniformState 32 256).render.toList.length :=
      le_length_uniformState
    rw [Tracestate.longest]
    omega
  obtain ⟨hp, hs, hd⟩ := text_names
  have hc : Canonical c _ _ := canonical_sampledWith (uniformState 32 256).render
  have hcarry := carry_eq hp hs hd hc ⟨[], []⟩
  rw [arrivingState, hkept, if_neg hlong] at hcarry
  exact ⟨hkept, length_uniformState, _, _, rfl, hcarry, rfl⟩

end Propagation

end TraceFields
