import TraceFields.Proofs.ParentHeader

namespace TraceFields

open Identity
open KeyTable (ofNames)

def Carrier.ofTexts (key : KeyFactory) (parent state : Option String) : Carrier :=
  parent.toList.map (key parentName, some ·) ++ state.toList.map (key stateName, some ·)

namespace Identity

lemma ofTexts?_eq_bind (parent state : Option String) :
    ofTexts? parent state = parent.bind (context? · state) := by
  have hempty : ∀ state, context? "" state = none := fun _ => rfl
  have hstate : (state.filter (· ≠ "")).getD "" = state.getD "" := by
    cases state with
    | none => rfl
    | some state =>
      rw [Option.filter_some]
      by_cases h : state = "" <;> simp [h]
  cases parent with
  | none => rfl
  | some parent =>
    rw [ofTexts?, Option.bind_some, Option.filter_some]
    split
    · rw [Option.bind_some, context?, context?, hstate]
    · next h =>
      obtain rfl : parent = "" := by simpa using h
      rw [Option.bind_none, hempty]

lemma parentText_eq_ok {c : TraceContext} {text : String} (h : parentText c = .ok text) :
    headers c = .ok (if text = "" then [] else
      (parentName, text) :: (stateHeader c).toList.map (stateName, ·)) := by
  obtain ⟨hs, hheaders, -⟩ := bind_eq_ok.1 h
  obtain ⟨t, s, ht, hs⟩ := ids_of_headers hheaders
  rw [parentText_of_ids ht hs, Except.ok.injEq] at h
  rw [headers_of_ids ht hs, ← h]
  split
  · rw [if_neg (Traceparent.write_ne_empty t s c.flags)]
  · rfl

lemma headers_eq_error {c : TraceContext} {fault : Fault} (h : parentText c = .error fault) :
    headers c = .error fault := by
  rw [parentText] at h
  cases hheaders : headers c with
  | error other =>
    rw [hheaders] at h
    exact congrArg _ (Except.error.inj h)
  | ok hs =>
    rw [hheaders] at h
    cases h

end Identity

namespace Carrier

variable {key : KeyFactory} (hd : key parentName ≠ key stateName) (parent state : Option String)

include hd

lemma at?_parent_ofTexts :
    (Entries.at? (ofTexts key parent state) (key parentName)).join = parent := by
  cases parent <;> cases state <;> simp [ofTexts, Entries.at?, hd.symm]

lemma at?_state_ofTexts :
    (Entries.at? (ofTexts key parent state) (key stateName)).join = state := by
  cases parent <;> cases state <;> simp [ofTexts, Entries.at?, hd]

lemma nodup_ofTexts : (Entries.keys (ofTexts key parent state)).Nodup := by
  cases parent <;> cases state <;> simp [ofTexts, Entries.keys, hd]

end Carrier

namespace Propagation

variable {key : KeyFactory}

lemma addressed_headers (hp : key parentName ≠ .absent) (hs : key stateName ≠ .absent)
    (parent : String) (state : Option String) :
    (ofNames key Scheme.identityNames).addressed
      (((parentName, parent) :: state.toList.map (stateName, ·)).map fun e => (e.1, some e.2)) =
        Carrier.ofTexts key (some parent) state := by
  have hparent : (ofNames key Scheme.identityNames).key? parentName = some (key parentName) :=
    KeyTable.key?_eq_some.2 ⟨by decide, rfl, hp⟩
  have hstate : (ofNames key Scheme.identityNames).key? stateName = some (key stateName) :=
    KeyTable.key?_eq_some.2 ⟨by decide, rfl, hs⟩
  cases state <;> simp [KeyTable.addressed, Carrier.ofTexts, hparent, hstate]

lemma injectInto_of_text (hp : key parentName ≠ .absent) (hs : key stateName ≠ .absent)
    (hd : key parentName ≠ key stateName) {c : TraceContext} {text : String}
    (h : parentText c = .ok text) (heap : Heap) :
    (identity (ofNames key Scheme.identityNames)).injectInto c heap [] =
      (.ok (), ⟨heap, if text = "" then [] else .ofTexts key (some text) (stateHeader c)⟩) := by
  rw [injectInto_identity (parentText_eq_ok h)]
  split
  · rfl
  · have hcarrier : Entries.putAll [] (Carrier.ofTexts key (some text) (stateHeader c)) = _ :=
      Entries.ofPairs_of_nodup (Carrier.nodup_ofTexts hd _ _)
    rw [addressed_headers hp hs, hcarrier]

theorem texts_match_carriers {key : KeyFactory} (hp : key parentName ≠ .absent)
    (hs : key stateName ≠ .absent) (hd : key parentName ≠ key stateName) :
    ∃ p, Scheme.identity.create key = .ok p ∧
      (∀ parent state heap, p.extractFrom (.ofTexts key parent state) heap =
        .ok ({ context := ofTexts? parent state }, heap)) ∧
      ∀ c heap,
        (∀ fault, parentText c = .error fault →
          p.injectInto c heap [] = (.error fault, ⟨heap, []⟩)) ∧
        (∀ text, parentText c = .ok text → p.injectInto c heap [] =
          (.ok (), ⟨heap, if text = "" then [] else .ofTexts key (some text) (stateHeader c)⟩)) ∧
        ∀ value, (key stateName, value) ∈ (p.injectInto c heap []).2.carrier →
          ∃ text ≠ "", parentText c = .ok text ∧
            (key parentName, some text) ∈ (p.injectInto c heap []).2.carrier := by
  refine ⟨_, rfl, fun parent state heap => ?_, fun c heap => ⟨?_, ?_, ?_⟩⟩
  · rw [extractFrom_identity, identityFound_eq, Carrier.at?_parent_ofTexts hd,
      Carrier.at?_state_ofTexts hd, ofTexts?_eq_bind]
  · intro fault h
    rw [injectInto_identity_eq, identitySent, headers_eq_error h]
    rfl
  · exact fun text h => injectInto_of_text hp hs hd h heap
  · intro value hmem
    cases h : parentText c with
    | error fault =>
      rw [injectInto_identity_eq, identitySent, headers_eq_error h] at hmem
      cases hmem
    | ok text =>
      rw [injectInto_of_text hp hs hd h] at hmem ⊢
      split at hmem
      · cases hmem
      · next hne =>
        rw [if_neg hne]
        exact ⟨text, hne, rfl, List.mem_cons_self⟩

theorem texts_match_carriers_paired_keys :
    let key : KeyFactory := fun n => .parts ["header", n]
    let c : TraceContext :=
      { traceId := some "1F", spanId := some "b7", flags := 3, traceState := some "A=1,b" }
    let zero : TraceContext := { c with spanId := none }
    let text := "00-0000000000000000000000000000001f-00000000000000b7-03"
    let carrier : Carrier := [(key parentName, some text), (key stateName, some "")]
    let arrived : TraceContext :=
      { traceId := some "0000000000000000000000000000001f", spanId := some "00000000000000b7" }
    ∃ p, Scheme.identity.create key = .ok p ∧
      p.injectInto c {} [] =
        (.ok (), ⟨{}, [(key parentName, some text), (key stateName, some "a=1")]⟩) ∧
      p.injectInto zero {} [] = (.ok (), ⟨{}, []⟩) ∧
      p.extractFrom carrier {} = .ok ({ context := some arrived }, {}) ∧
      p.extractFrom [(key stateName, some "a=1")] {} = .ok (.empty, {}) := by
  intro key c zero text carrier arrived
  have hp : key parentName ≠ .absent := by decide
  have hs : key stateName ≠ .absent := by decide
  have hd : key parentName ≠ key stateName := by decide
  obtain ⟨p, hcreate, hextract, hinject⟩ := texts_match_carriers hp hs hd
  have hc : parentText c = .ok text := by
    have ht : readId c.traceId = .ok 31 := rfl
    have hspan : readId c.spanId = .ok 183 := rfl
    rw [parentText_of_ids ht hspan, if_pos (by decide)]
    congr 1
    decide +kernel
  have hzero : parentText zero = .ok "" := rfl
  have hstate : stateHeader c = some "a=1" := by decide +kernel
  have harrived : ofTexts? (some text) (some "") = some arrived := by decide +kernel
  refine ⟨p, hcreate, ?_, (hinject zero {}).2.1 "" hzero, ?_, hextract none (some "a=1") {}⟩
  · have hsent := (hinject c {}).2.1 text hc
    rw [hstate, if_neg (by decide)] at hsent
    exact hsent
  · exact harrived ▸ hextract (some text) (some "") {}

end Propagation

end TraceFields
