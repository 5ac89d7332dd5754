import Mathlib.Data.List.Forall2
import TraceFields.Proofs.Handling

/-!
Scopes that need not nest: leaving one makes everything active again that was active where it was
entered, for all resolvers.
-/

namespace TraceFields.Script

open Run

def Lexical.given (L : Lexical) (r : ResolverId) : Object := .ofOption (L.reading r)

structure OpenScope where
  resolver : ResolverId
  value : Option Object
  name : Option String
  around : Lexical

namespace OpenScope

def lexical (scopes : List OpenScope) : Lexical := scopes.map fun k => (k.resolver, k.value)

def isNamed (name : Option String) (k : OpenScope) : Bool := name.isNone || k.name = name

end OpenScope

open OpenScope (lexical isNamed)

def Step.closed? (scopes : List OpenScope) : Step → Option OpenScope
  | .command (.exit name) _ => scopes.find? (isNamed name)
  | _ => none

def Step.laterThanClosed (scopes : List OpenScope) : Step → List OpenScope
  | .command (.exit name) _ => scopes.takeWhile fun k => !isNamed name k
  | _ => []

def openAfter (s : State) (scopes : List OpenScope) : Step → List OpenScope
  | .command (.enter ref contextRef name) _ =>
    match s.scope? ref contextRef with
    | some (r, o) => ⟨r, o.toOption, name, lexical scopes⟩ :: scopes
    | none => scopes
  | .command (.exit name) _ => scopes.eraseP (isNamed name)
  | _ => scopes

def Throughout (law : State → List OpenScope → Step → Prop) :
    State → List OpenScope → List Step → Prop
  | _, _, [] => True
  | s, scopes, step :: steps => law s scopes step ∧
      Throughout law (afterStep runTop step s) (openAfter s scopes step) steps

instance Throughout.decidable {law : State → List OpenScope → Step → Prop}
    [∀ s scopes step, Decidable (law s scopes step)] :
    ∀ s scopes steps, Decidable (Throughout law s scopes steps)
  | _, _, [] => .isTrue trivial
  | s, scopes, step :: steps =>
    have : Decidable (Throughout law (afterStep runTop step s) (openAfter s scopes step) steps) :=
      Throughout.decidable _ _ _
    inferInstanceAs (Decidable (_ ∧ _))

section Laws

variable (s : State) (scopes : List OpenScope) (step : Step)

def GivesOwn : Prop :=
  ∀ r, (lookUpNow (.resolver r)).Gives (afterStep runTop step s)
    ((lexical (openAfter s scopes step)).reading r)

def InOwnOrder (_ : State) (scopes : List OpenScope) (step : Step) : Prop :=
  ∀ k ∈ step.closed? scopes, ∀ j ∈ step.laterThanClosed scopes, j.resolver ≠ k.resolver

instance : Decidable (InOwnOrder s scopes step) :=
  inferInstanceAs (Decidable (∀ k ∈ step.closed? scopes,
    ∀ j ∈ step.laterThanClosed scopes, j.resolver ≠ k.resolver))

def InOrder (_ : State) (scopes : List OpenScope) (step : Step) : Prop :=
  ∀ k ∈ step.closed? scopes, (step.laterThanClosed scopes).isEmpty

instance : Decidable (InOrder s scopes step) :=
  inferInstanceAs (Decidable (∀ k ∈ step.closed? scopes,
    (step.laterThanClosed scopes).isEmpty = true))

/-- Where a scope is closed, the scopes that are open give the other resolvers what those gave them
within which it was opened. -/
def Undisturbed (_ : State) (scopes : List OpenScope) (step : Step) : Prop :=
  ∀ k ∈ step.closed? scopes, ∀ r ≠ k.resolver, (lexical scopes).given r = k.around.given r

end Laws

inductive Step.Flat : Step → Prop
  | command {c keep} : Flat (.command c keep)
  | nested {step : Step} : step.Nested → Flat step

section Lists

variable {scopes later before : List OpenScope} {k : OpenScope} {name : Option String}

lemma split_of_find? (h : scopes.find? (isNamed name) = some k) :
    ∃ later before, scopes = later ++ k :: before ∧
      scopes.takeWhile (fun k => !isNamed name k) = later ∧
      scopes.eraseP (isNamed name) = later ++ before := by
  induction scopes with
  | nil => cases h
  | cons j scopes ih =>
    cases hj : isNamed name j with
    | true =>
      rw [List.find?_cons_of_pos hj] at h
      cases h
      exact ⟨[], scopes, rfl, by simp [hj], by simp [hj]⟩
    | false =>
      rw [List.find?_cons_of_neg (by simp [hj])] at h
      obtain ⟨later, before, hscopes, hlater, herase⟩ := ih h
      exact ⟨j :: later, before, by rw [hscopes]; rfl, by simp [hj, hlater], by simp [hj, herase]⟩

lemma given_lexical_cons (k : OpenScope) (scopes : List OpenScope) (r : ResolverId) :
    (lexical (k :: scopes)).given r =
      if k.resolver = r then .ofOption k.value else (lexical scopes).given r := by
  rw [Lexical.given, lexical, List.map_cons, Lexical.reading_cons]
  split <;> rfl

lemma given_without {r : ResolverId} (hr : r ≠ k.resolver) :
    (lexical (later ++ before)).given r = (lexical (later ++ k :: before)).given r := by
  induction later with
  | nil => rw [List.nil_append, List.nil_append, given_lexical_cons, if_neg hr.symm]
  | cons j later ih => rw [List.cons_append, List.cons_append, given_lexical_cons,
      given_lexical_cons, ih]

lemma given_append {r : ResolverId} (hlater : ∀ j ∈ later, j.resolver ≠ r) :
    (lexical (later ++ before)).given r = (lexical before).given r := by
  induction later with
  | nil => rfl
  | cons j later ih =>
    rw [List.cons_append, given_lexical_cons, if_neg (hlater j (by simp)),
      ih fun i hi => hlater i (by simp [hi])]

def EachOver (P : OpenScope → List OpenScope → Prop) : List OpenScope → Prop
  | [] => True
  | k :: before => P k before ∧ EachOver P before

def OwnKept (k : OpenScope) (before : List OpenScope) : Prop :=
  k.around.given k.resolver = (lexical before).given k.resolver

def AllKept (k : OpenScope) (before : List OpenScope) : Prop := k.around = lexical before

lemma EachOver.of_append {P : OpenScope → List OpenScope → Prop}
    (h : EachOver P (later ++ before)) : EachOver P before := by
  induction later with
  | nil => exact h
  | cons j later ih => exact ih h.2

lemma EachOver.ownKept_without (h : EachOver OwnKept (later ++ k :: before))
    (hlater : ∀ j ∈ later, j.resolver ≠ k.resolver) : EachOver OwnKept (later ++ before) := by
  induction later with
  | nil => exact h.2
  | cons j later ih =>
    have hj : OwnKept j (later ++ before) :=
      h.1.trans (given_without (hlater j (by simp))).symm
    exact ⟨hj, ih h.2 fun i hi => hlater i (by simp [hi])⟩

lemma around_restored_iff (h : EachOver OwnKept (later ++ k :: before))
    (hlater : ∀ j ∈ later, j.resolver ≠ k.resolver) :
    (∀ r, k.around.given r = (lexical (later ++ before)).given r) ↔
      ∀ r ≠ k.resolver, (lexical (later ++ k :: before)).given r = k.around.given r := by
  have hown : k.around.given k.resolver = (lexical (later ++ before)).given k.resolver := by
    rw [given_append hlater]
    exact h.of_append.1
  refine ⟨fun hall r hr => ?_, fun hothers r => ?_⟩
  · rw [← given_without hr]
    exact (hall r).symm
  · by_cases hr : r = k.resolver
    · rw [hr]
      exact hown
    · rw [given_without hr]
      exact (hothers r hr).symm

end Lists

section Running

variable {s : State}

lemma frame_runTop (step : Step) (s : State) :
    ∃ run, Frame ((makeWith run step).after s) (afterStep runTop step s) := by
  refine ⟨runStep 999, (frame_runWith (runStep 999) step s).trans ?_⟩
  exact ⟨rfl, rfl, rfl, Nat.le_refl _⟩

end Running

structure RecordedAs (H : History) (unit : Nat) (k : OpenScope) (recorded : Scope Nat) : Prop where
  name : recorded.name = k.name
  owner : recorded.owner = unit
  outer : ∃ M, H.environments recorded.outer = some M ∧ ∀ r, M.given r = k.around.given r

structure Independent (scopes : List OpenScope) (H : History) (s : State) : Prop where
  sound : ∃ L, Sound L H s ∧ ∀ r, L.given r = (lexical scopes).given r
  recorded : List.Forall₂ (RecordedAs H s.ambient.unit) scopes s.ambient.scopes
  own : EachOver OwnKept scopes

namespace Independent

variable {scopes : List OpenScope} {H K : History} {s t : State}

lemma start (sources : Sources) : Independent [] .start { sources } :=
  ⟨⟨[], ⟨Records.start sources, rfl⟩, fun _ => rfl⟩, .nil, trivial⟩

lemma gives (h : Independent scopes H s) (r : ResolverId) :
    (lookUpNow (.resolver r)).Gives s ((lexical scopes).reading r) := by
  obtain ⟨L, hs, hL⟩ := h.sound
  have hgiven : Object.ofOption (L.reading r) = .ofOption ((lexical scopes).reading r) := hL r
  rw [Run.Gives, ← hgiven]
  exact hs.faithful.now r

lemma later (h : Independent scopes H s) (hk : H.Extends K) (ht : Records K t)
    (ha : t.ambient = s.ambient) : Independent scopes K t := by
  obtain ⟨L, hs, hL⟩ := h.sound
  refine ⟨⟨L, hs.later hk ht ha, hL⟩, ?_, h.own⟩
  rw [ha]
  refine h.recorded.imp fun k recorded hr => ⟨hr.name, hr.owner, ?_⟩
  obtain ⟨M, hM, hgiven⟩ := hr.outer
  exact ⟨M, hk.environments hM, hgiven⟩

lemma frame (h : Independent scopes H s) (hf : Frame s t) : Independent scopes H t := by
  obtain ⟨L, hs, -⟩ := h.sound
  exact h.later (.refl H) (hs.records.frame hf) hf.ambient

lemma enter (h : Independent scopes H s) (r : ResolverId) (o : Object) (name : Option String) :
    ∃ K, Independent (⟨r, o.toOption, name, lexical scopes⟩ :: scopes) K
      { s.derive (s.here.enter r o.toOption) with ambient := s.ambient.enter s.fresh name } := by
  obtain ⟨L, hs, hL⟩ := h.sound
  have hext := History.extends_withEnvironment hs.records.environments_fresh
    ((r, o.toOption) :: L)
  refine ⟨_, ⟨_, hs.enter r o.toOption name, fun q => ?_⟩, .cons ?_ ?_, rfl, h.own⟩
  · rw [given_lexical_cons, Lexical.given, Lexical.reading_cons, ← hL]
    split <;> rfl
  · exact ⟨rfl, rfl, L, hext.environments hs.here, hL⟩
  · refine h.recorded.imp fun k recorded hr => ⟨hr.name, hr.owner, ?_⟩
    obtain ⟨M, hM, hgiven⟩ := hr.outer
    exact ⟨M, hext.environments hM, hgiven⟩

end Independent

section Leaving

variable {scopes : List OpenScope} {recorded : List (Scope Nat)} {H : History} {unit : Nat}
  {L M : Lexical} {s : State}

lemma takeFirst?_recorded (h : List.Forall₂ (RecordedAs H unit) scopes recorded)
    {name : Option String} {k : OpenScope} (hk : scopes.find? (isNamed name) = some k) :
    ∃ o rest, takeFirst? (fun o : Scope Nat => name.isNone || o.name = name) recorded =
        some (o, rest) ∧ RecordedAs H unit k o ∧
      List.Forall₂ (RecordedAs H unit) (scopes.eraseP (isNamed name)) rest := by
  induction h with
  | nil => cases hk
  | @cons j o scopes recorded hj hrest ih =>
    have hsame : (name.isNone || o.name = name) = isNamed name j := by rw [isNamed, hj.name]
    rw [takeFirst?, hsame]
    cases hnamed : isNamed name j with
    | true =>
      rw [List.find?_cons_of_pos hnamed] at hk
      cases hk
      rw [List.eraseP_cons_of_pos hnamed]
      exact ⟨o, recorded, rfl, hj, hrest⟩
    | false =>
      rw [List.find?_cons_of_neg (by simp [hnamed])] at hk
      obtain ⟨p, rest, htake, hp, hothers⟩ := ih hk
      rw [List.eraseP_cons_of_neg (by simp [hnamed]), htake]
      exact ⟨p, o :: rest, rfl, hp, .cons hj hothers⟩

lemma takeFirst?_none (h : List.Forall₂ (RecordedAs H unit) scopes recorded)
    {name : Option String} (hk : scopes.find? (isNamed name) = none) :
    takeFirst? (fun o : Scope Nat => name.isNone || o.name = name) recorded = none := by
  induction h with
  | nil => rfl
  | @cons j o scopes recorded hj hrest ih =>
    have hsame : (name.isNone || o.name = name) = isNamed name j := by rw [isNamed, hj.name]
    rw [List.find?_eq_none] at hk ih
    rw [takeFirst?, hsame, if_neg (hk j (by simp)), ih fun i hi => hk i (by simp [hi])]
    rfl

lemma Independent.exit (h : Independent scopes H s) {name : Option String} {k : OpenScope}
    (hk : scopes.find? (isNamed name) = some k) :
    ∃ ambient M, s.ambient.exit? name = some ambient ∧ Sound M H { s with ambient } ∧
      (∀ r, M.given r = k.around.given r) ∧
      List.Forall₂ (RecordedAs H ambient.unit) (scopes.eraseP (isNamed name)) ambient.scopes := by
  obtain ⟨L, hs, -⟩ := h.sound
  obtain ⟨o, rest, htake, ho, hrest⟩ := takeFirst?_recorded h.recorded hk
  obtain ⟨M, hM, hgiven⟩ := ho.outer
  refine ⟨{ s.ambient with env := o.outer, scopes := rest }, M, ?_, ⟨?_, hM⟩, hgiven, hrest⟩
  · rw [Ambient.exit?, htake, Option.map_some]
    simp only [if_pos ho.owner]
  · exact hs.records.mono rfl rfl (Nat.le_refl _)

lemma gives_iff (hs : Sound M H s) :
    (∀ r, (lookUpNow (.resolver r)).Gives s (L.reading r)) ↔ ∀ r, M.given r = L.given r := by
  refine forall_congr' fun r => ?_
  have hnow := hs.faithful.now r
  rw [Run.Gives] at hnow
  rw [Run.Gives, hnow]
  exact ⟨fun h => Except.ok.inj (Prod.mk.inj h).1,
    fun h => congrArg (fun o => ((.ok o, s) : Except Fault Object × State)) h⟩

end Leaving

section Step

variable {scopes : List OpenScope} {H : History} {s : State}

lemma Independent.step_nested (h : Independent scopes H s) {step : Step} (hn : step.Nested) :
    ∃ K, Independent scopes K (afterStep runTop step s) := by
  obtain ⟨L, hs, -⟩ := h.sound
  obtain ⟨K, -, hext, hrec, hamb⟩ := obeys_runTop hs hn
  exact ⟨K, h.later hext hrec hamb⟩

lemma Independent.step_enter (h : Independent scopes H s) (ref contextRef : Ref)
    (name keep : Option String) :
    ∃ K, Independent (openAfter s scopes (.command (.enter ref contextRef name) keep)) K
      (afterStep runTop (.command (.enter ref contextRef name) keep) s) := by
  obtain ⟨run, hf⟩ := frame_runTop (.command (.enter ref contextRef name) keep) s
  change Frame ((perform (.enter ref contextRef name)).run.run s).2 _ at hf
  obtain ⟨fault, hrun⟩ := run_enter ref contextRef name s
  simp only [openAfter]
  cases hscope : s.scope? ref contextRef with
  | none =>
    rw [hrun, hscope] at hf
    exact ⟨H, h.frame hf⟩
  | some scope =>
    obtain ⟨r, o⟩ := scope
    rw [hrun, hscope] at hf
    obtain ⟨K, hK⟩ := h.enter r o name
    exact ⟨K, hK.frame ((steady_shown o _).toFrame.trans hf)⟩

lemma openAfter_exit_none {name : Option String} (hk : scopes.find? (isNamed name) = none)
    (s : State) (keep : Option String) :
    openAfter s scopes (.command (.exit name) keep) = scopes :=
  List.eraseP_of_forall_not fun j hj => List.find?_eq_none.1 hk j hj

lemma frame_exit_none (h : Independent scopes H s) {name : Option String} (keep : Option String)
    (hk : scopes.find? (isNamed name) = none) :
    Frame s (afterStep runTop (.command (.exit name) keep) s) := by
  obtain ⟨run, hf⟩ := frame_runTop (.command (.exit name) keep) s
  change Frame ((perform (.exit name)).run.run s).2 _ at hf
  rw [run_exit, Ambient.exit?, takeFirst?_none h.recorded hk] at hf
  exact hf

lemma forall_closed_of_none {step : Step} {P : OpenScope → Prop}
    (h : step.closed? scopes = none) : ∀ k ∈ step.closed? scopes, P k := by
  intro k hk
  rw [h] at hk
  cases hk

structure ExactAt (s : State) (scopes : List OpenScope) (step : Step) : Prop where
  iff : GivesOwn s scopes step ↔ Undisturbed s scopes step
  next : Undisturbed s scopes step →
    ∃ K, Independent (openAfter s scopes step) K (afterStep runTop step s)

lemma exactAt_of_none {step : Step} (hnone : step.closed? scopes = none)
    (h : ∃ K, Independent (openAfter s scopes step) K (afterStep runTop step s)) :
    ExactAt s scopes step := by
  obtain ⟨K, hK⟩ := h
  exact ⟨⟨fun _ => forall_closed_of_none hnone, fun _ => hK.gives⟩, fun _ => ⟨K, hK⟩⟩

lemma Independent.exactAt_exit (h : Independent scopes H s) {name : Option String}
    {k : OpenScope} (keep : Option String)
    (hown : InOwnOrder s scopes (.command (.exit name) keep))
    (hk : scopes.find? (isNamed name) = some k) :
    ExactAt s scopes (.command (.exit name) keep) := by
  obtain ⟨later, before, hscopes, hlater, herase⟩ := split_of_find? hk
  have hopen : openAfter s scopes (.command (.exit name) keep) = later ++ before := herase
  have horder : ∀ j ∈ later, j.resolver ≠ k.resolver := by
    intro j hj
    rw [← hlater] at hj
    exact hown k hk j hj
  have hkept : EachOver OwnKept (later ++ k :: before) := hscopes ▸ h.own
  -- The scopes around the one that is left say again what is active, whatever was opened since.
  obtain ⟨ambient, M, hexit, hsound, hM, hrecorded⟩ := h.exit hk
  obtain ⟨run, hf⟩ := frame_runTop (.command (.exit name) keep) s
  change Frame ((perform (.exit name)).run.run s).2 _ at hf
  rw [run_exit, hexit] at hf
  have hframe := (steady_done _).toFrame.trans hf
  have hafter := hsound.later (.refl H) (hsound.records.frame hframe) hframe.ambient
  have hundisturbed : Undisturbed s scopes (.command (.exit name) keep) ↔
      ∀ r, M.given r = (lexical (later ++ before)).given r := by
    simp only [hM]
    rw [around_restored_iff hkept horder, ← hscopes]
    refine ⟨fun hu => hu k hk, fun hu j hj => ?_⟩
    obtain rfl : k = j := Option.some.inj (hk.symm.trans hj)
    exact hu
  refine ⟨?_, fun hu => ⟨H, ⟨M, hafter, ?_⟩, ?_, ?_⟩⟩
  · rw [hundisturbed, GivesOwn, hopen]
    exact gives_iff hafter
  · rw [hopen]
    exact hundisturbed.1 hu
  · rw [hframe.ambient]
    exact hrecorded
  · rw [hopen]
    exact hkept.ownKept_without horder

lemma openAfter_of_nested {step : Step} (hn : step.Nested) (s : State) (scopes : List OpenScope) :
    openAfter s scopes step = scopes ∧ step.closed? scopes = none := by
  cases hn with
  | @command c keep hc => cases c <;> first | exact ⟨rfl, rfl⟩ | cases hc
  | _ => exact ⟨rfl, rfl⟩

lemma Independent.exactAt_nested (h : Independent scopes H s) {step : Step} (hn : step.Nested) :
    ExactAt s scopes step := by
  obtain ⟨hopen, hnone⟩ := openAfter_of_nested hn s scopes
  apply exactAt_of_none hnone
  rw [hopen]
  exact h.step_nested hn

lemma Independent.exactAt (h : Independent scopes H s) {step : Step} (hf : step.Flat)
    (hown : InOwnOrder s scopes step) : ExactAt s scopes step := by
  cases hf with
  | nested hn => exact h.exactAt_nested hn
  | @command c keep =>
    cases c with
    | enter ref contextRef name => exact exactAt_of_none rfl (h.step_enter ref contextRef name keep)
    | exit name =>
      cases hk : scopes.find? (isNamed name) with
      | some k => exact h.exactAt_exit keep hown hk
      | none =>
        refine exactAt_of_none hk ⟨H, ?_⟩
        rw [openAfter_exit_none hk]
        exact h.frame (frame_exit_none h keep hk)
    | _ => exact h.exactAt_nested (.command trivial)

lemma allKept_step (h : EachOver AllKept scopes) {step : Step} (ho : InOrder s scopes step) :
    InOwnOrder s scopes step ∧ Undisturbed s scopes step ∧
      EachOver AllKept (openAfter s scopes step) := by
  cases step with
  | command c keep =>
    cases c with
    | enter ref contextRef name =>
      refine ⟨forall_closed_of_none rfl, forall_closed_of_none rfl, ?_⟩
      simp only [openAfter]
      split
      · exact ⟨rfl, h⟩
      · exact h
    | exit name =>
      cases hk : scopes.find? (isNamed name) with
      | none =>
        refine ⟨forall_closed_of_none hk, forall_closed_of_none hk, ?_⟩
        rw [openAfter_exit_none hk]
        exact h
      | some k =>
        obtain ⟨later, before, rfl, hlater, herase⟩ := split_of_find? hk
        obtain rfl : later = [] := hlater.symm.trans (List.isEmpty_iff.1 (ho k hk))
        refine ⟨fun j _ i hi => ?_, fun j hj r hr => ?_, ?_⟩
        · rw [Step.laterThanClosed, hlater] at hi
          cases hi
        · obtain rfl : k = j := Option.some.inj (hk.symm.trans hj)
          rw [List.nil_append, given_lexical_cons, if_neg hr.symm, h.1]
        · rw [openAfter, herase]
          exact h.2
    | _ => exact ⟨forall_closed_of_none rfl, forall_closed_of_none rfl, h⟩
  | _ => exact ⟨forall_closed_of_none rfl, forall_closed_of_none rfl, h⟩

variable {steps : List Step}

lemma throughout_of_allKept (h : EachOver AllKept scopes)
    (ho : Throughout InOrder s scopes steps) :
    Throughout InOwnOrder s scopes steps ∧ Throughout Undisturbed s scopes steps := by
  induction steps generalizing s scopes with
  | nil => exact ⟨trivial, trivial⟩
  | cons step steps ih =>
    obtain ⟨hown, hundisturbed, hkept⟩ := allKept_step h ho.1
    obtain ⟨howns, hundisturbeds⟩ := ih hkept ho.2
    exact ⟨⟨hown, howns⟩, hundisturbed, hundisturbeds⟩

lemma Independent.throughout (h : Independent scopes H s) (hf : ∀ step ∈ steps, step.Flat)
    (hown : Throughout InOwnOrder s scopes steps) :
    Throughout GivesOwn s scopes steps ↔ Throughout Undisturbed s scopes steps := by
  induction steps generalizing H s scopes with
  | nil => exact Iff.rfl
  | cons step steps ih =>
    obtain ⟨hiff, hnext⟩ := h.exactAt (hf step (by simp)) hown.1
    have hrest (hu : Undisturbed s scopes step) :
        Throughout GivesOwn (afterStep runTop step s) (openAfter s scopes step) steps ↔
          Throughout Undisturbed (afterStep runTop step s) (openAfter s scopes step) steps := by
      obtain ⟨K, hK⟩ := hnext hu
      exact ih hK (fun q hq => hf q (by simp [hq])) hown.2
    refine ⟨fun hall => ?_, fun hall => ?_⟩
    · have hu := hiff.1 hall.1
      exact ⟨hu, (hrest hu).1 hall.2⟩
    · exact ⟨hiff.2 hall.1, (hrest hall.1).2 hall.2⟩

end Step

/-- Scopes that are opened and closed one by one, those of each resolver in order, while those of
different resolvers may overlap. After every step each resolver gives what its own latest open scope
makes active, exactly if wherever a scope is closed the other resolvers give what they gave where it
was opened. So it is where all scopes are closed in order. -/
theorem resolvers_give_own_iff (sources : Sources) {steps : List Step}
    (hf : ∀ step ∈ steps, step.Flat) (hown : Throughout InOwnOrder { sources } [] steps) :
    (Throughout GivesOwn { sources } [] steps ↔ Throughout Undisturbed { sources } [] steps) ∧
      (Throughout InOrder { sources } [] steps → Throughout GivesOwn { sources } [] steps) := by
  have hiff := (Independent.start sources).throughout hf hown
  have hkept : EachOver AllKept [] := trivial
  exact ⟨hiff, fun ho => hiff.2 (throughout_of_allKept hkept ho).2⟩

theorem resolvers_give_own_iff_nested :
    let sources : Sources := { work := ⟨"", []⟩, home := ⟨"", []⟩ }
    let context (id : String) : Command :=
      .context { traceId := some "1", spanId := some id } (.items [])
    let steps : List Step :=
      [.command .resolver (some "r"), .command .resolver (some "q"),
        .command (context "a") (some "a"), .command (context "b") (some "b"),
        .command (.enter (some "r") (some "a") (some "x")) none,
        .command (.enter (some "q") (some "b") (some "y")) none,
        .command (.enter (some "r") none (some "z")) none,
        .command (.exit (some "z")) none, .command (.exit none) none,
        .command (.exit (some "x")) none]
    Throughout InOwnOrder { sources } [] steps ∧ Throughout InOrder { sources } [] steps ∧
      Throughout GivesOwn { sources } [] steps := by
  intro sources context steps
  have hf : ∀ step ∈ steps, step.Flat := by simp [steps, Step.Flat.command]
  have hown : Throughout InOwnOrder { sources } [] steps := by decide +kernel
  have ho : Throughout InOrder { sources } [] steps := by decide +kernel
  exact ⟨hown, ho, (resolvers_give_own_iff sources hf hown).2 ho⟩

theorem overlapping_scope_lost :
    let sources : Sources := { work := ⟨"", []⟩, home := ⟨"", []⟩ }
    let context (id : String) : Command :=
      .context { traceId := some "1", spanId := some id } (.items [])
    let steps : List Step :=
      [.command .resolver (some "r"), .command .resolver (some "q"),
        .command (context "a") (some "a"), .command (context "b") (some "b"),
        .command (.enter (some "r") (some "a") (some "x")) none,
        .command (.enter (some "q") (some "b") (some "y")) none,
        .command (.exit (some "x")) none]
    Throughout InOwnOrder { sources } [] steps ∧ ¬ Throughout GivesOwn { sources } [] steps := by
  intro sources context steps
  refine ⟨by decide +kernel, fun hall => ?_⟩
  obtain ⟨-, -, -, -, -, -, hlast, -⟩ := hall
  have hgives := congrArg (fun x => x.1.toOption.bind Object.toOption |>.isSome) (hlast ⟨1⟩)
  revert hgives
  decide +kernel

end TraceFields.Script
