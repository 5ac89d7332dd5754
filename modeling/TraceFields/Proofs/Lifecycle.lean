import Mathlib.Tactic.Lemma
import TraceFields.Registration

namespace TraceFields

inductive Call (σ ρ : Type) where
  | init (sources : Sources) (args : SetupArguments) (hold : FieldScheme → σ) (fresh : ρ)
  | reset

namespace Registration

variable {σ ρ : Type}

def after (r : Registration σ ρ) : Call σ ρ → Registration σ ρ
  | .init sources args hold fresh => (r.init sources args hold fresh).2
  | .reset => r.reset

def run (calls : List (Call σ ρ)) : Registration σ ρ := calls.foldl after {}

def SameButLog (r r' : Registration σ ρ) : Prop := ∃ log, r' = { r with log }

namespace SameButLog

variable {r r' r'' : Registration σ ρ}

lemma refl (r : Registration σ ρ) : r.SameButLog r := ⟨r.log, rfl⟩

lemma trans (h : r.SameButLog r') (h' : r'.SameButLog r'') : r.SameButLog r'' := by
  obtain ⟨log, rfl⟩ := h
  obtain ⟨log', rfl⟩ := h'
  exact ⟨log', rfl⟩

lemma note (h : r.SameButLog r') (level : LogLevel) (text : String) :
    r.SameButLog (r'.note level text) := by
  apply h.trans
  unfold Registration.note
  split
  · exact ⟨_, rfl⟩
  · exact refl r'

lemma noteLoaded (r : Registration σ ρ) (sources : Sources) (configFile : Option String) :
    r.SameButLog (r.noteLoaded sources configFile) := by
  unfold Registration.noteLoaded
  split
  · exact (refl r).note _ _
  · exact refl r

lemma register (h : r.SameButLog r') (scheme : σ) (resolver : ρ) (debug : Bool) :
    (r.register scheme resolver debug).SameButLog (r'.register scheme resolver debug) := by
  obtain ⟨log, rfl⟩ := h
  exact ⟨log, rfl⟩

lemma resolver (h : r.SameButLog r') : r'.resolver = r.resolver := by
  obtain ⟨log, rfl⟩ := h
  rfl

end SameButLog

section Init

variable (r : Registration σ ρ) (sources : Sources) (args : SetupArguments)
  (hold : FieldScheme → σ) (fresh : ρ)

lemma init_cases :
    (∃ held, r.scheme = some held ∧ (r.init sources args hold fresh).1 = .ok held ∧
      r.SameButLog (r.init sources args hold fresh).2) ∨
    (r.scheme = none ∧ (∃ fault, (r.init sources args hold fresh).1 = .error fault) ∧
      r.SameButLog (r.init sources args hold fresh).2) ∨
    (r.scheme = none ∧ ∃ scheme debug, (r.init sources args hold fresh).1 = .ok (hold scheme) ∧
      (r.register (hold scheme) fresh debug).SameButLog (r.init sources args hold fresh).2) := by
  have hloaded := SameButLog.noteLoaded r sources args.configFile
  unfold init
  cases hs : r.scheme with
  | some held =>
    have hnote : r.SameButLog (r.note .warning repeatedLine) := (SameButLog.refl r).note _ _
    exact Or.inl ⟨held, rfl, rfl, hnote⟩
  | none =>
    refine Or.inr ?_
    dsimp only
    cases Settings.load sources args.configFile with
    | error fault => exact Or.inl ⟨rfl, ⟨fault, rfl⟩, hloaded⟩
    | ok settings =>
      dsimp only
      cases buildScheme args settings with
      | error fault => exact Or.inl ⟨rfl, ⟨fault, rfl⟩, hloaded⟩
      | ok scheme =>
        exact Or.inr ⟨rfl, scheme, _, rfl, ((hloaded.note _ _).register _ _ _).note _ _⟩

lemma resolver_init : (r.init sources args hold fresh).2.resolver = r.resolver ∨
    (r.init sources args hold fresh).2.resolver = some fresh := by
  rcases r.init_cases sources args hold fresh with ⟨_, -, -, he⟩ | ⟨-, -, he⟩ | ⟨-, _, _, -, he⟩
  · exact Or.inl he.resolver
  · exact Or.inl he.resolver
  · exact Or.inr he.resolver

end Init

structure Sound (r : Registration σ ρ) : Prop where
  paired : r.scheme.isSome = r.resolver.isSome
  idle : r.scheme = none → r.debug = false
  verbose : r.debug = true → r.verbose = true

namespace Sound

variable {r r' : Registration σ ρ}

lemma congr (h : r.Sound) (he : r.SameButLog r') : r'.Sound := by
  obtain ⟨log, rfl⟩ := he
  exact ⟨h.paired, h.idle, h.verbose⟩

lemma register (r : Registration σ ρ) (scheme : σ) (resolver : ρ) (debug : Bool) :
    (r.register scheme resolver debug).Sound := by
  refine ⟨rfl, fun h => ?_, fun h => ?_⟩
  · cases h
  · change (r.verbose || debug) = true
    rw [show debug = true from h, Bool.or_true]

lemma after (h : r.Sound) (call : Call σ ρ) : (r.after call).Sound := by
  cases call with
  | init sources args hold fresh =>
    rcases r.init_cases sources args hold fresh with ⟨_, -, -, he⟩ | ⟨-, -, he⟩ | ⟨-, _, _, -, he⟩
    · exact h.congr he
    · exact h.congr he
    · exact (register r _ _ _).congr he
  | reset =>
    refine ⟨rfl, fun _ => rfl, fun hd => ?_⟩
    cases hd

end Sound

lemma verbose_after {r : Registration σ ρ} (h : r.verbose = true) (call : Call σ ρ) :
    (r.after call).verbose = true := by
  cases call with
  | init sources args hold fresh =>
    rcases r.init_cases sources args hold fresh with
      ⟨_, -, -, log, he⟩ | ⟨-, -, log, he⟩ | ⟨-, scheme, debug, -, log, he⟩
    · rw [Registration.after, he]
      exact h
    · rw [Registration.after, he]
      exact h
    · rw [Registration.after, he]
      change (r.verbose || debug) = true
      rw [h, Bool.true_or]
  | reset => exact h

lemma sound_foldl {r : Registration σ ρ} (h : r.Sound) (calls : List (Call σ ρ)) :
    (calls.foldl Registration.after r).Sound := by
  induction calls generalizing r with
  | nil => exact h
  | cons call calls ih => exact ih (h.after call)

lemma verbose_foldl {r : Registration σ ρ} (h : r.verbose = true) (calls : List (Call σ ρ)) :
    (calls.foldl Registration.after r).verbose = true := by
  induction calls generalizing r with
  | nil => exact h
  | cons call calls ih => exact ih (verbose_after h call)

/-- After any calls a scheme is registered exactly if a resolver is, debugging is off if none is,
and if it is on the log takes debug records, which it then does for ever. Setting up gives the
scheme in place back and then changes nothing but the log, nor does it if it fails; a scheme that it
gives is registered. -/
theorem registered_together (calls : List (Call σ ρ)) :
    let r := run calls
    (r.scheme.isSome ↔ r.resolver.isSome) ∧ (r.scheme = none → r.debug = false) ∧
    (r.debug = true → r.verbose = true) ∧
    (∀ more, r.verbose = true → (run (calls ++ more)).verbose = true) ∧
    ∀ sources args hold fresh,
      (∀ held, r.scheme = some held → (r.init sources args hold fresh).1 = .ok held ∧
        r.SameButLog (r.init sources args hold fresh).2) ∧
      (∀ fault, (r.init sources args hold fresh).1 = .error fault →
        r.SameButLog (r.init sources args hold fresh).2) ∧
      ∀ held, (r.init sources args hold fresh).1 = .ok held →
        (r.init sources args hold fresh).2.scheme = some held := by
  intro r
  have hr : r.Sound := sound_foldl ⟨rfl, fun _ => rfl, fun h => Bool.noConfusion h⟩ calls
  refine ⟨by rw [hr.paired], hr.idle, hr.verbose, fun more h => ?_, ?_⟩
  · rw [run, List.foldl_append]
    exact verbose_foldl h more
  · intro sources args hold fresh
    rcases r.init_cases sources args hold fresh with
      ⟨held, hs, ho, he⟩ | ⟨hs, ⟨fault, hf⟩, he⟩ | ⟨hs, scheme, debug, ho, log, he⟩
    · refine ⟨fun other h => ?_, fun _ _ => he, fun other h => ?_⟩
      · obtain rfl : held = other := Option.some.inj (hs.symm.trans h)
        exact ⟨ho, he⟩
      · obtain rfl : held = other := Except.ok.inj (ho.symm.trans h)
        obtain ⟨log, he⟩ := he
        rw [he]
        exact hs
    · refine ⟨fun other h => ?_, fun _ _ => he, fun other h => ?_⟩
      · rw [hs] at h
        cases h
      · rw [hf] at h
        cases h
    · refine ⟨fun other h => ?_, fun fault h => ?_, fun other h => ?_⟩
      · rw [hs] at h
        cases h
      · rw [ho] at h
        cases h
      · obtain rfl : hold scheme = other := Except.ok.inj (ho.symm.trans h)
        rw [he]
        rfl

theorem registered_together_cleared_once :
    let sources : Sources :=
      { work := ⟨"w", ["w"]⟩, home := ⟨"h", ["h"]⟩, vars := [("FIELDPROP_DEBUG", "on")] }
    let wrong : SetupArguments := { fields := some (.list [.text "x-b", .nothing]) }
    let right : SetupArguments := { fields := some (.list [.text "X-A", .text "x-a"]) }
    let calls :=
      [Call.init sources wrong FieldScheme.names 0, .init sources right FieldScheme.names 1]
    let r := run calls
    let cleared := run (calls ++ [.reset])
    r.resolver.isSome ∧ r.debug = true ∧
      (r.init sources wrong FieldScheme.names 2).1 = .ok ["x-a"] ∧
      r.SameButLog (r.init sources wrong FieldScheme.names 2).2 ∧
      cleared.verbose = true ∧ cleared.debug = false ∧
      cleared.SameButLog (cleared.init sources wrong FieldScheme.names 2).2 := by
  intro sources wrong right calls r cleared
  obtain ⟨hpaired, -, hverbose, hmore, hinit⟩ := registered_together calls
  obtain ⟨-, hidle, -, -, hcleared⟩ := registered_together (calls ++ [.reset])
  have hscheme : r.scheme = some ["x-a"] := by decide +kernel
  have hdebug : r.debug = true := by decide +kernel
  have hnone : (cleared.init sources wrong FieldScheme.names 2).2.scheme = none := by decide +kernel
  obtain ⟨hok, hsame⟩ := (hinit sources wrong FieldScheme.names 2).1 _ hscheme
  refine ⟨hpaired.1 (by rw [hscheme]; rfl), hdebug, hok, hsame, hmore _ (hverbose hdebug),
    hidle rfl, ?_⟩
  obtain ⟨-, hfails, hgives⟩ := hcleared sources wrong FieldScheme.names 2
  cases hr : (cleared.init sources wrong FieldScheme.names 2).1 with
  | error fault => exact hfails fault hr
  | ok held =>
    have hsome := hgives held hr
    rw [hnone] at hsome
    cases hsome

end Registration

end TraceFields
