import Mathlib.Tactic.ByContra
import TraceFields.Proofs.Readers
import TraceFields.Toml.Document

namespace TraceFields.Toml

def bracketsIn (cs : List Char) : Nat := cs.countP fun c => c = '[' || c = '\x7b'

def digitsIn (cs : List Char) : Nat := cs.countP Numeral.Decimal.isDigit

lemma bracketsIn_le {cs ds : List Char} (h : cs.Sublist ds) : bracketsIn cs ≤ bracketsIn ds :=
  h.countP_le

lemma digitsIn_le {cs ds : List Char} (h : cs.Sublist ds) : digitsIn cs ≤ digitsIn ds := h.countP_le

lemma Limits.takesDigits_eq_false_iff {limits : Limits} {n : Nat} :
    limits.takesDigits n = false ↔ ∃ most, limits.digits = some most ∧ most < n := by
  unfold Limits.takesDigits
  cases limits.digits with
  | none => simp
  | some most => simp

lemma Limits.takesDigits_mono {limits : Limits} {n m : Nat} (h : n ≤ m)
    (hn : limits.takesDigits n = false) : limits.takesDigits m = false := by
  obtain ⟨most, hmost, hlt⟩ := takesDigits_eq_false_iff.1 hn
  exact takesDigits_eq_false_iff.2 ⟨most, hmost, Nat.lt_of_lt_of_le hlt h⟩

/-- What is left after reading is an end of the text. If reading meets a limit, then the text has
the brackets or the digits for it. -/
def Reads {α : Type} (left : α → List Char) (limits : Limits) (calls : Nat) (cs : List Char) :
    Except Flaw α → Prop
  | .ok a => left a <:+ cs
  | .error .malformed => True
  | .error .tooDeep => ∃ n ≤ calls + inlineCalls * bracketsIn cs, ∃ rest, limits.fits n rest = false
  | .error .tooLong => limits.takesDigits (digitsIn cs) = false

namespace Reads

variable {α β : Type} {left : α → List Char} {left' : β → List Char} {limits : Limits}
  {calls : Nat} {cs rest : List Char}

lemma weaken {r : Except Flaw α} (hr : Reads left limits calls rest r)
    (hleft : ∀ a, left a <:+ rest → left a <:+ cs) (h : rest.Sublist cs) :
    Reads left limits calls cs r := by
  match r with
  | .ok a => exact hleft a hr
  | .error .malformed => trivial
  | .error .tooDeep =>
    obtain ⟨n, hn, hfits⟩ := hr
    have hle := Nat.mul_le_mul_left inlineCalls (bracketsIn_le h)
    exact ⟨n, Nat.le_trans hn (Nat.add_le_add_left hle calls), hfits⟩
  | .error .tooLong => exact Limits.takesDigits_mono (digitsIn_le h) hr

lemma mono {r : Except Flaw α} (hr : Reads left limits calls rest r) (h : rest <:+ cs) :
    Reads left limits calls cs r :=
  hr.weaken (fun _ ha => ha.trans h) h.sublist

lemma bind {r : Except Flaw α} {f : α → Except Flaw β} (hr : Reads left limits calls cs r)
    (hf : ∀ a, Reads left' limits calls (left a) (f a)) :
    Reads left' limits calls cs (r >>= f) := by
  match r with
  | .ok a => exact (hf a).mono hr
  | .error .malformed => trivial
  | .error .tooDeep => exact hr
  | .error .tooLong => exact hr

lemma wellFormed {r : Option (α × List Char)} (h : Leaves cs r) :
    Reads Prod.snd limits calls cs (wellFormed r) := by
  match r with
  | some (a, rest) => exact h a rest rfl
  | none => trivial

lemma after {r : Option α} {f : α → Except Flaw β}
    (hf : ∀ a, r = some a → Reads left' limits calls cs (f a)) :
    Reads left' limits calls cs (Toml.wellFormed r >>= f) := by
  match r with
  | some a => exact hf a rfl
  | none => trivial

lemma lines {fuel : Nat} {f : List Char → Except Flaw α}
    (hf : ∀ rest, Reads left limits calls rest (f rest)) :
    Reads left limits calls cs (Toml.wellFormed (skipLines fuel cs) >>= f) :=
  .after fun rest h => (hf rest).mono (skipLines_suffix h)

lemma entering {f : Nat → Except Flaw α} (hf : Reads left limits calls cs (f calls)) :
    Reads left limits calls cs (limits.enter calls rest >>= f) := by
  unfold Limits.enter
  split
  · exact hf
  · next hfits => exact ⟨calls, Nat.le_add_right _ _, rest, Bool.eq_false_iff.2 hfits⟩

lemma opening {cost : Nat} {c : Char} {r : Except Flaw α} (hc : (c = '[' || c = '\x7b') = true)
    (hcost : cost ≤ inlineCalls) (hr : Reads left limits (calls + cost) cs r) :
    Reads left limits calls (c :: cs) r := by
  match r with
  | .ok a => exact hr.trans (List.suffix_cons _ _)
  | .error .malformed => trivial
  | .error .tooDeep =>
    -- each bracket counts for the calls of an inline table, which are more than those of an array
    have hbrackets : bracketsIn (c :: cs) = bracketsIn cs + 1 := List.countP_cons_of_pos hc
    obtain ⟨n, hn, hfits⟩ := hr
    refine ⟨n, Nat.le_trans hn ?_, hfits⟩
    rw [hbrackets, Nat.mul_add]
    omega
  | .error .tooLong => exact Limits.takesDigits_mono (digitsIn_le (List.sublist_cons_self c cs)) hr

lemma map {f : α → β} {r : Except Flaw α} (hf : ∀ a, left' (f a) = left a)
    (hr : Reads left limits calls cs r) : Reads left' limits calls cs (r.map f) := by
  match r with
  | .ok a =>
    change left' (f a) <:+ cs
    rw [hf]
    exact hr
  | .error .malformed => trivial
  | .error .tooDeep => exact hr
  | .error .tooLong => exact hr

end Reads

namespace Numbers

lemma row_sublist (p : Char → Bool) (cs : List Char) : (row p cs).1.Sublist cs := by
  fun_induction row p cs with
  | case1 c cs _ ds rest he ih =>
    rw [he] at ih
    exact (ih.cons_cons c).cons _
  | case2 => exact List.nil_sublist _
  | case3 c cs _ _ ds rest he ih =>
    rw [he] at ih
    exact ih.cons_cons c
  | case4 => exact List.nil_sublist _
  | case5 => exact List.nil_sublist _

lemma of_mem_row {p : Char → Bool} {cs : List Char} {c : Char} (h : c ∈ (row p cs).1) :
    p c = true := by
  fun_induction row p cs with
  | case1 d cs hd ds rest he ih =>
    rw [he] at ih
    rcases List.mem_cons.1 h with rfl | h
    · exact hd
    · exact ih h
  | case2 => cases h
  | case3 d cs _ hd ds rest he ih =>
    rw [he] at ih
    rcases List.mem_cons.1 h with rfl | h
    · exact hd
    · exact ih h
  | case4 => cases h
  | case5 => cases h

lemma length_row_le (p : Char → Bool) (cs : List Char) : (row p cs).1.length ≤ cs.countP p := by
  rw [← List.countP_eq_length.2 fun _ => of_mem_row]
  exact (row_sublist p cs).countP_le

lemma length_whole_le {cs ds rest : List Char} (h : whole cs = some (ds, rest)) :
    ds.length ≤ digitsIn cs := by
  unfold whole at h
  split at h
  · cases h
    exact digitsIn_le (List.sublist_append_left ['0'] rest)
  · unfold row? at h
    split at h
    · split at h
      · obtain rfl : _ = ds := congrArg Prod.fst (Option.some.inj h)
        exact length_row_le _ _
      · cases h
    · cases h

variable (limits : Limits) (calls : Nat) (cs : List Char)

lemma decimal_reads : Reads Prod.snd limits calls cs (decimal limits cs) := by
  have hsigned := signed_suffix cs
  unfold decimal
  generalize signed cs = s at *
  obtain ⟨sign, cs⟩ := s
  refine Reads.mono (Reads.after fun (ds, rest) hwhole => ?_) hsigned
  have hrest := whole_leaves cs ds rest hwhole
  have hfraction := fraction_suffix rest
  dsimp only
  generalize fraction rest = f at *
  obtain ⟨frac, rest⟩ := f
  have hexponent := exponent_suffix rest
  dsimp only
  generalize exponent rest = e at *
  obtain ⟨expo, rest⟩ := e
  have hleft := (hexponent.trans hfraction).trans hrest
  dsimp only
  split
  · split
    · exact hleft
    · next hdigits =>
      exact Limits.takesDigits_mono (length_whole_le hwhole) (Bool.eq_false_iff.2 hdigits)
  · exact hleft

lemma number_reads : Reads Prod.snd limits calls cs (number limits cs) := by
  unfold number
  split
  · next h => exact based_leaves cs _ _ h
  · split
    · next h => exact special_leaves cs _ _ h
    · exact decimal_reads limits calls cs

end Numbers

lemma suffix_of_skipGap {c : Char} {cs rest : List Char} (h : skipGap cs = c :: rest) :
    rest <:+ cs :=
  (List.suffix_cons c rest).trans (h ▸ skipGap_suffix cs)

structure ReadersRead (limits : Limits) (fuel : Nat) : Prop where
  value : ∀ calls cs, Reads Prod.snd limits calls cs (readValue limits calls fuel cs)
  items : ∀ calls cs, Reads Prod.snd limits calls cs (readItems limits calls fuel cs)
  inline : ∀ calls t closed cs,
    Reads Prod.snd limits calls cs (readInline limits calls fuel t closed cs)
  pair : ∀ calls cs, Reads (fun p => p.2.2) limits calls cs (readPair limits calls fuel cs)

section Fuel

variable {limits : Limits} {fuel : Nat} (ih : ReadersRead limits fuel) (calls : Nat)
  (cs : List Char)

include ih

lemma readValue_reads : Reads Prod.snd limits calls cs (readValue limits calls (fuel + 1) cs) := by
  rw [readValue.eq_def]
  dsimp only
  split
  · exact (Reads.wellFormed (Strings.any_leaves _)).map fun _ => rfl
  · exact (Reads.wellFormed (Strings.any_leaves _)).map fun _ => rfl
  · exact List.suffix_append ['t', 'r', 'u', 'e'] _
  · exact List.suffix_append ['f', 'a', 'l', 's', 'e'] _
  · refine .opening rfl (by decide) (.entering (.lines fun rest => ?_))
    split
    · exact List.suffix_cons _ _
    · exact (ih.items _ _).bind fun _ => List.suffix_rfl
  · next rest =>
    refine .opening rfl (by decide) (.entering ?_)
    split
    · next h => exact suffix_of_skipGap h
    · refine Reads.mono ?_ (skipGap_suffix rest)
      exact (ih.inline _ _ _ _).bind fun _ => List.suffix_rfl
  · split
    · next h => exact Moments.moment_leaves cs _ _ h
    · exact Numbers.number_reads limits calls cs

lemma readItems_reads : Reads Prod.snd limits calls cs (readItems limits calls (fuel + 1) cs) := by
  rw [readItems]
  refine (ih.value calls cs).bind fun p => .lines fun rest => ?_
  split
  · exact List.suffix_cons _ _
  · refine Reads.mono (.lines fun rest => ?_) (List.suffix_cons _ _)
    split
    · exact List.suffix_cons _ _
    · exact (ih.items _ _).bind fun q => List.suffix_rfl
  · trivial

lemma readInline_reads (t : Table) (closed : List Path) :
    Reads Prod.snd limits calls cs (readInline limits calls (fuel + 1) t closed cs) := by
  rw [readInline]
  refine (ih.pair calls cs).bind fun pair => ?_
  obtain ⟨key, v, rest⟩ := pair
  dsimp only
  split
  · trivial
  refine .after fun t _ => ?_
  split
  · next h => exact suffix_of_skipGap h
  · next h =>
    exact (ih.inline _ _ _ _).mono ((skipGap_suffix _).trans (suffix_of_skipGap h))
  · trivial

lemma readPair_reads :
    Reads (fun p => p.2.2) limits calls cs (readPair limits calls (fuel + 1) cs) := by
  rw [readPair]
  refine (Reads.wellFormed (Keys.dotted_leaves _ cs)).bind fun dotted => ?_
  obtain ⟨key, rest⟩ := dotted
  dsimp only
  split
  · next rest =>
    have hvalue : Reads Prod.snd limits calls ('=' :: rest)
        (readValue limits calls fuel (skipGap rest)) :=
      (ih.value _ _).mono ((skipGap_suffix rest).trans (List.suffix_cons _ _))
    exact hvalue.bind fun _ => List.suffix_rfl
  · trivial

end Fuel

lemma readersRead (limits : Limits) (fuel : Nat) : ReadersRead limits fuel := by
  -- without fuel every reader gives up, and with it each calls the others with less
  induction fuel with
  | zero =>
    constructor
    · intro calls cs
      rw [readValue]
      trivial
    · intro calls cs
      rw [readItems]
      trivial
    · intro calls t closed cs
      rw [readInline]
      trivial
    · intro calls cs
      rw [readPair]
      trivial
  | succ fuel ih =>
    exact ⟨readValue_reads ih, readItems_reads ih,
      fun calls t closed cs => readInline_reads ih calls cs t closed, readPair_reads ih⟩

namespace Draft

lemma endLine_suffix {cs rest : List Char} (h : endLine cs = some rest) : rest <:+ cs := by
  obtain ⟨line, hline, h⟩ := Option.bind_eq_some_iff.1 h
  have hsuffix := (skipComment_suffix hline).trans (skipGap_suffix cs)
  split at h
  · cases h
    exact hsuffix
  · cases h
    exact (List.suffix_cons _ _).trans hsuffix
  · cases h

lemma openBy_leaves (d : Draft) (cs : List Char) : Leaves cs (d.openBy cs) := by
  fun_cases openBy d cs with
  | case1 rest =>
    refine Leaves.mono ?_ (List.suffix_append ['[', '['] rest)
    refine ((Keys.dotted_leaves _ _).mono (skipGap_suffix rest)).bind fun path rest _ => ?_
    dsimp only
    split
    · exact .after fun d _ => .some (List.suffix_append [']', ']'] _)
    · exact .none
  | case2 rest _ =>
    refine Leaves.cons ?_
    refine ((Keys.dotted_leaves _ _).mono (skipGap_suffix rest)).bind fun path rest _ => ?_
    dsimp only
    split
    · exact .after fun d _ => .some (List.suffix_cons _ _)
    · exact .none
  | case3 => exact .none

lemma statement_reads (limits : Limits) (d : Draft) (cs : List Char) :
    Reads Prod.snd limits 0 cs (d.statement limits cs) := by
  rw [statement.eq_def]
  split
  · exact List.suffix_rfl
  · exact List.suffix_rfl
  · exact List.suffix_rfl
  · exact .wellFormed (openBy_leaves d _)
  · refine ((readersRead limits _).pair 0 cs).bind fun (key, value, rest) => ?_
    exact .after fun d _ => List.suffix_rfl

lemma statements_reads (limits : Limits) (fuel : Nat) (d : Draft) (cs : List Char) :
    Reads (fun _ => []) limits 0 cs (statements limits fuel d cs) := by
  induction fuel generalizing d cs with
  | zero =>
    cases cs with
    | nil => exact List.suffix_rfl
    | cons c cs => trivial
  | succ fuel ih =>
    cases cs with
    | nil => exact List.suffix_rfl
    | cons c cs =>
      refine ((statement_reads limits d _).mono (skipGap_suffix _)).bind fun (d, rest) => ?_
      exact .after fun rest' h => (ih d rest').mono (endLine_suffix h)

end Draft

lemma unifyLineEnds_sublist (cs : List Char) : (unifyLineEnds cs).Sublist cs := by
  fun_induction unifyLineEnds cs with
  | case1 cs ih => exact ((ih.cons_cons _).cons _)
  | case2 c cs _ ih => exact ih.cons_cons _
  | case3 => exact .slnil

structure Limits.Allow (limits : Limits) (text : String) : Prop where
  takes : limits.takesDigits (digitsIn text.toList) = true
  fits : ∀ n ≤ inlineCalls * bracketsIn text.toList, ∀ rest, limits.fits n rest = true

lemma parse_reads (limits : Limits) (text : String) :
    Reads (fun _ => []) limits 0 text.toList (parse limits text) := by
  -- joining line ends drops characters, so the text has what the joined text has
  have hlines := unifyLineEnds_sublist text.toList
  have hdraft := Draft.statements_reads limits ((unifyLineEnds text.toList).length + 1) {}
    (unifyLineEnds text.toList)
  exact .entering ((hdraft.weaken (fun _ _ => List.nil_suffix) hlines).map fun _ => rfl)

lemma parse_allowed {limits : Limits} {text : String} (h : limits.Allow text) :
    parse limits text ≠ .error .tooDeep ∧ parse limits text ≠ .error .tooLong := by
  have hreads := parse_reads limits text
  constructor
  · intro hdeep
    rw [hdeep] at hreads
    obtain ⟨n, hn, rest, hfits⟩ := hreads
    rw [Nat.zero_add] at hn
    rw [h.fits n hn rest] at hfits
    cases hfits
  · intro hlong
    rw [hlong] at hreads
    rw [Reads, h.takes] at hreads
    cases hreads

lemma skipLines_brackets (fuel n : Nat) :
    skipLines (fuel + 1) (List.replicate n '[') = some (List.replicate n '[') := by
  cases n with
  | zero => rfl
  | succ n => rfl

section Deep

variable {limits : Limits} {most calls n fuel : Nat}
  (hfits : ∀ calls rest, most < calls → limits.fits calls rest = false)

include hfits

lemma readValue_deep (hn : most < calls + arrayCalls * n) (hcalls : calls ≤ most)
    (hfuel : 2 * n ≤ fuel) :
    readValue limits calls fuel (List.replicate n '[') = .error .tooDeep := by
  induction n generalizing calls fuel with
  | zero => exact absurd hn (Nat.not_lt.2 hcalls)
  | succ n ih =>
    obtain ⟨fuel, rfl⟩ := Nat.exists_eq_add_of_le' (Nat.le_trans (by omega : 2 ≤ _) hfuel)
    rw [List.replicate_succ, readValue, Limits.enter]
    split
    · next henter =>
      -- the calls of this bracket are still within the limit, those of all that follow are not
      have hcalls' : calls + arrayCalls ≤ most := by
        by_contra hlt
        rw [hfits _ _ (Nat.lt_of_not_le hlt)] at henter
        cases henter
      have hn' : most < calls + arrayCalls + arrayCalls * n := by
        rw [Nat.mul_succ] at hn
        omega
      have hitems : readItems limits (calls + arrayCalls) (fuel + 1) (List.replicate n '[') =
          .error .tooDeep := by
        rw [readItems, ih hn' hcalls' (by omega)]
        rfl
      simp only [bind, Except.bind, skipLines_brackets, wellFormed]
      split
      · next he =>
        have hmem : ']' ∈ List.replicate n '[' := he ▸ List.mem_cons_self
        exact absurd (List.eq_of_mem_replicate hmem) (by decide)
      · rw [hitems]
    · rfl

end Deep

namespace Moments

lemma mark_replicate {c x : Char} (h : x ≠ c) (n : Nat) : mark c (List.replicate n x) = none := by
  cases n with
  | zero => rfl
  | succ n => exact if_neg h

lemma field_replicate (width low high n : Nat) (x : Char) :
    field width low high (List.replicate n x) = none ∨
      ∃ v, field width low high (List.replicate n x) = some (v, List.replicate (n - width) x) := by
  fun_cases field width low high (List.replicate n x) with
  | case1 => exact Or.inr ⟨_, congrArg (fun rest => some (_, rest)) List.drop_replicate⟩
  | case2 => exact Or.inl rfl
  | case3 => exact Or.inl rfl

lemma moment_replicate {x : Char} (hday : x ≠ '-') (hclock : x ≠ ':') (n : Nat) :
    moment (List.replicate n x) = none := by
  have hd : day (List.replicate n x) = none := by
    rcases field_replicate 4 0 9999 n x with h | ⟨v, h⟩
    · simp [day, h]
    · simp [day, h, mark_replicate hday]
  have hc : clock (List.replicate n x) = none := by
    rcases field_replicate 2 0 23 n x with h | ⟨v, h⟩
    · simp [clock, h]
    · simp [clock, h, mark_replicate hclock]
  have hdated : dated (List.replicate n x) = none := by
    rw [dated, hd]
    rfl
  rw [moment, hdated, hc]
  rfl

end Moments

namespace Numbers

lemma row_ones (n : Nat) :
    row Numeral.Decimal.isDigit (List.replicate n '1') = (List.replicate n '1', []) := by
  induction n with
  | zero => rfl
  | succ n ih =>
    have hcons : row Numeral.Decimal.isDigit ('1' :: List.replicate n '1') =
        ('1' :: (row Numeral.Decimal.isDigit (List.replicate n '1')).1,
          (row Numeral.Decimal.isDigit (List.replicate n '1')).2) := rfl
    rw [List.replicate_succ, hcons, ih]

lemma decimal_long {limits : Limits} {n : Nat} (h : limits.takesDigits (n + 1) = false) :
    decimal limits ('1' :: List.replicate n '1') = .error .tooLong := by
  have hsign : signed ('1' :: List.replicate n '1') = ([], '1' :: List.replicate n '1') := rfl
  have hwhole : whole ('1' :: List.replicate n '1') = some ('1' :: List.replicate n '1', []) :=
    congrArg some (row_ones (n + 1))
  have hpart : fraction [] = ([], []) := rfl
  have hpower : exponent [] = ([], []) := rfl
  simp only [decimal, hsign, hwhole, wellFormed, bind, Except.bind, hpart, hpower,
    List.length_cons, List.length_replicate, h, and_self, if_true, Bool.false_eq_true, if_false]

end Numbers

lemma readValue_long {limits : Limits} {most n : Nat} (hdigits : limits.digits = some most)
    (hn : most < n) (calls fuel : Nat) :
    readValue limits calls (fuel + 1) (List.replicate n '1') = .error .tooLong := by
  obtain ⟨n, rfl⟩ := Nat.exists_eq_succ_of_ne_zero (Nat.ne_zero_of_lt hn)
  have hmoment := Moments.moment_replicate (by decide : '1' ≠ '-') (by decide) (n + 1)
  rw [List.replicate_succ] at *
  rw [readValue, hmoment]
  · exact Numbers.decimal_long (Limits.takesDigits_eq_false_iff.2 ⟨most, hdigits, hn⟩)
  all_goals simp

lemma unifyLineEnds_eq_self {cs : List Char} (h : '\r' ∉ cs) : unifyLineEnds cs = cs := by
  fun_induction unifyLineEnds cs with
  | case1 => exact absurd List.mem_cons_self h
  | case2 c cs _ ih => rw [ih (fun hc => h (List.mem_cons_of_mem _ hc))]
  | case3 => rfl

section Pair

variable {limits : Limits} {flaw : Flaw} {n : Nat} {c : Char}

lemma statement_pair (hgap : Text.isGap c = false)
    (h : readValue limits 0 (2 * n + 7) (List.replicate n c) = .error flaw) :
    Draft.statement limits {} ('a' :: '=' :: List.replicate n c) = .error flaw := by
  have hkey : Keys.dotted (n + 3) ('a' :: '=' :: List.replicate n c) =
      some (["a"], '=' :: List.replicate n c) := rfl
  have hskip : skipGap (List.replicate n c) = List.replicate n c := by
    cases n with
    | zero => rfl
    | succ n => exact List.dropWhile_cons_of_neg (by simp [hgap])
  have hpair : readPair limits 0 (2 * n + 8) ('a' :: '=' :: List.replicate n c) =
      .error flaw := by
    rw [readPair, List.length_cons, List.length_cons, List.length_replicate, hkey]
    simp only [bind, Except.bind, wellFormed, hskip, h]
  have hlength : 2 * ('a' :: '=' :: List.replicate n c).length + 4 = 2 * n + 8 := by
    simp only [List.length_cons, List.length_replicate]
    omega
  change (do
    let pair ← readPair limits 0 (2 * _ + 4) ('a' :: '=' :: List.replicate n c)
    pure (← wellFormed (Draft.addPair {} pair.1 pair.2.1), pair.2.2)) = _
  rw [hlength, hpair]
  rfl

lemma parse_pair (hc : c ≠ '\r') (hgap : Text.isGap c = false)
    (hroom : ∀ rest, limits.fits 0 rest = true)
    (h : readValue limits 0 (2 * n + 7) (List.replicate n c) = .error flaw) :
    parse limits (String.ofList ('a' :: '=' :: List.replicate n c)) = .error flaw := by
  have hlines : unifyLineEnds ('a' :: '=' :: List.replicate n c) = _ :=
    unifyLineEnds_eq_self (by simp [hc.symm])
  have hfirst : skipGap ('a' :: '=' :: List.replicate n c) = 'a' :: '=' :: List.replicate n c := rfl
  simp only [parse, Limits.enter, hroom, if_true, String.toList_ofList, hlines, Draft.statements,
    hfirst, statement_pair hgap h]
  rfl

end Pair

theorem parse_deep {limits : Limits} {most n : Nat}
    (hfits : ∀ calls rest, limits.fits calls rest = decide (calls ≤ most))
    (hn : most < arrayCalls * n) :
    parse limits (String.ofList ('a' :: '=' :: List.replicate n '[')) = .error .tooDeep := by
  have hroom : ∀ rest, limits.fits 0 rest = true := fun rest => by simp [hfits]
  have hnone : ∀ calls rest, most < calls → limits.fits calls rest = false :=
    fun calls rest h => by simpa [hfits] using h
  exact parse_pair (by decide) (by decide) hroom
    (readValue_deep hnone (by omega) (Nat.zero_le _) (by omega))

theorem parse_long {limits : Limits} {most n : Nat} (hdigits : limits.digits = some most)
    (hroom : ∀ rest, limits.fits 0 rest = true) (hn : most < n) :
    parse limits (String.ofList ('a' :: '=' :: List.replicate n '1')) = .error .tooLong :=
  parse_pair (by decide) (by decide) hroom (readValue_long hdigits hn 0 _)

end TraceFields.Toml
