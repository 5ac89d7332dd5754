import Mathlib.Tactic.Lemma
import Mathlib.Tactic.Ring
import TraceFields.Identity.Traceparent
import TraceFields.Proofs.Cutting

/-!
Hexadecimal numerals of lower-case digits: what is written is read back, and a numeral is determined
by its width and its value.
-/

namespace TraceFields.Numeral.Hex

open Identity.Traceparent (isLowerHex)

def valueFrom (acc : Nat) (cs : List Char) : Nat :=
  cs.foldl (fun n c => 16 * n + (digitValue? c).getD 0) acc

def value (cs : List Char) : Nat := valueFrom 0 cs

lemma digit_spec : ∀ n < 16, digitValue? (digit n) = some n ∧
    isLowerHex (digit n) = true := by decide

lemma digitValue?_of_lowerHex {c : Char} (h : isLowerHex c = true) :
    ∃ n < 16, digitValue? c = some n ∧ digit n = c := by
  have hs : ∀ m < 128, isLowerHex (Char.ofNat m) = true →
      ∃ n < 16, digitValue? (Char.ofNat m) = some n ∧ digit n = Char.ofNat m := by decide
  have hc : c.toNat < 128 := by
    simp only [isLowerHex, Bool.or_eq_true, Bool.and_eq_true, decide_eq_true_eq, Char.le_def,
      UInt32.le_iff_toNat_le] at h
    change c.val.toNat < 128
    rcases h with ⟨-, h⟩ | ⟨-, h⟩ <;> exact lt_of_le_of_lt h (by decide)
  exact Text.of_ascii (P := fun c => isLowerHex c = true →
    ∃ n < 16, digitValue? c = some n ∧ digit n = c) hs hc h

lemma valueFrom_append (acc : Nat) (cs ds : List Char) :
    valueFrom acc (cs ++ ds) = valueFrom (valueFrom acc cs) ds :=
  List.foldl_append

lemma valueFrom_eq (acc : Nat) (cs : List Char) :
    valueFrom acc cs = acc * 16 ^ cs.length + value cs := by
  induction cs generalizing acc with
  | nil => simp [valueFrom, value]
  | cons c cs ih =>
    have hh := ih (16 * acc + (digitValue? c).getD 0)
    have hz := ih (16 * 0 + (digitValue? c).getD 0)
    simp only [valueFrom, value, List.foldl_cons, List.length_cons] at hh hz ⊢
    rw [hh, hz]
    ring

lemma valueFrom_inj {acc bcc : Nat} {cs ds : List Char} (hc : cs.all isLowerHex = true)
    (hd : ds.all isLowerHex = true) (hl : cs.length = ds.length)
    (h : valueFrom acc cs = valueFrom bcc ds) : acc = bcc ∧ cs = ds := by
  induction cs generalizing acc bcc ds with
  | nil =>
    obtain rfl : ds = [] := List.length_eq_zero_iff.1 hl.symm
    exact ⟨h, rfl⟩
  | cons c cs ih =>
    obtain ⟨d, ds, rfl⟩ : ∃ d es, ds = d :: es := List.exists_cons_of_length_eq_add_one hl.symm
    simp only [List.all_cons, Bool.and_eq_true] at hc hd
    obtain ⟨m, hm, hcm, rfl⟩ := digitValue?_of_lowerHex hc.1
    obtain ⟨n, hn, hdn, rfl⟩ := digitValue?_of_lowerHex hd.1
    obtain ⟨ha, rfl⟩ := ih hc.2 hd.2 (by simpa using hl) h
    simp only [hcm, hdn, Option.getD_some] at ha
    obtain ⟨rfl, rfl⟩ : acc = bcc ∧ m = n := by omega
    exact ⟨rfl, rfl⟩

lemma eq_of_value_eq {cs ds : List Char} (hc : cs.all isLowerHex = true)
    (hd : ds.all isLowerHex = true) (hl : cs.length = ds.length)
    (h : value cs = value ds) : cs = ds :=
  (valueFrom_inj hc hd hl h).2

lemma value_lt {cs : List Char} (h : cs.all isLowerHex = true) : value cs < 16 ^ cs.length := by
  induction cs with
  | nil => simp [value, valueFrom]
  | cons c cs ih =>
    simp only [List.all_cons, Bool.and_eq_true] at h
    obtain ⟨n, hn, hv, -⟩ := digitValue?_of_lowerHex h.1
    have hc : value (c :: cs) = valueFrom n cs := by simp [value, valueFrom, hv]
    have hi := ih h.2
    have hp : n * 16 ^ cs.length ≤ 15 * 16 ^ cs.length := Nat.mul_le_mul_right _ (by omega)
    rw [hc, valueFrom_eq, List.length_cons, pow_succ]
    omega

lemma value_replicate_zero (n : Nat) : value (List.replicate n '0') = 0 := by
  induction n with
  | zero => rfl
  | succ n ih => simpa [value, valueFrom, List.replicate_succ, digitValue?] using ih

lemma value_eq_zero_iff {cs : List Char} (h : cs.all isLowerHex = true) :
    value cs = 0 ↔ Identity.Traceparent.isZero cs = true := by
  have hz : (List.replicate cs.length '0').all isLowerHex = true := by
    rw [List.all_replicate]
    split <;> rfl
  constructor
  · intro hv
    have he := eq_of_value_eq h hz (by simp) (hv.trans (value_replicate_zero _).symm)
    rw [Identity.Traceparent.isZero, he]
    simp
  · intro hv
    have he : cs = List.replicate cs.length '0' :=
      List.eq_replicate_iff.2 ⟨rfl, by simpa [Identity.Traceparent.isZero] using hv⟩
    rw [he]
    exact value_replicate_zero _

section Digits

lemma digits_of_lt {n : Nat} (h : n < 16) : digits n = [digit n] := by rw [digits, if_pos h]

lemma digits_of_le {n : Nat} (h : ¬ n < 16) : digits n = digits (n / 16) ++ [digit (n % 16)] := by
  rw [digits, if_neg h]

lemma all_lowerHex_digits (n : Nat) : (digits n).all isLowerHex = true := by
  induction n using digits.induct with
  | case1 n h => simp [digits_of_lt h, (digit_spec n h).2]
  | case2 n h ih => simpa [digits_of_le h, (digit_spec (n % 16) (by omega)).2] using ih

lemma value_digits (n : Nat) : value (digits n) = n := by
  induction n using digits.induct with
  | case1 n h => simp [digits_of_lt h, value, valueFrom, (digit_spec n h).1]
  | case2 n h ih =>
    rw [digits_of_le h, value, valueFrom_append]
    change valueFrom (value (digits (n / 16))) _ = n
    rw [ih]
    simp only [valueFrom, List.foldl_cons, List.foldl_nil, (digit_spec (n % 16) (by omega)).1,
      Option.getD_some]
    omega

lemma digits_ne_nil (n : Nat) : digits n ≠ [] := by
  rw [digits]
  split <;> simp

lemma length_digits_le {n w : Nat} (hw : 0 < w) (h : n < 16 ^ w) : (digits n).length ≤ w := by
  induction n using digits.induct generalizing w with
  | case1 n hn =>
    rw [digits_of_lt hn]
    exact hw
  | case2 n hn ih =>
    obtain ⟨w, rfl⟩ : ∃ v, w = v + 1 := ⟨w - 1, by omega⟩
    have hw' : 0 < w := by
      rcases Nat.eq_zero_or_pos w with rfl | hp
      · simp at h
        omega
      · exact hp
    have hlt : n / 16 < 16 ^ w := by
      rw [pow_succ] at h
      omega
    have hh := ih hw' hlt
    rw [digits_of_le hn]
    simpa using hh

end Digits

section Write

variable {width n : Nat}

lemma all_lowerHex_chars : (chars width n).all isLowerHex = true := by
  have hn : ¬ (n : Int) < 0 := by omega
  simp only [chars, hn, if_false, pad, List.all_append, List.all_replicate, Bool.and_eq_true]
  refine ⟨?_, all_lowerHex_digits _⟩
  split <;> rfl

lemma value_chars : value (chars width n) = n := by
  have hn : ¬ (n : Int) < 0 := by omega
  simp only [chars, hn, if_false, pad, value, valueFrom_append, Int.natAbs_natCast]
  have hz : valueFrom 0 (List.replicate (width - (digits n).length) '0') = 0 :=
    value_replicate_zero _
  rw [hz]
  exact value_digits n

lemma length_chars (hw : 0 < width) (h : n < 16 ^ width) : (chars width n).length = width := by
  have hn : ¬ (n : Int) < 0 := by omega
  have hl := length_digits_le hw h
  simp only [chars, hn, if_false, pad, List.length_append, List.length_replicate,
    Int.natAbs_natCast]
  omega

lemma lt_length_chars (h : 16 ^ width ≤ n) : width < (chars width n).length := by
  have hlt := value_lt (@all_lowerHex_chars width n)
  rw [value_chars] at hlt
  exact (Nat.pow_lt_pow_iff_right (by decide)).1 (lt_of_le_of_lt h hlt)

lemma chars_ne_nil : chars width n ≠ [] := by
  have hn : ¬ (n : Int) < 0 := by omega
  simp [chars, hn, pad, digits_ne_nil]

lemma chars_of_neg {width : Nat} {n : Int} (h : n < 0) :
    chars width n = '-' :: chars (width - 1) n.natAbs := by
  have hn : ¬ (n.natAbs : Int) < 0 := by omega
  simp only [chars, h, hn, if_true, if_false, Int.natAbs_natCast]

lemma chars_value {cs : List Char} (hc : cs.all isLowerHex = true) (hp : 0 < cs.length) :
    chars cs.length (value cs) = cs :=
  eq_of_value_eq all_lowerHex_chars hc (length_chars hp (value_lt hc)) value_chars

end Write

section Read

lemma lowerHex_plain : ∀ c : Char, isLowerHex c = true →
    plain c = c ∧ isSpace c = false ∧ c ≠ '-' ∧ c ≠ '+' ∧ c ≠ 'x' ∧ c ≠ 'X' ∧ c ≠ '_' := by
  intro c hc
  obtain ⟨n, hn, -, rfl⟩ := digitValue?_of_lowerHex hc
  have hs : ∀ n < 16, plain (digit n) = digit n ∧ isSpace (digit n) = false ∧ digit n ≠ '-' ∧
      digit n ≠ '+' ∧
        digit n ≠ 'x' ∧ digit n ≠ 'X' ∧ digit n ≠ '_' := by decide
  exact hs n hn

lemma readDigits_lowerHex {cs : List Char} (h : cs.all isLowerHex = true) (acc : Nat) :
    readDigits 16 digitValue? acc cs = some (valueFrom acc cs) := by
  induction cs generalizing acc with
  | nil => rfl
  | cons c cs ih =>
    simp only [List.all_cons, Bool.and_eq_true] at h
    obtain ⟨n, -, hv, -⟩ := digitValue?_of_lowerHex h.1
    have hu : c ≠ '_' := (lowerHex_plain c h.1).2.2.2.2.2.2
    rw [readDigits.eq_3 _ _ _ _ _ (fun d ds he => absurd he hu), hv, Option.bind_some, ih h.2]
    simp [valueFrom, hv]

lemma dropMark_lowerHex {cs : List Char} (h : cs.all isLowerHex = true) : dropMark cs = cs := by
  unfold dropMark
  split
  all_goals first
    | rfl
    | exact absurd h (by simp [isLowerHex])

lemma magnitude_lowerHex {cs : List Char} (h : cs.all isLowerHex = true) (hn : cs ≠ []) :
    magnitude cs = some (value cs) := by
  rw [magnitude, dropMark_lowerHex h]
  cases cs with
  | nil => exact absurd rfl hn
  | cons c cs =>
    simp only [List.all_cons, Bool.and_eq_true] at h
    obtain ⟨n, -, hv, -⟩ := digitValue?_of_lowerHex h.1
    rw [readNat, hv, Option.bind_some, readDigits_lowerHex h.2]
    simp [value, valueFrom, hv]

lemma map_plain_lowerHex {cs : List Char} (h : cs.all isLowerHex = true) : cs.map plain = cs := by
  conv_rhs => rw [← List.map_id cs]
  exact List.map_congr_left fun c hc => (lowerHex_plain c (List.all_eq_true.1 h c hc)).1

lemma read?_lowerHex {cs : List Char} (h : cs.all isLowerHex = true) (hn : cs ≠ []) :
    read? (String.ofList cs) = some (value cs : Int) := by
  have hall : ∀ c ∈ cs, isLowerHex c = true := List.all_eq_true.1 h
  rw [read?, readText, String.toList_ofList, map_plain_lowerHex h,
    Text.trim_eq_self (Text.Trimmed.of_forall fun c hc => (lowerHex_plain c (hall c hc)).2.1)]
  cases cs with
  | nil => exact absurd rfl hn
  | cons c cs =>
    obtain ⟨-, -, hm, hq, -⟩ := lowerHex_plain c (hall c (by simp))
    rw [readSigned.eq_3 _ _ (fun ds he => hm (List.cons.inj he).1) (fun ds he => hq (List.cons.inj he).1),
      magnitude_lowerHex h hn]
    rfl

lemma read?_minus {cs : List Char} (h : cs.all isLowerHex = true) (hn : cs ≠ []) :
    read? (String.ofList ('-' :: cs)) = some (-(value cs : Int)) := by
  have hminus : plain '-' = '-' ∧ isSpace '-' = false := by decide
  have hspace : ∀ c ∈ '-' :: cs, isSpace c = false := List.forall_mem_cons.2
    ⟨hminus.2, fun c hc => (lowerHex_plain c (List.all_eq_true.1 h c hc)).2.1⟩
  rw [read?, readText, String.toList_ofList, List.map_cons, hminus.1, map_plain_lowerHex h,
    Text.trim_eq_self (Text.Trimmed.of_forall hspace), readSigned, magnitude_lowerHex h hn]
  rfl

lemma read?_write (width : Nat) (n : Int) : read? (write width n) = some n := by
  rw [write]
  rcases lt_or_ge n 0 with hneg | hpos
  · rw [chars_of_neg hneg, read?_minus all_lowerHex_chars chars_ne_nil, value_chars]
    congr 1
    omega
  · obtain ⟨m, rfl⟩ := Int.eq_ofNat_of_zero_le hpos
    rw [read?_lowerHex all_lowerHex_chars chars_ne_nil, value_chars]

end Read

end TraceFields.Numeral.Hex
