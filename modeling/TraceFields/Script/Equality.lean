import TraceFields.Script.State

namespace TraceFields.Script

def sameList {α : Type} (alike : α → α → Bool) (as bs : List α) : Bool :=
  as.length == bs.length && (as.zip bs).all fun e => alike e.1 e.2

def sameOption {α : Type} (alike : α → α → Bool) : Option α → Option α → Bool
  | some a, some b => alike a b
  | none, none => true
  | _, _ => false

namespace State

def equalWithin (s : State) : (bound : Nat) → Object → Object → Bool
  | 0, a, b => a.isSame b
  | bound + 1, a, b =>
    let alike := s.equalWithin bound
    let alikeExtensions := sameList fun
      | .other m, .other n => m == n || sameOption alike s.others[m]? s.others[n]?
      | e, f => e = f
    let alikePairs := Entries.sameBy (· == ·) (s.pairs a) (s.pairs b)
    a.isSame b || match a, b with
      | .context ⟨_, c⟩, .context ⟨_, d⟩ =>
        c.withExtensions [] = d.withExtensions [] && alikeExtensions c.extensions d.extensions
      | .extraction _ c p es, .extraction _ d q fs => p = q && alike c d && alikeExtensions es fs
      | .carrier _, .carrier _ => alikePairs
      | .environment m, .environment n =>
        Entries.sameBy (sameOption alike) (s.environment m) (s.environment n) && alikePairs
      | .environment n, .carrier _ | .carrier _, .environment n =>
          (s.environment n).isEmpty && alikePairs
      | _, _ => false

def equal (s : State) (a b : Object) : Bool := s.equalWithin (s.fresh + 1) a b

end State

end TraceFields.Script
