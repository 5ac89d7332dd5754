import TraceFields.Entries

/-!
What is active on an execution unit.
-/

namespace TraceFields

structure ResolverId where
  index : Nat
deriving DecidableEq, Repr

abbrev Environment (α : Type) := Entries ResolverId (Option α)

namespace Environment

variable {α : Type}

def empty : Environment α := []

def active (env : Environment α) (r : ResolverId) : Option α := (Entries.at? env r).join

def enter (env : Environment α) (r : ResolverId) (value : Option α) : Environment α :=
  Entries.put env r value

theorem active_enter (env : Environment α) (r : ResolverId) (value : Option α) (q : ResolverId) :
    (env.enter r value).active q = if r = q then value else env.active q := by
  unfold active enter
  rw [Entries.at?_put]
  split <;> rfl

end Environment

structure Scope (ε : Type) where
  name : Option String
  owner : Nat
  outer : ε

structure Ambient (ε : Type) where
  unit : Nat := 0
  env : ε
  scopes : List (Scope ε) := []

def takeFirst? {β : Type} (p : β → Bool) : List β → Option (β × List β)
  | [] => none
  | b :: bs => if p b then some (b, bs) else (takeFirst? p bs).map fun (x, rest) => (x, b :: rest)

namespace Ambient

variable {ε : Type}

def enter (a : Ambient ε) (inner : ε) (name : Option String) : Ambient ε :=
  { a with env := inner, scopes := ⟨name, a.unit, a.env⟩ :: a.scopes }

/-- Closes the latest scope that is open, or the latest of a name. What was active where it was
opened is active again; a scope of another unit does not change what is active here. -/
def exit? (a : Ambient ε) (name : Option String) : Option (Ambient ε) :=
  (takeFirst? (fun s : Scope ε => name.isNone || s.name = name) a.scopes).map fun (s, scopes) =>
    { a with env := if s.owner = a.unit then s.outer else a.env, scopes }

def switch (a : Ambient ε) (unit : Nat) (env : ε) : Ambient ε := { a with unit, env }

def restore (before after : Ambient ε) : Ambient ε :=
  { after with unit := before.unit, env := before.env }

theorem exit?_enter (a : Ambient ε) (inner : ε) (name : Option String) :
    (a.enter inner name).exit? none = some a := by
  simp [enter, exit?, takeFirst?]

end Ambient

end TraceFields
