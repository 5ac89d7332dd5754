import TraceFields.Proofs.Entering

namespace TraceFields.Script

open Run

structure Agree (s : State) (ref contextRef : Ref) : Prop where
  get (name : Option String) :
    (perform (.getActive name ref)).run.run s = (perform (.get contextRef name)).run.run s
  set (name value : Option String) :
    (perform (.setActive name value ref)).run.run s =
      (perform (.set contextRef name value)).run.run s
  send (headers : List (Key × Option String)) (p : Ref) :
    (perform (.injectHeaders headers p none ref)).run.run s =
      (perform (.injectHeaders headers p contextRef none)).run.run s

variable {s : State}

section Reached

variable {sources : Sources} {steps : List Step} {before after : List Event}

end Reached

end TraceFields.Script
