import TraceFields.Proofs.Serving

namespace TraceFields.Script

variable {depth : Nat}

lemma Obeys.succ (h : Obeys (runStep depth) (stepLaw depth)) :
    Obeys (runStep (depth + 1)) (stepLaw (depth + 1)) := by
  intro L H s step hs hn
  -- Keeping what a step makes comes after it and touches no environment.
  have hkept := frame_runWith (runStep depth) step s
  obtain ⟨K, hlaw, hdone⟩ :
    ∃ K, stepLaw (depth + 1) L H s step K ∧
    Done K H s ((makeWith (runStep depth) step).after s) := by
    cases hn with
    | command hc => exact ⟨H, rfl, make_command hc _ hs _⟩
    | scope hb => exact make_scoped h hs _ _ hb _
    | wrap hb => exact make_wrap hs _ _ hb _ _
    | call => exact make_call h hs _ _
    | thread hb => exact make_thread h hs hb
    | serve hb => exact make_serve h hs _ _ hb
  exact ⟨K, hlaw, hdone.extends_, hdone.records.frame hkept, hkept.ambient.trans hdone.ambient⟩

lemma obeys_runStep (depth : Nat) : Obeys (runStep depth) (stepLaw depth) := by
  induction depth with
  | zero => exact fun {L H s step} hs _ => ⟨H, rfl, .refl H, hs.records, rfl⟩
  | succ depth ih => exact ih.succ

lemma obeys_runTop : Obeys runTop (stepLaw deepest) := by
  intro L H s step hs hn
  obtain ⟨K, hlaw, hext, hrec, hamb⟩ := obeys_runStep deepest hs hn
  exact ⟨K, hlaw, hext, hrec.mono rfl rfl (Nat.le_refl _), hamb⟩

/-- Scripts in which scopes are blocks are lexically scoped. Before and after each step that is run,
in whatever body, resolvers give what the scopes around the body say, and environments that were
captured give what the scopes said within which they were made. A body runs within its scope, a
routine within the scopes around the place where it was wrapped, a unit within none, the handler of
a request within the scope of what the request brought; and each of them, however it ends, leaves
active what was active before. It is the same for any bound on how deeply bodies are nested. -/
theorem run_lexically_scoped (sources : Sources) {steps : List Step}
    (hn : ∀ step ∈ steps, step.Nested) :
    (∃ K, BodyRuns runTop (stepLaw deepest) [] .start { sources } steps K) ∧
      ∀ depth, ∃ K, BodyRuns (runStep depth) (stepLaw depth) [] .start { sources } steps K := by
  have hs : Sound [] .start { sources } := ⟨Records.start sources, rfl⟩
  refine ⟨?_, fun depth => ?_⟩
  · obtain ⟨K, hruns, -⟩ := obeys_runTop.body hs hn
    exact ⟨K, hruns⟩
  · obtain ⟨K, hruns, -⟩ := Obeys.body (obeys_runStep depth) hs hn
    exact ⟨K, hruns⟩

theorem run_lexically_scoped_two_blocks :
    let sources : Sources := { work := ⟨"", []⟩, home := ⟨"", []⟩ }
    let a : TraceContext := { traceId := some "1", spanId := some "a" }
    let b : TraceContext := { traceId := some "2", spanId := some "b" }
    let read : Step := .command (.active (some "r") none) none
    let parent := "00-0af7651916cd43dd8448eb211c80319c-b7ad6b7169203331-01"
    let request : Request Step :=
      { headers := [(.text "traceparent", some parent)], keep := none, handler := [read]
        raises := true, response := .nothing }
    let steps : List Step :=
      [.command .resolver (some "r"), .command (.context a (.items [])) (some "a"),
        .command (.context b (.items [])) (some "b"),
        .scoped (some "r") (some "a")
          [.wrap (some "r") [read] .failsLast (some "f"), .call (some "f") []] true,
        .scoped (some "r") (some "b")
          [.call (some "f") [], .thread [read],
            .serve (.plain .identity) (some "r") [request], read] false,
        read]
    (∃ K, BodyRuns runTop (stepLaw deepest) [] .start { sources } steps K) ∧
      (match ((TraceFields.Script.run sources steps)[4]?).map Reply.outcome with
        | some (.ok (.scoped [.error .raised, .ok (.batch [.ok .nothing]),
            .ok (.served [⟨.error .raised, [.ok (.context c _)], _⟩]), .ok (.context d _)] _)) =>
            (c.spanId, d.spanId)
        | _ => (none, none)) = (some "b7ad6b7169203331", some "b") := by
  intro sources a b read parent request steps
  have hread : read.Nested := .command trivial
  have hreads : ∀ step ∈ [read], step.Nested := fun step h => List.mem_singleton.1 h ▸ hread
  refine ⟨(run_lexically_scoped sources fun step hstep => ?_).1, by decide +kernel⟩
  simp only [steps, List.mem_cons, List.not_mem_nil, or_false] at hstep
  rcases hstep with rfl | rfl | rfl | rfl | rfl | rfl
  · exact .command trivial
  · exact .command trivial
  · exact .command trivial
  · refine .scope fun step hstep => ?_
    simp only [List.mem_cons, List.not_mem_nil, or_false] at hstep
    rcases hstep with rfl | rfl
    · exact .wrap hreads
    · exact .call
  · refine .scope fun step hstep => ?_
    simp only [List.mem_cons, List.not_mem_nil, or_false] at hstep
    rcases hstep with rfl | rfl | rfl | rfl
    · exact .call
    · exact .thread hreads
    · exact .serve fun q hq => List.mem_singleton.1 hq ▸ hreads
    · exact hread
  · exact hread

end TraceFields.Script
