import TraceFields.Proofs.StateHeader

namespace TraceFields

open KeyTable (addressed addressed_cons ofNames)
open Identity (IsId parentName stateName stateHeader keptState)

lemma Heap.fields_set_eq_putAll (h : Heap) (id : StoreId) (name value : Option String) :
    ∃ sets, (h.set id name value).fields id = (h.fields id).putAll sets := by
  by_cases hid : h.Holds id
  · exact ⟨[(name, value)], Heap.fields_set_self hid name value⟩
  · have hnone : h.stores[id.index]? = none := List.getElem?_eq_none (Nat.le_of_not_lt hid)
    refine ⟨[], ?_⟩
    simp [Heap.fields, Heap.set, hnone, Entries.putAll]

lemma Heap.fields_foldl_set (h : Heap) (id : StoreId) (values : Fields) :
    ∃ sets, (values.foldl (fun heap e => heap.set id e.1 e.2) h).fields id =
      (h.fields id).putAll sets := by
  induction values generalizing h with
  | nil => exact ⟨[], rfl⟩
  | cons e values ih =>
    obtain ⟨sets, hset⟩ := h.fields_set_eq_putAll id e.1 e.2
    obtain ⟨more, hmore⟩ := ih (h.set id e.1 e.2)
    refine ⟨sets ++ more, ?_⟩
    rw [Entries.putAll_append, ← hset]
    exact hmore

def callEach (set : Setter) (calls : List (Key × Option String)) : Sending Unit :=
  calls.forM fun e => set e.1 e.2

lemma callEach_cons (set : Setter) (e : Key × Option String) (calls : List (Key × Option String)) :
    callEach set (e :: calls) = set e.1 e.2 >>= fun _ => callEach set calls := List.forM_cons

lemma callEach_append (set : Setter) (calls more : List (Key × Option String)) :
    callEach set (calls ++ more) = callEach set calls >>= fun _ => callEach set more :=
  List.forM_append

lemma sendAll_eq (set : Setter) (table : KeyTable) (values : List (String × Option String)) :
    sendAll set table values = callEach set (table.addressed values) := by
  induction values with
  | nil => rfl
  | cons e values ih =>
    rw [sendAll_cons, addressed_cons]
    cases table.key? e.1 with
    | none => exact ih
    | some k =>
      rw [Option.map_some, Option.toList_some, List.singleton_append, callEach_cons]
      exact congrArg (set k e.2 >>= ·) (funext fun _ => ih)

def snapshot (table headers : KeyTable) (c : TraceContext) (heap : Heap) :
    List (Key × Option String) :=
  table.addressed (heap.fieldsOf c.store?).named ++ headers.addressed (Propagation.identitySent c)

lemma run_inject_fields {c : TraceContext} {hs : Entries String String}
    (h : Identity.headers c = .ok hs) (table headers : KeyTable) (set : Setter) (d : Delivery) :
    (((Propagation.identity headers).withFields table).inject set c).run.run d =
      (callEach set (snapshot table headers c d.heap)).run.run d := by
  have hheaders : (Propagation.identity headers).inject set c =
      callEach set (headers.addressed (Propagation.identitySent c)) := by
    rw [Propagation.identity, Propagation.identitySent, h, ← sendAll_eq]
    simp only [h]
  have hfields : (Propagation.sendFields set table c.store?).run.run d =
      (callEach set (table.addressed (d.heap.fieldsOf c.store?).named)).run.run d := by
    rw [← sendAll_eq]
    cases c.store? <;> rfl
  rw [snapshot, callEach_append, run_bind, ← hfields, ← hheaders, ← run_bind]
  rfl

structure SetterCall where
  key : Key
  value : Option String
  sets : Fields := []
  fault : Option Fault := none

namespace SetterCall

def given (call : SetterCall) : Key × Option String := (call.key, call.value)

def result (call : SetterCall) : Except Fault Unit :=
  match call.fault with
  | some fault => .error fault
  | none => .ok ()

def write (call : SetterCall) (carrier : Carrier) : Carrier :=
  match call.fault with
  | some _ => carrier
  | none => carrier.put call.key call.value

end SetterCall

namespace Setter

structure Makes (set : Setter) (id : StoreId) (call : SetterCall) (d d' : Delivery) : Prop where
  run_eq : (set call.key call.value).run.run d = (call.result, d')
  fields_eq : d'.heap.fields id = (d.heap.fields id).putAll call.sets
  carrier_eq : d'.carrier = call.write d.carrier

/-- A setter that in each call may set fields of the store and then writes what it is given or
fails. -/
def Reentrant (set : Setter) (id : StoreId) : Prop :=
  ∀ key value d, ∃ call d', call.given = (key, value) ∧ set.Makes id call d d'

inductive Run (set : Setter) (id : StoreId) :
    List (Key × Option String) → Delivery → List SetterCall → Except Fault Unit → Delivery → Prop
  | done (d : Delivery) : Run set id [] d [] (.ok ()) d
  | failed {call : SetterCall} {fault : Fault} {d d' : Delivery}
      (calls : List (Key × Option String)) (makes : set.Makes id call d d')
      (fails : call.fault = some fault) :
      Run set id (call.given :: calls) d [call] (.error fault) d'
  | next {call : SetterCall} {d d₁ d₂ : Delivery} {calls : List (Key × Option String)}
      {made : List SetterCall} {result : Except Fault Unit} (makes : set.Makes id call d d₁)
      (writes : call.fault = none) (rest : Run set id calls d₁ made result d₂) :
      Run set id (call.given :: calls) d (call :: made) result d₂

variable {set : Setter} {id : StoreId} {calls : List (Key × Option String)} {d d' : Delivery}
  {made : List SetterCall} {result : Except Fault Unit}

lemma Reentrant.run (hset : set.Reentrant id) (calls : List (Key × Option String)) (d : Delivery) :
    ∃ made result d', (callEach set calls).run.run d = (result, d') ∧
      Run set id calls d made result d' := by
  induction calls generalizing d with
  | nil => exact ⟨[], _, d, rfl, .done d⟩
  | cons e calls ih =>
    obtain ⟨key, value⟩ := e
    obtain ⟨call, d₁, hgiven, hmakes⟩ := hset key value d
    obtain ⟨rfl, rfl⟩ := Prod.mk.inj hgiven
    have hrun := hmakes.run_eq
    rw [callEach_cons, run_bind]
    cases hfault : call.fault with
    | some fault =>
      rw [SetterCall.result, hfault] at hrun
      refine ⟨[call], .error fault, d₁, ?_, .failed calls hmakes hfault⟩
      rw [hrun]
    | none =>
      rw [SetterCall.result, hfault] at hrun
      obtain ⟨made, result, d₂, hrest, hmade⟩ := ih d₁
      refine ⟨call :: made, result, d₂, ?_, .next hmakes hfault hmade⟩
      rw [hrun]
      exact hrest

namespace Run

lemma given_prefix (h : Run set id calls d made result d') :
    made.map SetterCall.given <+: calls := by
  induction h with
  | done d => exact List.prefix_rfl
  | failed calls makes fails => exact List.prefix_append _ _
  | next makes writes rest ih => exact List.cons_prefix_cons.2 ⟨rfl, ih⟩

lemma fields_eq (h : Run set id calls d made result d') :
    d'.heap.fields id = (d.heap.fields id).putAll (made.flatMap SetterCall.sets) := by
  induction h with
  | done d => rfl
  | failed calls makes fails => rw [makes.fields_eq, List.flatMap_singleton]
  | next makes writes rest ih =>
    rw [ih, makes.fields_eq, List.flatMap_cons, Entries.putAll_append]

lemma outcome (h : Run set id calls d made result d') :
    (result = .ok () ∧ made.map SetterCall.given = calls ∧ (∀ call ∈ made, call.fault = none) ∧
      d'.carrier = d.carrier.putAll calls) ∨
    ∃ before last fault, made = before ++ [last] ∧ (∀ call ∈ before, call.fault = none) ∧
      last.fault = some fault ∧ result = .error fault ∧
      d'.carrier = d.carrier.putAll (before.map SetterCall.given) := by
  induction h with
  | done d => exact .inl ⟨rfl, rfl, fun _ h => (nomatch h), rfl⟩
  | @failed call fault d d' calls makes fails =>
    refine .inr ⟨[], call, fault, rfl, fun _ h => (nomatch h), fails, rfl, ?_⟩
    rw [makes.carrier_eq, SetterCall.write, fails]
    rfl
  | @next call d d₁ d₂ calls made result makes writes rest ih =>
    have hwrite : d₁.carrier = d.carrier.put call.key call.value := by
      rw [makes.carrier_eq, SetterCall.write, writes]
    rcases ih with ⟨hok, hmade, hnone, hcarrier⟩ |
      ⟨before, last, fault, rfl, hnone, hlast, herr, hcarrier⟩
    · refine .inl ⟨hok, ?_, List.forall_mem_cons.2 ⟨writes, hnone⟩, ?_⟩
      · rw [List.map_cons, hmade]
      · rw [hcarrier, hwrite]
        rfl
    · refine .inr ⟨call :: before, last, fault, rfl, List.forall_mem_cons.2 ⟨writes, hnone⟩, hlast,
        herr, ?_⟩
      rw [hcarrier, hwrite]
      rfl

end Run

def planned (id : StoreId) (plan : Nat → Fields × Option Fault) : Setter := fun key value => do
  let d ← get
  -- the markers in the heap count the calls
  let (sets, fault) := plan d.heap.markers.length
  let heap := sets.foldl (fun heap e => heap.set id e.1 e.2) d.heap
  MonadStateOf.set { d with heap := (heap.newMarker "call").2 }
  match fault with
  | some fault => throw fault
  | none => Carrier.assign key value

lemma reentrant_planned (id : StoreId) (plan : Nat → Fields × Option Fault) :
    (planned id plan).Reentrant id := by
  intro key value d
  obtain ⟨⟨values, fault⟩, hplan⟩ : ∃ r, plan d.heap.markers.length = r := ⟨_, rfl⟩
  obtain ⟨sets, hsets⟩ := d.heap.fields_foldl_set id values
  let call : SetterCall := ⟨key, value, sets, fault⟩
  let heap := ((values.foldl (fun heap e => heap.set id e.1 e.2) d.heap).newMarker "call").2
  refine ⟨call, ⟨heap, call.write d.carrier⟩, rfl, ?_, hsets, rfl⟩
  have hrun : (planned id plan key value).run.run d =
      (match (plan d.heap.markers.length).2 with
      | some fault => throw fault
      | none => Carrier.assign key value : Sending Unit).run.run
        { d with heap := (((plan d.heap.markers.length).1.foldl
          (fun heap e => heap.set id e.1 e.2) d.heap).newMarker "call").2 } := rfl
  rw [hrun, hplan]
  cases fault <;> rfl

end Setter

lemma length_snapshot_le (table headers : KeyTable) (c : TraceContext) (heap : Heap) :
    (snapshot table headers c heap).length ≤
      (heap.fieldsOf c.store?).length + (Propagation.identitySent c).length := by
  rw [snapshot, List.length_append]
  apply Nat.add_le_add _ (List.length_filterMap_le _ _)
  exact (List.length_filterMap_le _ _).trans (List.length_filterMap_le _ _)

def stateCalls (c : TraceContext) : List (String × Option String) :=
  if keptState c = [] then [] else [(stateName, some (keptState c).render)]

lemma stateCalls_eq (c : TraceContext) :
    stateCalls c = (stateHeader c).toList.map (stateName, some ·) := by
  rw [stateCalls, Identity.stateHeader_eq, Identity.sentState_eq]
  cases keptState c with
  | nil => rfl
  | cons e es => rfl

lemma length_stateCalls_le (c : TraceContext) : (stateCalls c).length ≤ 1 := by
  rw [stateCalls_eq, List.length_map]
  exact Option.length_toList_le

/-- Sending a context makes the calls for the fields that its store holds when sending starts, in
their order and with their values of that moment, then the call for the parent header and, if
anything is kept of the state, the one for its header, whatever fields the setter sets meanwhile. If
a call fails, it is the last one, and what the calls before it wrote stays. -/
theorem inject_sends_snapshot {c : TraceContext} {t s : String} (htrace : c.traceId = some t)
    (hspan : c.spanId = some s) (ht : IsId 32 t) (hs : IsId 16 s) {id : StoreId}
    (hid : c.store? = some id) {set : Setter} (hset : set.Reentrant id) (table : KeyTable)
    (key : KeyFactory) (d : Delivery) :
    let p := (Propagation.identity (ofNames key Scheme.identityNames)).withFields table
    let parent := "00-" ++ t ++ "-" ++ s ++ "-" ++ Numeral.Hex.write 2 c.flags
    let calls := table.addressed (d.heap.fields id).named ++
      (ofNames key Scheme.identityNames).addressed ((parentName, some parent) :: stateCalls c)
    ∃ made result d', (p.inject set c).run.run d = (result, d') ∧
      set.Run id calls d made result d' ∧ made.map SetterCall.given <+: calls ∧
      made.length ≤ (d.heap.fields id).length + 2 ∧
      d'.heap.fields id = (d.heap.fields id).putAll (made.flatMap SetterCall.sets) ∧
      ((result = .ok () ∧ made.map SetterCall.given = calls ∧ (∀ call ∈ made, call.fault = none) ∧
          d'.carrier = d.carrier.putAll calls) ∨
        ∃ before last fault, made = before ++ [last] ∧ (∀ call ∈ before, call.fault = none) ∧
          last.fault = some fault ∧ result = .error fault ∧
          d'.carrier = d.carrier.putAll (before.map SetterCall.given)) := by
  intro p parent calls
  have hheaders := Identity.Canonical.headers_of_isId ht hs htrace hspan
  have hsent : Propagation.identitySent c = (parentName, some parent) :: stateCalls c := by
    rw [Propagation.identitySent, hheaders, Identity.Canonical.parent_eq ht hs, stateCalls_eq]
    simp only [List.map_cons, List.map_map, Function.comp_def]
    rfl
  have hcalls : snapshot table (ofNames key Scheme.identityNames) c d.heap = calls := by
    rw [snapshot, hid, hsent]
    rfl
  obtain ⟨made, result, d', hrun, hmade⟩ := hset.run calls d
  have hprefix := hmade.given_prefix
  refine ⟨made, result, d', ?_, hmade, hprefix, ?_, hmade.fields_eq, hmade.outcome⟩
  · rw [run_inject_fields hheaders, hcalls]
    exact hrun
  · have hlength := hprefix.length_le
    have hcount := length_snapshot_le table (ofNames key Scheme.identityNames) c d.heap
    have hstate := length_stateCalls_le c
    rw [hcalls, hid, hsent, List.length_cons] at hcount
    rw [List.length_map] at hlength
    change _ ≤ (d.heap.fieldsOf (some id)).length + 2
    omega

theorem inject_sends_snapshot_growing_store :
    let id : StoreId := ⟨0⟩
    let c : TraceContext :=
      { traceId := some "0af7651916cd43dd8448eb211c80319c", spanId := some "b7ad6b7169203331"
        traceState := some "vendor= x,b=2", extensions := [.store id] }
    let set (most : Nat) := Setter.planned id fun n =>
      (if n = 0 then [(some "x-c", some "9"), (some "x-d", some "0")]
        else [(some "x-e", some "1"), (some "x-f", some "2")],
        if n < most then none else some .raised)
    let table : KeyTable := [("x-a", .text "a"), ("x-b", .absent), ("x-c", .text "c")]
    let p := (Propagation.identity (ofNames .text Scheme.identityNames)).withFields table
    let d : Delivery :=
      ⟨{ stores := [[(some "x-a", some "1"), (some "x-b", some "2"), (some "x-c", some "3")]] }, []⟩
    let grown : Fields := [(some "x-a", some "1"), (some "x-b", some "2"), (some "x-c", some "9"),
      (some "x-d", some "0"), (some "x-e", some "1"), (some "x-f", some "2")]
    (∃ d', (p.inject (set 4) c).run.run d = (.ok (), d') ∧ d'.heap.fields id = grown ∧
      d'.carrier = [(.text "a", some "1"), (.text "c", some "3"),
        (.text "traceparent", some "00-0af7651916cd43dd8448eb211c80319c-b7ad6b7169203331-01"),
        (.text "tracestate", some "vendor=x,b=2")]) ∧
    ∃ fault d', (p.inject (set 2) c).run.run d = (.error fault, d') ∧ d'.heap.fields id = grown ∧
      d'.carrier = [(.text "a", some "1"), (.text "c", some "3")] := by
  intro id c set table p d grown
  have ht : IsId 32 "0af7651916cd43dd8448eb211c80319c" := by decide
  have hs : IsId 16 "b7ad6b7169203331" := by decide
  have hset : ∀ most, (set most).Reentrant id := fun _ => Setter.reentrant_planned id _
  constructor
  · obtain ⟨made, result, d', hrun, -, -, -, -, houtcome⟩ :=
      inject_sends_snapshot (c := c) rfl rfl ht hs rfl (hset 4) table .text d
    have hok : ((p.inject (set 4) c).run.run d).1.isOk = true := by decide +kernel
    have hgrown : ((p.inject (set 4) c).run.run d).2.heap.fields id = grown := by decide +kernel
    rw [hrun] at hok hgrown
    rcases houtcome with ⟨rfl, -, -, hcarrier⟩ | ⟨before, last, fault, -, -, -, rfl, -⟩
    · refine ⟨d', hrun, hgrown, hcarrier.trans ?_⟩
      decide +kernel
    · cases hok
  · obtain ⟨made, result, d', hrun, -, -, -, -, houtcome⟩ :=
      inject_sends_snapshot (c := c) rfl rfl ht hs rfl (hset 2) table .text d
    have hfails : ((p.inject (set 2) c).run.run d).1.isOk = false := by decide +kernel
    have hgrown : ((p.inject (set 2) c).run.run d).2.heap.fields id = grown := by decide +kernel
    have hcarrier : ((p.inject (set 2) c).run.run d).2.carrier =
        [(.text "a", some "1"), (.text "c", some "3")] := by decide +kernel
    rw [hrun] at hfails hcarrier hgrown
    rcases houtcome with ⟨rfl, -⟩ | ⟨before, last, fault, -, -, -, rfl, -⟩
    · cases hfails
    · exact ⟨fault, d', hrun, hgrown, hcarrier⟩

end TraceFields
