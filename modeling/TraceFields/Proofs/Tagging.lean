import Mathlib.Data.List.Dedup
import Mathlib.Data.List.Perm.Subperm
import TraceFields.Proofs.Stores
import TraceFields.Script.Active

namespace TraceFields

open Script (Held Object Run State span spanParent)

lemma Entries.nodup_keys_putLast {κ α : Type} [DecidableEq κ] {es : Entries κ α}
    (h : (keys es).Nodup) (key : κ) (value : α) : (keys (putLast es key value)).Nodup := by
  have hkey : key ∉ keys (es.without key) := by
    rw [← at?_eq_none_iff, at?_without, if_pos rfl]
  have hrest : (keys (es.without key)).Nodup := h.sublist (List.filter_sublist.map _)
  rw [putLast, keys, List.map_append]
  exact hrest.append (List.nodup_singleton key) (List.disjoint_singleton.2 hkey)

namespace Attributes

def tagged (start : Attributes) (tags : Entries String String) : Attributes :=
  start.filter (fun e => e.1 ∉ Entries.keys tags) ++ tags.dedup.map fun e => (e.1, .text e.2)

@[simp] lemma tagged_nil (start : Attributes) : start.tagged [] = start := by
  simp [tagged, Entries.keys]

def Agree (tags : Entries String String) : Prop := ∀ e ∈ tags, ∀ f ∈ tags, e.1 = f.1 → e = f

lemma mem_of_agree {e : String × String} {tags : Entries String String} (h : Agree (e :: tags))
    (he : e.1 ∈ Entries.keys tags) : e ∈ tags := by
  obtain ⟨f, hf, hname⟩ := List.mem_map.1 he
  rwa [h e List.mem_cons_self f (List.mem_cons_of_mem _ hf) hname.symm]

lemma tagged_putLast (start : Attributes) {e : String × String} {tags : Entries String String}
    (h : Agree (e :: tags)) :
    tagged (start.putLast e.1 (.text e.2)) tags = start.tagged (e :: tags) := by
  have hothers : (start.without e.1).filter (fun f => f.1 ∉ Entries.keys tags) =
      start.filter fun f => f.1 ∉ Entries.keys (e :: tags) := by
    rw [Entries.without, List.filter_filter]
    refine List.filter_congr fun f _ => ?_
    have hkeys : Entries.keys (e :: tags) = e.1 :: Entries.keys tags := rfl
    simp [hkeys, Bool.and_comm]
  rw [tagged, tagged, Entries.putLast, List.filter_append, hothers]
  by_cases he : e.1 ∈ Entries.keys tags
  · rw [List.dedup_cons_of_mem (mem_of_agree h he)]
    simp [he]
  · have hnew : e ∉ tags := fun hm => he (List.mem_map_of_mem hm)
    rw [List.dedup_cons_of_notMem hnew]
    simp [he]

lemma filter_tagged (start : Attributes) (tags : Entries String String) :
    (start.tagged tags).filter (fun e => e.1 ∉ Entries.keys tags) =
      start.filter fun e => e.1 ∉ Entries.keys tags := by
  have htags : (tags.dedup.map fun e => (e.1, Datum.text e.2)).filter
      (fun e => e.1 ∉ Entries.keys tags) = [] := by
    refine List.filter_eq_nil_iff.2 fun f hf => ?_
    obtain ⟨e, he, rfl⟩ := List.mem_map.1 hf
    have hkey : e.1 ∈ Entries.keys tags := List.mem_map_of_mem (List.mem_dedup.1 he)
    simpa using hkey
  rw [tagged, List.filter_append, htags, List.append_nil, List.filter_filter]
  simp only [Bool.and_self]

lemma at?_tagged {start : Attributes} {tags : Entries String String} (h : Agree tags)
    {e : String × String} (he : e ∈ tags) :
    Entries.at? (start.tagged tags) e.1 = some (.text e.2) := by
  have hstart : Entries.at? (start.filter fun f => f.1 ∉ Entries.keys tags) e.1 = none := by
    rw [Entries.at?_eq_none_iff]
    intro hkey
    obtain ⟨f, hf, hname⟩ := List.mem_map.1 hkey
    have hnot := of_decide_eq_true (List.mem_filter.1 hf).2
    exact hnot (hname ▸ List.mem_map_of_mem he)
  have hnodup : (Entries.keys (tags.dedup.map fun e => (e.1, Datum.text e.2))).Nodup := by
    rw [Entries.keys, List.map_map]
    exact (List.nodup_dedup tags).map_on fun f hf g hg =>
      h f (List.mem_dedup.1 hf) g (List.mem_dedup.1 hg)
  rw [tagged, Entries.at?_append, hstart, Option.none_or]
  exact Entries.at?_of_mem hnodup (List.mem_map.2 ⟨e, List.mem_dedup.2 he, rfl⟩)

lemma length_le_tagged {start : Attributes} (hn : (Entries.keys start).Nodup)
    (tags : Entries String String) : start.length ≤ (start.tagged tags).length := by
  -- The entries that are given up have distinct names, and all of them are names of tags.
  have hgone : (start.filter fun e => e.1 ∈ Entries.keys tags).length ≤ tags.dedup.length := by
    have hnodup : (Entries.keys (start.filter fun e => e.1 ∈ Entries.keys tags)).Nodup :=
      hn.sublist (List.filter_sublist.map _)
    have hsub : Entries.keys (start.filter fun e => e.1 ∈ Entries.keys tags) ⊆
        Entries.keys tags.dedup := by
      intro name hname
      obtain ⟨e, he, rfl⟩ := List.mem_map.1 hname
      obtain ⟨f, hf, hname⟩ := List.mem_map.1 (of_decide_eq_true (List.mem_filter.1 he).2)
      exact List.mem_map.2 ⟨f, List.mem_dedup.2 hf, hname⟩
    simpa [Entries.keys] using (List.Nodup.subperm hnodup hsub).length_le
  have hsplit := List.length_eq_length_filter_add (l := start) fun e => e.1 ∈ Entries.keys tags
  simp only [tagged, List.length_append, List.length_map, decide_not]
  omega

lemma nodup_set {attributes : Attributes} (h : (Entries.keys attributes).Nodup) (name : String)
    (value : Datum) : (Entries.keys (attributes.set name value)).Nodup := by
  rw [set]
  split
  · exact h
  · exact (Entries.nodup_keys_putLast h name _).sublist ((List.drop_sublist _ _).map _)

lemma nodup_start (pairs : List (String × Datum)) : (Entries.keys (start pairs)).Nodup :=
  List.foldlRecOn (motive := fun acc => (Entries.keys acc).Nodup) _ _ List.nodup_nil
    fun _ h e _ => nodup_set h e.1 e.2

lemma foldl_set_eq {start : Attributes} {tags : Entries String String}
    (hn : (Entries.keys start).Nodup) (hnamed : ∀ e ∈ tags, e.1 ≠ "") (h : Agree tags)
    (hroom : (start.tagged tags).length ≤ mostAttributes) :
    tags.foldl (fun acc e => Attributes.set acc e.1 (.text e.2)) start = start.tagged tags := by
  induction tags generalizing start with
  | nil => rw [List.foldl_nil, tagged_nil]
  | cons e tags ih =>
    have hnodup := Entries.nodup_keys_putLast hn e.1 (.text e.2)
    rw [← tagged_putLast start h] at hroom ⊢
    have hset : Attributes.set start e.1 (.text e.2) = start.putLast e.1 (.text e.2) := by
      have hlength := Nat.le_trans (length_le_tagged hnodup tags) hroom
      have htext : withoutNameless (.text e.2) = .text e.2 := rfl
      rw [set, if_neg (hnamed e List.mem_cons_self), htext]
      simp only [Nat.sub_eq_zero_of_le hlength, List.drop_zero]
    rw [List.foldl_cons, hset]
    exact ih hnodup (fun f hf => hnamed f (List.mem_cons_of_mem _ hf))
      (fun f hf g hg => h f (List.mem_cons_of_mem _ hf) g (List.mem_cons_of_mem _ hg)) hroom

end Attributes

namespace SpanTagger

def tags (heap : Heap) (c : TraceContext) (lead : String) (names : List String) :
    Entries String String :=
  (names.filterMap fun name => (getField heap (some c) (some name)).toOption.join.map
    (lead ++ canonicalName name, ·)).filter (·.1 ≠ "")

variable {heap : Heap} {c : TraceContext} {lead : String} {names : List String}

lemma mem_tags {e : String × String} : e ∈ tags heap c lead names ↔ e.1 ≠ "" ∧
    ∃ name ∈ names, e.1 = lead ++ canonicalName name ∧
      heap.valueOf c (canonicalName name) = some e.2 := by
  simp only [tags, getField_eq, Except.toOption, Option.join_some, List.mem_filter,
    List.mem_filterMap, Option.map_eq_some_iff]
  constructor
  · rintro ⟨⟨name, hname, value, hvalue, rfl⟩, hne⟩
    exact ⟨of_decide_eq_true hne, name, hname, rfl, hvalue⟩
  · rintro ⟨hne, name, hname, hlead, hvalue⟩
    exact ⟨⟨name, hname, e.2, hvalue, Prod.ext hlead.symm rfl⟩, decide_eq_true hne⟩

lemma agree_tags : Attributes.Agree (tags heap c lead names) := by
  intro e he f hf hname
  obtain ⟨-, name, -, hlead, hvalue⟩ := mem_tags.1 he
  obtain ⟨-, other, -, hlead', hvalue'⟩ := mem_tags.1 hf
  have hsame : canonicalName name = canonicalName other :=
    (String.append_right_inj lead).1 (hlead.symm.trans (hname.trans hlead'))
  rw [hsame, hvalue'] at hvalue
  exact Prod.ext hname (Option.some.inj hvalue).symm

lemma tags_of_no_store (h : c.store? = none) : tags heap c lead names = [] := by
  refine List.eq_nil_iff_forall_not_mem.2 fun e he => ?_
  obtain ⟨-, name, -, -, hvalue⟩ := mem_tags.1 he
  rw [Heap.valueOf, h] at hvalue
  cases hvalue

lemma tag_eq_foldl {ρ : Type} (resolver : ρ) (start : Attributes) :
    (SpanTagger.mk resolver (names.map canonicalName) lead).tag heap (some c) start =
      (tags heap c lead names).foldl (fun acc e => Attributes.set acc e.1 (.text e.2)) start := by
  rw [tag, tags, List.foldl_map, List.foldl_filter, List.foldl_filterMap]
  congr 1
  funext acc name
  simp only [getField, canonicalName_canonicalName]
  cases c.store?.bind fun id => heap.get? id (some (canonicalName name)) with
  | none => rfl
  | some value =>
    by_cases hname : lead ++ canonicalName name = ""
    · simp [Except.toOption, Attributes.set, hname]
    · simp only [Except.toOption, Option.join_some, Option.map_some, hname, ne_eq,
        not_false_eq_true, decide_true, if_true]

lemma ofCollection_texts {ρ : Type} (resolver : ρ) (names : List String) (lead : String) :
    ofCollection resolver (.list (names.map .text)) lead =
      .ok ⟨resolver, names.map canonicalName, lead⟩ := by
  have htexts : textsOf (names.map .text) = .ok names := by
    induction names with
    | nil => rfl
    | cons name names ih =>
      rw [List.map_cons, textsOf, ih]
      rfl
  simp only [ofCollection, Datum.items?, htexts]

end SpanTagger

namespace Script

lemma run_span {t : SpanTagger Object} {r : ResolverId} (hr : t.resolver = .resolver r)
    {s : State} {parent : Option Nat} {c : Option (Held TraceContext)}
    (hc : (s.environment (parent.getD s.ambient.env)).active r = c.map .context)
    (pairs : List (String × Datum)) :
    (span t pairs (parent.elim .nothing .environment)).run.run s =
      (.ok { answer := .attributes (t.tag s.heap (c.map Held.value) (.start pairs)) }, s) := by
  have hparent : (spanParent (parent.elim .nothing .environment)).run.run s =
      (.ok (.environment (parent.getD s.ambient.env)), s) := by
    cases parent <;> rfl
  have hactive : (Run.lookUp (.resolver r) (.environment (parent.getD s.ambient.env))).run.run s =
      (.ok (.ofOption (c.map .context)), s) := by
    rw [← hc]
    rfl
  simp only [span, run_bind, hparent, hr, hactive]
  cases c <;> rfl

end Script

/-- A span is tagged in what is active for the resolver in the given environment, or in the current
one if none is given. With nothing active there, or with no store in it, the attributes are those
the span starts with. Otherwise each name that has a value there gives an attribute, and unless
these are too many, they come after the attributes that are not set, which stand as they stood. -/
theorem span_tagged (r : ResolverId) (names : List String) (lead : String) :
    ∃ t, SpanTagger.ofCollection (Object.resolver r) (.list (names.map .text)) lead = .ok t ∧
      ∀ (s : State) (parent : Option Nat) (c : Option (Held TraceContext)),
        (s.environment (parent.getD s.ambient.env)).active r = c.map .context → ∀ pairs,
        (c.bind (·.value.store?) = none →
          (span t pairs (parent.elim .nothing .environment)).run.run s =
            (.ok { answer := .attributes (Attributes.start pairs) }, s)) ∧
        ∀ d, c = some d →
          let tags := SpanTagger.tags s.heap d.value lead names
          let after := (Attributes.start pairs).tagged tags
          after.length ≤ mostAttributes →
            (span t pairs (parent.elim .nothing .environment)).run.run s =
              (.ok { answer := .attributes after }, s) ∧
            (∀ e ∈ tags, Entries.at? after e.1 = some (.text e.2)) ∧
            after.filter (fun e => e.1 ∉ Entries.keys tags) =
              (Attributes.start pairs).filter fun e => e.1 ∉ Entries.keys tags := by
  refine ⟨_, SpanTagger.ofCollection_texts _ names lead, fun s parent c hc pairs => ?_⟩
  rw [Script.run_span rfl hc]
  refine ⟨fun hstore => ?_, ?_⟩
  · cases c with
    | none => rfl
    | some d =>
      rw [Option.map_some, SpanTagger.tag_eq_foldl, SpanTagger.tags_of_no_store hstore]
      rfl
  · rintro d rfl tags after hroom
    refine ⟨?_, fun e he => ?_, ?_⟩
    · rw [Option.map_some, SpanTagger.tag_eq_foldl, Attributes.foldl_set_eq
        (Attributes.nodup_start pairs) (fun e he => (SpanTagger.mem_tags.1 he).1)
        SpanTagger.agree_tags hroom]
    · exact Attributes.at?_tagged SpanTagger.agree_tags he
    · exact Attributes.filter_tagged _ _

theorem span_tagged_beside_scope :
    let r : ResolverId := ⟨0⟩
    let c : TraceContext := { traceId := some "1", spanId := some "a", extensions := [.store ⟨0⟩] }
    let s : State :=
      { heap := { stores := [[(some "x-a", some "1"), (some "x-b", some "2")]] }
        sources := { work := ⟨"", []⟩, home := ⟨"", []⟩ }
        ambient := { env := 1 }
        environments := [(0, .empty), (1, [(r, some (.context ⟨2, c⟩))])] }
    let t : SpanTagger Object := ⟨.resolver r, ["x-b", "x-a", "x-c", "x-b"], "f."⟩
    let pairs := [("f.x-a", Datum.text "start"), ("k", .text "v")]
    let after := [("k", Datum.text "v"), ("f.x-a", .text "1"), ("f.x-b", .text "2")]
    SpanTagger.ofCollection (Object.resolver r) (.list (["X-B", "x-a", "x-c", "x-B"].map .text))
      "f." = .ok t ∧
    (span t pairs .nothing).run.run s = (.ok { answer := .attributes after }, s) ∧
    (span t pairs (.environment 0)).run.run s = (.ok { answer := .attributes pairs }, s) := by
  intro r c s t pairs after
  obtain ⟨made, hmade, h⟩ := span_tagged r ["X-B", "x-a", "x-c", "x-B"] "f."
  obtain rfl : made = t := by
    have hnames : ["X-B", "x-a", "x-c", "x-B"].map canonicalName = t.names := by decide +kernel
    rw [SpanTagger.ofCollection_texts, hnames] at hmade
    exact (Except.ok.inj hmade).symm
  have hstart : Attributes.start pairs = pairs := rfl
  refine ⟨hmade, ?_, ?_⟩
  · have htags : SpanTagger.tags s.heap c "f." ["X-B", "x-a", "x-c", "x-B"] =
        [("f.x-b", "2"), ("f.x-a", "1"), ("f.x-b", "2")] := by decide +kernel
    have hafter : (Attributes.start pairs).tagged
        [("f.x-b", "2"), ("f.x-a", "1"), ("f.x-b", "2")] = after := rfl
    have hin := (h s none (some ⟨2, c⟩) rfl pairs).2 _ rfl
    rw [htags] at hin
    dsimp only at hin
    rw [hafter] at hin
    exact (hin (by decide)).1
  · have hout := (h s (some 0) none rfl pairs).1 rfl
    rwa [hstart] at hout

theorem span_tagged_moves_attribute :
    let r : ResolverId := ⟨0⟩
    let c : TraceContext := { traceId := some "1", spanId := some "a", extensions := [.store ⟨0⟩] }
    let s : State :=
      { heap := { stores := [[(some "x-a", some "1")]] }
        sources := { work := ⟨"", []⟩, home := ⟨"", []⟩ }
        environments := [(0, [(r, some (.context ⟨1, c⟩))])] }
    let t : SpanTagger Object := ⟨.resolver r, ["x-a"], ""⟩
    let pairs := [("x-a", Datum.text "start"), ("k", .text "v")]
    ∃ after, (span t pairs .nothing).run.run s = (.ok { answer := .attributes after }, s) ∧
      after ≠ Entries.put (Attributes.start pairs) "x-a" (.text "1") := by
  intro r c s t pairs
  have hactive : (s.environment ((none : Option Nat).getD s.ambient.env)).active r =
      (some ⟨1, c⟩ : Option (Held TraceContext)).map .context := rfl
  have hname : canonicalName "x-a" = "x-a" := by decide +kernel
  have hvalue : (c.store?.bind fun id => s.heap.get? id (some "x-a")) = some "1" := by decide
  have htag : t.tag s.heap (some c) (Attributes.start pairs) =
      [("k", .text "v"), ("x-a", .text "1")] := by
    have hstart : Attributes.start pairs = pairs := rfl
    simp [SpanTagger.tag, t, hname, hvalue, hstart, pairs, Attributes.set, Entries.putLast,
      Entries.without, withoutNameless, mostAttributes]
  have hrun : (span t pairs .nothing).run.run s = _ := Script.run_span rfl hactive pairs
  refine ⟨[("k", .text "v"), ("x-a", .text "1")], ?_, ?_⟩
  · rw [hrun, Option.map_some, htag]
  · intro h
    exact absurd (congrArg Entries.keys h) (by decide)

end TraceFields
