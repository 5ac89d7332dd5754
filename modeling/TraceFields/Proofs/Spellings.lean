import TraceFields.Proofs.FieldTable
import TraceFields.Proofs.Tagging

namespace TraceFields

open Script (NamesForm Object fieldScheme)

def Heap.setValue (h : Heap) (c : TraceContext) (name value : String) : Heap :=
  match c.store? with
  | some id => h.set id (some name) (some value)
  | none => h

lemma Heap.valueOf_setValue {h : Heap} {c : TraceContext} {id : StoreId} (hid : c.store? = some id)
    (hheld : h.Holds id) (name value : String) :
    (h.setValue c name value).valueOf c name = some value := by
  rw [setValue, valueOf, hid]
  change (Entries.at? ((h.set id (some name) (some value)).fields id) (some name)).join = some value
  rw [fields_set_self hheld, Entries.at?_put_self, Option.join_some]

namespace SpanTagger

def copy (heap : Heap) (c : TraceContext) (lead : String) (attributes : Attributes)
    (name : String) : Attributes :=
  match heap.valueOf c name with
  | some value => attributes.set (lead ++ name) (.text value)
  | none => attributes

lemma ofCollection_copies {ρ : Type} (resolver : ρ) (spellings : List String) (lead : String) :
    ∃ t, ofCollection resolver (.list (spellings.map .text)) lead = .ok t ∧
      t.names = spellings.map canonicalName ∧
      ∀ heap c start, t.tag heap (some c) start =
        (spellings.map canonicalName).foldl (copy heap c lead) start := by
  refine ⟨_, ofCollection_texts resolver spellings lead, rfl, fun heap c start => ?_⟩
  refine List.foldl_ext _ _ start fun attributes name hname => ?_
  have hname : canonicalName name = name := by
    obtain ⟨spelling, -, rfl⟩ := List.mem_map.1 hname
    exact canonicalName_canonicalName spelling
  have hvalue := getField_eq heap c name
  rw [getField, hname] at hvalue
  have hread := Except.ok.inj hvalue
  cases h : heap.valueOf c name <;> simp [copy, hname, hread, h]

end SpanTagger

structure Finds (spelling name : String) : Prop where
  get : ∀ heap c, getField heap (some c) (some spelling) = .ok (heap.valueOf c name)
  set : ∀ heap c value, setField heap (some c) (some spelling) (some value) =
    .ok (heap.setValue c name value)
  getActive : ∀ heap c, getActive heap (some c) (some spelling) = .ok (heap.valueOf c name)
  setActive : ∀ heap c value, setActive heap (some c) (some spelling) (some value) =
    .ok (heap.setValue c name value)
  tag : ∀ (resolver : Object) lead, ∃ t,
    SpanTagger.ofCollection resolver (.list [.text spelling]) lead = .ok t ∧
    ∀ heap c start, t.tag heap (some c) start = SpanTagger.copy heap c lead start name

lemma finds_of_canonicalName {spelling name : String} (h : canonicalName spelling = name) :
    Finds spelling name := by
  have hget : ∀ heap c, getField heap (some c) (some spelling) = .ok (heap.valueOf c name) := by
    intro heap c
    rw [getField_eq, h]
  have hset : ∀ heap c value, setField heap (some c) (some spelling) (some value) =
      .ok (heap.setValue c name value) := by
    intro heap c value
    rw [setField_eq, h]
    exact congrArg Except.ok rfl
  refine ⟨hget, hset, hget, hset, fun resolver lead => ?_⟩
  obtain ⟨t, ht, -, htag⟩ := SpanTagger.ofCollection_copies resolver [spelling] lead
  refine ⟨t, ht, fun heap c start => ?_⟩
  rw [htag, List.map_singleton, h]
  rfl

theorem declared_names_found :
    (∀ name, canonicalName (canonicalName name) = canonicalName name) ∧
    ∀ (delegate : Scheme), ∀ names ≠ [], ∀ form, ∃ f,
      fieldScheme (some delegate) (.list (names.map .text)) form = .ok f ∧
      (∀ n ∈ names, canonicalName n ∈ f.names) ∧
      (∀ name ∈ f.names, Finds name name ∧
        ∀ spelling, canonicalName spelling = name → Finds spelling name ∧
          ∀ heap c id value, c.store? = some id → heap.Holds id →
            ∃ heap', setField heap (some c) (some spelling) (some value) = .ok heap' ∧
              getField heap' (some c) (some name) = .ok (some value)) ∧
      ∀ (resolver : Object) lead, ∃ t,
        SpanTagger.ofCollection resolver (.list (f.names.map .text)) lead = .ok t ∧
        t.names = f.names ∧
        ∀ heap c start, t.tag heap (some c) start =
          f.names.foldl (SpanTagger.copy heap c lead) start := by
  refine ⟨canonicalName_canonicalName, fun delegate names hnames form => ?_⟩
  have htable := isFieldTable_canonicalNames hnames
  have hself : ∀ name ∈ canonicalNames names, Finds name name :=
    fun name hname => finds_of_canonicalName (htable.lower name hname)
  refine ⟨_, Script.fieldScheme_texts delegate hnames form, fun n hn => ?_, fun name hname => ?_,
    fun resolver lead => ?_⟩
  · exact mem_canonicalNames.2 ⟨n, hn, rfl⟩
  · refine ⟨hself name hname, fun spelling hspelling => ?_⟩
    have hfinds := finds_of_canonicalName hspelling
    refine ⟨hfinds, fun heap c id value hid hheld => ⟨_, hfinds.set heap c value, ?_⟩⟩
    rw [(hself name hname).get, Heap.valueOf_setValue hid hheld]
  · have hcopies := SpanTagger.ofCollection_copies resolver (canonicalNames names) lead
    rwa [map_canonicalName_canonicalNames] at hcopies

theorem declared_names_found_sigma :
    let names := ["ΟΔΟΣ", "İd"]
    ∃ f, fieldScheme (some .identity) (.list (names.map .text)) .direct = .ok f ∧
      f.names = ["οδος", "i\u0307d"] ∧ Finds "οδος" "οδος" ∧ Finds "ΟΔΟς" "οδος" ∧
      Finds "İD" "i\u0307d" ∧ canonicalName "οδοσ" ≠ "οδος" := by
  intro names
  have hnames : names ≠ [] := List.cons_ne_nil _ _
  obtain ⟨f, hf, hmem, hfound, -⟩ := declared_names_found.2 .identity names hnames .direct
  have htable : canonicalNames names = ["οδος", "i\u0307d"] := by decide +kernel
  have hscheme := Script.fieldScheme_texts .identity hnames .direct
  rw [htable] at hscheme
  obtain rfl : f = ⟨.identity, ["οδος", "i\u0307d"]⟩ := Except.ok.inj (hf.symm.trans hscheme)
  obtain ⟨hfirst, hspelled⟩ := hfound "οδος" List.mem_cons_self
  obtain ⟨-, hsecond⟩ := hfound "i\u0307d" (by simp)
  exact ⟨_, hf, rfl, hfirst, (hspelled "ΟΔΟς" (by decide +kernel)).1,
    (hsecond "İD" (by decide +kernel)).1, by decide +kernel⟩

end TraceFields
