import TraceFields.Datum
import TraceFields.Entries

/-!
A context holds references to stores; what a store holds is in the heap, so a value set through one
context shows in every context with the same store.
-/

namespace TraceFields

structure StoreId where
  index : Nat
deriving DecidableEq, Repr

structure MarkerId where
  index : Nat
deriving DecidableEq, Repr

inductive Extension where
  | store (id : StoreId)
  | marker (id : MarkerId)
  | other (index : Nat)
deriving DecidableEq, Repr

abbrev Fields := Entries (Option String) (Option String)

namespace Fields

def ofTexts (fields : Entries String String) : Fields := fields.map fun e => (some e.1, some e.2)

def named (fields : Fields) : List (String × Option String) :=
  fields.filterMap fun e => e.1.map fun name => (name, e.2)

theorem at?_named (fields : Fields) (name : String) :
    Entries.at? fields.named name = Entries.at? fields (some name) := by
  induction fields with
  | nil => rfl
  | cons e fields ih =>
    obtain ⟨_ | n, v⟩ := e
    · simpa [named, Entries.at?] using ih
    · by_cases h : n = name
      · simp [named, Entries.at?, h]
      · simpa [named, Entries.at?, h] using ih

theorem named_reverse (fields : Fields) : named fields.reverse = fields.named.reverse :=
  List.filterMap_reverse

theorem at?_ofTexts (fields : Entries String String) (name : String) :
    Entries.at? (ofTexts fields) (some name) = (Entries.at? fields name).map some := by
  induction fields with
  | nil => rfl
  | cons e fields ih =>
    obtain ⟨n, v⟩ := e
    by_cases h : n = name
    · simp [ofTexts, Entries.at?, h]
    · simpa [ofTexts, Entries.at?, h] using ih

theorem keys_ofTexts (fields : Entries String String) :
    Entries.keys (ofTexts fields) = (Entries.keys fields).map some := by
  simp [Entries.keys, ofTexts]

def text (fields : Fields) : String :=
  let shown := fun part => (Datum.ofText? part).shown
  "ExtraFieldPropagation\x7b" ++
    Text.joined ", " (fields.map fun e => shown e.1 ++ "=" ++ shown e.2) ++ "\x7d"

end Fields

structure Heap where
  stores : List Fields := []
  markers : List String := []
deriving DecidableEq, Repr

namespace Heap

def newStore (h : Heap) (fields : Fields) : StoreId × Heap :=
  (⟨h.stores.length⟩, { h with stores := h.stores ++ [fields] })

def newMarker (h : Heap) (text : String) : MarkerId × Heap :=
  (⟨h.markers.length⟩, { h with markers := h.markers ++ [text] })

def fields (h : Heap) (id : StoreId) : Fields := (h.stores[id.index]?).getD []

def markerText (h : Heap) (id : MarkerId) : String := (h.markers[id.index]?).getD ""

def get? (h : Heap) (id : StoreId) (name : Option String) : Option String :=
  ((h.fields id).at? name).join

def set (h : Heap) (id : StoreId) (name value : Option String) : Heap :=
  { h with stores := h.stores.modify id.index fun fields => fields.put name value }

def Holds (h : Heap) (id : StoreId) : Prop := id.index < h.stores.length

theorem not_holds_newStore (h : Heap) (fields : Fields) : ¬ h.Holds (h.newStore fields).1 :=
  Nat.lt_irrefl _

theorem holds_newStore (h : Heap) (fields : Fields) :
    (h.newStore fields).2.Holds (h.newStore fields).1 := by
  simp [Holds, newStore]

@[simp] theorem fields_newStore_self (h : Heap) (fields : Fields) :
    (h.newStore fields).2.fields (h.newStore fields).1 = fields := by
  simp [Heap.fields, newStore]

theorem fields_newStore {h : Heap} {id : StoreId} (hid : h.Holds id) (fields : Fields) :
    (h.newStore fields).2.fields id = h.fields id := by
  simp [Heap.fields, newStore, List.getElem?_append_left hid]

theorem fields_set_self {h : Heap} {id : StoreId} (hid : h.Holds id) (name value : Option String) :
    (h.set id name value).fields id = (h.fields id).put name value := by
  have : id.index < h.stores.length := hid
  simp [Heap.fields, set, this]

theorem fields_set_ne (h : Heap) {id other : StoreId} (hne : other ≠ id)
    (name value : Option String) : (h.set id name value).fields other = h.fields other := by
  have : id.index ≠ other.index := fun he => hne (by cases id; cases other; simp_all)
  simp [Heap.fields, set, this]

end Heap

end TraceFields
