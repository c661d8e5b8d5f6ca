import Mathlib.Data.List.Basic
import Mathlib.Order.Lattice

/-! # Maps as sorted lists of entries

A map over ordered keys is the list of its entries in the order of the keys, with no key twice.
Inserting replaces the entry of a key that is there; extending by a list inserts its entries in
turn. -/

namespace EspMid.Lib.SortedMap

variable {K V : Type} [LinearOrder K]

/-- Put an entry in its place, over one with the same key. -/
def place (k : K) (v : V) : List (K × V) → List (K × V)
  | [] => [(k, v)]
  | e :: es =>
    if k < e.1 then (k, v) :: e :: es else if k = e.1 then (k, v) :: es else e :: place k v es

/-- A map: its entries, in the order of their keys. -/
structure Map (K V : Type) [LinearOrder K] where
  entries : List (K × V)
  sorted : entries.Pairwise fun e e' => e.1 < e'.1

theorem lookup_cons_eq (j : K) (e : K × V) (es : List (K × V)) :
    (e :: es).lookup j = if j = e.1 then some e.2 else es.lookup j := by
  rw [List.lookup_cons]
  by_cases h : j = e.1
  · simp [h]
  · simp [h, beq_eq_false_iff_ne.mpr h]

theorem lookup_place (k j : K) (v : V) (es : List (K × V)) :
    (place k v es).lookup j = if j = k then some v else es.lookup j := by
  induction es with
  | nil => exact lookup_cons_eq j (k, v) []
  | cons e es ih =>
    unfold place
    by_cases hlt : k < e.1
    · rw [if_pos hlt]
      exact lookup_cons_eq j (k, v) (e :: es)
    rw [if_neg hlt]
    by_cases heq : k = e.1
    · rw [if_pos heq, lookup_cons_eq, lookup_cons_eq]
      by_cases hj : j = k
      · simp [hj]
      · simp [hj, ← heq]
    · rw [if_neg heq, lookup_cons_eq, lookup_cons_eq, ih]
      by_cases hj : j = k
      · simp [hj, heq]
      · simp [hj]

theorem mem_place {k : K} {v : V} {e : K × V} {es : List (K × V)} (h : e ∈ place k v es) :
    e = (k, v) ∨ e ∈ es := by
  induction es with
  | nil => exact Or.inl (List.mem_singleton.mp h)
  | cons e' es ih =>
    unfold place at h
    split_ifs at h
    · exact List.mem_cons.mp h
    · rcases List.mem_cons.mp h with h | h
      · exact Or.inl h
      · exact Or.inr (List.mem_cons_of_mem _ h)
    · rcases List.mem_cons.mp h with h | h
      · exact Or.inr (h ▸ List.mem_cons_self)
      · exact (ih h).imp_right (List.mem_cons_of_mem _)

theorem sorted_place (k : K) (v : V) {es : List (K × V)}
    (h : es.Pairwise fun e e' => e.1 < e'.1) : (place k v es).Pairwise fun e e' => e.1 < e'.1 := by
  induction es with
  | nil => exact List.pairwise_singleton _ _
  | cons e es ih =>
    obtain ⟨he, hes⟩ := List.pairwise_cons.mp h
    unfold place
    split_ifs with hlt heq
    · refine List.pairwise_cons.mpr ⟨fun e' he' => ?_, h⟩
      rcases List.mem_cons.mp he' with rfl | he'
      · exact hlt
      · exact lt_trans hlt (he e' he')
    · exact List.pairwise_cons.mpr ⟨fun e' he' => heq ▸ he e' he', hes⟩
    · refine List.pairwise_cons.mpr ⟨fun e' he' => ?_, ih hes⟩
      rcases mem_place he' with rfl | he'
      · exact lt_of_le_of_ne (not_lt.mp hlt) (Ne.symm heq)
      · exact he e' he'

namespace Map

/-- No entries. -/
def empty : Map K V := ⟨[], List.Pairwise.nil⟩

/-- The value of a key. -/
def get (m : Map K V) (k : K) : Option V := m.entries.lookup k

/-- Put an entry, over one with the same key. -/
def insert (m : Map K V) (k : K) (v : V) : Map K V :=
  ⟨place k v m.entries, sorted_place k v m.sorted⟩

/-- Put the entries of a list, in turn. -/
def extend (m : Map K V) (es : List (K × V)) : Map K V := es.foldl (fun m e => m.insert e.1 e.2) m

@[simp] theorem get_empty (k : K) : (empty : Map K V).get k = none := rfl

theorem get_insert (m : Map K V) (k j : K) (v : V) :
    (m.insert k v).get j = if j = k then some v else m.get j := lookup_place k j v m.entries

theorem nodup_keys (m : Map K V) : (m.entries.map Prod.fst).Nodup :=
  List.pairwise_map.mpr (m.sorted.imp ne_of_lt)

theorem lookup_eq_none {es : List (K × V)} {j : K} (h : j ∉ es.map Prod.fst) :
    es.lookup j = none := by
  induction es with
  | nil => rfl
  | cons e es ih =>
    rw [List.map_cons, List.mem_cons, not_or] at h
    rw [lookup_cons_eq, if_neg h.1, ih h.2]

theorem get_extend {es : List (K × V)} (h : (es.map Prod.fst).Nodup) (m : Map K V) (j : K) :
    (m.extend es).get j = (es.lookup j).or (m.get j) := by
  induction es generalizing m with
  | nil => rfl
  | cons e es ih =>
    rw [List.map_cons, List.nodup_cons] at h
    have hextend : m.extend (e :: es) = (m.insert e.1 e.2).extend es := rfl
    rw [hextend, ih h.2, get_insert, lookup_cons_eq]
    by_cases hj : j = e.1
    · subst hj
      rw [lookup_eq_none h.1, if_pos rfl, if_pos rfl]
      rfl
    · rw [if_neg hj, if_neg hj]

theorem get_foldl_insert {p : K → Prop} [DecidablePred p] {es : List (K × V)}
    (h : (es.map Prod.fst).Nodup) (m : Map K V) (j : K) :
    (es.foldl (fun m e => if p e.1 then m else m.insert e.1 e.2) m).get j =
      if p j then m.get j else (es.lookup j).or (m.get j) := by
  induction es generalizing m with
  | nil => simp
  | cons e es ih =>
    rw [List.map_cons, List.nodup_cons] at h
    rw [List.foldl_cons, ih h.2, lookup_cons_eq]
    by_cases hj : j = e.1
    · subst hj
      rw [lookup_eq_none h.1]
      by_cases hp : p e.1
      · simp [hp]
      · simp [hp, get_insert]
    · rw [if_neg hj]
      by_cases hp : p e.1
      · simp [hp]
      · simp [hp, get_insert, hj]

end Map

end EspMid.Lib.SortedMap
