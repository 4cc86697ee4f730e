import Mathlib.Data.List.Nodup
import Mathlib.Tactic.Common
import Uvw.Foundation.History

/-!
# Maps in the order of insertion

A map as a list of keys and values, without two entries for one key.  `insert` assigns to the entry of
its key where it is, and appends one if there is none: the keys stay in the order in which they were
inserted first (`keys_insertAll`), and the value of a key is the last one inserted (`lookup_insertAll`).
`findIdx_set_eq_put` is the implementation that searches for the entry and assigns to it.
-/

variable {κ ν : Type*} [DecidableEq κ]

/-- Assign to the first entry of a key, or append one. -/
def InsertionMap.put (k : κ) (v : ν) : List (κ × ν) → List (κ × ν)
  | [] => [(k, v)]
  | e :: es => if e.1 = k then (k, v) :: es else e :: put k v es

/-- A map, as the list of its entries. -/
structure InsertionMap (κ ν : Type*) where
  entries : List (κ × ν)
  nodup : (entries.map Prod.fst).Nodup

namespace InsertionMap

/-! ### Lists of entries -/

section Lists

variable {k k' : κ} {v : ν} {es : List (κ × ν)}

/-- The value of a key. -/
def find (k : κ) (es : List (κ × ν)) : Option ν := (es.find? fun e => e.1 = k).map Prod.snd

/-- A key keeps its place, and a new one comes last. -/
lemma map_fst_put : (put k v es).map Prod.fst =
    if k ∈ es.map Prod.fst then es.map Prod.fst else es.map Prod.fst ++ [k] := by
  induction es with
  | nil => rfl
  | cons e es ih =>
    by_cases heq : e.1 = k
    · simp [put, heq]
    · have hmem : k ∈ (e :: es).map Prod.fst ↔ k ∈ es.map Prod.fst := by
        rw [List.map_cons, List.mem_cons, or_iff_right (Ne.symm heq)]
      rw [put, if_neg heq, List.map_cons, ih]
      by_cases hk : k ∈ es.map Prod.fst
      · rw [if_pos hk, if_pos (hmem.mpr hk), List.map_cons]
      · rw [if_neg hk, if_neg (hk ∘ hmem.mp), List.map_cons, List.cons_append]

/-- An entry that is assigned to keeps its place, and the others stay as they are. -/
lemma put_of_mem (hk : k ∈ es.map Prod.fst) (hnodup : (es.map Prod.fst).Nodup) :
    put k v es = es.map fun e => if e.1 = k then (k, v) else e := by
  induction es with
  | nil => exact absurd hk List.not_mem_nil
  | cons e es ih =>
    rw [List.map_cons, List.nodup_cons] at hnodup
    by_cases heq : e.1 = k
    · have hrest : es.map (fun e => if e.1 = k then (k, v) else e) = es := by
        refine List.map_congr_left (fun e' he' => if_neg fun h => ?_) |>.trans (List.map_id es)
        exact hnodup.1 (List.mem_map.mpr ⟨e', he', h.trans heq.symm⟩)
      rw [put, if_pos heq, List.map_cons, if_pos heq, hrest]
    · have hmem : k ∈ es.map Prod.fst := (List.mem_cons.mp hk).resolve_left (Ne.symm heq)
      rw [put, if_neg heq, List.map_cons, if_neg heq, ih hmem hnodup.2]

/-- The pair of a new key is appended. -/
lemma put_of_not_mem (hk : k ∉ es.map Prod.fst) : put k v es = es ++ [(k, v)] := by
  induction es with
  | nil => rfl
  | cons e es ih =>
    rw [List.map_cons, List.mem_cons, not_or] at hk
    rw [put, if_neg (Ne.symm hk.1), ih hk.2, List.cons_append]

/-- The value of a key is the one that was put last. -/
lemma find_put : find k' (put k v es) = if k = k' then some v else find k' es := by
  induction es with
  | nil =>
    by_cases hk : k = k' <;> simp [put, find, hk]
  | cons e es ih =>
    by_cases heq : e.1 = k
    · by_cases hk : k = k' <;> simp [put, find, heq, hk]
    · rw [put, if_neg heq]
      unfold find at ih ⊢
      by_cases he : e.1 = k'
      · have hk : k ≠ k' := fun h => heq (he.trans h.symm)
        simp [he, hk]
      · simp [List.find?_cons_of_neg, he, ih]

/-- **Search and assign**: finding the index of an entry and assigning to it, or appending one. -/
theorem findIdx_set_eq_put :
    (match es.findIdx? fun e => decide (e.1 = k) with
      | none => es ++ [(k, v)]
      | some i => es.set i (k, v)) = put k v es := by
  induction es with
  | nil => rfl
  | cons e es ih =>
    rw [List.findIdx?_cons, put, ← ih]
    by_cases heq : e.1 = k
    · simp [heq]
    · simp only [heq, decide_false, Bool.false_eq_true, if_false]
      cases es.findIdx? fun e => decide (e.1 = k) <;> rfl

/-- An entry is found by its key. -/
lemma find_of_mem {e : κ × ν} (hnodup : (es.map Prod.fst).Nodup) (he : e ∈ es) :
    find e.1 es = some e.2 := by
  induction es with
  | nil => exact absurd he List.not_mem_nil
  | cons e' es ih =>
    rw [List.map_cons, List.nodup_cons] at hnodup
    rcases List.mem_cons.mp he with rfl | he
    · simp [find]
    · have hne : e'.1 ≠ e.1 := fun heq => hnodup.1 (List.mem_map.mpr ⟨e, he, heq.symm⟩)
      have hrest := ih hnodup.2 he
      unfold find at hrest ⊢
      rw [List.find?_cons_of_neg (by simpa using hne), hrest]

end Lists

/-! ### Maps -/

variable (m : InsertionMap κ ν) (k k' : κ) (v : ν)

/-- The keys, in order. -/
def keys : List κ := m.entries.map Prod.fst

/-- The value of a key. -/
def lookup : Option ν := find k m.entries

omit [DecidableEq κ] in
/-- No entries. -/
def empty : InsertionMap κ ν := { entries := [], nodup := List.nodup_nil }

/-- Assign to a key. -/
def insert : InsertionMap κ ν where
  entries := put k v m.entries
  nodup := by
    rw [map_fst_put]
    split
    · exact m.nodup
    · next hk => exact List.concat_eq_append ▸ m.nodup.concat hk

/-- Assign one value after the other. -/
def insertAll (as : List (κ × ν)) : InsertionMap κ ν := as.foldl (fun m a => m.insert a.1 a.2) m

/-- The keys of one insertion more. -/
lemma keys_insert : (m.insert k v).keys = if k ∈ m.keys then m.keys else m.keys ++ [k] := map_fst_put

/-- The same for the map. -/
lemma lookup_insert : (m.insert k v).lookup k' = if k = k' then some v else m.lookup k' := find_put

/-- A map is determined by its keys and their values; the default value plays no part. -/
theorem entries_eq (d : ν) : m.entries = m.keys.map fun k => (k, (m.lookup k).getD d) := by
  rw [keys, List.map_map]
  refine (List.map_id m.entries).symm.trans (List.map_congr_left fun e he => ?_)
  show e = (e.1, (m.lookup e.1).getD d)
  rw [lookup, find_of_mem m.nodup he, Option.getD_some]

/-- Insertions are made one after the other. -/
lemma insertAll_append (as : List (κ × ν)) (a : κ × ν) :
    m.insertAll (as ++ [a]) = (m.insertAll as).insert a.1 a.2 := List.foldl_append

/-- Different keys are only appended. -/
lemma entries_insertAll_of_nodup {as : List (κ × ν)} (hnodup : (as.map Prod.fst).Nodup) :
    (empty.insertAll as).entries = as := by
  induction as using List.reverseRecOn with
  | nil => rfl
  | append_singleton as a ih =>
    rw [List.map_append, List.map_singleton, List.nodup_append] at hnodup
    obtain ⟨hbefore, _, hdisjoint⟩ := hnodup
    have hnew : a.1 ∉ as.map Prod.fst := fun ha => hdisjoint a.1 ha a.1 (List.mem_singleton_self _) rfl
    have hentries := ih hbefore
    rw [insertAll_append]
    show put a.1 a.2 (empty.insertAll as).entries = _
    rw [hentries, put_of_not_mem hnew]

/-- **The keys** come in the order of their first insertion. -/
theorem keys_insertAll (as : List (κ × ν)) :
    (empty.insertAll as).keys = (as.map Prod.fst).eraseDups := by
  induction as using List.reverseRecOn with
  | nil => rfl
  | append_singleton as a ih =>
    rw [insertAll_append, keys_insert, ih, List.map_append, List.eraseDups_append]
    by_cases hk : a.1 ∈ as.map Prod.fst
    · have hold : [a.1].removeAll (as.map Prod.fst) = [] := by simp [List.removeAll, hk]
      rw [if_pos (List.mem_eraseDups.mpr hk), List.map_singleton, hold, List.eraseDups_nil,
        List.append_nil]
    · have hnew : [a.1].removeAll (as.map Prod.fst) = [a.1] := by simp [List.removeAll, hk]
      rw [if_neg (hk ∘ List.mem_eraseDups.mp), List.map_singleton, hnew]
      rfl

/-- **The value** of a key is the last one inserted for it. -/
theorem lookup_insertAll (as : List (κ × ν)) :
    (empty.insertAll as).lookup k =
      History.latest (fun a => if a.1 = k then some a.2 else none) as := by
  induction as using List.reverseRecOn with
  | nil => rfl
  | append_singleton as a ih =>
    rw [insertAll_append, lookup_insert, ih, History.latest_append]
    by_cases hk : a.1 = k
    · rw [if_pos hk, if_pos hk, Option.some_or]
    · rw [if_neg hk, if_neg hk, Option.none_or]

end InsertionMap
