import Mathlib.Data.List.DropRight

/-!
# Bounded maps that forget their oldest entry

Association lists in insertion order, as an insertion-ordered dictionary keeps them. A new
entry goes in last and the oldest one makes room for it. `Aged` follows one entry through the
insertions after it: the map can only lose it to the one that makes `limit` of them. A map that
only ever grows so holds the newest `limit` insertions, `add_rtake`.
-/

namespace BoundedMap

variable {κ ν : Type} {limit newer : Nat} {k k' : κ} {v v' : ν} {entries : List (κ × ν)}

/-- Room for one more entry. -/
def evict (limit : Nat) (entries : List (κ × ν)) : List (κ × ν) :=
  if entries.length ≥ limit then entries.tail else entries

/-- A new entry, in the place of the oldest one if the map is full. -/
def add (limit : Nat) (entries : List (κ × ν)) (k : κ) (v : ν) : List (κ × ν) :=
  evict limit entries ++ [(k, v)]

theorem add_length_le (hlimit : 1 ≤ limit) (h : entries.length ≤ limit) (k : κ) (v : ν) :
    (add limit entries k v).length ≤ limit := by
  unfold add evict
  rw [List.length_append, List.length_singleton]
  split
  · rw [List.length_tail]
    omega
  · omega

/-- The newest entries of a log, and one more. -/
theorem add_rtake (hlimit : 1 ≤ limit) (log : List (κ × ν)) (k : κ) (v : ν) :
    add limit (log.rtake limit) k v = (log ++ [(k, v)]).rtake limit := by
  unfold add evict List.rtake
  rw [List.length_append, List.length_singleton,
    List.drop_append_of_le_length (show log.length + 1 - limit ≤ log.length by omega)]
  rw [List.length_drop]
  split
  · rw [List.tail_drop, show log.length - limit + 1 = log.length + 1 - limit by omega]
  · rw [show log.length - limit = log.length + 1 - limit by omega]

theorem mem_evict {entry : κ × ν} (h : entry ∈ evict limit entries) : entry ∈ entries := by
  unfold evict at h
  split at h
  · exact List.mem_of_mem_tail h
  · exact h

theorem mem_of_lookup [BEq κ] [LawfulBEq κ] (h : entries.lookup k = some v) :
    (k, v) ∈ entries := by
  obtain ⟨older, younger, rfl, -⟩ := List.lookup_eq_some_iff.mp h
  exact List.mem_append_right older (List.mem_cons_self ..)

/-- The entry is in the map with at most `newer` entries behind it, or `newer` is enough to
    have pushed it out. -/
def Aged (limit newer : Nat) (k : κ) (v : ν) (entries : List (κ × ν)) : Prop :=
  limit ≤ newer ∨ ∃ older younger, entries = older ++ (k, v) :: younger ∧ younger.length ≤ newer

/-- A new entry has none behind it. -/
theorem aged_add (limit : Nat) (entries : List (κ × ν)) (k : κ) (v : ν) :
    Aged limit 0 k v (add limit entries k v) :=
  .inr ⟨evict limit entries, [], rfl, Nat.le_refl 0⟩

/-- One more insertion takes the entry one place further, or out. -/
theorem Aged.add (h : Aged limit newer k v entries) (k' : κ) (v' : ν) :
    Aged limit (newer + 1) k v (add limit entries k' v') := by
  rcases h with h | ⟨older, younger, rfl, hlen⟩
  · exact .inl (by omega)
  · unfold BoundedMap.add evict
    split
    · rename_i hfull
      cases older with
      | nil =>
        -- the entry is the oldest one, so the map is full of its successors
        rw [List.nil_append, List.length_cons] at hfull
        exact .inl (by omega)
      | cons e older =>
        refine .inr ⟨older, younger ++ [(k', v')], ?_, ?_⟩
        · simp
        · rw [List.length_append, List.length_singleton]
          omega
    · refine .inr ⟨older, younger ++ [(k', v')], ?_, ?_⟩
      · simp
      · rw [List.length_append, List.length_singleton]
        omega

/-- A key that is no longer in the map has been pushed out. -/
theorem Aged.le_of_lookup_eq_none [BEq κ] [LawfulBEq κ] (h : Aged limit newer k v entries)
    (hnone : entries.lookup k = none) : limit ≤ newer := by
  rcases h with h | ⟨older, younger, rfl, -⟩
  · exact h
  · have hmem : (k, v) ∈ older ++ (k, v) :: younger :=
      List.mem_append_right older (List.mem_cons_self ..)
    have := List.lookup_eq_none_iff.mp hnone _ hmem
    simp at this

end BoundedMap
