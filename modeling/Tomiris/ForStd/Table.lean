import Tomiris.ForStd.List

/-!
# Keyed tables

A table of rows with a primary key, as a relational store keeps it: the rows in
insertion order together with a proof that no two of them share a key. `insert?` is
`INSERT` (it fails on a taken key), `set` is `UPDATE … WHERE key = …`, `upsert` is
`INSERT … ON CONFLICT DO UPDATE`.

The second half describes what an update in place does to a table. `Moves R t t'` says
that `t'` holds the rows of `t`, each changed by `R`; `On ks R` restricts a change to the
rows with a key in `ks`, which is what a loop over selected rows does.
-/

/-- Whether a query returned a row, and one with the wanted property. -/
instance decidableExistsSome {α : Type} (o : Option α) (P : α → Prop) [DecidablePred P] :
    Decidable (∃ a, o = some a ∧ P a) :=
  match o with
  | none => isFalse fun ⟨_, h, _⟩ => nomatch h
  | some a => decidable_of_iff (P a) ⟨fun h => ⟨a, rfl, h⟩, fun ⟨_, h, hP⟩ => by cases h; exact hP⟩

/-- A row type with a primary key. -/
class Keyed (α : Type) (κ : outParam Type) where
  key : α → κ

open Keyed (key)

/-- Rows in insertion order, no two of which share a primary key. -/
structure Table (α : Type) {κ : outParam Type} [Keyed α κ] where
  rows : List α
  nodup : (rows.map key).Nodup

namespace Table

variable {α κ : Type} [Keyed α κ]

/-- The table without rows. -/
def empty : Table α := ⟨[], List.nodup_nil⟩

/-- Two rows of a table with the same key are the same row. -/
theorem eq_of_key_eq (t : Table α) {a b : α} (ha : a ∈ t.rows) (hb : b ∈ t.rows)
    (h : key a = key b) : a = b :=
  List.inj_on_of_nodup_map t.nodup ha hb h

variable [DecidableEq κ]

/-- The row with key `k`. -/
def get? (t : Table α) (k : κ) : Option α := t.rows.find? (fun a => key a = k)

/-- `INSERT`: fails when the key is taken. -/
def insert? (t : Table α) (a : α) : Option (Table α) :=
  if h : key a ∈ t.rows.map key then none
  else some ⟨t.rows ++ [a], by
    rw [List.map_append, List.map_singleton]
    exact t.nodup.append (List.nodup_singleton _) (by simpa using h)⟩

/-- Writing a row over one with its key changes no key. -/
private theorem map_key_set (l : List α) (a : α) :
    (l.map (fun b => if key b = key a then a else b)).map key = l.map key := by
  rw [List.map_map]
  apply List.map_congr_left
  intro b _
  simp only [Function.comp_apply]
  -- the row put in carries the key of the row it replaces
  split
  · rename_i h; exact h.symm
  · rfl

/-- `UPDATE` of the row with the key of `a`; nothing happens when there is none. -/
def set (t : Table α) (a : α) : Table α :=
  ⟨t.rows.map (fun b => if key b = key a then a else b), by
    rw [map_key_set]; exact t.nodup⟩

/-- `INSERT … ON CONFLICT DO UPDATE`. -/
def upsert (t : Table α) (a : α) : Table α := (t.insert? a).getD (t.set a)

/-! ## Looking rows up -/

/-- A row is found under its own key. -/
theorem get?_eq_some {t : Table α} {k : κ} {a : α} :
    t.get? k = some a ↔ a ∈ t.rows ∧ key a = k := by
  constructor
  · intro h
    exact ⟨List.mem_of_find?_eq_some h, by simpa using List.find?_some h⟩
  · rintro ⟨hmem, rfl⟩
    -- `find?` stops at some row with this key, and there is only one
    cases h : t.get? (key a) with
    | none =>
      have := List.find?_eq_none.mp h a hmem
      simp at this
    | some b =>
      have hb : b ∈ t.rows := List.mem_of_find?_eq_some h
      have hk : key b = key a := by simpa using List.find?_some h
      rw [t.eq_of_key_eq hb hmem hk]

/-- Nothing is found under a key that no row has. -/
theorem get?_eq_none {t : Table α} {k : κ} :
    t.get? k = none ↔ ∀ a ∈ t.rows, key a ≠ k := by
  simp [get?]

/-- Every row is found, since keys are unique. -/
theorem get?_of_mem {t : Table α} {a : α} (h : a ∈ t.rows) : t.get? (key a) = some a :=
  get?_eq_some.mpr ⟨h, rfl⟩

/-- What is found is a row. -/
theorem mem_of_get? {t : Table α} {k : κ} {a : α} (h : t.get? k = some a) : a ∈ t.rows :=
  (get?_eq_some.mp h).1

/-- And has the key that was looked up. -/
theorem key_of_get? {t : Table α} {k : κ} {a : α} (h : t.get? k = some a) : key a = k :=
  (get?_eq_some.mp h).2

/-- The rows with the given keys are rows of the table. -/
theorem get?_of_mem_filterMap {t : Table α} {ks : List κ} {a : α}
    (h : a ∈ ks.filterMap t.get?) : t.get? (key a) = some a := by
  obtain ⟨k, _, ha⟩ := List.mem_filterMap.mp h
  exact get?_of_mem (mem_of_get? ha)

/-- Distinct keys select distinct rows. -/
theorem nodup_filterMap_get? {t : Table α} {ks : List κ} (h : ks.Nodup) :
    ((ks.filterMap t.get?).map key).Nodup := by
  induction ks with
  | nil => exact List.nodup_nil
  | cons k rest ih =>
    rw [List.nodup_cons] at h
    cases ha : t.get? k with
    | none => rw [List.filterMap_cons_none ha]; exact ih h.2
    | some a =>
      rw [List.filterMap_cons_some ha, List.map_cons, List.nodup_cons, key_of_get? ha]
      -- a row selected twice would have its key in the list twice
      refine ⟨fun hmem => h.1 ?_, ih h.2⟩
      obtain ⟨b, hb, hbk⟩ := List.mem_map.mp hmem
      obtain ⟨k', hk', hget⟩ := List.mem_filterMap.mp hb
      rw [← hbk, key_of_get? hget]
      exact hk'

/-! ## Inserting and setting -/

/-- An insert needs a new key, and appends. -/
theorem insert?_eq_some {t t' : Table α} {a : α} :
    t.insert? a = some t' ↔ t.get? (key a) = none ∧ t'.rows = t.rows ++ [a] := by
  -- `insert?` looks for the key in the rows, as `get?` does
  have hmem : key a ∈ t.rows.map key ↔ ¬ t.get? (key a) = none := by
    rw [get?_eq_none, List.mem_map]
    push Not
    rfl
  unfold insert?
  split
  · rename_i h
    simp [hmem.mp h]
  · rename_i h
    have hnone : t.get? (key a) = none := by
      by_contra hc
      exact h (hmem.mpr hc)
    cases t'
    simp [hnone, eq_comm]

/-- An insert under a key that is taken violates the primary key. -/
theorem insert?_eq_none {t : Table α} {a : α} :
    t.insert? a = none ↔ key a ∈ t.rows.map key := by
  unfold insert?
  split
  · rename_i h
    simp only [true_iff]
    exact h
  · rename_i h
    simp only [reduceCtorEq, false_iff]
    exact h

/-- A free key can be inserted. -/
theorem exists_insert? {t : Table α} {a : α} (h : t.get? (key a) = none) :
    ∃ t', t.insert? a = some t' := by
  refine ⟨⟨t.rows ++ [a], ?_⟩, insert?_eq_some.mpr ⟨h, rfl⟩⟩
  rw [List.map_append, List.map_singleton]
  refine t.nodup.append (List.nodup_singleton _) ?_
  simpa using get?_eq_none.mp h

/-- An update puts its row in the place of the one with its key. -/
theorem mem_set {t : Table α} {a b : α} :
    b ∈ (t.set a).rows ↔ (b ∈ t.rows ∧ key b ≠ key a) ∨ (b = a ∧ ∃ c ∈ t.rows, key c = key a) := by
  simp only [set, List.mem_map]
  constructor
  · rintro ⟨c, hc, rfl⟩
    split
    · rename_i hk; exact .inr ⟨rfl, c, hc, hk⟩
    · rename_i hk; exact .inl ⟨hc, hk⟩
  · rintro (⟨hb, hk⟩ | ⟨rfl, c, hc, hk⟩)
    · exact ⟨b, hb, by simp [hk]⟩
    · exact ⟨c, hc, by simp [hk]⟩

/-- An update does not touch other keys. -/
theorem get?_set_ne {t : Table α} {a : α} {k : κ} (h : key a ≠ k) :
    (t.set a).get? k = t.get? k := by
  cases hk : t.get? k with
  -- the row put in has another key, so it cannot be the one found
  | none =>
    rw [get?_eq_none] at hk ⊢
    intro b hb
    rcases mem_set.mp hb with ⟨hb, _⟩ | ⟨rfl, _⟩
    · exact hk b hb
    · exact h
  | some b =>
    rw [get?_eq_some] at hk ⊢
    exact ⟨mem_set.mpr (.inl ⟨hk.1, fun hc => h (hc ▸ hk.2)⟩), hk.2⟩

/-- An updated row is found. -/
theorem get?_set_self {t : Table α} {a b : α} (h : t.get? (key a) = some b) :
    (t.set a).get? (key a) = some a := by
  rw [get?_eq_some] at h ⊢
  exact ⟨mem_set.mpr (.inr ⟨rfl, b, h.1, h.2⟩), rfl⟩

/-- Where there is a row, it is updated. -/
theorem upsert_eq_set {t : Table α} {a b : α} (h : t.get? (key a) = some b) :
    t.upsert a = t.set a := by
  unfold upsert
  cases hi : t.insert? a with
  | none => rfl
  | some t' => rw [(insert?_eq_some.mp hi).1] at h; cases h

/-- Where there is none, it is appended. -/
theorem upsert_rows_of_none {t : Table α} {a : α} (h : t.get? (key a) = none) :
    (t.upsert a).rows = t.rows ++ [a] := by
  obtain ⟨t', ht'⟩ := exists_insert? h
  rw [upsert, ht']
  exact (insert?_eq_some.mp ht').2

/-- In either case it is found. -/
theorem get?_upsert_self {t : Table α} {a : α} : (t.upsert a).get? (key a) = some a := by
  cases h : t.get? (key a) with
  | none => rw [get?_eq_some, upsert_rows_of_none h]; simp
  | some b => rw [upsert_eq_set h]; exact get?_set_self h

/-- And other keys are not touched. -/
theorem get?_upsert_ne {t : Table α} {a : α} {k : κ} (h : key a ≠ k) :
    (t.upsert a).get? k = t.get? k := by
  cases hk : t.get? (key a) with
  | some b => rw [upsert_eq_set hk]; exact get?_set_ne h
  | none =>
    unfold get?
    rw [upsert_rows_of_none hk, List.find?_append]
    simp [h]

/-- Appended rows hide no older one. -/
theorem get?_append {t t' : Table α} {new : List α} (h : t'.rows = t.rows ++ new) {k : κ} {a : α}
    (ha : t.get? k = some a) : t'.get? k = some a := by
  rw [get?_eq_some] at ha ⊢
  rw [h]
  exact ⟨List.mem_append_left _ ha.1, ha.2⟩

/-- Setting a row removes no key. -/
theorem isSome_set {t : Table α} {a : α} {k : κ} (h : (t.get? k).isSome) :
    ((t.set a).get? k).isSome := by
  by_cases hk : key a = k
  · obtain ⟨b, hb⟩ := Option.isSome_iff_exists.mp h
    rw [← hk] at hb ⊢
    rw [get?_set_self hb]
    rfl
  · rwa [get?_set_ne hk]

/-- An upsert removes no key. -/
theorem isSome_upsert {t : Table α} {a : α} {k : κ} (h : (t.get? k).isSome) :
    ((t.upsert a).get? k).isSome := by
  by_cases hk : key a = k
  · rw [← hk, get?_upsert_self]
    rfl
  · rwa [get?_upsert_ne hk]

/-- New rows remove no key. -/
theorem isSome_append {t t' : Table α} {new : List α} (h : t'.rows = t.rows ++ new) {k : κ}
    (hk : (t.get? k).isSome) : (t'.get? k).isSome := by
  obtain ⟨b, hb⟩ := Option.isSome_iff_exists.mp hk
  rw [get?_append h hb]
  rfl

/-- A write under a key that two rows share agrees with both on what `f` reads. -/
theorem exists_get?_set {γ : Type} {f : α → γ} {t : Table α} {a a' b : α} (hkey : key a' = key a)
    (hf : f a' = f a) (ha : ∃ c, t.get? (key a) = some c ∧ f c = f a)
    (hb : ∃ c, t.get? (key b) = some c ∧ f c = f b) :
    ∃ c, (t.set a').get? (key b) = some c ∧ f c = f b := by
  obtain ⟨c, hc, hcb⟩ := hb
  by_cases hk : key a' = key b
  · obtain ⟨d, hd, hda⟩ := ha
    -- both rows are the one with this key
    have hcd : c = d := by
      rw [← hkey, hk, hc] at hd
      exact Option.some_inj.mp hd
    rw [← hk] at hc ⊢
    exact ⟨a', get?_set_self hc, by rw [hf, ← hda, ← hcd, hcb]⟩
  · rw [get?_set_ne hk]
    exact ⟨c, hc, hcb⟩

/-- The rows behind an insert. -/
theorem mem_of_mem_insert {t t' : Table α} {a b : α} (h : t.insert? a = some t')
    (hb : b ∈ t'.rows) : b = a ∨ b ∈ t.rows := by
  rw [(insert?_eq_some.mp h).2, List.mem_append, List.mem_singleton] at hb
  exact hb.symm

/-- The rows behind an update. -/
theorem mem_of_mem_set {t : Table α} {a b : α} (h : b ∈ (t.set a).rows) : b = a ∨ b ∈ t.rows := by
  rcases mem_set.mp h with ⟨hb, -⟩ | ⟨rfl, -⟩
  · exact .inr hb
  · exact .inl rfl

/-- The rows behind either. -/
theorem mem_of_mem_upsert {t : Table α} {a b : α} (h : b ∈ (t.upsert a).rows) :
    b = a ∨ b ∈ t.rows := by
  cases hk : t.get? (key a) with
  | some c =>
    rw [upsert_eq_set hk] at h
    exact mem_of_mem_set h
  | none =>
    rw [upsert_rows_of_none hk, List.mem_append, List.mem_singleton] at h
    exact h.symm

/-! ## Updates in place -/

omit [DecidableEq κ] in
/-- `t'` holds the rows of `t` in the same order, each changed by `R` under its own key. -/
def Moves (R : α → α → Prop) (t t' : Table α) : Prop :=
  List.Forall₂ (fun a b => key b = key a ∧ R a b) t.rows t'.rows

namespace Moves

variable {R S : α → α → Prop} {t t' t'' : Table α}

omit [DecidableEq κ] in
/-- Nothing has to move. -/
theorem refl (h : ∀ a ∈ t.rows, R a a) : Moves R t t :=
  List.forall₂_same.mpr fun a ha => ⟨rfl, h a ha⟩

omit [DecidableEq κ] in
/-- Rows that are related in a stronger sense. -/
theorem mono (h : Moves R t t') (hRS : ∀ a ∈ t.rows, ∀ b, R a b → S a b) : Moves S t t' := by
  unfold Moves at *
  generalize t.rows = l at *
  generalize t'.rows = l' at *
  -- row by row, as for every lemma on `Moves` below
  induction h with
  | nil => exact .nil
  | cons hab _ ih =>
    refine .cons ⟨hab.1, hRS _ (List.mem_cons_self ..) _ hab.2⟩ (ih fun a ha => ?_)
    exact hRS a (List.mem_cons_of_mem _ ha)

omit [DecidableEq κ] in
/-- A table that did not change. -/
theorem of_eq (h : t' = t) (hR : ∀ a, R a a) : Moves R t t' := h ▸ refl fun a _ => hR a

omit [DecidableEq κ] in
/-- Two updates one after the other. -/
theorem comp {T : α → α → Prop} (h : Moves R t t') (h' : Moves S t' t'')
    (hT : ∀ a b c, key b = key a → R a b → S b c → T a c) : Moves T t t'' := by
  unfold Moves at *
  generalize t.rows = l at *
  generalize t'.rows = l' at *
  generalize t''.rows = l'' at *
  -- both updates keep the order, so the rows of the three tables pair up
  induction h generalizing l'' with
  | nil => cases h'; exact .nil
  | cons hab _ ih =>
    cases h' with
    | cons hbc htail =>
      exact .cons ⟨hbc.1.trans hab.1, hT _ _ _ hab.1 hab.2 hbc.2⟩ (ih _ htail)

omit [DecidableEq κ] in
/-- Every row of the updated table comes from a row of the old one. -/
theorem mem_new (h : Moves R t t') {b : α} (hb : b ∈ t'.rows) :
    ∃ a ∈ t.rows, key b = key a ∧ R a b := by
  unfold Moves at h
  generalize t.rows = l at *
  generalize t'.rows = l' at *
  induction h with
  | nil => simp at hb
  | cons hab _ ih =>
    rcases List.mem_cons.mp hb with rfl | hb
    · exact ⟨_, List.mem_cons_self .., hab⟩
    · obtain ⟨a, ha, hR⟩ := ih hb
      exact ⟨a, List.mem_cons_of_mem _ ha, hR⟩

omit [DecidableEq κ] in
/-- Every row of the old table is still there, changed by `R`. -/
theorem mem_old (h : Moves R t t') {a : α} (ha : a ∈ t.rows) :
    ∃ b ∈ t'.rows, key b = key a ∧ R a b := by
  unfold Moves at h
  generalize t.rows = l at *
  generalize t'.rows = l' at *
  induction h with
  | nil => simp at ha
  | cons hab _ ih =>
    rcases List.mem_cons.mp ha with rfl | ha
    · exact ⟨_, List.mem_cons_self .., hab⟩
    · obtain ⟨b, hb, hR⟩ := ih ha
      exact ⟨b, List.mem_cons_of_mem _ hb, hR⟩

/-- Every old row has become one that it is related to. -/
theorem get?_old (h : Moves R t t') {k : κ} {a : α} (ha : t.get? k = some a) :
    ∃ b, t'.get? k = some b ∧ R a b := by
  obtain ⟨b, hb, hk, hR⟩ := h.mem_old (mem_of_get? ha)
  exact ⟨b, get?_eq_some.mpr ⟨hb, hk.trans (key_of_get? ha)⟩, hR⟩

/-- Every new row was one that is related to it. -/
theorem get?_new (h : Moves R t t') {k : κ} {b : α} (hb : t'.get? k = some b) :
    ∃ a, t.get? k = some a ∧ R a b := by
  obtain ⟨a, ha, hk, hR⟩ := h.mem_new (mem_of_get? hb)
  exact ⟨a, get?_eq_some.mpr ⟨ha, hk.symm.trans (key_of_get? hb)⟩, hR⟩

/-- The two rows under one key. -/
theorem rel_of_get? (h : Moves R t t') {k : κ} {a b : α} (ha : t.get? k = some a)
    (hb : t'.get? k = some b) : R a b := by
  obtain ⟨c, hc, hR⟩ := h.get?_old ha
  rw [hb] at hc
  cases hc
  exact hR

omit [DecidableEq κ] in
/-- A selection that `R` keeps rows in has as many rows afterwards, if not more. -/
theorem length_filter_le (h : Moves R t t') {p q : α → Bool}
    (hpq : ∀ a b, R a b → p a = true → q b = true) :
    (t.rows.filter p).length ≤ (t'.rows.filter q).length := by
  rw [← List.countP_eq_length_filter, ← List.countP_eq_length_filter]
  exact List.countP_le_of_forall₂ h fun a b hab => hpq a b hab.2

omit [DecidableEq κ] in
/-- A column that `R` leaves alone reads the same over a selection that `R` respects. -/
theorem map_filter_eq {β : Type} (h : Moves R t t') {p q : α → Bool} {f : α → β}
    (hpq : ∀ a b, R a b → q b = p a) (hf : ∀ a b, R a b → f b = f a) :
    (t'.rows.filter q).map f = (t.rows.filter p).map f := by
  unfold Moves at h
  generalize t.rows = l at *
  generalize t'.rows = l' at *
  induction h with
  | nil => rfl
  | @cons a b _ _ hab _ ih =>
    simp only [List.filter_cons, hpq a b hab.2]
    split
    · simp only [List.map_cons, ih, hf a b hab.2]
    · exact ih

omit [DecidableEq κ] in
/-- A selection whose rows `R` leaves alone. -/
theorem filter_eq (h : Moves R t t') {p : α → Bool} (hp : ∀ a b, R a b → p b = p a)
    (hR : ∀ a b, R a b → p a = true → b = a) : t'.rows.filter p = t.rows.filter p := by
  unfold Moves at h
  generalize t.rows = l at *
  generalize t'.rows = l' at *
  induction h with
  | nil => rfl
  | @cons a b _ _ hab _ ih =>
    simp only [List.filter_cons, hp a b hab.2]
    split
    · rename_i ha
      rw [ih, hR a b hab.2 ha]
    · exact ih

omit [DecidableEq κ] in
/-- A column that `R` leaves alone reads the same over the whole table. -/
theorem map_eq {β : Type} (h : Moves R t t') {f : α → β} (hf : ∀ a b, R a b → f b = f a) :
    t'.rows.map f = t.rows.map f := by
  have := h.map_filter_eq (p := fun _ => true) (q := fun _ => true) (fun _ _ _ => rfl) hf
  simpa using this

/-- Setting one row changes that row and no other. -/
theorem set_row {a : α} (hR : ∀ b, t.get? (key a) = some b → R b a)
    (hkeep : ∀ b ∈ t.rows, key b ≠ key a → R b b) : Moves R t (t.set a) := by
  unfold Moves
  rw [set, List.forall₂_map_right_iff, List.forall₂_same]
  -- `set` maps over the rows, so each is compared with its own image
  intro b hb
  split
  · rename_i hk
    exact ⟨hk.symm, hR b (get?_eq_some.mpr ⟨hb, hk⟩)⟩
  · rename_i hk
    exact ⟨rfl, hkeep b hb hk⟩

/-- Setting a row that was read under its key. -/
theorem set_of_get? {k : κ} {a b : α} (hb : t.get? k = some b) (hk : key a = k) (hR : R b a)
    (hkeep : ∀ c, R c c) : Moves R t (t.set a) := by
  refine set_row (fun c hc => ?_) fun c _ _ => hkeep c
  rw [hk, hb] at hc
  cases hc
  exact hR

end Moves

/-! ## Loops over selected rows -/

/-- `R` on the rows with a key in `ks`, no change elsewhere. -/
def On (ks : List κ) (R : α → α → Prop) (a b : α) : Prop :=
  if key a ∈ ks then R a b else b = a

/-- A row that is named has moved. -/
theorem On.of_mem {ks : List κ} {R : α → α → Prop} {a b : α} (h : On ks R a b)
    (hk : key a ∈ ks) : R a b := by
  rwa [On, if_pos hk] at h

/-- A row that is not has stayed. -/
theorem On.of_not_mem {ks : List κ} {R : α → α → Prop} {a b : α} (h : On ks R a b)
    (hk : key a ∉ ks) : b = a := by
  rwa [On, if_neg hk] at h

/-- Every row has done one of the two. -/
theorem On.elim {ks : List κ} {R : α → α → Prop} {a b : α} (h : On ks R a b) :
    b = a ∨ R a b := by
  by_cases hk : key a ∈ ks
  · exact .inr (h.of_mem hk)
  · exact .inl (h.of_not_mem hk)

namespace Moves

variable {R : α → α → Prop} {t t' t'' : Table α}

/-- No row is named, and none moves. -/
theorem on_nil : Moves (On [] R) t t :=
  .refl fun a _ => by simp [On]

/-- An update moves the row with its key. -/
theorem on_set {k : κ} {a b : α} (hb : t.get? k = some b) (hk : key a = k) (hR : R b a) :
    Moves (On [k] R) t (t.set a) := by
  refine set_row (fun c hc => ?_) (fun c _ hne => ?_)
  · rw [hk, hb] at hc
    cases hc
    simpa [On, key_of_get? hb] using hR
  · simp [On, ← hk, hne]

/-- A turn that leaves its row alone. -/
theorem on_refl {k : κ} {a : α} (ha : t.get? k = some a) (hR : R a a) :
    Moves (On [k] R) t t := by
  refine refl fun b hb => ?_
  unfold On
  split
  · rename_i hk
    -- the only row with this key is `a`
    have hba : b = a :=
      t.eq_of_key_eq hb (mem_of_get? ha) ((List.mem_singleton.mp hk).trans (key_of_get? ha).symm)
    rwa [hba]
  · rfl

/-- Two loops over disjoint selections make one loop over both. -/
theorem on_append {ks ks' : List κ} (h : Moves (On ks R) t t') (h' : Moves (On ks' R) t' t'')
    (hd : ∀ k ∈ ks, k ∉ ks') : Moves (On (ks ++ ks') R) t t'' := by
  refine h.comp h' fun a b c hk hab hbc => ?_
  -- a row of the first loop is left alone by the second
  by_cases ha : key a ∈ ks
  · have hcb : c = b := hbc.of_not_mem (by rw [hk]; exact hd _ ha)
    simpa [On, ha, hcb] using hab.of_mem ha
  -- any other row reaches the second loop unchanged
  · obtain rfl := hab.of_not_mem ha
    by_cases hb : key b ∈ ks'
    · simpa [On, ha, hb] using hbc.of_mem hb
    · simpa [On, ha, hb] using hbc.of_not_mem hb

/-- The row of a loop's later turn is still as it was selected. -/
theorem on_get? {ks : List κ} (h : Moves (On ks R) t t') {k : κ} {a : α} (hk : k ∉ ks)
    (ha : t.get? k = some a) : t'.get? k = some a := by
  obtain ⟨b, hb, hR⟩ := h.get?_old ha
  rwa [hR.of_not_mem (by rwa [key_of_get? ha])] at hb

/-- A loop whose every turn changes the row it was given changes the selected rows. -/
theorem on_foldl {σ : Type} {tab : σ → Table α} {f : σ → α → σ}
    (hf : ∀ s a, (tab s).get? (key a) = some a → Moves (On [key a] R) (tab s) (tab (f s a)))
    {picked : List α} {s : σ} (hrows : ∀ a ∈ picked, (tab s).get? (key a) = some a)
    (hnd : (picked.map key).Nodup) :
    Moves (On (picked.map key) R) (tab s) (tab (picked.foldl f s)) := by
  induction picked generalizing s with
  | nil => exact on_nil
  | cons a rest ih =>
    rw [List.map_cons, List.nodup_cons] at hnd
    have hfirst := hf s a (hrows a (List.mem_cons_self ..))
    -- the rows of the later turns are still as they were selected
    have hrows' : ∀ b ∈ rest, (tab (f s a)).get? (key b) = some b := by
      intro b hb
      refine hfirst.on_get? (fun hmem => ?_) (hrows b (List.mem_cons_of_mem _ hb))
      exact hnd.1 (List.mem_singleton.mp hmem ▸ List.mem_map_of_mem hb)
    refine on_append hfirst (ih hrows' hnd.2) fun k hk => ?_
    rw [List.mem_singleton] at hk
    exact hk ▸ hnd.1

end Moves

end Table
