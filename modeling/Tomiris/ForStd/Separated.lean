import Mathlib.Algebra.Ring.Nat
import Mathlib.Data.List.Basic

/-!
# Fields joined with a separator

When a joined text determines its fields. `intercalate_inj` reads fields that are free of the
separator back from a text that was joined from any fields, as many or more.
`intercalate_concat_inj` lets the last field contain the separator.
-/

namespace Separated

variable {α : Type} {x : α}

section Counted

variable [BEq α] [LawfulBEq α]

theorem count_intercalate (x : α) {fields : List (List α)} (hne : fields ≠ []) :
    ([x].intercalate fields).count x + 1 =
      (fields.map (List.count x)).sum + fields.length := by
  -- on the fields; each one after the first brings a separator
  induction fields with
  | nil => exact absurd rfl hne
  | cons field rest ih =>
    cases rest with
    | nil => simp
    | cons field' rest =>
      have hrest := ih (List.cons_ne_nil field' rest)
      rw [List.intercalate_cons_cons, List.count_append, List.count_append,
        List.count_singleton_self, List.map_cons, List.sum_cons, List.length_cons]
      omega

/-- Fields that are free of the separator are the only ones with their text, among those that
    are as many or more. -/
theorem intercalate_inj {fields fields' : List (List α)} (hne : fields ≠ [])
    (hfree : ∀ field ∈ fields, x ∉ field) (hlen : fields.length ≤ fields'.length)
    (h : [x].intercalate fields = [x].intercalate fields') : fields = fields' := by
  have hne' : fields' ≠ [] := by
    intro hnil
    rw [hnil, List.length_nil, Nat.le_zero, List.length_eq_zero_iff] at hlen
    exact hne hlen
  have hzero : (fields.map (List.count x)).sum = 0 := by
    rw [List.sum_eq_zero_iff_forall_eq_nat]
    intro n hn
    obtain ⟨field, hfield, rfl⟩ := List.mem_map.mp hn
    exact List.count_eq_zero.mpr (hfree field hfield)
  -- the separators of both texts are counted, so the other fields have none either
  have hcount := count_intercalate x hne
  have hcount' := count_intercalate x hne'
  rw [← h] at hcount'
  have hzero' : (fields'.map (List.count x)).sum = 0 := by omega
  have hfree' : ∀ field ∈ fields', x ∉ field := by
    intro field hfield
    rw [List.sum_eq_zero_iff_forall_eq_nat] at hzero'
    exact List.count_eq_zero.mp (hzero' _ (List.mem_map_of_mem hfield))
  rw [← List.splitOn_intercalate x hfree hne, h, List.splitOn_intercalate x hfree' hne']

end Counted

/-- A text determines what stands before its first separator, and what stands behind it. -/
theorem append_sep_inj {first first' rest rest' : List α} (hfree : x ∉ first)
    (hfree' : x ∉ first') (h : first ++ x :: rest = first' ++ x :: rest') :
    first = first' ∧ rest = rest' := by
  induction first generalizing first' with
  | nil =>
    cases first' with
    | nil => exact ⟨rfl, (List.cons.inj h).2⟩
    | cons b first' =>
      obtain ⟨rfl, -⟩ := List.cons.inj h
      -- one of the two would start with the separator
      exact absurd (List.mem_cons_self ..) hfree'
  | cons a first ih =>
    cases first' with
    | nil =>
      obtain ⟨rfl, -⟩ := List.cons.inj h
      exact absurd (List.mem_cons_self ..) hfree
    | cons b first' =>
      obtain ⟨rfl, htail⟩ := List.cons.inj h
      rw [List.mem_cons, not_or] at hfree hfree'
      obtain ⟨rfl, hrest⟩ := ih hfree.2 hfree'.2 htail
      exact ⟨rfl, hrest⟩

/-- Only the last field may contain the separator, if there are as many of them. -/
theorem intercalate_concat_inj {fields fields' : List (List α)} {last last' : List α}
    (hlen : fields.length = fields'.length) (hfree : ∀ field ∈ fields, x ∉ field)
    (hfree' : ∀ field ∈ fields', x ∉ field)
    (h : [x].intercalate (fields ++ [last]) = [x].intercalate (fields' ++ [last'])) :
    fields = fields' ∧ last = last' := by
  induction fields generalizing fields' with
  | nil =>
    rw [List.length_nil, eq_comm, List.length_eq_zero_iff] at hlen
    rw [hlen, List.nil_append, List.nil_append, List.intercalate_singleton,
      List.intercalate_singleton] at h
    exact ⟨hlen.symm, h⟩
  | cons field rest ih =>
    obtain _ | ⟨field', rest'⟩ := fields'
    · cases hlen
    · have hne : rest ++ [last] ≠ [] := by simp
      have hne' : rest' ++ [last'] ≠ [] := by simp
      rw [List.cons_append, List.cons_append, List.intercalate_cons_of_ne_nil hne,
        List.intercalate_cons_of_ne_nil hne', List.append_assoc, List.append_assoc,
        List.singleton_append, List.singleton_append] at h
      rw [List.forall_mem_cons] at hfree hfree'
      rw [List.length_cons, List.length_cons, Nat.add_right_cancel_iff] at hlen
      -- the first fields end at the first separators
      obtain ⟨rfl, hbehind⟩ := append_sep_inj hfree.1 hfree'.1 h
      obtain ⟨rfl, hlast⟩ := ih hlen hfree.2 hfree'.2 hbehind
      exact ⟨rfl, hlast⟩

/-- A text determines what stands behind its last separator. -/
theorem append_last_inj {rest rest' last last' : List α} (hfree : x ∉ last) (hfree' : x ∉ last')
    (h : rest ++ x :: last = rest' ++ x :: last') : rest = rest' ∧ last = last' := by
  have hreversed := congrArg List.reverse h
  simp only [List.reverse_append, List.reverse_cons, List.append_assoc, List.singleton_append]
    at hreversed
  obtain ⟨hlast, hrest⟩ := append_sep_inj (by simpa using hfree) (by simpa using hfree') hreversed
  exact ⟨List.reverse_inj.mp hrest, List.reverse_inj.mp hlast⟩

section Strings

variable {sep : String} {c : Char} {fields fields' : List String}

theorem string_intercalate_inj (hsep : sep.toList = [c]) (hne : fields ≠ [])
    (hfree : ∀ field ∈ fields, c ∉ field.toList) (hlen : fields.length ≤ fields'.length)
    (h : sep.intercalate fields = sep.intercalate fields') : fields = fields' := by
  have hlists := congrArg String.toList h
  rw [String.toList_intercalate, String.toList_intercalate, hsep] at hlists
  have hmap := intercalate_inj (by simpa using hne) (by simpa using hfree) (by simpa using hlen)
    hlists
  exact (List.map_inj_right fun _ _ => String.toList_inj.mp).mp hmap

theorem string_intercalate_concat_inj {last last' : String} (hsep : sep.toList = [c])
    (hlen : fields.length = fields'.length) (hfree : ∀ field ∈ fields, c ∉ field.toList)
    (hfree' : ∀ field ∈ fields', c ∉ field.toList)
    (h : sep.intercalate (fields ++ [last]) = sep.intercalate (fields' ++ [last'])) :
    fields = fields' ∧ last = last' := by
  have hlists := congrArg String.toList h
  rw [String.toList_intercalate, String.toList_intercalate, hsep, List.map_append,
    List.map_append] at hlists
  obtain ⟨hmap, hlast⟩ := intercalate_concat_inj (by simpa using hlen) (by simpa using hfree)
    (by simpa using hfree') hlists
  exact ⟨(List.map_inj_right fun _ _ => String.toList_inj.mp).mp hmap, String.toList_inj.mp hlast⟩

/-- The last field is determined as soon as it is free of the separator. -/
theorem string_intercalate_last {last last' : String} (hsep : sep.toList = [c])
    (hne : fields ≠ []) (hne' : fields' ≠ []) (hfree : c ∉ last.toList) (hfree' : c ∉ last'.toList)
    (h : sep.intercalate (fields ++ [last]) = sep.intercalate (fields' ++ [last'])) :
    last = last' := by
  rw [String.intercalate_append_of_ne_nil hne (List.cons_ne_nil last []),
    String.intercalate_append_of_ne_nil hne' (List.cons_ne_nil last' []), String.intercalate_singleton,
    String.intercalate_singleton] at h
  have hlists := congrArg String.toList h
  simp only [String.toList_append, hsep, List.append_assoc, List.singleton_append] at hlists
  exact String.toList_inj.mp (append_last_inj hfree hfree' hlists).2

end Strings

end Separated
