import Tomiris.Common.Validation
import Tomiris.ForStd.Branching

/-!
# What the bounded-JSON check accepts

`walk` meets every part of a value once, and asks of each what can be seen of it without its
children. So the check accepts a value exactly if all its parts pass, none of them too deep. Of a
float it asks nothing, so that NaN and the infinities pass.

## Key results

- `walk_ok_iff`: the check of a value from the checks of its children
- `bounded_iff`: what the check accepts
- `accepts_exactly_iff`: when that is what it should accept
-/

namespace Tomiris

namespace PyValue

/-- The values of a mapping, or the elements of a sequence. -/
def children : PyValue → List PyValue
  | .mapping items => items.map (·.2)
  | .sequence items => items
  | _ => []

theorem sizeOf_children {v c : PyValue} (h : c ∈ v.children) : sizeOf c < sizeOf v := by
  cases v with
  | mapping items =>
    obtain ⟨⟨key, c⟩, hitem, rfl⟩ := List.mem_map.mp h
    have hlt := List.sizeOf_lt_of_mem hitem
    simp only [Prod.mk.sizeOf_spec] at hlt
    simp only [mapping.sizeOf_spec]
    omega
  | sequence items =>
    have hlt : sizeOf c < sizeOf items := List.sizeOf_lt_of_mem h
    simp only [sequence.sizeOf_spec]
    omega
  | _ => cases h

/-- Values as trees. -/
def tree : Branching PyValue where
  children := children
  wf := Subrelation.wf sizeOf_children (measure sizeOf).wf

/-- The value has a type that JSON has, and its keys are strings. -/
def IsJsonType : PyValue → Prop
  | .bytes _ => False
  | .mapping items => ∀ item ∈ items, ∃ key, item.1 = .str key
  | _ => True

/-- The value is a number that JSON can write, or no float. -/
def IsFinite : PyValue → Prop
  | .float (.finite _) => True
  | .float _ => False
  | _ => True

/-- A value within the limits, of the types of JSON. -/
structure BoundedData (lim : JsonLimits) (v : PyValue) : Prop where
  types : ∀ d u, tree.Part v d u → u.IsJsonType
  depth : tree.height v ≤ lim.maxDepth
  strings : ∀ d s, tree.Part v d (.str s) → s.length ≤ lim.maxStringLength
  keys : ∀ d items, tree.Part v d (.mapping items) →
    ∀ item ∈ items, ∀ key, item.1 = .str key → key.length ≤ 128
  items : ∀ d u, tree.Part v d u → u.children.length ≤ lim.maxItems

/-- A bounded JSON value, in the strict sense. -/
structure BoundedJson (lim : JsonLimits) (v : PyValue) : Prop extends BoundedData lim v where
  finite : ∀ d u, tree.Part v d u → u.IsFinite

/-- What `walk` asks of a value itself. -/
structure Fits (lim : JsonLimits) (v : PyValue) : Prop where
  type : v.IsJsonType
  string : ∀ s, v = .str s → s.length ≤ lim.maxStringLength
  keys : ∀ items, v = .mapping items →
    ∀ item ∈ items, ∀ key, item.1 = .str key → key.length ≤ 128
  items : v.children.length ≤ lim.maxItems

theorem isShortKey_iff {key : PyValue} :
    key.isShortKey = true ↔ ∃ s, key = .str s ∧ s.length ≤ 128 := by
  cases key with
  | str s => simp [isShortKey]
  | _ => simp [isShortKey]

end PyValue

section Walk

variable {lim : JsonLimits} {depth : Nat}

theorem walkSequence_ok_iff {items : List PyValue} :
    walkSequence lim items depth = .ok () ↔ ∀ item ∈ items, walk lim item depth = .ok () := by
  induction items with
  | nil => simp [walkSequence]
  | cons item rest ih =>
    rw [List.forall_mem_cons, ← ih, walkSequence]
    -- the loop stops at the first item that raises
    cases walk lim item depth with
    | ok => simp
    | error e => simp

theorem walkItems_ok_iff {items : List (PyValue × PyValue)} :
    walkItems lim items depth = .ok () ↔
      ∀ item ∈ items, item.1.isShortKey = true ∧ walk lim item.2 depth = .ok () := by
  induction items with
  | nil => simp [walkItems]
  | cons item rest ih =>
    rw [List.forall_mem_cons, ← ih, walkItems]
    by_cases hkey : item.1.isShortKey = true
    · cases walk lim item.2 depth with
      | ok => simp [hkey]
      | error e => simp [hkey]
    · simp [hkey]

/-- The check of a value: its depth, what can be seen of it, and its children one step deeper. -/
theorem walk_ok_iff {v : PyValue} : walk lim v depth = .ok () ↔
    depth ≤ lim.maxDepth ∧ v.Fits lim ∧ ∀ c ∈ v.children, walk lim c (depth + 1) = .ok () := by
  by_cases hdepth : depth ≤ lim.maxDepth
  · have hdeep : ¬ depth > lim.maxDepth := not_lt.mpr hdepth
    -- one turn of `walk`, for each kind of value
    rw [walk.eq_def, if_neg hdeep]
    cases v with
    | mapping items =>
      by_cases hitems : items.length ≤ lim.maxItems
      · simp only [not_lt.mpr hitems, if_false, walkItems_ok_iff]
        constructor
        · intro h
          refine ⟨hdepth, ⟨?_, by simp, ?_, by simpa [PyValue.children] using hitems⟩, ?_⟩
          · intro item hitem
            obtain ⟨key, hkey, -⟩ := PyValue.isShortKey_iff.mp (h item hitem).1
            exact ⟨key, hkey⟩
          -- the key that was found to be short is the key of the item
          · rintro _ ⟨⟩ item hitem key hkey
            obtain ⟨key', hkey', hshort⟩ := PyValue.isShortKey_iff.mp (h item hitem).1
            rw [hkey] at hkey'
            cases hkey'
            exact hshort
          · intro c hc
            obtain ⟨item, hitem, rfl⟩ := List.mem_map.mp hc
            exact (h item hitem).2
        · rintro ⟨-, hfits, hchildren⟩ item hitem
          obtain ⟨key, hkey⟩ := hfits.type item hitem
          have hshort := hfits.keys items rfl item hitem key hkey
          exact ⟨PyValue.isShortKey_iff.mpr ⟨key, hkey, hshort⟩,
            hchildren item.2 (List.mem_map_of_mem hitem)⟩
      · simp only [not_le.mp hitems, if_true, reduceCtorEq, false_iff]
        rintro ⟨-, hfits, -⟩
        exact hitems (by simpa [PyValue.children] using hfits.items)
    | sequence items =>
      by_cases hitems : items.length ≤ lim.maxItems
      · simp only [not_lt.mpr hitems, if_false, walkSequence_ok_iff]
        constructor
        · intro h
          exact ⟨hdepth, ⟨trivial, by simp, by simp, hitems⟩, h⟩
        · rintro ⟨-, -, hchildren⟩
          exact hchildren
      · simp only [not_le.mp hitems, if_true, reduceCtorEq, false_iff]
        rintro ⟨-, hfits, -⟩
        exact hitems hfits.items
    | str s =>
      by_cases hlength : s.length ≤ lim.maxStringLength
      · simp only [not_lt.mpr hlength, if_false, true_iff]
        refine ⟨hdepth, ⟨trivial, ?_, by simp, Nat.zero_le _⟩, by simp [PyValue.children]⟩
        rintro _ ⟨⟩
        exact hlength
      · simp only [not_le.mp hlength, if_true, reduceCtorEq, false_iff]
        rintro ⟨-, hfits, -⟩
        exact hlength (hfits.string s rfl)
    -- bytes are the one type that falls through to the last `raise`
    | bytes b =>
      simp only [reduceCtorEq, false_iff]
      rintro ⟨-, hfits, -⟩
      exact hfits.type
    -- `None`, booleans and all numbers return at once, NaN and the infinities as well
    | _ =>
      simp only [true_iff]
      exact ⟨hdepth, ⟨trivial, by simp, by simp, Nat.zero_le _⟩, by simp [PyValue.children]⟩
  · rw [walk.eq_def, if_pos (not_le.mp hdepth)]
    simp [hdepth]

/-- `walk` meets every part, one step deeper for each step below the root. -/
theorem walk_parts {v : PyValue} : walk lim v depth = .ok () ↔
    ∀ d u, PyValue.tree.Part v d u → depth + d ≤ lim.maxDepth ∧ u.Fits lim := by
  induction v using PyValue.tree.induction generalizing depth with
  | h v ih =>
    rw [walk_ok_iff]
    constructor
    · rintro ⟨hdepth, hfits, hchildren⟩ d u hpart
      -- a part is the value itself or a part of a child
      cases hpart with
      | self => exact ⟨hdepth, hfits⟩
      | child hc hrest =>
        obtain ⟨hle, hu⟩ := (ih _ hc).mp (hchildren _ hc) _ _ hrest
        exact ⟨by omega, hu⟩
    · intro h
      obtain ⟨hdepth, hfits⟩ := h 0 v (.self v)
      refine ⟨hdepth, hfits, fun c hc => (ih c hc).mpr fun d u hpart => ?_⟩
      obtain ⟨hle, hu⟩ := h (d + 1) u (.child hc hpart)
      exact ⟨by omega, hu⟩

/-- What the check accepts: everything within the limits, with any float. -/
theorem bounded_iff {v : PyValue} : v.Bounded lim = true ↔ v.BoundedData lim := by
  have hwalk : v.Bounded lim = true ↔ walk lim v 0 = .ok () := by
    unfold PyValue.Bounded
    cases walk lim v 0 with
    | ok => simp
    | error e => simp
  rw [hwalk, walk_parts]
  constructor
  · intro h
    exact
      { types := fun d u hpart => (h d u hpart).2.type
        depth := Branching.height_le_iff.mpr fun d u hpart => by
          have hle := (h d u hpart).1
          omega
        strings := fun d s hpart => (h d _ hpart).2.string s rfl
        keys := fun d items hpart => (h d _ hpart).2.keys items rfl
        items := fun d u hpart => (h d u hpart).2.items }
  · intro h d u hpart
    -- the height bounds the depth of each part that `walk` meets
    have hle := Branching.height_le_iff.mp h.depth d u hpart
    refine ⟨by omega, h.types d u hpart, ?_, ?_, h.items d u hpart⟩
    · rintro s rfl
      exact h.strings d s hpart
    · rintro items rfl
      exact h.keys d items hpart

end Walk

/-- The check returns the bounded JSON values, and raises a `ValueError` for everything else. -/
def AcceptsExactly (lim : JsonLimits) (v : PyValue) : Prop :=
  (v.BoundedJson lim → validateBoundedJson lim v = .ok v) ∧
    (¬ v.BoundedJson lim → ∃ e, validateBoundedJson lim v = .error e)

/-- The check is right about exactly the values whose numbers are finite, and those that are
    rejected for something else. What it accepts has a bounded number of nodes. -/
theorem accepts_exactly_iff (lim : JsonLimits) (v : PyValue) :
    (AcceptsExactly lim v ↔
      ((∀ d u, PyValue.tree.Part v d u → u.IsFinite) ∨ ¬ v.BoundedData lim)) ∧
    ∀ out, validateBoundedJson lim v = .ok out →
      PyValue.tree.nodes out ≤ ∑ k ∈ Finset.range (lim.maxDepth + 1), lim.maxItems ^ k := by
  have haccepts : validateBoundedJson lim v = .ok v ↔ v.BoundedData lim := by
    rw [validateBoundedJson_ok, bounded_iff]
    simp
  constructor
  · constructor
    · rintro ⟨-, hrejects⟩
      -- bounded data with a number that is not finite would be accepted
      rw [or_iff_not_imp_right, not_not]
      intro hdata
      by_contra hinfinite
      obtain ⟨e, he⟩ := hrejects fun hjson => hinfinite hjson.finite
      rw [haccepts.mpr hdata] at he
      cases he
    · intro hcases
      refine ⟨fun hjson => haccepts.mpr hjson.toBoundedData, fun hno => ?_⟩
      have hdata : ¬ v.BoundedData lim := by
        rcases hcases with hfinite | hdata
        · exact fun hdata => hno ⟨hdata, hfinite⟩
        · exact hdata
      cases hresult : validateBoundedJson lim v with
      | error e => exact ⟨e, rfl⟩
      | ok out =>
        obtain ⟨-, hbounded⟩ := validateBoundedJson_ok.mp hresult
        exact absurd (bounded_iff.mp hbounded) hdata
  · intro out hout
    obtain ⟨rfl, hbounded⟩ := validateBoundedJson_ok.mp hout
    have hdata := bounded_iff.mp hbounded
    exact Branching.nodes_le hdata.depth hdata.items

/-- NaN is metadata. -/
theorem nan_accepted : validateBoundedJson {} (.float .nan) = .ok (.float .nan) ∧
    ¬ PyValue.BoundedJson {} (.float .nan) ∧ ¬ AcceptsExactly {} (.float .nan) := by
  have haccepted : validateBoundedJson {} (.float .nan) = .ok (.float .nan) := rfl
  have hnot : ¬ PyValue.BoundedJson {} (.float .nan) := fun h => h.finite 0 _ (.self _)
  refine ⟨haccepted, hnot, ?_⟩
  rintro ⟨-, hrejects⟩
  obtain ⟨e, he⟩ := hrejects hnot
  rw [haccepted] at he
  cases he

end Tomiris
