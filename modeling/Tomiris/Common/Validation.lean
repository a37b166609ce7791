import Tomiris.ForStd.Floats

/-!
# Bounded JSON metadata

The Python values that reach `metadata`, `context` and `payload` fields, and
`validate_bounded_json`, which every contract applies to them.
-/

namespace Tomiris

/-- Values built from Python's JSON-like types, with what else a caller may nest in them. -/
inductive PyValue where
  | none
  | bool (b : Bool)
  | int (i : Int)
  | float (f : PyFloat)
  | str (s : String)
  | bytes (b : List UInt8)
  | mapping (items : List (PyValue × PyValue))
  | sequence (items : List PyValue)

/-- The `ValueError`s of `validate_bounded_json`. -/
inductive MetadataError where
  | tooDeep
  | stringTooLong
  | tooManyKeys
  | badKey
  | tooManyItems
  | notJson

namespace MetadataError

/-- The message of the `ValueError`. -/
def message : MetadataError → String
  | tooDeep => "metadata nesting is too deep"
  | stringTooLong => "metadata string is too long"
  | tooManyKeys => "metadata contains too many keys"
  | badKey => "metadata keys must be short strings"
  | tooManyItems => "metadata contains too many list items"
  | notJson => "metadata must contain JSON-compatible values only"

end MetadataError

/-- The limits `validate_bounded_json` is called with; the defaults are the function's own. -/
structure JsonLimits where
  maxDepth : Nat := 4
  maxItems : Nat := 50
  maxStringLength : Nat := 2000

/-- A mapping key: a string of at most 128 characters. -/
def PyValue.isShortKey : PyValue → Bool
  | .str s => s.length ≤ 128
  | _ => false

/-- The value is a `dict`. -/
def PyValue.isMapping : PyValue → Bool
  | .mapping _ => true
  | _ => false

mutual

/-- The inner `walk` of `validate_bounded_json`. -/
def walk (lim : JsonLimits) (item : PyValue) (depth : Nat) : Except MetadataError Unit :=
  -- before the type is looked at, so a scalar can be too deep as well
  if depth > lim.maxDepth then .error .tooDeep
  else match item with
    | .str s => if s.length > lim.maxStringLength then .error .stringTooLong else .ok ()
    | .none => .ok ()
    | .bool _ => .ok ()
    | .int _ => .ok ()
    -- `nan` and the infinities pass: only the type is tested
    | .float _ => .ok ()
    | .mapping items =>
      if items.length > lim.maxItems then .error .tooManyKeys
      else walkItems lim items (depth + 1)
    | .sequence items =>
      if items.length > lim.maxItems then .error .tooManyItems
      else walkSequence lim items (depth + 1)
    | .bytes _ => .error .notJson

/-- `for key, nested in item.items()`. -/
def walkItems (lim : JsonLimits) : List (PyValue × PyValue) → Nat → Except MetadataError Unit
  | [], _ => .ok ()
  -- the key is tested before its value is walked
  | (key, nested) :: rest, depth =>
    if key.isShortKey then
      match walk lim nested depth with
      | .ok () => walkItems lim rest depth
      | .error e => .error e
    else .error .badKey

/-- `for nested in item`. -/
def walkSequence (lim : JsonLimits) : List PyValue → Nat → Except MetadataError Unit
  | [], _ => .ok ()
  | nested :: rest, depth =>
    match walk lim nested depth with
    | .ok () => walkSequence lim rest depth
    | .error e => .error e

end

/-- `validate_bounded_json`: the value itself, or the first violation met. -/
def validateBoundedJson (lim : JsonLimits) (value : PyValue) : Except MetadataError PyValue :=
  match walk lim value 0 with
  | .ok () => .ok value
  | .error e => .error e

/-- The value passes `validate_bounded_json`. -/
def PyValue.Bounded (lim : JsonLimits) (value : PyValue) : Bool :=
  match walk lim value 0 with
  | .ok () => true
  | .error _ => false

/-- A value passes if it is within the limits, and it is not changed. -/
theorem validateBoundedJson_ok {lim : JsonLimits} {value out : PyValue} :
    validateBoundedJson lim value = .ok out ↔ out = value ∧ value.Bounded lim = true := by
  unfold validateBoundedJson PyValue.Bounded
  cases walk lim value 0 <;> simp [eq_comm]

section Walk

variable {lim : JsonLimits} {depth : Nat}

/-- A list passes if each of its items does. -/
theorem walkSequence_ok {items : List PyValue} (h : ∀ item ∈ items, walk lim item depth = .ok ()) :
    walkSequence lim items depth = .ok () := by
  induction items with
  | nil => simp [walkSequence]
  | cons item rest ih =>
    simp only [walkSequence, h item (List.mem_cons_self ..)]
    exact ih fun item' hitem' => h item' (List.mem_cons_of_mem _ hitem')

/-- Items pass if their keys are short and their values pass. -/
theorem walkItems_ok {items : List (PyValue × PyValue)}
    (h : ∀ item ∈ items, item.1.isShortKey = true ∧ walk lim item.2 depth = .ok ()) :
    walkItems lim items depth = .ok () := by
  induction items with
  | nil => simp [walkItems]
  | cons item rest ih =>
    obtain ⟨hkey, hwalk⟩ := h item (List.mem_cons_self ..)
    simp only [walkItems, hkey, hwalk, if_true]
    exact ih fun item' hitem' => h item' (List.mem_cons_of_mem _ hitem')

/-- A short text passes. -/
theorem walk_str {s : String} (hdepth : depth ≤ lim.maxDepth) (h : s.length ≤ lim.maxStringLength) :
    walk lim (.str s) depth = .ok () := by
  simp [walk, not_lt.mpr hdepth, not_lt.mpr h]

/-- A mapping passes if it is small and its items do. -/
theorem walk_mapping {items : List (PyValue × PyValue)} (hdepth : depth ≤ lim.maxDepth)
    (hitems : items.length ≤ lim.maxItems)
    (h : ∀ item ∈ items, item.1.isShortKey = true ∧ walk lim item.2 (depth + 1) = .ok ()) :
    walk lim (.mapping items) depth = .ok () := by
  simp [walk, not_lt.mpr hdepth, not_lt.mpr hitems, walkItems_ok h]

/-- A sequence passes if it is small and its items do. -/
theorem walk_sequence {items : List PyValue} (hdepth : depth ≤ lim.maxDepth)
    (hitems : items.length ≤ lim.maxItems)
    (h : ∀ item ∈ items, walk lim item (depth + 1) = .ok ()) :
    walk lim (.sequence items) depth = .ok () := by
  simp [walk, not_lt.mpr hdepth, not_lt.mpr hitems, walkSequence_ok h]

end Walk

end Tomiris
