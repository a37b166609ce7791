import Mathlib.Algebra.BigOperators.Ring.Finset

/-!
# Finitely branching trees

A type whose values have finitely many children, over which one can recurse, is a type of trees:
its values have parts, a height and a number of nodes. The recursion may go through as many
constructors as it likes, and is one definition here.

## Key results

- `induction`: induction over the children
- `height_le_iff`: the height bounds the depth of every part
- `nodes_le`: a tree of bounded height and bounded branching has a bounded number of nodes
-/

/-- A type of finitely branching trees. -/
structure Branching (α : Type*) where
  children : α → List α
  wf : WellFounded fun c v => c ∈ children v

namespace Branching

variable {α : Type*} (t : Branching α)

/-- `u` is a part of the tree, `d` steps below the root. -/
inductive Part : α → Nat → α → Prop
  | self (v : α) : Part v 0 v
  | child {v c u : α} {d : Nat} : c ∈ t.children v → Part c d u → Part v (d + 1) u

/-- The number of steps to the deepest part. -/
def height (v : α) : Nat := ((t.children v).attach.map fun c => height c.val + 1).foldr max 0
termination_by t.wf.wrap v
decreasing_by exact c.property

/-- The number of parts, counted with their places. -/
def nodes (v : α) : Nat := 1 + ((t.children v).attach.map fun c => nodes c.val).sum
termination_by t.wf.wrap v
decreasing_by exact c.property

variable {t}

theorem induction {P : α → Prop} (h : ∀ v, (∀ c ∈ t.children v, P c) → P v) (v : α) : P v := by
  induction v using t.wf.induction with
  | h v ih => exact h v ih

theorem nodes_eq (v : α) : t.nodes v = 1 + ((t.children v).map t.nodes).sum := by
  rw [nodes, List.attach_map_val]

theorem height_eq (v : α) :
    t.height v = ((t.children v).map fun c => t.height c + 1).foldr max 0 := by
  rw [height, List.attach_map_val (f := fun c => t.height c + 1)]

theorem foldr_max_le {l : List Nat} {n : Nat} : l.foldr max 0 ≤ n ↔ ∀ k ∈ l, k ≤ n := by
  induction l with
  | nil => simp
  | cons k rest ih => rw [List.foldr_cons, max_le_iff, ih, List.forall_mem_cons]

/-- The height of a tree from the heights of its children. -/
theorem height_le {v : α} {n : Nat} :
    t.height v ≤ n ↔ ∀ c ∈ t.children v, t.height c + 1 ≤ n := by
  rw [height_eq, foldr_max_le, List.forall_mem_map]

/-- The height bounds the depth of every part. -/
theorem height_le_iff {v : α} {n : Nat} :
    t.height v ≤ n ↔ ∀ d u, t.Part v d u → d ≤ n := by
  induction v using t.induction generalizing n with
  | h v ih =>
    rw [height_le]
    constructor
    · intro h d u hpart
      cases hpart with
      | self => exact Nat.zero_le n
      | child hc hrest =>
        rename_i c d
        have hheight := h c hc
        -- a part of the child is one step deeper below the parent
        have hdepth : d ≤ n - 1 := (ih c hc).mp (by omega) d u hrest
        omega
    · intro h c hc
      -- the child itself is a part, so there is room for its height
      have hpos : 1 ≤ n := h 1 c (.child hc (.self c))
      have hheight : t.height c ≤ n - 1 := by
        rw [ih c hc]
        intro d u hpart
        have hdepth := h (d + 1) u (.child hc hpart)
        omega
      omega

theorem sum_map_le {β : Type*} {l : List β} {f : β → Nat} {b : Nat} (hf : ∀ x ∈ l, f x ≤ b) :
    (l.map f).sum ≤ l.length * b := by
  induction l with
  | nil => simp
  | cons x rest ih =>
    rw [List.forall_mem_cons] at hf
    have hrest := ih hf.2
    rw [List.map_cons, List.sum_cons, List.length_cons, Nat.succ_mul]
    omega

/-- A tree of height `h` in which no part has more than `m` children has at most
    `1 + m + ... + m ^ h` nodes. -/
theorem nodes_le {m h : Nat} {v : α} (hheight : t.height v ≤ h)
    (hbranch : ∀ d u, t.Part v d u → (t.children u).length ≤ m) :
    t.nodes v ≤ ∑ k ∈ Finset.range (h + 1), m ^ k := by
  induction h generalizing v with
  | zero =>
    -- a tree of height 0 is a leaf
    have hnil : t.children v = [] := by
      rw [List.eq_nil_iff_forall_not_mem]
      intro c hc
      have hchild := height_le.mp hheight c hc
      omega
    simp [nodes_eq, hnil]
  | succ h ih =>
    have hone : ∀ c ∈ t.children v, t.nodes c ≤ ∑ k ∈ Finset.range (h + 1), m ^ k := by
      intro c hc
      refine ih ?_ fun d u hpart => hbranch (d + 1) u (.child hc hpart)
      have hchild := height_le.mp hheight c hc
      omega
    -- the root is the summand 1, and each child has the sum for one step less
    rw [nodes_eq, Finset.sum_range_succ' _ (h + 1), pow_zero, add_comm]
    refine Nat.add_le_add_right ?_ 1
    calc ((t.children v).map t.nodes).sum
        ≤ (t.children v).length * ∑ k ∈ Finset.range (h + 1), m ^ k := sum_map_le hone
      _ ≤ m * ∑ k ∈ Finset.range (h + 1), m ^ k := Nat.mul_le_mul_right _ (hbranch 0 v (.self v))
      _ = ∑ k ∈ Finset.range (h + 1), m ^ (k + 1) := by
        rw [Finset.mul_sum]
        exact Finset.sum_congr rfl fun k _ => (pow_succ' m k).symm

end Branching
