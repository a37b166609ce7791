import Tomiris.Common.Hkdf

/-!
# The key expansion

After `n` turns the output is the first `n` blocks, the previous block is the last of them, and the
counter is `n + 1`. A turn is only begun while the output is shorter than the length, which at most
255 blocks are, so that the counter fits into a byte whenever it is used.

## Key results

- `Expanded.turn`: the invariant of the loop
- `expand_ok`: the loop ends, with as many blocks as it needs
- `hkdf_expands`: what is returned for a length
-/

namespace Tomiris

/-- The blocks of the expansion: none, and the HMAC of the block before, the info and the index. -/
def keyBlock (hmac : HmacSha256) (pseudoRandomKey info : List UInt8) : Nat → List UInt8
  | 0 => []
  | i + 1 => (hmac pseudoRandomKey
      (keyBlock hmac pseudoRandomKey info i ++ info ++ [UInt8.ofNat (i + 1)])).toList

/-- The first `n` blocks from index 1 on, one after another. -/
def keyBlocks (hmac : HmacSha256) (pseudoRandomKey info : List UInt8) (n : Nat) : List UInt8 :=
  (List.range n).flatMap fun i => keyBlock hmac pseudoRandomKey info (i + 1)

section Blocks

variable {hmac : HmacSha256} {pseudoRandomKey info : List UInt8}

theorem keyBlocks_succ (n : Nat) : keyBlocks hmac pseudoRandomKey info (n + 1) =
    keyBlocks hmac pseudoRandomKey info n ++ keyBlock hmac pseudoRandomKey info (n + 1) := by
  simp [keyBlocks, List.range_succ]

@[simp] theorem keyBlocks_length (n : Nat) :
    (keyBlocks hmac pseudoRandomKey info n).length = 32 * n := by
  induction n with
  | zero => rfl
  | succ n ih =>
    rw [keyBlocks_succ, List.length_append, ih, keyBlock, Vector.length_toList]
    omega

theorem keyBlocks_prefix_add (m k : Nat) :
    keyBlocks hmac pseudoRandomKey info m <+: keyBlocks hmac pseudoRandomKey info (m + k) := by
  induction k with
  | zero => exact List.prefix_refl _
  | succ k ih =>
    rw [← Nat.add_assoc, keyBlocks_succ]
    exact ih.trans (List.prefix_append _ _)

/-- Bytes that are there stay when more blocks are made. -/
theorem take_keyBlocks_add {length m : Nat} (hm : length ≤ 32 * m) (k : Nat) :
    (keyBlocks hmac pseudoRandomKey info (m + k)).take length =
      (keyBlocks hmac pseudoRandomKey info m).take length := by
  obtain ⟨rest, hrest⟩ := @keyBlocks_prefix_add hmac pseudoRandomKey info m k
  rw [← hrest, List.take_append_of_le_length (by simpa using hm)]

/-- The first bytes are the same in any number of blocks that has them. -/
theorem take_keyBlocks {length m n : Nat} (hm : length ≤ 32 * m) (hn : length ≤ 32 * n) :
    (keyBlocks hmac pseudoRandomKey info m).take length =
      (keyBlocks hmac pseudoRandomKey info n).take length := by
  rcases Nat.le_total m n with hle | hle
  · obtain ⟨k, rfl⟩ := Nat.exists_eq_add_of_le hle
    exact (take_keyBlocks_add hm k).symm
  · obtain ⟨k, rfl⟩ := Nat.exists_eq_add_of_le hle
    exact take_keyBlocks_add hn k

end Blocks

section Loop

variable {hmac : HmacSha256} {pseudoRandomKey info : List UInt8} {e : Expansion} {n : Nat}

/-- The variables of the loop after `n` turns. -/
structure Expanded (hmac : HmacSha256) (pseudoRandomKey info : List UInt8) (n : Nat)
    (e : Expansion) : Prop where
  output : e.output = keyBlocks hmac pseudoRandomKey info n
  previous : e.previous = keyBlock hmac pseudoRandomKey info n
  counter : e.counter = n + 1

theorem expanded_start : Expanded hmac pseudoRandomKey info 0 {} := ⟨rfl, rfl, rfl⟩

theorem Expanded.length (h : Expanded hmac pseudoRandomKey info n e) :
    e.output.length = 32 * n := by
  rw [h.output, keyBlocks_length]

/-- A turn makes the next block, as long as its index is a byte. -/
theorem Expanded.turn (h : Expanded hmac pseudoRandomKey info n e) (hn : n < 255) :
    ∃ e', e.turn hmac pseudoRandomKey info = .ok e' ∧
      Expanded hmac pseudoRandomKey info (n + 1) e' := by
  -- the index of the block is the counter, a byte up to 255
  have hbyte : byteOf e.counter = .ok [UInt8.ofNat (n + 1)] := by
    rw [h.counter]
    exact if_pos (by omega)
  unfold Expansion.turn
  rw [hbyte]
  refine ⟨_, rfl, ?_, ?_, ?_⟩
  · rw [keyBlocks_succ, h.output, h.previous]
    rfl
  · rw [h.previous]
    rfl
  · rw [h.counter]

/-- The states in which the condition of the loop is tested. -/
inductive Expansion.Reached (hmac : HmacSha256) (pseudoRandomKey info : List UInt8)
    (length : Nat) : Expansion → Prop
  | start : Reached hmac pseudoRandomKey info length {}
  | turn {e e' : Expansion} : Reached hmac pseudoRandomKey info length e →
      e.output.length < length → e.turn hmac pseudoRandomKey info = .ok e' →
      Reached hmac pseudoRandomKey info length e'

/-- In each of them the first blocks have been made, and no block too many. -/
theorem Expansion.Reached.expanded {length : Nat} (hlength : length ≤ 8160)
    (h : Reached hmac pseudoRandomKey info length e) :
    ∃ n, Expanded hmac pseudoRandomKey info n e ∧ 32 * n < length + 32 := by
  induction h with
  | start => exact ⟨0, expanded_start, by omega⟩
  | turn _ hshort hturn ih =>
    obtain ⟨n, hexpanded, -⟩ := ih
    rw [hexpanded.length] at hshort
    -- output is still missing, so fewer than 255 blocks have been made
    obtain ⟨e'', hturn', hnext⟩ := hexpanded.turn (by omega)
    rw [hturn] at hturn'
    cases hturn'
    exact ⟨n + 1, hnext, by omega⟩

/-- The loop ends with the blocks that the length needs. -/
theorem expand_ok {length : Nat} (hlength : length ≤ 8160)
    (h : Expanded hmac pseudoRandomKey info n e) :
    ∃ m e', Expansion.expand hmac pseudoRandomKey info length e = .ok e' ∧
      Expanded hmac pseudoRandomKey info m e' ∧ length ≤ 32 * m := by
  generalize hleft : length - e.output.length = left
  -- induction on the bytes that are missing
  induction left using Nat.strongRecOn generalizing n e with
  | _ left ih =>
    rw [Expansion.expand]
    by_cases hshort : e.output.length < length
    · rw [if_pos hshort]
      rw [h.length] at hshort hleft
      obtain ⟨e', hturn, hnext⟩ := h.turn (by omega)
      have hnextLength := hnext.length
      rw [hturn]
      exact ih (length - e'.output.length) (by omega) hnext rfl
    · rw [if_neg hshort]
      rw [h.length] at hshort
      exact ⟨n, e, rfl, h, by omega⟩

end Loop

/-- What is returned for a length that is allowed. -/
theorem hkdfSha256_ok (hmac : HmacSha256) {inputKeyMaterial : List UInt8}
    (hkey : inputKeyMaterial ≠ []) (salt info : List UInt8) {length : Nat} (hpos : 1 ≤ length)
    (hlength : length ≤ 8160) :
    ∃ m, hkdfSha256 hmac inputKeyMaterial salt info length =
      .ok ((keyBlocks hmac (hmac salt inputKeyMaterial).toList info m).take length) ∧
        length ≤ 32 * m := by
  have hempty : ¬ inputKeyMaterial.isEmpty = true := by simpa using hkey
  have hrange : ¬ ((length : Int) < 1 ∨ 255 * 32 < (length : Int)) := by omega
  obtain ⟨m, e, hexpand, hexpanded, hle⟩ :=
    @expand_ok hmac (hmac salt inputKeyMaterial).toList info _ _ length hlength expanded_start
  refine ⟨m, ?_, hle⟩
  unfold hkdfSha256
  rw [if_neg hempty, if_neg hrange, Int.toNat_natCast, hexpand, ← hexpanded.output]

/-- **HKDF expands.** For every length that is allowed the loop ends, its counter is a byte whenever
    a turn begins, and what is returned are the first bytes of the blocks. -/
theorem hkdf_expands (hmac : HmacSha256) {inputKeyMaterial : List UInt8}
    (hkey : inputKeyMaterial ≠ []) (salt info : List UInt8) {length : Nat} (hpos : 1 ≤ length)
    (hlength : length ≤ 8160) :
    (∀ e, Expansion.Reached hmac (hmac salt inputKeyMaterial).toList info length e →
      e.output.length < length → 1 ≤ e.counter ∧ e.counter ≤ 255) ∧
    ∃ out, hkdfSha256 hmac inputKeyMaterial salt info length = .ok out ∧ out.length = length ∧
      (∀ n, length ≤ 32 * n →
        out = (keyBlocks hmac (hmac salt inputKeyMaterial).toList info n).take length) ∧
      ∀ shorter : Nat, 1 ≤ shorter → shorter ≤ length →
        ∃ out', hkdfSha256 hmac inputKeyMaterial salt info shorter = .ok out' ∧ out' <+: out := by
  obtain ⟨m, hout, hm⟩ := hkdfSha256_ok hmac hkey salt info hpos hlength
  refine ⟨?_, _, hout, ?_, ?_, ?_⟩
  · intro e hreached hshort
    obtain ⟨n, hexpanded, -⟩ := hreached.expanded hlength
    rw [hexpanded.length] at hshort
    rw [hexpanded.counter]
    omega
  · rw [List.length_take, keyBlocks_length]
    omega
  · intro n hn
    exact take_keyBlocks hm hn
  · intro shorter hpos' hle
    obtain ⟨m', hout', hm'⟩ := hkdfSha256_ok hmac hkey salt info hpos'
      (Nat.le_trans hle hlength)
    refine ⟨_, hout', ?_⟩
    -- both are taken from the same blocks
    rw [take_keyBlocks hm' (Nat.le_trans hle hm)]
    exact List.take_prefix_take_left hle

/-- The longest output is 255 blocks. -/
theorem hkdf_expands_longest : ∃ out,
    hkdfSha256 (fun _ _ => .replicate 32 7) [1] [] [] 8160 = .ok out ∧ out.length = 8160 := by
  obtain ⟨-, out, hout, hlength, -⟩ := hkdf_expands (fun _ _ => .replicate 32 7)
    (List.cons_ne_nil 1 []) [] [] (by decide : 1 ≤ 8160) (Nat.le_refl 8160)
  exact ⟨out, hout, hlength⟩

end Tomiris
