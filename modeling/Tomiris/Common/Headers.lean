import Mathlib.Data.List.Basic
import Tomiris.Contracts.Orchestration

/-!
# Authentication headers

The patterns that both authenticators match the headers of a request against, and the
timestamp that they read from one.
-/

namespace Tomiris

/-- `[A-Za-z0-9._-]{1,64}` -/
def isKeyId (s : String) : Bool :=
  s.toList.all (fun c => c.isAlphanum || c == '.' || c == '_' || c == '-') &&
    1 ≤ s.length && s.length ≤ 64

/-- `[A-Za-z0-9_-]{22,256}` -/
def isNonce (s : String) : Bool :=
  s.toList.all (fun c => c.isAlphanum || c == '_' || c == '-') && 22 ≤ s.length && s.length ≤ 256

/-- `[0-9]{1,20}` -/
def isDigits (digits : List Char) : Bool :=
  digits.all Char.isDigit && 1 ≤ digits.length && digits.length ≤ 20

/-- The number of a header that matches `-?[0-9]{1,20}`. -/
def headerInt (s : String) : Option Int :=
  match s.toList with
  | '-' :: digits => if isDigits digits then some (-(Nat.ofDigitChars 10 digits 0 : Int)) else none
  | digits => if isDigits digits then some (Nat.ofDigitChars 10 digits 0) else none

/-- `datetime.fromtimestamp(n, tz=UTC)` is in the years 1 to 9999. -/
def representable (n : Int) : Bool := -62135596800 ≤ n && n ≤ 253402300799

/-- The time that a timestamp header names, unless it matches no integer or no `datetime`. -/
def headerTimestamp (s : String) : Option Int :=
  match headerInt s with
  | some n => if representable n then some (n * second) else none
  | none => none

/-- The digits that Python prints for a number of at most 20 of them. -/
theorem isDigits_toDigits {k : Nat} (h : k < 10 ^ 20) : isDigits (Nat.toDigits 10 k) = true := by
  have hall : ∀ c ∈ Nat.toDigits 10 k, c.isDigit = true := fun c hc =>
    Nat.isDigit_of_mem_toDigits (by decide) (by decide) hc
  have hpos : 1 ≤ (Nat.toDigits 10 k).length := Nat.length_toDigits_pos
  have hlen : (Nat.toDigits 10 k).length ≤ 20 :=
    (Nat.length_toDigits_le_iff (by decide) (by decide)).mpr h
  simp only [isDigits, Bool.and_eq_true, List.all_eq_true, decide_eq_true_eq]
  exact ⟨⟨hall, hpos⟩, hlen⟩

/-- `int(str(n))`, for the numbers that fit the pattern. -/
theorem headerInt_toString {n : Int} (h : n.natAbs < 10 ^ 20) :
    headerInt (toString n) = some n := by
  cases n with
  | ofNat k =>
    have hlist : (toString (Int.ofNat k)).toList = Nat.toDigits 10 k := Nat.toList_repr
    unfold headerInt
    rw [hlist]
    split
    · rename_i digits hminus
      -- a minus sign is no digit
      have hmem : '-' ∈ Nat.toDigits 10 k := by
        rw [hminus]
        exact List.mem_cons_self ..
      exact absurd (Nat.isDigit_of_mem_toDigits (by decide) (by decide) hmem) (by decide)
    · rw [if_pos (isDigits_toDigits (show k < 10 ^ 20 from h)), Nat.ofDigitChars_ten_toDigits]
      rfl
  | negSucc k =>
    have hlist : (toString (Int.negSucc k)).toList = '-' :: Nat.toDigits 10 (k + 1) := by
      rw [Int.toString_eq_repr, Int.repr, String.toList_append, Nat.toList_repr]
      rfl
    unfold headerInt
    rw [hlist]
    simp only
    rw [if_pos (isDigits_toDigits (show k + 1 < 10 ^ 20 from h)), Nat.ofDigitChars_ten_toDigits]
    rfl

theorem headerTimestamp_toString {n : Int} (h : representable n = true) :
    headerTimestamp (toString n) = some (n * second) := by
  have hsmall : n.natAbs < 10 ^ 20 := by
    simp only [representable, Bool.and_eq_true, decide_eq_true_eq] at h
    omega
  unfold headerTimestamp
  rw [headerInt_toString hsmall]
  simp only [h, if_true]

/-- A timestamp header names a whole second. -/
theorem headerTimestamp_representable {s : String} {t : Int} (h : headerTimestamp s = some t) :
    ∃ n, representable n = true ∧ t = n * second := by
  unfold headerTimestamp at h
  split at h
  · rename_i n _
    split at h
    · rename_i hn
      exact ⟨n, hn, (Option.some.inj h).symm⟩
    · cases h
  · cases h

end Tomiris
