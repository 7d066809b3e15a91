import Mathlib.Data.String.Basic
import Mathlib.Algebra.Order.Ring.Int

/-! Numerals as texts. Numbers with equally many digits are ordered as their numerals are,
character by character; with different lengths the two orders part. -/
namespace Numerals

/-- Between lists of one length the first difference decides, whatever follows them. -/
theorem lt_append {α : Type*} [LT α] (first second front back : List α)
    (length : first.length = second.length) (less : first < second) :
    first ++ front < second ++ back := by
  induction first generalizing second with
  | nil =>
    obtain rfl := List.length_eq_zero_iff.mp length.symm
    exact absurd less (List.not_lt_nil [])
  | cons head tail ih =>
    cases second with
    | nil => contradiction
    | cons other rest =>
      rw [List.cons_append,List.cons_append,List.cons_lt_cons_iff]
      rcases List.cons_lt_cons_iff.mp less with different | ⟨same,later⟩
      · exact Or.inl different
      · exact Or.inr ⟨same,ih rest (Nat.succ.inj length) later⟩

theorem digitChar_lt (first second : Nat) (digit : second < 10) (less : first < second) :
    Nat.digitChar first < Nat.digitChar second := by
  have left := Nat.toNat_digitChar_of_lt_ten (Nat.lt_trans less digit)
  have right := Nat.toNat_digitChar_of_lt_ten digit
  change (Nat.digitChar first).toNat < (Nat.digitChar second).toNat
  omega

theorem single_digit (base number : Nat) (positive : 1 < base) :
    (Nat.toDigits base number).length = 1 ↔ number < base := by
  have bound := Nat.length_toDigits_le_iff (n := number) positive Nat.one_pos
  have nonempty := Nat.length_toDigits_pos (b := base) (n := number)
  rw [Nat.pow_one] at bound
  omega

/-- By recursion on the last digit: the leading digits decide unless they are equal. -/
theorem toDigits_lt (base : Nat) (positive : 1 < base) (decimal : base ≤ 10) (first second : Nat)
    (length : (Nat.toDigits base first).length = (Nat.toDigits base second).length)
    (less : first < second) : Nat.toDigits base first < Nat.toDigits base second := by
  induction first using Nat.strong_induction_on generalizing second with
  | h first ih =>
    by_cases small : second < base
    · rw [Nat.toDigits_of_lt_base small,Nat.toDigits_of_lt_base (Nat.lt_trans less small)]
      apply List.cons_lt_cons_iff.mpr
      exact Or.inl (digitChar_lt first second (Nat.lt_of_lt_of_le small decimal) less)
    · have large : ¬first < base := by
        rw [← single_digit base first positive,length,single_digit base second positive]
        exact small
      rw [Nat.toDigits_of_base_le positive (Nat.le_of_not_lt large),
        Nat.toDigits_of_base_le positive (Nat.le_of_not_lt small)] at length ⊢
      have leading : (Nat.toDigits base (first / base)).length =
          (Nat.toDigits base (second / base)).length := by simpa using length
      rcases Nat.lt_or_eq_of_le (Nat.div_le_div_right (c := base) (Nat.le_of_lt less)) with
        before | same
      · apply lt_append _ _ _ _ leading
        exact ih (first / base) (Nat.div_lt_self (by omega) positive) (second / base) leading before
      · rw [same]
        apply List.append_left_lt
        apply List.cons_lt_cons_iff.mpr
        refine Or.inl (digitChar_lt _ _ ?_ ?_)
        · exact Nat.lt_of_lt_of_le (Nat.mod_lt second (by omega)) decimal
        · have left := Nat.div_add_mod first base
          have right := Nat.div_add_mod second base
          rw [same] at left
          omega

theorem length_toDigits (base digits number : Nat) (positive : 1 < base)
    (low : base ^ digits ≤ number) (high : number < base ^ (digits + 1)) :
    (Nat.toDigits base number).length = digits + 1 := by
  have above : (Nat.toDigits base number).length ≤ digits + 1 :=
    (Nat.length_toDigits_le_iff positive (Nat.succ_pos digits)).mpr high
  have nonempty := Nat.length_toDigits_pos (b := base) (n := number)
  cases digits with
  | zero => omega
  | succ digits =>
    have below : (Nat.toDigits base number).length ≤ digits + 1 ↔ number < base ^ (digits + 1) :=
      Nat.length_toDigits_le_iff positive (Nat.succ_pos digits)
    omega

def OfLength (digits : Nat) (number : Int) : Prop := 10 ^ digits ≤ number ∧ number < 10 ^ (digits + 1)

theorem toString_lt_of_lt (digits : Nat) (first second : Int) (one : OfLength digits first)
    (other : OfLength digits second) (less : first < second) : toString first < toString second := by
  have positive (number : Int) (inside : OfLength digits number) : 0 ≤ number :=
    Int.le_trans (Int.le_of_lt (Int.pow_pos (by decide))) inside.1
  obtain ⟨left,rfl⟩ := Int.eq_ofNat_of_zero_le (positive first one)
  obtain ⟨right,rfl⟩ := Int.eq_ofNat_of_zero_le (positive second other)
  change Nat.repr left < Nat.repr right
  rw [String.lt_iff_toList_lt,Nat.toList_repr,Nat.toList_repr]
  have lengths (number : Nat) (inside : OfLength digits number) :
      (Nat.toDigits 10 number).length = digits + 1 := by
    apply length_toDigits 10 digits number (by decide)
    · exact_mod_cast inside.1
    · exact_mod_cast inside.2
  apply toDigits_lt 10 (by decide) (by decide) left right
  · rw [lengths left one,lengths right other]
  · exact_mod_cast less

theorem toString_lt_iff (digits : Nat) (first second : Int) (one : OfLength digits first)
    (other : OfLength digits second) : toString first < toString second ↔ first < second := by
  constructor
  · intro less
    rcases Int.lt_trichotomy first second with before | same | after
    · exact before
    · rw [same] at less
      exact absurd less (lt_irrefl _)
    · exact absurd (toString_lt_of_lt digits second first other one after) (lt_asymm less)
  · exact toString_lt_of_lt digits first second one other

end Numerals
