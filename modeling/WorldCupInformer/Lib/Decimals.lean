import Mathlib

/-!
# The order of decimal texts

Texts of digits in lexicographic order, beside the numbers they stand for.

* `le_iff_value_take`: a text that is not longer than another comes first exactly when its number is
  at most that of the first digits of the other, as many as it has;
* `toDigits_le_toDigits_iff`: the same for the decimal representations of two numbers.
-/

namespace Decimals

/-- The number a text of digits stands for. -/
def value (l : List Char) : ℕ := Nat.ofDigitChars 10 l 0

@[simp] theorem value_nil : value [] = 0 := Nat.ofDigitChars_nil

@[simp] theorem value_toDigits (n : ℕ) : value (Nat.toDigits 10 n) = n :=
  Nat.ofDigitChars_ten_toDigits

theorem value_append (l m : List Char) :
    value (l ++ m) = 10 ^ m.length * value l + value m := by
  rw [value, Nat.ofDigitChars_append, Nat.ofDigitChars_eq_ofDigitChars_zero]
  rfl

theorem value_cons (ch : Char) (l : List Char) :
    value (ch :: l) = 10 ^ l.length * (ch.toNat - '0'.toNat) + value l := by
  have hhead : value [ch] = ch.toNat - '0'.toNat := by
    simp [value, Nat.ofDigitChars_cons]
  rw [← hhead]
  exact value_append [ch] l

theorem digit_bounds {ch : Char} (h : ch.isDigit = true) : 48 ≤ ch.toNat ∧ ch.toNat ≤ 57 := by
  simp only [Char.isDigit, Bool.and_eq_true, decide_eq_true_eq] at h
  exact ⟨h.1, h.2⟩

theorem value_lt {l : List Char} (hl : ∀ ch ∈ l, ch.isDigit = true) : value l < 10 ^ l.length := by
  induction l with
  | nil => simp
  | cons ch l ih =>
    have hrest := ih fun ch' h => hl ch' (List.mem_cons_of_mem ch h)
    have hdigit := digit_bounds (hl ch List.mem_cons_self)
    have hzero : '0'.toNat = 48 := rfl
    have hle : ch.toNat - '0'.toNat ≤ 9 := by omega
    calc value (ch :: l) = 10 ^ l.length * (ch.toNat - '0'.toNat) + value l := value_cons ch l
      _ < 10 ^ l.length * (ch.toNat - '0'.toNat) + 10 ^ l.length := by omega
      _ = 10 ^ l.length * (ch.toNat - '0'.toNat + 1) := by ring
      _ ≤ 10 ^ l.length * 10 := Nat.mul_le_mul_left _ (by omega)
      _ = 10 ^ (ch :: l).length := by rw [List.length_cons, pow_succ]

/-- A greater first digit makes a greater number. -/
theorem value_cons_lt {ch ch' : Char} {l l' : List Char} (hch : ch.isDigit = true) (hlt : ch < ch')
    (hl : ∀ ch ∈ l, ch.isDigit = true) (hlen : l.length = l'.length) :
    value (ch :: l) < value (ch' :: l') := by
  have hdigit := digit_bounds hch
  have hzero : '0'.toNat = 48 := rfl
  have hstep : ch.toNat - '0'.toNat + 1 ≤ ch'.toNat - '0'.toNat := by
    have hlt' : ch.toNat < ch'.toNat := hlt
    omega
  have hrest := value_lt hl
  rw [value_cons, value_cons, ← hlen]
  calc 10 ^ l.length * (ch.toNat - '0'.toNat) + value l
      < 10 ^ l.length * (ch.toNat - '0'.toNat) + 10 ^ l.length := by omega
    _ = 10 ^ l.length * (ch.toNat - '0'.toNat + 1) := by ring
    _ ≤ 10 ^ l.length * (ch'.toNat - '0'.toNat) := Nat.mul_le_mul_left _ hstep
    _ ≤ 10 ^ l.length * (ch'.toNat - '0'.toNat) + value l' := Nat.le_add_right _ _

theorem le_iff_value_take {s s' : List Char} (hs : ∀ ch ∈ s, ch.isDigit = true)
    (hs' : ∀ ch ∈ s', ch.isDigit = true) (hlen : s.length ≤ s'.length) :
    s ≤ s' ↔ value s ≤ value (s'.take s.length) := by
  induction s generalizing s' with
  | nil => simp [← not_lt]
  | cons ch s ih =>
    cases s' with
    | nil => simp at hlen
    | cons ch' s' =>
      have hrest : ∀ ch ∈ s, ch.isDigit = true := fun ch h => hs ch (List.mem_cons_of_mem _ h)
      have hrest' : ∀ ch ∈ s', ch.isDigit = true := fun ch h => hs' ch (List.mem_cons_of_mem _ h)
      have htake : ∀ ch ∈ s'.take s.length, ch.isDigit = true := fun ch h =>
        hrest' ch (List.mem_of_mem_take h)
      have hlen' : s.length ≤ s'.length := by simpa using hlen
      have hsame : s.length = (s'.take s.length).length := by simpa using hlen'
      rw [← not_lt, List.cons_lt_cons_iff, List.length_cons, List.take_succ_cons]
      rcases lt_trichotomy ch ch' with hlt | rfl | hgt
      · have hvalue := value_cons_lt (hs ch List.mem_cons_self) hlt hrest hsame
        simp [hlt.not_gt, hlt.ne', hvalue.le]
      · rw [value_cons, value_cons, ← hsame, Nat.add_le_add_iff_left, ← ih hrest hrest' hlen']
        simp
      · have hvalue := value_cons_lt (hs' ch' List.mem_cons_self) hgt htake hsame.symm
        simp [hgt, hvalue]

/-- The first digits of a number. -/
theorem value_take_toDigits (n k : ℕ) : value ((Nat.toDigits 10 n).take k) =
    n / 10 ^ ((Nat.toDigits 10 n).length - k) := by
  have hdigits : ∀ ch ∈ (Nat.toDigits 10 n).drop k, ch.isDigit = true := fun ch h =>
    Nat.isDigit_of_mem_toDigits (by norm_num) (by norm_num) (List.mem_of_mem_drop h)
  have hlt := value_lt hdigits
  have hvalue := value_append ((Nat.toDigits 10 n).take k) ((Nat.toDigits 10 n).drop k)
  rw [List.take_append_drop, value_toDigits, List.length_drop] at hvalue
  rw [List.length_drop] at hlt
  generalize (Nat.toDigits 10 n).length - k = j at hlt hvalue ⊢
  generalize value ((Nat.toDigits 10 n).take k) = first at hvalue ⊢
  generalize value ((Nat.toDigits 10 n).drop k) = last at hlt hvalue
  rw [hvalue, Nat.mul_add_div (by positivity), Nat.div_eq_of_lt hlt, Nat.add_zero]

/-- **When decimals are in the order of their numbers**: the first digits of the greater number, as
many as the smaller has, must make no smaller number. -/
theorem toDigits_le_toDigits_iff {m n : ℕ} (h : m ≤ n) :
    Nat.toDigits 10 m ≤ Nat.toDigits 10 n ↔
      m ≤ n / 10 ^ ((Nat.toDigits 10 n).length - (Nat.toDigits 10 m).length) := by
  have hdigits : ∀ k, ∀ ch ∈ Nat.toDigits 10 k, ch.isDigit = true := fun k ch hch =>
    Nat.isDigit_of_mem_toDigits (by norm_num) (by norm_num) hch
  have hlen : (Nat.toDigits 10 m).length ≤ (Nat.toDigits 10 n).length := by
    rw [Nat.length_toDigits_le_iff (by norm_num) Nat.length_toDigits_pos]
    have hn := (Nat.length_toDigits_le_iff (b := 10) (n := n) (by norm_num)
      Nat.length_toDigits_pos).1 le_rfl
    exact h.trans_lt hn
  rw [le_iff_value_take (hdigits m) (hdigits n) hlen, value_toDigits, value_take_toDigits]

end Decimals
