import Mathlib
import WorldCupInformer.Lib.Text

/-!
# Strings and exceptions of the Java side

A text is the list of its characters.  `indexOf`, `substring` and `split` follow `java.lang.String`:
`indexOf` is `-1` when there is no occurrence, `substring` throws outside `0 ≤ begin ≤ end ≤
length`, and `split` on a literal drops trailing empty pieces but returns the whole text when
nothing matches.
-/

namespace WorldCupInformer

/-- A text. -/
abbrev Str := List Char

/-- A string literal. -/
def lit (s : String) : Str := s.toList

instance : Coe String Str := ⟨lit⟩

@[simp] theorem lit_inj {a b : String} : lit a = lit b ↔ a = b := String.toList_inj

/-- The unchecked exceptions the modelled code can raise. -/
inductive JavaException
  | nullPointer
  | indexOutOfBounds
  deriving DecidableEq

/-- The text of a reference in a string concatenation. -/
def stringOf : Option Str → Str
  | some s => s
  | none => "null"

/-- `String.indexOf`. -/
def indexOf (s p : Str) : ℤ := ((Text.find? p s).map Int.ofNat).getD (-1)

/-- `String.substring(begin, end)`. -/
def substring (s : Str) (b e : ℤ) : Except JavaException Str :=
  if 0 ≤ b ∧ b ≤ e ∧ e ≤ s.length then .ok ((s.drop b.toNat).take (e - b).toNat)
  else .error .indexOutOfBounds

/-- `String.split` on a literal separator. -/
def split (s p : Str) : List Str :=
  let ps := Text.pieces p s
  if ps.length = 1 then ps else ps.rdropWhile (· = [])

/-- An array access. -/
def arrayGet {α : Type} (a : List α) (i : ℕ) : Except JavaException α :=
  match a[i]? with
  | some x => .ok x
  | none => .error .indexOutOfBounds

theorem bind_eq_ok {ε α β : Type} {x : Except ε α} {f : α → Except ε β} {b : β} :
    (x >>= f) = .ok b ↔ ∃ a, x = .ok a ∧ f a = .ok b := by
  cases x with
  | error e => simp [bind, Except.bind]
  | ok a => simp [bind, Except.bind]

theorem indexOf_eq {s p : Str} {n : ℕ} (h : Text.find? p s = some n) : indexOf s p = n := by
  simp [indexOf, h]

theorem indexOf_eq_neg_one {s p : Str} (h : Text.find? p s = none) : indexOf s p = -1 := by
  simp [indexOf, h]

/-- An index that is no `-1` is where the text has been found. -/
theorem exists_find?_of_indexOf {s p : Str} (h : 0 ≤ indexOf s p) :
    ∃ n : ℕ, Text.find? p s = some n ∧ indexOf s p = n := by
  cases hfind : Text.find? p s with
  | none => exact absurd h (by simp [indexOf_eq_neg_one hfind])
  | some n => exact ⟨n, rfl, indexOf_eq hfind⟩

/-- The part between two texts of known length. -/
theorem substring_append (a m c : Str) {b e : ℤ} (hb : b = a.length)
    (he : e = a.length + m.length) : substring (a ++ m ++ c) b e = .ok m := by
  subst hb he
  have hlen : 0 ≤ (a.length : ℤ) ∧ (a.length : ℤ) ≤ a.length + m.length ∧
      (a.length + m.length : ℤ) ≤ (a ++ m ++ c).length := by
    simp only [List.length_append]
    omega
  rw [substring, if_pos hlen, List.append_assoc]
  simp

end WorldCupInformer
