import WorldCupInformer.Server.Java

/-!
# Strings and exceptions of the C++ side

A `std::string` is the list of its bytes, each shown as the character with its code
(`Utf8.bytesOf`).  Positions and lengths are integers; `npos`, whose value `2 ^ 64 - 1` becomes `-1`
in an `int`, is `-1`, so that `npos + 14` is `13` as in the code.  No string is as long as `2 ^ 31`.
-/

namespace WorldCupInformer.Client

/-- How a function can fail to return: `std::out_of_range`, `std::invalid_argument`, an exception of
the JSON library, or an access outside a vector, whose behaviour is undefined. -/
inductive CppException
  | outOfRange
  | invalidArgument
  | json
  | undefined
  deriving DecidableEq

/-- `std::string::npos`. -/
def npos : ℤ := -1

/-- `std::string::find`. -/
def find (s p : Str) : ℤ := ((Text.find? p s).map Int.ofNat).getD npos

/-- `std::string::find_last_of`: the last position of a character of the set. -/
def findLastOf (s set : Str) : ℤ :=
  ((s.reverse.findIdx? (· ∈ set)).map fun i => (s.length - 1 - i : ℤ)).getD npos

/-- `std::string::substr`; the count `npos`, also when it is left out, reaches to the end. -/
def substr (s : Str) (pos count : ℤ) : Except CppException Str :=
  if 0 ≤ pos ∧ pos ≤ s.length then
    .ok (if count < 0 then s.drop pos.toNat else (s.drop pos.toNat).take count.toNat)
  else .error .outOfRange

/-- `std::vector::operator[]`. -/
def vectorAt {α : Type} (v : List α) (i : ℕ) : Except CppException α :=
  match v[i]? with
  | some x => .ok x
  | none => .error .undefined

/-- `std::vector::front`. -/
def vectorFront {α : Type} (v : List α) : Except CppException α :=
  match v.head? with
  | some x => .ok x
  | none => .error .undefined

/-- `std::vector::back`. -/
def vectorBack {α : Type} (v : List α) : Except CppException α :=
  match v.getLast? with
  | some x => .ok x
  | none => .error .undefined

/-- `std::getline` with a delimiter: the text before it, and what the stream holds afterwards. -/
def getline (s : Str) (delimiter : Char) : Str × Str :=
  (s.takeWhile (· ≠ delimiter), (s.dropWhile (· ≠ delimiter)).drop 1)

/-- `std::isspace` in the "C" locale, which `\s` and `operator>>` go by. -/
def isSpace (ch : Char) : Bool := ch ∈ [' ', '\t', '\n', '\x0b', '\x0c', '\r']

/-- `std::to_string` of a size or a counter. -/
def natToString (n : ℕ) : Str := Nat.toDigits 10 n

/-- `std::to_string` of an `int`. -/
def intToString : ℤ → Str
  | .ofNat n => natToString n
  | .negSucc n => '-' :: natToString (n + 1)

/-- `std::stoi`: blanks, a sign and digits; what follows them is not read. -/
def stoi (s : Str) : Except CppException ℤ :=
  let s := s.dropWhile (isSpace ·)
  let digits := (if s.head? ∈ [some '+', some '-'] then s.drop 1 else s).takeWhile Char.isDigit
  let value : ℤ := Nat.ofDigitChars 10 digits 0
  let value := if s.head? = some '-' then -value else value
  if digits = [] then .error .invalidArgument
  else if -2 ^ 31 ≤ value ∧ value < 2 ^ 31 then .ok value
  else .error .outOfRange

/-- Conversion of an `int` to `short`. -/
def toShort (value : ℤ) : ℤ := value.bmod (2 ^ 16)

/-- The lines `std::getline` reads from a text. -/
def lines (s : Str) : List Str :=
  let ps := Text.pieces (lit "\n") s
  if ps.getLast? = some [] then ps.dropLast else ps

/-- A text made of lines. -/
def unlines (ls : List Str) : Str := ls.flatMap (· ++ lit "\n")

@[simp] theorem unlines_nil : unlines [] = [] := rfl

@[simp] theorem unlines_cons (l : Str) (ls : List Str) :
    unlines (l :: ls) = l ++ '\n' :: unlines ls := by
  simp [unlines, lit]

/-- The first line. -/
theorem lines_cons {l : Str} (hl : '\n' ∉ l) (rest : Str) :
    lines (l ++ '\n' :: rest) = l :: lines rest := by
  have hcut := Text.pieces_prefix '\n' [] rest
  have hpieces := Text.pieces_append (q := []) (s := '\n' :: rest) hl
  rw [List.cons_append, List.nil_append] at hcut
  rw [hcut, List.modifyHead_cons, List.append_nil] at hpieces
  have hpieces : Text.pieces (lit "\n") (l ++ '\n' :: rest) = l :: Text.pieces (lit "\n") rest :=
    hpieces
  have hne : Text.pieces (lit "\n") rest ≠ [] := Text.piecesAux_ne_nil _ 0 rest
  unfold lines
  dsimp only
  rw [hpieces, List.getLast?_cons_of_ne_nil hne, List.dropLast_cons_of_ne_nil hne]
  split_ifs <;> rfl

theorem lines_unlines {ls : List Str} (hls : ∀ l ∈ ls, '\n' ∉ l) (rest : Str) :
    lines (unlines ls ++ rest) = ls ++ lines rest := by
  induction ls with
  | nil => rfl
  | cons l ls ih =>
    obtain ⟨hl, hls⟩ := List.forall_mem_cons.1 hls
    rw [unlines_cons, List.append_assoc, List.cons_append, lines_cons hl, ih hls, List.cons_append]

/-- A text that ends with a line end is made of lines. -/
theorem exists_unlines {s : Str} (hs : s ≠ [] → s.getLast? = some '\n') :
    ∃ ls, (∀ l ∈ ls, '\n' ∉ l) ∧ s = unlines ls := by
  induction s with
  | nil => exact ⟨[], by simp, rfl⟩
  | cons ch s ih =>
    cases s with
    | nil =>
      obtain rfl : ch = '\n' := by simpa using hs
      exact ⟨[[]], by simp, rfl⟩
    | cons ch' s =>
      obtain ⟨ls, hls, heq⟩ := ih fun _ => by simpa using hs
      by_cases hch : ch = '\n'
      · subst hch
        exact ⟨[] :: ls, by simpa using hls, by simp [heq]⟩
      · cases ls with
        | nil => simp at heq
        | cons l ls =>
          refine ⟨(ch :: l) :: ls, ?_, by rw [heq]; simp⟩
          simpa [Ne.symm hch] using hls

/-! ### Cutting a text at a position found -/

theorem find_eq {s p : Str} {n : ℕ} (h : Text.find? p s = some n) : find s p = n := by
  simp [find, h]

theorem find_eq_npos {s p : Str} (h : Text.find? p s = none) : find s p = npos := by
  simp [find, h]

/-- The first line end stands after the first line. -/
theorem find_lineEnd {l : Str} (hl : '\n' ∉ l) (rest : Str) :
    find (l ++ '\n' :: rest) "\n" = l.length := by
  refine find_eq ?_
  have hhere : Text.find? ['\n'] ('\n' :: rest) = some 0 := Text.find?_of_prefix (by simp)
  have hskip := Text.find?_append (q := []) (s := '\n' :: rest) hl
  rwa [hhere] at hskip

/-- The text after the first part. -/
theorem substr_append {a b : Str} {pos : ℤ} (hpos : pos = a.length) :
    substr (a ++ b) pos npos = .ok b := by
  subst hpos
  have h : (0 : ℤ) ≤ a.length ∧ (a.length : ℤ) ≤ (a ++ b).length := by simp
  rw [substr, if_pos h]
  simp [npos]

/-- The first part. -/
theorem substr_take {a b : Str} {count : ℤ} (hcount : count = a.length) :
    substr (a ++ b) 0 count = .ok a := by
  subst hcount
  have h : (0 : ℤ) ≤ 0 ∧ (0 : ℤ) ≤ (a ++ b).length := ⟨le_rfl, Int.natCast_nonneg _⟩
  have hneg : ¬ (a.length : ℤ) < 0 := not_lt.2 (Int.natCast_nonneg _)
  rw [substr, if_pos h, if_neg hneg]
  simp

/-! ### Digits -/

theorem natToString_injective : Function.Injective natToString := fun m n h => by
  have hread := congrArg (Nat.ofDigitChars 10 · 0) h
  simpa [natToString, Nat.ofDigitChars_ten_toDigits] using hread

theorem isDigit_of_mem_natToString {n : ℕ} {ch : Char} (h : ch ∈ natToString n) : ch.isDigit :=
  Nat.isDigit_of_mem_toDigits (by norm_num) (by norm_num) h

theorem natToString_ne_nil (n : ℕ) : natToString n ≠ [] := Nat.toDigits_ne_nil

/-- What is not a digit is not in a number. -/
theorem notMem_natToString {n : ℕ} {ch : Char} (h : ch.isDigit = false) : ch ∉ natToString n :=
  fun hmem => by simp [isDigit_of_mem_natToString hmem] at h

end WorldCupInformer.Client
