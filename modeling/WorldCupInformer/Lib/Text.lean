import Mathlib

/-!
# Searching and splitting lists

`find? p s` is the position of the first occurrence of the pattern `p` in `s`, and `pieces p s`
cuts `s` at the occurrences of `p`, from left to right and without overlap (`n` occurrences give
`n + 1` pieces, empty ones included).

A text is usually a list `l ++ s` whose first part holds no occurrence because the head of the
pattern is not in it: `find?_append` and `pieces_append` skip that part.  `pieces_intercalate` and
`find?_intercalate` read back a text made of lines.
-/

namespace Text

variable {α : Type} [DecidableEq α]

/-- The position of the first occurrence of `p`. -/
def find? (p : List α) : List α → Option ℕ
  | [] => if p = [] then some 0 else none
  | a :: s => if p <+: a :: s then some 0 else (find? p s).map (· + 1)

/-- The pieces between the occurrences of `p`; the first `k` elements belong to an occurrence
that has been cut at already. -/
def piecesAux (p : List α) : ℕ → List α → List (List α)
  | _, [] => [[]]
  | k + 1, _ :: s => piecesAux p k s
  | 0, a :: s =>
    if p <+: a :: s then [] :: piecesAux p (p.length - 1) s
    else (piecesAux p 0 s).modifyHead (a :: ·)

/-- The pieces of the list between the occurrences of `p`. -/
def pieces (p s : List α) : List (List α) := piecesAux p 0 s

variable {x : α} {q l s : List α}

theorem find?_of_prefix (h : x :: q <+: s) : find? (x :: q) s = some 0 := by
  cases s with
  | nil => simp at h
  | cons a s => exact if_pos h

theorem find?_cons_of_not_prefix {a : α} (h : ¬ x :: q <+: a :: s) :
    find? (x :: q) (a :: s) = (find? (x :: q) s).map (· + 1) := if_neg h

omit [DecidableEq α] in
theorem not_prefix_cons_of_ne {a : α} (h : a ≠ x) : ¬ x :: q <+: a :: s :=
  fun hp => h (List.cons_prefix_cons.1 hp).1.symm

/-- No occurrence begins in a part without the head of the pattern. -/
theorem find?_append (h : x ∉ l) :
    find? (x :: q) (l ++ s) = (find? (x :: q) s).map (l.length + ·) := by
  induction l with
  | nil => simp
  | cons a l ih =>
    have ha : a ≠ x := fun e => h (e ▸ List.mem_cons_self)
    have hl : x ∉ l := fun e => h (List.mem_cons_of_mem a e)
    rw [List.cons_append, find?_cons_of_not_prefix (not_prefix_cons_of_ne ha), ih hl,
      Option.map_map]
    congr 1
    funext n
    simp only [Function.comp_apply, List.length_cons]
    omega

theorem find?_eq_none (h : x ∉ l) : find? (x :: q) l = none := by
  have hnil : find? (x :: q) ([] : List α) = none := by simp [find?]
  simpa [hnil] using find?_append (q := q) (s := []) h

theorem piecesAux_length (p t s : List α) : piecesAux p t.length (t ++ s) = piecesAux p 0 s := by
  induction t with
  | nil => rfl
  | cons a t ih => exact ih

/-- An occurrence at the very beginning is cut off. -/
theorem pieces_prefix (x : α) (q s : List α) :
    pieces (x :: q) (x :: q ++ s) = [] :: pieces (x :: q) s := by
  have hp : x :: q <+: x :: (q ++ s) := by simp
  rw [pieces, List.cons_append, piecesAux, if_pos hp]
  exact congrArg _ (piecesAux_length (x :: q) q s)

theorem pieces_cons_of_not_starts {p : List α} {a : α} (h : ¬ p <+: a :: s) :
    pieces p (a :: s) = (pieces p s).modifyHead (a :: ·) := if_neg h

/-- A part without the head of the pattern goes whole into the first piece. -/
theorem pieces_append (h : x ∉ l) :
    pieces (x :: q) (l ++ s) = (pieces (x :: q) s).modifyHead (l ++ ·) := by
  induction l with
  | nil => cases hs : pieces (x :: q) s <;> simp [hs]
  | cons a l ih =>
    have ha : a ≠ x := fun e => h (e ▸ List.mem_cons_self)
    have hl : x ∉ l := fun e => h (List.mem_cons_of_mem a e)
    rw [List.cons_append, pieces_cons_of_not_starts (not_prefix_cons_of_ne ha), ih hl]
    cases pieces (x :: q) s <;> rfl

theorem pieces_of_notMem (h : x ∉ l) : pieces (x :: q) l = [l] := by
  simpa [pieces, piecesAux] using pieces_append (q := q) (s := []) h

/-- Without an occurrence there is one piece. -/
theorem pieces_of_find?_none {p : List α} (h : find? p s = none) : pieces p s = [s] := by
  induction s with
  | nil => rfl
  | cons a s ih =>
    rw [find?] at h
    split_ifs at h with hp
    rw [pieces_cons_of_not_starts hp, ih (Option.map_eq_none_iff.1 h)]
    rfl

/-- An occurrence found is one. -/
theorem find?_spec {p : List α} {n : ℕ} (h : find? p s = some n) :
    p <+: s.drop n ∧ n + p.length ≤ s.length := by
  induction s generalizing n with
  | nil =>
    rw [find?] at h
    split_ifs at h with hp
    obtain rfl := Option.some.inj h
    simp [hp]
  | cons a s ih =>
    rw [find?] at h
    split_ifs at h with hp
    · obtain rfl := Option.some.inj h
      exact ⟨hp, by simpa using hp.length_le⟩
    · obtain ⟨m, hm, rfl⟩ := Option.map_eq_some_iff.1 h
      obtain ⟨hocc, hlen⟩ := ih hm
      exact ⟨hocc, by rw [List.length_cons]; omega⟩

/-- No occurrence begins before the one found. -/
theorem not_prefix_of_find? {p : List α} {m n : ℕ} (h : find? p s = some n) (hm : m < n) :
    ¬ p <+: s.drop m := by
  induction s generalizing m n with
  | nil =>
    have hlen := (find?_spec h).2
    simp at hlen
    omega
  | cons a s ih =>
    rw [find?] at h
    split_ifs at h with hp
    · obtain rfl := Option.some.inj h
      omega
    · obtain ⟨n', hn', rfl⟩ := Option.map_eq_some_iff.1 h
      cases m with
      | zero => exact hp
      | succ m => exact ih hn' (by omega)

/-- The part before the first separator. -/
theorem take_of_find? {n : ℕ} (h : find? [x] s = some n) : s.take n = s.takeWhile (· ≠ x) := by
  by_cases hmem : x ∈ s
  · obtain ⟨l, rest, rfl, hl⟩ := List.eq_append_cons_of_mem hmem
    have hhere : find? [x] (x :: rest) = some 0 := find?_of_prefix (by simp)
    rw [find?_append hl, hhere] at h
    obtain rfl := Option.some.inj h
    have hfree : ∀ y ∈ l, decide (y ≠ x) = true := by
      intro y hy
      have hne : y ≠ x := fun heq => hl (heq ▸ hy)
      simpa using hne
    rw [List.takeWhile_append_of_pos hfree]
    simp
  · rw [find?_eq_none hmem] at h
    cases h

/-- The pieces between single separators hold none. -/
theorem notMem_of_mem_piecesAux {l : List α} (k : ℕ) (s : List α)
    (hl : l ∈ piecesAux [x] k s) : x ∉ l := by
  induction s generalizing k l with
  | nil => cases k <;> simp_all [piecesAux]
  | cons a s ih =>
    cases k with
    | succ k => exact ih k hl
    | zero =>
      rw [piecesAux] at hl
      split_ifs at hl with hp
      · rcases List.mem_cons.1 hl with rfl | hl
        · exact List.not_mem_nil
        · exact ih _ hl
      · have ha : a ≠ x := fun heq => hp (by simp [heq])
        cases hs : piecesAux [x] 0 s with
        | nil => simp [hs] at hl
        | cons t ts =>
          rw [hs, List.modifyHead_cons] at hl
          rcases List.mem_cons.1 hl with rfl | hl
          · have ht : x ∉ t := ih 0 (hs ▸ List.mem_cons_self)
            simp [ht, ha.symm]
          · exact ih 0 (hs ▸ List.mem_cons_of_mem _ hl)

theorem notMem_of_mem_pieces {l : List α} (hl : l ∈ pieces [x] s) : x ∉ l :=
  notMem_of_mem_piecesAux 0 s hl

/-- A piece is made of elements of the text. -/
theorem subset_of_mem_piecesAux {p l : List α} (k : ℕ) (s : List α)
    (hl : l ∈ piecesAux p k s) : l ⊆ s := by
  induction s generalizing k l with
  | nil => cases k <;> simp_all [piecesAux]
  | cons a s ih =>
    have hcons : ∀ {k l}, l ∈ piecesAux p k s → l ⊆ a :: s := fun hl =>
      List.Subset.trans (ih _ hl) (List.subset_cons_self a s)
    cases k with
    | succ k => exact hcons hl
    | zero =>
      rw [piecesAux] at hl
      split_ifs at hl with hp
      · rcases List.mem_cons.1 hl with rfl | hl
        · exact List.nil_subset _
        · exact hcons hl
      · cases hs : piecesAux p 0 s with
        | nil => simp [hs] at hl
        | cons t ts =>
          rw [hs, List.modifyHead_cons] at hl
          rcases List.mem_cons.1 hl with rfl | hl
          · exact List.cons_subset_cons a (ih 0 (hs ▸ List.mem_cons_self))
          · exact hcons (hs ▸ List.mem_cons_of_mem _ hl)

theorem subset_of_mem_pieces {p l : List α} (hl : l ∈ pieces p s) : l ⊆ s :=
  subset_of_mem_piecesAux 0 s hl

/-! ### Lines -/

/-- The first piece ends at the first separator. -/
theorem pieces_append_cons (h : x ∉ l) : pieces [x] (l ++ x :: s) = l :: pieces [x] s := by
  have hcut : pieces [x] (x :: s) = [] :: pieces [x] s := pieces_prefix x [] s
  rw [pieces_append h, hcut]
  simp

/-- Lines without a separator in them are the pieces of the text they make. -/
theorem pieces_intercalate {ls : List (List α)} (hne : ls ≠ []) (h : ∀ l ∈ ls, x ∉ l) :
    pieces [x] ([x].intercalate ls) = ls := by
  induction ls with
  | nil => exact absurd rfl hne
  | cons l ls ih =>
    have hl : x ∉ l := h l List.mem_cons_self
    cases ls with
    | nil => simpa using pieces_of_notMem hl
    | cons l' ls =>
      have hrest := ih (by simp) fun l₂ hl₂ => h l₂ (List.mem_cons_of_mem l hl₂)
      rw [List.intercalate_cons_cons, List.append_assoc, List.singleton_append,
        pieces_append_cons hl, hrest]

/-- Pieces without a separator in them, each ended by one, and the empty rest. -/
theorem pieces_flatMap {ls : List (List α)} (h : ∀ l ∈ ls, x ∉ l) :
    pieces [x] (ls.flatMap (· ++ [x])) = ls ++ [[]] := by
  induction ls with
  | nil => rfl
  | cons l ls ih =>
    have hrest := ih fun l' hl' => h l' (List.mem_cons_of_mem l hl')
    rw [List.flatMap_cons, List.append_assoc, List.singleton_append,
      pieces_append_cons (h l List.mem_cons_self), hrest]
    rfl

theorem piecesAux_ne_nil (p : List α) (k : ℕ) (s : List α) : piecesAux p k s ≠ [] := by
  induction s generalizing k with
  | nil => cases k <;> simp [piecesAux]
  | cons a s ih =>
    cases k with
    | zero =>
      rw [piecesAux]
      split_ifs
      · simp
      · simpa [List.modifyHead_eq_nil_iff] using ih 0
    | succ k => exact ih k

/-- The pieces that a separator ends. -/
def ended (x : α) (s : List α) : List (List α) := (pieces [x] s).dropLast

theorem ended_of_notMem (h : x ∉ l) : ended x l = [] := by
  rw [ended, pieces_of_notMem h]
  rfl

theorem ended_append_cons (h : x ∉ l) : ended x (l ++ x :: s) = l :: ended x s := by
  have hne : pieces [x] s ≠ [] := piecesAux_ne_nil _ _ _
  rw [ended, pieces_append_cons h, List.dropLast_cons_of_ne_nil hne]
  rfl

theorem ended_flatMap {ls : List (List α)} (h : ∀ l ∈ ls, x ∉ l) :
    ended x (ls.flatMap (· ++ [x])) = ls := by
  rw [ended, pieces_flatMap h, List.dropLast_concat]

/-- A separator cuts a text in two. -/
theorem pieces_append_separator (x : α) (s t : List α) :
    pieces [x] (s ++ x :: t) = pieces [x] s ++ pieces [x] t := by
  by_cases h : x ∈ s
  · obtain ⟨l, s', rfl, hl⟩ := List.eq_append_cons_of_mem h
    have hrest := pieces_append_separator x s' t
    rw [List.append_assoc, List.cons_append, pieces_append_cons hl, pieces_append_cons hl, hrest]
    rfl
  · rw [pieces_append_cons h, pieces_of_notMem h]
    rfl
termination_by s.length
decreasing_by
  subst_vars
  simp
  omega

/-- More text ends more pieces. -/
theorem ended_append (s t : List α) : ended x s <+: ended x (s ++ t) := by
  by_cases h : x ∈ s
  · obtain ⟨l, s', rfl, hl⟩ := List.eq_append_cons_of_mem h
    have hrest := ended_append s' t
    rw [List.append_assoc, List.cons_append, ended_append_cons hl, ended_append_cons hl]
    exact (List.prefix_cons_inj l).2 hrest
  · rw [ended_of_notMem h]
    exact List.nil_prefix
termination_by s.length
decreasing_by
  subst_vars
  simp
  omega

/-- A beginning without a separator is the beginning of the first piece. -/
theorem exists_pieces_append (h : x ∉ l) :
    ∃ t ts, pieces (x :: q) (l ++ s) = (l ++ t) :: ts := by
  obtain ⟨t, ts, hts⟩ := List.exists_cons_of_ne_nil (piecesAux_ne_nil (x :: q) 0 s)
  exact ⟨t, ts, by rw [pieces_append h, pieces, hts]; rfl⟩

/-- The first two separators in a row stand after the last of the non-empty lines. -/
theorem find?_intercalate {ls : List (List α)} (hne : ls ≠ []) (h : ∀ l ∈ ls, x ∉ l)
    (hls : ∀ l ∈ ls.tail, l ≠ []) (s : List α) :
    find? [x, x] ([x].intercalate ls ++ x :: x :: s) = some ([x].intercalate ls).length := by
  induction ls with
  | nil => exact absurd rfl hne
  | cons l ls ih =>
    have hl : x ∉ l := h l List.mem_cons_self
    cases ls with
    | nil =>
      have hhere : find? [x, x] (x :: x :: s) = some 0 := find?_of_prefix (by simp)
      simp [find?_append hl, hhere]
    | cons l' ls =>
      have hrest := ih (by simp) (fun l₂ hl₂ => h l₂ (List.mem_cons_of_mem l hl₂))
        fun l₂ hl₂ => hls l₂ (List.mem_of_mem_tail hl₂)
      have hl' : x ∉ l' := h l' (by simp)
      obtain ⟨a, l'', rfl⟩ := List.exists_cons_of_ne_nil (hls l' (by simp))
      have ha : a ≠ x := fun heq => hl' (heq ▸ List.mem_cons_self)
      have hstart : ∃ t, [x].intercalate ((a :: l'') :: ls) = a :: t := by
        cases ls with
        | nil => exact ⟨l'', by simp⟩
        | cons l₃ ls => exact ⟨_, by rw [List.intercalate_cons_cons]; rfl⟩
      obtain ⟨t, ht⟩ := hstart
      have hnot : ¬ [x, x] <+: x :: a :: (t ++ x :: x :: s) := by
        simp [List.cons_prefix_cons, ha.symm]
      rw [List.intercalate_cons_cons, List.append_assoc, List.append_assoc, find?_append hl,
        List.singleton_append, ht, List.cons_append, find?_cons_of_not_prefix hnot,
        ← List.cons_append, ← ht, hrest]
      simp

end Text
