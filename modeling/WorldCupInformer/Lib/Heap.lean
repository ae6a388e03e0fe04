import Mathlib

/-!
# Blocks on a heap and the pointers that own them

A heap is the list of the blocks that have been allocated.  A block that has been freed has no
content any more and is not allocated again, so that a pointer to it stays invalid.

* `Valid`: every pointer of a table leads to a live block, and no two of them to the same one;
* `Owned`: moreover every live block has a pointer;
* `Owned.alloc`, `Owned.write`: the operations keep that, and `contents_alloc`, `contents_write`
  say what the pointers lead to afterwards;
* `Owned.freeAll`: freeing the pointers of the table succeeds, and no block is left.
-/

/-- The blocks, in the order in which they were allocated. -/
structure Heap (α : Type*) where
  blocks : List (Option α) := []

namespace Heap

variable {α κ : Type*} {h h' : Heap α} {pointers : κ → Option ℕ} {a b : ℕ} {x : α} {k : κ}

/-- The content of a live block. -/
def read (h : Heap α) (a : ℕ) : Option α := h.blocks[a]?.join

/-- The address of the block that is allocated next. -/
def address (h : Heap α) : ℕ := h.blocks.length

def alloc (h : Heap α) (x : α) : Heap α := ⟨h.blocks ++ [some x]⟩

/-- A live block gets a new content. -/
def write (h : Heap α) (a : ℕ) (x : α) : Option (Heap α) :=
  (h.read a).map fun _ => ⟨h.blocks.set a (some x)⟩

/-- A live block is freed. -/
def free (h : Heap α) (a : ℕ) : Option (Heap α) :=
  (h.read a).map fun _ => ⟨h.blocks.set a none⟩

/-- Blocks are freed one after the other. -/
def freeAll (h : Heap α) (as : List ℕ) : Option (Heap α) := as.foldlM free h

theorem lt_address (ha : (h.read a).isSome) : a < h.address := by
  by_contra hle
  rw [read, List.getElem?_eq_none (not_lt.1 hle)] at ha
  exact Bool.false_ne_true ha

theorem read_alloc (h : Heap α) (x : α) (b : ℕ) :
    (h.alloc x).read b = if b = h.address then some x else h.read b := by
  unfold read alloc address
  dsimp only
  rcases lt_trichotomy b h.blocks.length with hlt | rfl | hgt
  · rw [List.getElem?_append_left hlt, if_neg hlt.ne]
  · simp
  · rw [if_neg hgt.ne', List.getElem?_eq_none (by simp; omega), List.getElem?_eq_none hgt.le]

theorem read_set (ha : (h.read a).isSome) (y : Option α) (b : ℕ) :
    read ⟨h.blocks.set a y⟩ b = if b = a then y else h.read b := by
  unfold read
  dsimp only
  rw [List.getElem?_set]
  have hlt : a < h.blocks.length := lt_address ha
  by_cases hab : b = a
  · subst hab
    simp [hlt]
  · rw [if_neg (Ne.symm hab), if_neg hab]

theorem read_write (hw : h.write a x = some h') (b : ℕ) :
    h'.read b = if b = a then some x else h.read b := by
  obtain ⟨y, hy, rfl⟩ := Option.map_eq_some_iff.1 hw
  exact read_set (by rw [hy]; rfl) _ b

theorem read_free (hf : h.free a = some h') (b : ℕ) :
    h'.read b = if b = a then none else h.read b := by
  obtain ⟨y, hy, rfl⟩ := Option.map_eq_some_iff.1 hf
  exact read_set (by rw [hy]; rfl) _ b

theorem live_of_write (hw : h.write a x = some h') : (h.read a).isSome := by
  obtain ⟨y, hy, -⟩ := Option.map_eq_some_iff.1 hw
  rw [hy]
  rfl

theorem exists_write (ha : (h.read a).isSome) (x : α) : ∃ h', h.write a x = some h' := by
  obtain ⟨y, hy⟩ := Option.isSome_iff_exists.1 ha
  exact ⟨_, Option.map_eq_some_iff.2 ⟨y, hy, rfl⟩⟩

theorem exists_free (ha : (h.read a).isSome) : ∃ h', h.free a = some h' := by
  obtain ⟨y, hy⟩ := Option.isSome_iff_exists.1 ha
  exact ⟨_, Option.map_eq_some_iff.2 ⟨y, hy, rfl⟩⟩

/-- Live blocks can be freed, each of them once; the others stay as they are. -/
theorem exists_freeAll {as : List ℕ} (hnodup : as.Nodup) (hlive : ∀ a ∈ as, (h.read a).isSome) :
    ∃ h', h.freeAll as = some h' ∧ ∀ b, h'.read b = if b ∈ as then none else h.read b := by
  induction as generalizing h with
  | nil => exact ⟨h, rfl, fun b => by simp⟩
  | cons a as ih =>
    obtain ⟨hnew, hnodup⟩ := List.nodup_cons.1 hnodup
    obtain ⟨hhead, hlive⟩ := List.forall_mem_cons.1 hlive
    obtain ⟨h₁, hfree⟩ := exists_free hhead
    have hread := read_free hfree
    -- the first block is not among the others, so that these are live still
    have hlive₁ : ∀ b ∈ as, (h₁.read b).isSome := by
      intro b hb
      have hne : b ≠ a := fun heq => hnew (heq ▸ hb)
      rw [hread, if_neg hne]
      exact hlive b hb
    obtain ⟨h₂, hrest, hread₂⟩ := ih hnodup hlive₁
    refine ⟨h₂, ?_, fun b => ?_⟩
    · rw [freeAll, List.foldlM_cons, hfree]
      exact hrest
    · rw [hread₂, hread]
      by_cases hb : b = a
      · simp [hb]
      · simp [hb]

/-! ### Owners -/

/-- The pointers of the table lead to blocks of their own. -/
structure Valid (h : Heap α) (pointers : κ → Option ℕ) : Prop where
  live : ∀ {k a}, pointers k = some a → (h.read a).isSome
  injective : ∀ {k k' a}, pointers k = some a → pointers k' = some a → k = k'

/-- The blocks belong to the keys of the table. -/
structure Owned (h : Heap α) (pointers : κ → Option ℕ) : Prop extends Valid h pointers where
  owner : ∀ {a}, (h.read a).isSome → ∃ k, pointers k = some a

/-- What the pointers lead to. -/
def contents (h : Heap α) (pointers : κ → Option ℕ) (k : κ) : Option α := (pointers k).bind h.read

theorem contents_of_pointer (hk : pointers k = some a) : contents h pointers k = h.read a := by
  rw [contents, hk, Option.bind_some]

theorem Valid.contents_eq_none (hv : Valid h pointers) :
    contents h pointers k = none ↔ pointers k = none := by
  cases hk : pointers k with
  | none => simp [contents, hk]
  | some a =>
    rw [contents_of_pointer hk, Option.eq_none_iff_forall_ne_some]
    obtain ⟨x, hx⟩ := Option.isSome_iff_exists.1 (hv.live hk)
    simp [hx]

theorem Owned.empty : Owned (α := α) {} fun _ : κ => none where
  live := by simp
  injective := by simp
  owner ha := by simp [read] at ha

/-- The pointers of the table lead to blocks that were there before. -/
theorem Valid.ne_address (hv : Valid h pointers) (hk : pointers k = some a) : a ≠ h.address :=
  (lt_address (hv.live hk)).ne

/-- A block that no pointer of the table leads to. -/
theorem Valid.alloc (hv : Valid h pointers) (x : α) : Valid (h.alloc x) pointers where
  live hk := by
    rw [read_alloc, if_neg (hv.ne_address hk)]
    exact hv.live hk
  injective := hv.injective

theorem Valid.contents_alloc_none (hv : Valid h pointers) (x : α) :
    contents (h.alloc x) pointers = contents h pointers := by
  funext k
  cases hk : pointers k with
  | none => simp [contents, hk]
  | some a => rw [contents_of_pointer hk, contents_of_pointer hk, read_alloc,
      if_neg (hv.ne_address hk)]

theorem Owned.write (ho : Owned h pointers) (hw : h.write a x = some h') : Owned h' pointers := by
  have hlive (b : ℕ) : (h'.read b).isSome = (h.read b).isSome := by
    rw [read_write hw]
    split_ifs with hb
    · rw [hb, live_of_write hw]
      rfl
    · rfl
  exact
    { live := fun hk => (hlive _).trans (ho.live hk)
      injective := ho.injective
      owner := fun hb => ho.owner ((hlive _).symm.trans hb) }

/-- The freed pointers are all those of the table. -/
theorem Owned.freeAll (ho : Owned h pointers) {as : List ℕ} (hnodup : as.Nodup)
    (hall : ∀ a, a ∈ as ↔ ∃ k, pointers k = some a) :
    ∃ h', h.freeAll as = some h' ∧ ∀ b, h'.read b = none := by
  have hlive : ∀ a ∈ as, (h.read a).isSome := fun a ha => ho.live ((hall a).1 ha).choose_spec
  obtain ⟨h', hfree, hread⟩ := exists_freeAll hnodup hlive
  refine ⟨h', hfree, fun b => ?_⟩
  rw [hread]
  by_cases hb : b ∈ as
  · rw [if_pos hb]
  · rw [if_neg hb]
    by_contra hne
    exact hb ((hall b).2 (ho.owner (Option.isSome_iff_ne_none.2 hne)))

variable [DecidableEq κ]

/-- A new block for a key without one. -/
theorem Owned.alloc (ho : Owned h pointers) (hk : pointers k = none) (x : α) :
    Owned (h.alloc x) (Function.update pointers k (some h.address)) where
  live {k' b} hb := by
    rw [read_alloc]
    rw [Function.update_apply] at hb
    split_ifs at hb with hkk
    · rw [if_pos (Option.some.inj hb).symm]
      rfl
    · rw [if_neg (ho.ne_address hb)]
      exact ho.live hb
  injective {k₁ k₂ b} h₁ h₂ := by
    rw [Function.update_apply] at h₁ h₂
    split_ifs at h₁ h₂ with hk₁ hk₂ hk₂
    · rw [hk₁, hk₂]
    · exact absurd (Option.some.inj h₁).symm (ho.ne_address h₂)
    · exact absurd (Option.some.inj h₂).symm (ho.ne_address h₁)
    · exact ho.injective h₁ h₂
  owner {b} hb := by
    rw [read_alloc] at hb
    by_cases hnew : b = h.address
    · exact ⟨k, by rw [Function.update_self, hnew]⟩
    · rw [if_neg hnew] at hb
      obtain ⟨k', hk'⟩ := ho.owner hb
      have hne : k' ≠ k := by
        rintro rfl
        simp [hk] at hk'
      exact ⟨k', by rw [Function.update_of_ne hne, hk']⟩

theorem Owned.contents_alloc (ho : Owned h pointers) (k : κ) (x : α) :
    contents (h.alloc x) (Function.update pointers k (some h.address)) =
      Function.update (contents h pointers) k (some x) := by
  funext k'
  simp only [contents, Function.update_apply]
  split_ifs with hk
  · rw [Option.bind_some, read_alloc, if_pos rfl]
  · cases hk' : pointers k' with
    | none => rfl
    | some b => rw [Option.bind_some, Option.bind_some, read_alloc, if_neg (ho.ne_address hk')]

theorem Owned.contents_write (ho : Owned h pointers) (hk : pointers k = some a)
    (hw : h.write a x = some h') :
    contents h' pointers = Function.update (contents h pointers) k (some x) := by
  funext k'
  simp only [contents, Function.update_apply]
  split_ifs with hkk
  · rw [hkk, hk, Option.bind_some, read_write hw, if_pos rfl]
  · cases hk' : pointers k' with
    | none => rfl
    | some b =>
      have hne : b ≠ a := fun heq => hkk (ho.injective hk' (heq ▸ hk))
      rw [Option.bind_some, Option.bind_some, read_write hw, if_neg hne]

end Heap
