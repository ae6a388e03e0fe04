import Mathlib

/-!
# Owners of resources

`held i` is what the owner `i` holds, in a queue.  `give` hands a new resource to an owner, `move`
hands the first resource of an owner on to another one.

* `Exclusive`: every resource has at most one owner, which holds it once;
* `Exclusive.give`, `Exclusive.move`: both keep that;
* `mem_move`: `move` neither loses nor makes a resource.
-/

namespace Owners

variable {ι α : Type*} [DecidableEq ι]

/-- No resource is held twice. -/
structure Exclusive (held : ι → List α) : Prop where
  nodup : ∀ i, (held i).Nodup
  eq : ∀ {i j a}, a ∈ held i → a ∈ held j → i = j

/-- The owner `j` gets the resource `a`. -/
def give (held : ι → List α) (j : ι) (a : α) : ι → List α :=
  Function.update held j (held j ++ [a])

/-- The owner `i` drops its first resource. -/
def drop (held : ι → List α) (i : ι) : ι → List α := Function.update held i (held i).tail

/-- The first resource of `i`, if there is one, goes to `j`. -/
def move (held : ι → List α) (i j : ι) : ι → List α :=
  match held i with
  | [] => held
  | a :: _ => give (drop held i) j a

variable {held : ι → List α} {i j k : ι} {a b : α} {as : List α}

theorem move_cons (h : held i = a :: as) : move held i j = give (drop held i) j a := by
  rw [move, h]

theorem move_nil (h : held i = []) : move held i j = held := by rw [move, h]

theorem mem_give : b ∈ give held j a k ↔ b ∈ held k ∨ k = j ∧ b = a := by
  rw [give, Function.update_apply]
  split_ifs with hk
  · simp [hk]
  · simp [hk]

theorem drop_self (h : held i = a :: as) : drop held i i = as := by
  rw [drop, Function.update_self, h, List.tail_cons]

theorem drop_of_ne (h : k ≠ i) : drop held i k = held k := Function.update_of_ne h ..

theorem subset_of_drop (k : ι) : drop held i k ⊆ held k := by
  rw [drop, Function.update_apply]
  split_ifs with hk
  · exact hk ▸ List.tail_subset _
  · exact List.Subset.refl _

theorem give_self (held : ι → List α) (j : ι) (a : α) : give held j a j = held j ++ [a] :=
  Function.update_self ..

theorem give_of_ne (h : k ≠ j) : give held j a k = held k := Function.update_of_ne h ..

namespace Exclusive

omit [DecidableEq ι] in
theorem empty : Exclusive fun _ : ι => ([] : List α) where
  nodup _ := List.nodup_nil
  eq h := absurd h List.not_mem_nil

/-- A new resource. -/
theorem give (h : Exclusive held) (hnew : ∀ i, a ∉ held i) (j : ι) :
    Exclusive (Owners.give held j a) where
  nodup k := by
    rw [Owners.give, Function.update_apply]
    split_ifs with hk
    · exact List.concat_eq_append ▸ List.Nodup.concat (hnew j) (h.nodup j)
    · exact h.nodup k
  eq hi hj := by
    rcases mem_give.1 hi with hold | ⟨rfl, rfl⟩
    · rcases mem_give.1 hj with hold' | ⟨-, heq⟩
      · exact h.eq hold hold'
      · exact absurd (heq ▸ hold) (hnew _)
    · rcases mem_give.1 hj with hold' | ⟨rfl, -⟩
      · exact absurd hold' (hnew _)
      · rfl

theorem drop (h : Exclusive held) (i : ι) : Exclusive (Owners.drop held i) where
  nodup k := by
    rw [Owners.drop, Function.update_apply]
    split_ifs with hk
    · exact (h.nodup i).tail
    · exact h.nodup k
  eq hi hj := h.eq (subset_of_drop _ hi) (subset_of_drop _ hj)

/-- A resource that has been dropped is not held. -/
theorem notMem_drop (h : Exclusive held) (hi : held i = a :: as) (k : ι) :
    a ∉ Owners.drop held i k := by
  intro hmem
  have hhead : a ∈ held i := by rw [hi]; exact List.mem_cons_self
  obtain rfl := h.eq (subset_of_drop _ hmem) hhead
  rw [drop_self hi] at hmem
  have hnodup := h.nodup k
  rw [hi] at hnodup
  exact (List.nodup_cons.1 hnodup).1 hmem

theorem move (h : Exclusive held) (i j : ι) : Exclusive (Owners.move held i j) := by
  cases hi : held i with
  | nil => rwa [move_nil hi]
  | cons a as =>
    rw [move_cons hi]
    exact (h.drop i).give (h.notMem_drop hi) j

end Exclusive

/-- **Nothing is lost and nothing is made.** -/
theorem mem_move (i j : ι) : (∃ k, b ∈ move held i j k) ↔ ∃ k, b ∈ held k := by
  cases hi : held i with
  | nil => rw [move_nil hi]
  | cons a as =>
    rw [move_cons hi]
    constructor
    · rintro ⟨k, hk⟩
      rcases mem_give.1 hk with hk | ⟨-, rfl⟩
      · exact ⟨k, subset_of_drop k hk⟩
      · exact ⟨i, by rw [hi]; exact List.mem_cons_self⟩
    · rintro ⟨k, hk⟩
      by_cases hki : k = i
      · subst hki
        rw [hi] at hk
        rcases List.mem_cons.1 hk with rfl | hk
        · exact ⟨j, mem_give.2 (.inr ⟨rfl, rfl⟩)⟩
        · exact ⟨k, mem_give.2 (.inl (by rwa [drop_self hi]))⟩
      · exact ⟨k, mem_give.2 (.inl (by rwa [drop_of_ne hki]))⟩

end Owners
