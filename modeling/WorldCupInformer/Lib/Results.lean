import Mathlib

/-!
# Two functions whose results agree

`Agrees E R x y`: the computations `x` and `y` return values that `R` relates, or both throw what
`E` relates.  `x` may have further ways to fail, and takes none of them.

* `Agrees.bind`: related computations, one after the other;
* `Agrees.thrown_bind`: a step that both share.
-/

namespace Results

universe u

variable {ε ε' : Type*} {α β γ δ : Type u}

inductive Agrees (E : ε → ε' → Prop) (R : α → β → Prop) : Except ε α → Except ε' β → Prop
  | ok {a : α} {b : β} (h : R a b) : Agrees E R (.ok a) (.ok b)
  | error {e : ε} {e' : ε'} (h : E e e') : Agrees E R (.error e) (.error e')

/-- A computation that can only throw what `y` throws. -/
def thrown (f : ε' → ε) : Except ε' β → Except ε β := Except.mapError f

namespace Agrees

variable {E : ε → ε' → Prop} {f : ε' → ε} {R : α → β → Prop} {S : γ → δ → Prop} {x : Except ε α}
  {y : Except ε' β}

theorem bind (h : Agrees E R x y) {k : α → Except ε γ} {l : β → Except ε' δ}
    (hk : ∀ a b, R a b → Agrees E S (k a) (l b)) : Agrees E S (x >>= k) (y >>= l) := by
  cases h with
  | ok h => exact hk _ _ h
  | error h => exact .error h

theorem thrown (hf : ∀ e, E (f e) e) (y : Except ε' β) : Agrees E (· = ·) (thrown f y) y := by
  cases y with
  | ok b => exact .ok rfl
  | error e => exact .error (hf e)

theorem thrown_bind (hf : ∀ e, E (f e) e) (y : Except ε' β) {k : β → Except ε γ}
    {l : β → Except ε' δ} (hk : ∀ b, Agrees E S (k b) (l b)) :
    Agrees E S (Results.thrown f y >>= k) (y >>= l) :=
  (thrown hf y).bind fun _ _ h => h ▸ hk _

theorem exists_of_ok {b : β} (h : Agrees E R x (.ok b)) : ∃ a, x = .ok a ∧ R a b := by
  cases h with
  | ok h => exact ⟨_, rfl, h⟩

theorem exists_of_eq_ok {a : α} (h : Agrees E R (.ok a) y) : ∃ b, y = .ok b ∧ R a b := by
  cases h with
  | ok h => exact ⟨_, rfl, h⟩

theorem exists_of_error {e' : ε'} (h : Agrees E R x (.error e')) : ∃ e, x = .error e ∧ E e e' := by
  cases h with
  | error h => exact ⟨_, rfl, h⟩

/-- What `x` throws stands for what `y` throws. -/
theorem exists_of_eq_error {e : ε} (h : Agrees E R (.error e) y) :
    ∃ e', y = .error e' ∧ E e e' := by
  cases h with
  | error h => exact ⟨_, rfl, h⟩

end Agrees

/-! ### One result -/

theorem ok_bind_eq (a : α) (k : α → Except ε β) : (Except.ok a >>= k) = k a := rfl

theorem map_bind (x : Except ε α) (k : α → Except ε β) (g : β → γ) :
    (x >>= k).map g = x >>= fun a => (k a).map g := by
  cases x with
  | error e => rfl
  | ok a => rfl

theorem exists_forall₂_iff {R : α → β → Prop} {as : List α} :
    (∃ bs, List.Forall₂ R as bs) ↔ ∀ a ∈ as, ∃ b, R a b := by
  induction as with
  | nil => simp
  | cons a as ih =>
    rw [List.forall_mem_cons, ← ih]
    constructor
    · rintro ⟨_, h⟩
      obtain ⟨b, bs, hab, habs, -⟩ := List.forall₂_cons_left_iff.1 h
      exact ⟨⟨b, hab⟩, bs, habs⟩
    · rintro ⟨⟨b, hab⟩, bs, habs⟩
      exact ⟨b :: bs, .cons hab habs⟩

theorem exists_of_forall₂ {R : α → β → Prop} {as : List α} {bs : List β}
    (h : List.Forall₂ R as bs) : ∀ b ∈ bs, ∃ a, R a b :=
  exists_forall₂_iff.1 ⟨as, h.flip⟩

/-- Every element gives its result. -/
theorem mapM_eq_ok {k : α → Except ε β} {as : List α} {bs : List β} :
    as.mapM k = .ok bs ↔ List.Forall₂ (fun a b => k a = .ok b) as bs := by
  induction as generalizing bs with
  | nil => cases bs <;> simp [pure, Except.pure]
  | cons a as ih =>
    rw [List.mapM_cons, List.forall₂_cons_left_iff]
    constructor
    · intro h
      cases ha : k a with
      | error e => rw [ha] at h; cases h
      | ok b =>
        cases has : as.mapM k with
        | error e => rw [ha, has] at h; cases h
        | ok bs' =>
          rw [ha, has] at h
          exact ⟨b, bs', rfl, ih.1 has, (Except.ok.inj h).symm⟩
    · rintro ⟨b, bs', ha, has, rfl⟩
      rw [ha, ih.2 has]
      rfl

end Results
