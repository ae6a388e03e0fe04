import Mathlib
import WorldCupInformer.Lib.Machine

/-!
# Interleavings of threads over a shared state

A thread has a local state (its program counter and its local variables); `act` is its next atomic
action on the local and the shared state.  `Interleaving.step act` lets one thread act, and a run
of it over a list of thread names is an interleaving of the threads.

* `step_self`, `step_other`, `step_shared`, `run_other`: what an action, or a run, changes;
* `alone_add`, `run_alone`: the actions of one thread on its own are the iteration of its actions.
-/

namespace Interleaving

variable {ι ℓ σ : Type*}

/-- The local states of the threads and the shared state. -/
structure Config (ι ℓ σ : Type*) where
  threads : ι → ℓ
  shared : σ

variable (act : ι → ℓ → σ → ℓ × σ)

/-- The thread `i` acts. -/
def step [DecidableEq ι] (k : Config ι ℓ σ) (i : ι) : Config ι ℓ σ where
  threads := Function.update k.threads i (act i (k.threads i) k.shared).1
  shared := (act i (k.threads i) k.shared).2

/-- Any number of actions of one thread, on its own. -/
def alone (i : ι) (l : ℓ) (s : σ) : ℕ → ℓ × σ
  | 0 => (l, s)
  | n + 1 => alone i (act i l s).1 (act i l s).2 n

variable {act} [DecidableEq ι] {k : Config ι ℓ σ} {i j : ι}

@[simp] theorem step_shared : (step act k i).shared = (act i (k.threads i) k.shared).2 := rfl

@[simp] theorem step_self : (step act k i).threads i = (act i (k.threads i) k.shared).1 :=
  Function.update_self ..

theorem step_other (h : j ≠ i) : (step act k i).threads j = k.threads j :=
  Function.update_of_ne h ..

/-- A thread that does not act stays where it is. -/
theorem run_other {schedule : List ι} (h : i ∉ schedule) :
    (Machine.run (step act) k schedule).threads i = k.threads i := by
  induction schedule generalizing k with
  | nil => rfl
  | cons j schedule ih =>
    rw [List.mem_cons, not_or] at h
    rw [Machine.run_cons, ih h.2, step_other h.1]

omit [DecidableEq ι] in
theorem alone_add (l : ℓ) (s : σ) (m n : ℕ) :
    alone act i l s (m + n) = alone act i (alone act i l s m).1 (alone act i l s m).2 n := by
  induction m generalizing l s with
  | zero => rw [Nat.zero_add]; rfl
  | succ m ih => rw [Nat.succ_add]; exact ih _ _

theorem run_alone (n : ℕ) : Machine.run (step act) k (List.replicate n i) =
    ⟨Function.update k.threads i (alone act i (k.threads i) k.shared n).1,
      (alone act i (k.threads i) k.shared n).2⟩ := by
  induction n generalizing k with
  | zero => simp [alone]
  | succ n ih =>
    rw [List.replicate_succ, Machine.run_cons, ih, step_self, step_shared, alone]
    congr 1
    rw [step, Function.update_idem]

end Interleaving
