import WorldCupInformer.Lib.Machine

/-!
# Unending runs

The events of an unending run are `w 0`, `w 1`, …; `along step s w n` is the state after the first
`n` of them.

* `eventually_zero`: a number that does not grow, and gets smaller at one of its later steps as long
  as it is not 0, is 0 from some point on;
* `eventually_zero_along`: the same of a rank of the states, where an event that occurs again and
  again lowers it.
-/

open Filter

namespace Machine

variable {σ ε : Type*} {step : σ → ε → σ} {s : σ} {w : ℕ → ε}

/-- The first `n` events. -/
def firstEvents (w : ℕ → ε) (n : ℕ) : List ε := (List.range n).map w

theorem firstEvents_succ (w : ℕ → ε) (n : ℕ) :
    firstEvents w (n + 1) = firstEvents w n ++ [w n] := by
  rw [firstEvents, List.range_succ, List.map_append]
  rfl

/-- The state after the first `n` events. -/
def along (step : σ → ε → σ) (s : σ) (w : ℕ → ε) (n : ℕ) : σ := run step s (firstEvents w n)

theorem along_succ (n : ℕ) : along step s w (n + 1) = step (along step s w n) (w n) := by
  rw [along, firstEvents_succ, run_append]
  rfl

/-- A number that does not grow from `N` on, and gets smaller at one of its later steps as long as
it is not 0. -/
theorem eventually_zero {rank : ℕ → ℕ} {N : ℕ} (hmono : ∀ n, N ≤ n → rank (n + 1) ≤ rank n)
    (hlower : ∃ᶠ n in atTop, rank n ≠ 0 → rank (n + 1) < rank n) :
    ∀ᶠ n in atTop, rank n = 0 := by
  have hanti : ∀ n m, N ≤ n → n ≤ m → rank m ≤ rank n := fun n m hn hm => by
    induction m, hm using Nat.le_induction with
    | base => exact le_rfl
    | succ m hm ih => exact (hmono m (hn.trans hm)).trans ih
  -- by induction on a bound of the rank
  suffices h : ∀ bound n, N ≤ n → rank n ≤ bound → ∀ᶠ m in atTop, rank m = 0 from
    h (rank N) N le_rfl le_rfl
  intro bound
  induction bound with
  | zero =>
    intro n hn hzero
    exact eventually_atTop.2 ⟨n, fun m hm => Nat.le_zero.1 ((hanti n m hn hm).trans hzero)⟩
  | succ bound ih =>
    intro n hn hbound
    obtain ⟨m, hm, hlow⟩ := frequently_atTop.1 hlower n
    have hle := hanti n m hn hm
    by_cases hzero : rank m = 0
    · exact ih m (hn.trans hm) (by omega)
    · have hlt := hlow hzero
      exact ih (m + 1) (by omega) (by omega)

/-- A rank that no step makes larger where `I` holds, and that the event `e` lowers. -/
theorem eventually_zero_along (I : σ → Prop) (rank : σ → ℕ) {e : ε}
    (hI : ∀ᶠ n in atTop, I (along step s w n))
    (hmono : ∀ s n, I s → rank (step s (w n)) ≤ rank s)
    (hlower : ∀ s, I s → rank s ≠ 0 → rank (step s e) < rank s)
    (hfair : ∃ᶠ n in atTop, w n = e) : ∀ᶠ n in atTop, rank (along step s w n) = 0 := by
  obtain ⟨N, hN⟩ := eventually_atTop.1 hI
  refine eventually_zero (N := N) (fun n hn => ?_) ?_
  · rw [along_succ]
    exact hmono _ n (hN n hn)
  · refine (hfair.and_eventually hI).mono fun n hn hne => ?_
    rw [along_succ, hn.1]
    exact hlower _ hn.2 hne

end Machine
