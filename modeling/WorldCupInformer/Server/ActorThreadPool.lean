import WorldCupInformer.Lib.Dictionary
import WorldCupInformer.Lib.Machine

/-!
# The pool of the reactor (`ActorThreadPool`)

`submit` hands a task to the executor, or queues it while another task of its act has been handed
over and has not completed; `complete` hands over the next.  Both are synchronized on the act.  The
executor starts the tasks it has been given in any order and on any number of threads.  It runs each
of them once: it is not shut down.

* `ActorThreadPool.step`: the calls of `submit`, and the tasks that start and end;
* `Exclusive`: the invariant: an act is in `playingNow` for as long as it has its one task;
* `actor_fifo`: the tasks of an act are run one at a time, in the order in which they were
  submitted.

This is what the pool threads of `Reactor` rely on, whose acts are the handlers.
-/

namespace WorldCupInformer

/-- A task on its way through the executor. -/
structure Handed (α τ : Type) where
  act : α
  task : τ

/-- The fields of `ActorThreadPool`, with its executor `threads` as the tasks that wait for a thread
and those that run on one. -/
structure ActorThreadPool (α τ : Type) where
  acts : Dict α (List τ) := ∅
  playingNow : Finset α := ∅
  waiting : List (Handed α τ) := []
  running : List (Handed α τ) := []

namespace ActorThreadPool

/-- What the threads of the server and of the executor do. -/
inductive Event (α τ : Type)
  | submit (act : α) (r : τ)
  /-- a thread takes a waiting task -/
  | start (i : ℕ)
  /-- a running task ends, with an exception if it `throws` -/
  | finish (i : ℕ) (throws : Bool)
  /-- `acts` is a `WeakHashMap`: it forgets an act that nothing refers to -/
  | collect (act : α)

variable {α τ : Type} [DecidableEq α]

/-- `pendingRunnablesOf`, which makes a queue for an act without one. -/
def pendingRunnablesOf (k : ActorThreadPool α τ) (act : α) : ActorThreadPool α τ × List τ :=
  ({ k with acts := k.acts.insertNew act [] }, (k.acts.lookup act).getD [])

/-- `execute`. -/
def execute (k : ActorThreadPool α τ) (r : τ) (act : α) : ActorThreadPool α τ :=
  { k with waiting := k.waiting ++ [⟨act, r⟩] }

/-- `submit`. -/
def submit (k : ActorThreadPool α τ) (act : α) (r : τ) : ActorThreadPool α τ :=
  if act ∉ k.playingNow then
    { k with playingNow := insert act k.playingNow }.execute r act
  else
    let (k, pending) := k.pendingRunnablesOf act
    { k with acts := k.acts.insert act (pending ++ [r]) }

/-- `complete`. -/
def complete (k : ActorThreadPool α τ) (act : α) : ActorThreadPool α τ :=
  match k.pendingRunnablesOf act with
  | (k, []) => { k with playingNow := k.playingNow.erase act }
  | (k, r :: pending) => { k with acts := k.acts.insert act pending }.execute r act

/-- The tasks that have been handed over and have not completed. -/
def outstanding (k : ActorThreadPool α τ) : List (Handed α τ) := k.waiting ++ k.running

/-- One step; a step that cannot be made changes nothing. -/
def step (k : ActorThreadPool α τ) : Event α τ → ActorThreadPool α τ
  | .submit act r => k.submit act r
  | .start i =>
    match k.waiting[i]? with
    | none => k
    | some x => { k with waiting := k.waiting.eraseIdx i, running := k.running ++ [x] }
  | .finish i _ =>
    -- `complete` is called in a `finally`, whether the task throws or not
    match k.running[i]? with
    | none => k
    | some x => { k with running := k.running.eraseIdx i }.complete x.act
  | .collect act =>
    if act ∈ k.playingNow ∨ act ∈ k.outstanding.map Handed.act then k
    else { k with acts := k.acts.erase act }

/-- The pool after the events. -/
def run (es : List (Event α τ)) : ActorThreadPool α τ := Machine.run step {} es

/-- The queue of an act. -/
def pending (k : ActorThreadPool α τ) (act : α) : List τ := (k.acts.lookup act).getD []

/-- The tasks of an act, in order. -/
def tasksOf (act : α) (xs : List (Handed α τ)) : List τ :=
  xs.filterMap fun x => if x.act = act then some x.task else none

/-- The task that starts in a step. -/
def startedBy (k : ActorThreadPool α τ) : Event α τ → Option (Handed α τ)
  | .start i => k.waiting[i]?
  | _ => none

/-- The tasks that have been started, in order. -/
def started (es : List (Event α τ)) : List (Handed α τ) := Machine.trace step startedBy {} es

/-- The tasks that have been submitted for an act, in order. -/
def submitted (act : α) (es : List (Event α τ)) : List τ :=
  es.filterMap fun
    | .submit act' r => if act' = act then some r else none
    | _ => none

variable {k : ActorThreadPool α τ} {act : α}

/-! ### The tasks of an act -/

@[simp] theorem tasksOf_append (xs ys : List (Handed α τ)) :
    tasksOf act (xs ++ ys) = tasksOf act xs ++ tasksOf act ys :=
  List.filterMap_append

@[simp] theorem tasksOf_nil : tasksOf act ([] : List (Handed α τ)) = [] := rfl

@[simp] theorem tasksOf_cons (x : Handed α τ) (xs : List (Handed α τ)) :
    tasksOf act (x :: xs) = (if x.act = act then [x.task] else []) ++ tasksOf act xs := by
  unfold tasksOf
  rw [List.filterMap_cons]
  split_ifs <;> rfl

theorem tasksOf_eq_nil_iff {xs : List (Handed α τ)} :
    tasksOf act xs = [] ↔ act ∉ xs.map Handed.act := by
  unfold tasksOf
  rw [List.filterMap_eq_nil_iff, List.mem_map, not_exists]
  refine forall_congr' fun x => ?_
  by_cases hact : x.act = act <;> simp [hact]

omit [DecidableEq α] in
/-- A task taken out of a list, and the others. -/
theorem exists_eraseIdx {xs : List (Handed α τ)} {i : ℕ} {x : Handed α τ} (hx : xs[i]? = some x) :
    ∃ pre post, xs = pre ++ [x] ++ post ∧ xs.eraseIdx i = pre ++ post := by
  obtain ⟨hi, hget⟩ := List.getElem?_eq_some_iff.1 hx
  refine ⟨xs.take i, xs.drop (i + 1), ?_, List.eraseIdx_eq_take_drop_succ xs i⟩
  rw [← hget, List.take_append_getElem, List.take_append_drop]

/-! ### One task at a time -/

/-- What holds between two steps, with the tasks started so far and those submitted for each act: an
act is marked for as long as it has its one task, and only a marked act has a queue. -/
structure Fifo (k : ActorThreadPool α τ) (begun : List (Handed α τ)) (given : α → List τ) :
    Prop where
  count : ∀ act, (k.outstanding.map Handed.act).count act = if act ∈ k.playingNow then 1 else 0
  idle : ∀ act, act ∉ k.playingNow → k.pending act = []
  order : ∀ act, tasksOf act begun ++ tasksOf act k.waiting ++ k.pending act = given act

variable {begun : List (Handed α τ)} {given : α → List τ} {i : ℕ} {x : Handed α τ}

theorem fifo_init : Fifo ({} : ActorThreadPool α τ) [] fun _ => [] where
  count act := by simp [outstanding]
  idle act _ := by simp [pending]
  order act := by simp [pending, tasksOf]

/-- An act with a mark and a running task has none waiting. -/
theorem Fifo.waiting_of_running (hk : Fifo k begun given) (hx : k.running[i]? = some x) :
    x.act ∈ k.playingNow ∧ tasksOf x.act k.waiting = [] := by
  obtain ⟨pre, post, hrunning, -⟩ := exists_eraseIdx hx
  have hcount := hk.count x.act
  simp only [outstanding, hrunning, List.map_append, List.count_append, List.map_cons, List.map_nil,
    List.count_singleton_self] at hcount
  split_ifs at hcount with hplaying
  · refine ⟨hplaying, tasksOf_eq_nil_iff.2 (List.count_eq_zero.1 ?_)⟩
    omega
  · omega

/-- An act with a mark and a waiting task has no other waiting. -/
theorem Fifo.waiting_eq (hk : Fifo k begun given) (hx : k.waiting[i]? = some x) :
    tasksOf x.act k.waiting = [x.task] ∧ tasksOf x.act (k.waiting.eraseIdx i) = [] := by
  obtain ⟨pre, post, hwaiting, herase⟩ := exists_eraseIdx hx
  have hcount := hk.count x.act
  simp only [outstanding, hwaiting, List.map_append, List.count_append, List.map_cons, List.map_nil,
    List.count_singleton_self] at hcount
  have hle : (if x.act ∈ k.playingNow then 1 else 0) ≤ 1 := by split_ifs <;> omega
  have hpre : tasksOf x.act pre = [] := tasksOf_eq_nil_iff.2 (List.count_eq_zero.1 (by omega))
  have hpost : tasksOf x.act post = [] := tasksOf_eq_nil_iff.2 (List.count_eq_zero.1 (by omega))
  rw [herase, hwaiting]
  simp [hpre, hpost]

theorem pending_insert (k : ActorThreadPool α τ) (act act' : α) (queue : List τ) :
    ({ k with acts := k.acts.insert act queue } : ActorThreadPool α τ).pending act' =
      if act' = act then queue else k.pending act' := by
  simp only [pending, Dict.lookup_insert]
  split_ifs <;> rfl

/-- A queue that is made is empty. -/
theorem pending_insertNew (k : ActorThreadPool α τ) (act act' : α) :
    ({ k with acts := k.acts.insertNew act [] } : ActorThreadPool α τ).pending act' =
      k.pending act' := by
  unfold pending
  cases hacts : k.acts.lookup act with
  | some queue => rw [Dict.insertNew_of_some hacts]
  | none =>
    rw [Dict.insertNew_of_none hacts, Dict.lookup_insert]
    split_ifs with hact
    · rw [hact, hacts]
      rfl
    · rfl

theorem Fifo.submit (hk : Fifo k begun given) (act : α) (r : τ) :
    Fifo (k.submit act r) begun fun act' => given act' ++ if act = act' then [r] else [] := by
  unfold ActorThreadPool.submit
  by_cases hact : act ∈ k.playingNow
  · -- the task is queued
    rw [if_neg (not_not.2 hact)]
    simp only [pendingRunnablesOf]
    have hpending : ∀ act', ActorThreadPool.pending
        { k with acts := (k.acts.insertNew act []).insert act (k.pending act ++ [r]) } act' =
          if act' = act then k.pending act ++ [r] else k.pending act' := by
      intro act'
      rw [← k.pending_insertNew act act']
      exact pending_insert { k with acts := k.acts.insertNew act [] } act act' _
    refine { count := hk.count, idle := fun act' h => ?_, order := fun act' => ?_ }
    · have hne : act' ≠ act := fun heq => h (heq ▸ hact)
      exact (hpending act').trans ((if_neg hne).trans (hk.idle act' h))
    · have horder := hk.order act'
      refine (congrArg (_ ++ ·) (hpending act')).trans ?_
      by_cases heq : act' = act
      · subst heq
        simp [← horder]
      · simp [heq, Ne.symm heq, ← horder]
  · -- the act gets its mark and its task
    rw [if_pos hact]
    refine { count := fun act' => ?_, idle := fun act' h => ?_, order := fun act' => ?_ }
    · have hcount := hk.count act'
      simp only [outstanding, execute, List.map_append, List.count_append, List.map_cons,
        List.map_nil, List.count_singleton, Finset.mem_insert, beq_iff_eq] at hcount ⊢
      by_cases heq : act' = act
      · subst heq
        simp only [hact, if_false, if_true, true_or] at hcount ⊢
        omega
      · simp only [heq, Ne.symm heq, if_false, false_or, add_zero]
        exact hcount
    · exact hk.idle act' fun hmem => h (Finset.mem_insert_of_mem hmem)
    · have horder := hk.order act'
      have hpending : ActorThreadPool.pending (execute
          { k with playingNow := insert act k.playingNow } r act) act' = k.pending act' := rfl
      rw [hpending]
      simp only [execute, tasksOf_append, tasksOf_cons, tasksOf_nil, List.append_nil]
      by_cases heq : act' = act
      · subst heq
        have hidle := hk.idle act' hact
        rw [hidle, List.append_nil] at horder
        simp [← horder, hidle]
      · simp [Ne.symm heq, ← horder]

theorem Fifo.start (hk : Fifo k begun given) (hx : k.waiting[i]? = some x) :
    Fifo { k with waiting := k.waiting.eraseIdx i, running := k.running ++ [x] } (begun ++ [x])
      given := by
  obtain ⟨pre, post, hwaiting, herase⟩ := exists_eraseIdx hx
  refine { count := fun act' => ?_, idle := hk.idle, order := fun act' => ?_ }
  · have hcount := hk.count act'
    simp only [outstanding] at hcount ⊢
    rw [hwaiting] at hcount
    rw [herase]
    simp only [List.map_append, List.count_append] at hcount ⊢
    omega
  · have horder := hk.order act'
    have hpending : ActorThreadPool.pending { k with
        waiting := k.waiting.eraseIdx i, running := k.running ++ [x] } act' = k.pending act' := rfl
    rw [hpending]
    by_cases heq : x.act = act'
    · subst heq
      obtain ⟨hone, hnone⟩ := hk.waiting_eq hx
      rw [hone] at horder
      simpa [hnone] using horder
    · rw [hwaiting] at horder
      simpa [herase, heq] using horder

theorem Fifo.finish (hk : Fifo k begun given) (hx : k.running[i]? = some x) :
    Fifo (({ k with running := k.running.eraseIdx i } : ActorThreadPool α τ).complete x.act) begun
      given := by
  obtain ⟨pre, post, hrunning, herase⟩ := exists_eraseIdx hx
  obtain ⟨hplaying, hnone⟩ := hk.waiting_of_running hx
  obtain ⟨act, r⟩ := x
  have hcount : ∀ act', ((k.waiting ++ k.running.eraseIdx i).map Handed.act).count act' =
      if act' ∈ k.playingNow ∧ act' ≠ act then 1 else 0 := by
    intro act'
    have hcount := hk.count act'
    rw [outstanding, hrunning] at hcount
    rw [herase]
    simp only [List.map_append, List.count_append, List.map_cons, List.map_nil,
      List.count_singleton, beq_iff_eq] at hcount ⊢
    by_cases heq : act' = act
    · subst heq
      simp only [hplaying, if_true, ne_eq, not_true_eq_false, and_false, if_false] at hcount ⊢
      omega
    · simp only [Ne.symm heq, if_false, ne_eq, heq, not_false_eq_true, and_true] at hcount ⊢
      omega
  unfold complete
  have hqueue : (k.acts.lookup act).getD [] = k.pending act := rfl
  simp only [pendingRunnablesOf, hqueue]
  cases hpending : k.pending act with
  | nil =>
    -- the act loses its mark
    refine { count := fun act' => ?_, idle := fun act' h => ?_, order := fun act' => ?_ }
    · refine (hcount act').trans ?_
      simp only [Finset.mem_erase]
      exact if_congr and_comm rfl rfl
    · refine (k.pending_insertNew act act').trans ?_
      by_cases heq : act' = act
      · exact heq ▸ hpending
      · exact hk.idle act' fun hmem => h (Finset.mem_erase.2 ⟨heq, hmem⟩)
    · refine (congrArg (_ ++ ·) (k.pending_insertNew act act')).trans ?_
      exact hk.order act'
  | cons r' queue =>
    -- the next task is handed over
    have hnew : ∀ act', ActorThreadPool.pending
        { k with acts := (k.acts.insertNew act []).insert act queue } act' =
          if act' = act then queue else k.pending act' := by
      intro act'
      rw [← k.pending_insertNew act act']
      exact pending_insert { k with acts := k.acts.insertNew act [] } act act' _
    refine { count := fun act' => ?_, idle := fun act' h => ?_, order := fun act' => ?_ }
    · have hcount' := hcount act'
      simp only [outstanding, execute, List.map_append, List.count_append, List.map_cons,
        List.map_nil, List.count_singleton, beq_iff_eq] at hcount' ⊢
      by_cases heq : act' = act
      · subst heq
        simp only [hplaying, if_true, ne_eq, not_true_eq_false, and_false, if_false] at hcount' ⊢
        omega
      · simp only [Ne.symm heq, if_false, ne_eq, heq, not_false_eq_true, and_true] at hcount' ⊢
        rw [Nat.add_zero]
        exact hcount'
    · have hne : act' ≠ act := fun heq => h (heq ▸ hplaying)
      exact (hnew act').trans ((if_neg hne).trans (hk.idle act' h))
    · have horder := hk.order act'
      refine (congrArg (_ ++ ·) (hnew act')).trans ?_
      simp only [execute, tasksOf_append, tasksOf_cons, tasksOf_nil, List.append_nil]
      by_cases heq : act' = act
      · subst heq
        rw [hnone, hpending, List.append_nil] at horder
        simp [hnone, ← horder]
      · simp [heq, Ne.symm heq, ← horder]

theorem Fifo.collect (hk : Fifo k begun given) (hact : act ∉ k.playingNow) :
    Fifo { k with acts := k.acts.erase act } begun given := by
  have hpending : ∀ act', ActorThreadPool.pending { k with acts := k.acts.erase act } act' =
      k.pending act' := by
    intro act'
    simp only [pending, Dict.lookup_erase]
    split_ifs with heq
    · subst heq
      exact (hk.idle act' hact).symm
    · rfl
  refine { count := hk.count, idle := fun act' h => ?_, order := fun act' => ?_ }
  · exact (hpending act').trans (hk.idle act' h)
  · exact (congrArg (_ ++ ·) (hpending act')).trans (hk.order act')

/-- What one step preserves. -/
theorem Fifo.step (hk : Fifo k begun given) (e : Event α τ) :
    Fifo (k.step e) (begun ++ (k.startedBy e).toList)
      fun act => given act ++ submitted act [e] := by
  cases e with
  | submit act r =>
    have hsubmit := hk.submit act r
    have hnew : ∀ act', submitted act' [Event.submit act r] = if act = act' then [r] else [] := by
      intro act'
      unfold submitted
      split_ifs with h <;> simp [h]
    show Fifo (k.submit act r) _ _
    simpa only [startedBy, hnew, Option.toList_none, List.append_nil] using hsubmit
  | start i =>
    simp only [startedBy, submitted, ActorThreadPool.step]
    cases hx : k.waiting[i]? with
    | none => simpa using hk
    | some x => simpa using hk.start hx
  | finish i throws =>
    simp only [startedBy, submitted, ActorThreadPool.step]
    cases hx : k.running[i]? with
    | none => simpa using hk
    | some x => simpa using hk.finish hx
  | collect act =>
    simp only [startedBy, submitted, ActorThreadPool.step]
    split_ifs with h
    · simpa using hk
    · simpa using hk.collect (not_or.1 h).1

theorem fifo_run (es : List (Event α τ)) :
    Fifo (run es) (started es) fun act => submitted act es := by
  induction es using List.reverseRecOn with
  | nil => exact fifo_init
  | append_singleton es e ih =>
    have hsubmitted : ∀ act, submitted act (es ++ [e]) = submitted act es ++ submitted act [e] :=
      fun act => List.filterMap_append
    have hstarted : started (es ++ [e]) = started es ++ ((run es).startedBy e).toList := by
      simp [started, run, Machine.trace_append]
    have hrun : run (es ++ [e]) = (run es).step e := by simp [run]
    rw [hrun, hstarted]
    simpa [hsubmitted] using ih.step e

/-- What the pool guarantees an act after the events. -/
structure ServedInOrder (es : List (Event α τ)) (act : α) : Prop where
  /-- at most one of its tasks has been handed over and has not completed -/
  exclusive : ((run es).outstanding.filter (·.act = act)).length ≤ 1
  playing : act ∈ (run es).playingNow ↔ ∃ x ∈ (run es).outstanding, x.act = act
  queued : (run es).pending act ≠ [] → act ∈ (run es).playingNow
  /-- no task is lost, duplicated or overtaken -/
  order : tasksOf act (started es) ++ tasksOf act (run es).waiting ++ (run es).pending act =
    submitted act es

/-- **The pool is a queue for each act**, with one task of an act at a time, whatever is submitted
and in whatever order the tasks of different acts start and end. -/
theorem actor_fifo (es : List (Event α τ)) (act : α) : ServedInOrder es act := by
  have hk := fifo_run es
  have hcount := hk.count act
  have hlength : ((run es).outstanding.filter (·.act = act)).length =
      ((run es).outstanding.map Handed.act).count act := by
    rw [List.count_eq_countP, List.countP_map, List.countP_eq_length_filter]
    congr 2
  refine { exclusive := ?_, playing := ?_, queued := fun h => ?_, order := hk.order act }
  · rw [hlength, hcount]
    split_ifs <;> omega
  · have hmem : act ∈ (run es).outstanding.map Handed.act ↔
        ∃ x ∈ (run es).outstanding, x.act = act := List.mem_map
    rw [← hmem, ← List.count_pos_iff, hcount]
    split_ifs with h <;> simp [h]
  · by_contra hact
    exact h (hk.idle act hact)

end ActorThreadPool

end WorldCupInformer
