import WorldCupInformer.Server.ClosedChannels

/-!
# Queued replies are not stranded

`send` puts a buffer into the write queue and then posts the task that sets the write interest;
`continueWrite` finds the queue empty and then takes the write interest away.  A buffer that is put
into the queue in between keeps its task, which the selector thread runs only later.

* `Posting`: a pool thread is between its `writeQueue.add` and its `selectorTasks.add`;
* `Served`: the invariant, with the places at which the selector thread has already found the queue
  empty;
* `reply_not_stranded`: it holds after every run.
-/

namespace WorldCupInformer.Reactor

variable {k : Reactor} {c d : ℕ}

/-- A pool thread has put a buffer into the queue of the connection and is about to look up its key
or to post the task. -/
def Posting (k : Reactor) (c : ℕ) : Prop :=
  ∃ d op, (k.handlers d).todo.head? = some op ∧ (op = .keyFor c ∨ op = .post (some c))

/-- The write interest of the connection is still going to be set. -/
def Due (k : Reactor) (c : ℕ) : Prop := writeInterest c ∈ k.selectorTasks ∨ k.Posting c

/-- Every buffer that is put into a queue is announced next. -/
def Paired : List PoolOp → Prop
  | [] => True
  | .enqueue c _ :: todo => todo.head? = some (.keyFor c) ∧ Paired todo
  | _ :: todo => Paired todo

theorem Paired.tail {op : PoolOp} {todo : List PoolOp} (h : Paired (op :: todo)) : Paired todo := by
  cases op with
  | enqueue c msg => exact h.2
  | _ => exact h

/-- The calls of a frame announce what they send. -/
theorem paired_ops (calls : List Call) : Paired (calls.flatMap Call.ops) := by
  induction calls with
  | nil => trivial
  | cons call calls ih =>
    rw [List.flatMap_cons]
    cases call with
    | send h msg => exact ⟨rfl, ih⟩
    | terminate h => exact ih
    | _ => exact ih

/-- What holds between two steps. -/
structure Served (k : Reactor) : Prop where
  channels : k.Channels
  fresh : k.Fresh
  ops : ∀ task ∈ k.selectorTasks, task.ops = opReadWrite
  paired : ∀ d, Paired (k.handlers d).todo
  queue : ∀ c, (k.handlers c).writeQueue ≠ [] → k.Armed c ∨ k.Posting c
  /-- the queue has been found empty: what is in it now came later -/
  empty : ∀ c rest, k.pc = .checkTerminate c rest → (k.handlers c).writeQueue ≠ [] → k.Due c

theorem served_init : Served {} where
  channels := channels_init
  fresh := fresh_init
  ops task hmem := absurd hmem List.not_mem_nil
  paired d := trivial
  queue c h := absurd rfl h
  empty c rest h := by cases h

/-! ### The pool -/

theorem Due.poolStep (h : k.Due c) (hk : k.Channels) (hopen : (k.handlers c).isOpen = true)
    (d : ℕ) : (k.poolStep d).Due c := by
  rcases h with hmem | ⟨d', op, hhead, hop⟩
  · exact .inl (k.poolStep_selectorTasks d hmem)
  by_cases hd : d' = d
  · subst hd
    obtain ⟨todo, htodo⟩ := List.head?_eq_some_iff.1 hhead
    rcases hop with rfl | rfl
    · -- the key of an open channel is found
      have hkey : k.keyFor c = some c := by
        rw [Reactor.keyFor, if_neg]
        intro hderegistered
        have hclosed := hk.closed c hderegistered
        rw [hopen] at hclosed
        cases hclosed
      refine .inr ⟨d', .post (some c), ?_, .inr rfl⟩
      rw [poolStep_cons htodo, todo_runOp, if_pos rfl]
      simp [hkey]
    · refine .inl ?_
      rw [poolStep_cons htodo, selectorTasks_runOp]
      exact List.mem_append_right _ List.mem_cons_self
  · refine .inr ⟨d', op, ?_, hop⟩
    rwa [todo_poolStep_other k hd]

theorem paired_poolStep (hk : ∀ d, Paired (k.handlers d).todo) (c d : ℕ) :
    Paired ((k.poolStep c).handlers d).todo := by
  by_cases hd : d = c
  · subst hd
    cases htodo : (k.handlers d).todo with
    | nil =>
      have hnew := continueTask_todo htodo
      rw [← poolStep_nil htodo] at hnew
      rcases hnew with hnew | ⟨msg, hnew⟩
      · rw [hnew]
        trivial
      · rw [hnew]
        exact paired_ops _
    | cons op todo =>
      have htail : Paired todo := (htodo ▸ hk d).tail
      rw [poolStep_cons htodo, todo_runOp, if_pos rfl, modify_self]
      cases op <;> exact htail
  · rw [todo_poolStep_other k hd]
    exact hk d

/-- A step of the pool puts a buffer into the queue only to announce it next. -/
theorem writeQueue_poolStep (hk : ∀ d, Paired (k.handlers d).todo) (c d : ℕ) :
    ((k.poolStep d).handlers c).writeQueue = (k.handlers c).writeQueue ∨
      (k.poolStep d).Posting c := by
  cases htodo : (k.handlers d).todo with
  | nil =>
    rw [poolStep_nil htodo]
    exact .inl (k.continueTask_same d c).writeQueue
  | cons op todo =>
    have hpaired := hk d
    rw [htodo] at hpaired
    rw [poolStep_cons htodo]
    cases op with
    | enqueue e msg =>
      by_cases he : e = c
      · subst he
        refine .inr ⟨d, .keyFor e, ?_, .inl rfl⟩
        rw [todo_runOp, if_pos rfl, modify_self]
        exact hpaired.1
      · refine .inl ?_
        rw [runOp, handlers_modify, if_neg (Ne.symm he), handlers_modify]
        split_ifs with hd
        · rw [hd]
        · rfl
    | post key =>
      refine .inl ?_
      rw [runOp, setTasks_handlers, handlers_modify]
      split_ifs with hd
      · rw [hd]
      · rfl
    | keyFor e =>
      refine .inl ?_
      simp only [runOp, handlers_modify]
      split_ifs with hd
      · rw [hd]
      · rfl
    | terminate e =>
      refine .inl ?_
      simp only [runOp, handlers_modify]
      split_ifs <;> simp_all

theorem Served.pool (hk : k.Served) (d : ℕ) : (k.step (.pool d)).Served := by
  have hstep : k.step (.pool d) = k.poolStep d := rfl
  have hopen : ∀ c, ((k.poolStep d).handlers c).isOpen = (k.handlers c).isOpen :=
    fun c => (k.poolStep_kept d c).isOpen
  refine
    { channels := hk.channels.step _
      fresh := hk.fresh.step _
      ops := ops_poolStep hk.ops d
      paired := paired_poolStep hk.paired d
      queue := fun c hqueue => ?_
      empty := fun c rest hpc hqueue => ?_ }
  · rw [hstep] at hqueue ⊢
    rcases writeQueue_poolStep hk.paired c d with hsame | hposting
    · rw [hsame] at hqueue
      rcases hk.queue c hqueue with harmed | hposting
      · exact .inl (harmed.poolStep d)
      · cases hc : (k.handlers c).isOpen with
        | false => exact .inl (.inl ((hopen c).trans hc))
        | true =>
          have hdue : k.Due c := .inr hposting
          exact (hdue.poolStep hk.channels hc d).imp_left fun hmem => .inr (.inl hmem)
    · exact .inr hposting
  · rw [hstep] at hpc hqueue ⊢
    rw [poolStep_pc] at hpc
    rcases writeQueue_poolStep hk.paired c d with hsame | hposting
    · rw [hsame] at hqueue
      have hc : (k.handlers c).isOpen = true := by
        have hofPc := hk.channels.ofPc
        rwa [hpc] at hofPc
      exact (hk.empty c rest hpc hqueue).poolStep hk.channels hc d
    · exact .inr hposting

/-! ### The selector thread -/

theorem interestOps_writeQueue (k : Reactor) (key : Option ℕ) (ops : Ops) (c : ℕ) :
    ((k.interestOps key ops).handlers c).writeQueue = (k.handlers c).writeQueue :=
  interestOps_field k key ops c fun _ _ => rfl

theorem close_writeQueue (k : Reactor) (c d : ℕ) :
    ((k.close d).handlers c).writeQueue = (k.handlers c).writeQueue := by
  rw [Reactor.close, handlers_modify]
  split_ifs with hc
  · rw [hc]
  · rfl

/-- The selector thread puts nothing into a queue; a new connection has an empty one. -/
theorem writeQueue_selectorStep {result : IoResult}
    (h : ((k.selectorStep result).handlers c).writeQueue ≠ []) :
    (k.handlers c).writeQueue ≠ [] ∧
      ∀ rest, k.pc = .keys (.accept :: rest) → c ≠ k.server.accepted := by
  unfold Reactor.selectorStep at h
  cases hpc : k.pc with
  | keys selected =>
    simp only [hpc] at h
    cases selected with
    | nil => exact ⟨h, fun rest => by simp⟩
    | cons key rest =>
      cases key with
      | accept =>
        have hc : c ≠ k.server.accepted := by
          rintro rfl
          simp [handleAccept] at h
        simp only [setPc_handlers, handleAccept, Function.update_of_ne hc] at h
        exact ⟨h, fun _ _ => hc⟩
      | channel d readable writable =>
        dsimp only at h
        refine ⟨?_, fun rest => by simp⟩
        split_ifs at h <;> exact h
  | tasks selected =>
    refine ⟨?_, fun rest => by simp⟩
    simp only [hpc] at h
    cases htasks : k.selectorTasks with
    | nil => simpa [htasks] using h
    | cons task tasks => simpa [htasks, interestOps_writeQueue] using h
  | read d writable rest =>
    refine ⟨?_, fun rest => by simp⟩
    simp only [hpc, setPc_handlers] at h
    have hsame : ((k.continueRead d result).handlers c).writeQueue = (k.handlers c).writeQueue := by
      cases result with
      | bytes buf =>
        rw [continueRead, handlers_modify]
        split_ifs with hc
        · rw [hc]
        · rfl
      | _ => exact k.close_writeQueue c d
    rwa [hsame] at h
  | write d rest =>
    refine ⟨?_, fun rest => by simp⟩
    simp only [hpc] at h
    by_cases hc : c = d
    · subst hc
      intro hempty
      unfold writeTop at h
      rw [hempty] at h
      rw [setPc_handlers, close_writeQueue] at h
      exact h hempty
    · rwa [k.writeTop_other rest result hc] at h
  | checkTerminate d rest =>
    refine ⟨?_, fun rest => by simp⟩
    simp only [hpc] at h
    split_ifs at h
    · rwa [setPc_handlers, close_writeQueue] at h
    · exact h
  | interestRead d rest =>
    refine ⟨?_, fun rest => by simp⟩
    simpa [hpc, interestOps_writeQueue] using h
  | select => exact ⟨by simpa [hpc] using h, fun rest => by simp⟩
  | failed => exact ⟨by simpa [hpc] using h, fun rest => by simp⟩
  | _ =>
    refine ⟨?_, fun rest => by simp⟩
    simp only [hpc] at h
    split_ifs at h <;> exact h

theorem Served.selector (hk : k.Served) (result : IoResult) :
    (k.step (.selector result)).Served := by
  have hstep : k.step (.selector result) = k.selectorStep result := rfl
  have htodo := hk.fresh.todo_selectorStep result
  have hposting : ∀ c, k.Posting c → (k.selectorStep result).Posting c := by
    rintro c ⟨d, op, hhead, hop⟩
    refine ⟨d, op, ?_, hop⟩
    rwa [htodo]
  refine
    { channels := hk.channels.step _
      fresh := hk.fresh.step _
      ops := ops_selectorStep hk.ops result
      paired := fun d => by
        rw [hstep, htodo]
        exact hk.paired d
      queue := fun c hqueue => ?_
      empty := fun c rest hpc hqueue => ?_ }
  · rw [hstep] at hqueue ⊢
    obtain ⟨hqueue, hne⟩ := writeQueue_selectorStep hqueue
    rcases hk.queue c hqueue with harmed | hp
    · by_cases hdue : k.Posting c
      · exact .inr (hposting c hdue)
      · refine .inl (harmed.selectorStep hk.ops hne (fun rest hpc => .inr ?_) result)
        exact (hk.empty c rest hpc hqueue).resolve_right hdue
    · exact .inr (hposting c hp)
  · rw [hstep] at hpc hqueue
    obtain ⟨hempty, hsame⟩ := selectorStep_checkTerminate hpc
    rw [hsame] at hqueue
    exact absurd hempty hqueue

theorem Served.select (hk : k.Served) (selected : List SelectedKey) :
    (k.step (.select selected)).Served := by
  have hchannels := hk.channels.step (.select selected)
  have hfresh := hk.fresh.step (.select selected)
  simp only [Reactor.step] at hchannels hfresh ⊢
  split_ifs at hchannels hfresh ⊢
  · exact
      { channels := hchannels
        fresh := hfresh
        ops := hk.ops
        paired := hk.paired
        queue := fun c hqueue => (hk.queue c hqueue).imp_left fun h => h.select selected
        empty := fun c rest hpc => SelectorPc.noConfusion hpc }
  · exact hk

theorem Served.step (hk : k.Served) (e : ReactorEvent) : (k.step e).Served := by
  cases e with
  | select selected => exact hk.select selected
  | selector result => exact hk.selector result
  | pool d => exact hk.pool d

/-- A queued reply of an open channel gets its write interest: the key has it, or the task that sets
it has been posted, or the thread that sends is about to post it. -/
def NotStranded (k : Reactor) (c : ℕ) : Prop :=
  (k.handlers c).isOpen = true → (k.handlers c).writeQueue ≠ [] →
    (k.handlers c).interestOps.write = true ∨ writeInterest c ∈ k.selectorTasks ∨ k.Posting c

/-- **No queued reply is stranded**, after any run of the selector thread and the pool. -/
theorem reply_not_stranded (es : List ReactorEvent) (c : ℕ) : (run es).NotStranded c := by
  have hserved : (run es).Served :=
    Machine.run_invariant (I := Served) (fun _ e hk => hk.step e) served_init es
  intro hopen hqueue
  rcases hserved.queue c hqueue with (hclosed | hpending | ⟨hwrite, -⟩) | hposting
  · rw [hopen] at hclosed
    cases hclosed
  · exact .inr (.inl hpending)
  · exact .inl hwrite
  · exact .inr (.inr hposting)

end WorldCupInformer.Reactor
