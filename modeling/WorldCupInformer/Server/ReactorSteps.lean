import WorldCupInformer.Server.Reactor

/-!
# What the steps of the reactor can do

* `selectorMove`: a step of the selector thread accepts a connection, uses a key, or leaves the keys
  and the part of the pool alone;
* `poolMove`: a step of a pool thread is an operation on a handler or the next part of a task;
* `Channels`: `continueWrite` leaves its loop with an open channel;
* `Fresh`: the handlers of connections that have not been accepted are idle.
-/

namespace WorldCupInformer

namespace Reactor

variable {k : Reactor} {c d : ℕ} {key : Option ℕ} {ops : Ops}

/-- The key can be used. -/
def ValidKey (k : Reactor) (key : Option ℕ) : Prop :=
  ∃ d, key = some d ∧ (k.handlers d).isOpen = true

theorem handlers_modify (k : Reactor) (c d : ℕ)
    (f : NonBlockingConnectionHandler → NonBlockingConnectionHandler) :
    (k.modify c f).handlers d = if d = c then f (k.handlers c) else k.handlers d :=
  Function.update_apply ..

/-- What holds of a handler before and after the change holds of every handler. -/
theorem modify_rel {R : NonBlockingConnectionHandler → NonBlockingConnectionHandler → Prop}
    (hrefl : ∀ h, R h h) {f : NonBlockingConnectionHandler → NonBlockingConnectionHandler}
    (hf : R (k.handlers c) (f (k.handlers c))) (d : ℕ) :
    R (k.handlers d) ((k.modify c f).handlers d) := by
  rw [handlers_modify]
  split_ifs with hd
  · exact hd ▸ hf
  · exact hrefl _

/-- What the change leaves alone. -/
theorem modify_field {β : Type} {g : NonBlockingConnectionHandler → β}
    {f : NonBlockingConnectionHandler → NonBlockingConnectionHandler} (hf : ∀ h, g (f h) = g h)
    (k : Reactor) (c d : ℕ) : g ((k.modify c f).handlers d) = g (k.handlers d) :=
  modify_rel (R := fun h h' => g h' = g h) (fun _ => rfl) (hf _) d

/-- The handler keeps its part of the pool and its key, and is not opened again. -/
structure Steady (h h' : NonBlockingConnectionHandler) : Prop where
  todo : h'.todo = h.todo
  deregistered : h'.deregistered = h.deregistered
  isOpen : h'.isOpen = true → h.isOpen = true

theorem Steady.refl (h : NonBlockingConnectionHandler) : Steady h h := ⟨rfl, rfl, id⟩

theorem Steady.modify {f : NonBlockingConnectionHandler → NonBlockingConnectionHandler}
    (hf : ∀ h, Steady h (f h)) (d : ℕ) : Steady (k.handlers d) ((k.modify c f).handlers d) :=
  modify_rel Steady.refl (hf _) d

section InterestOps

variable (k : Reactor) (key : Option ℕ) (ops : Ops) (d : ℕ)

/-- `interestOps` touches one field of a handler. -/
theorem interestOps_field {β : Type} {g : NonBlockingConnectionHandler → β}
    (hg : ∀ h ops, g { h with interestOps := ops } = g h) :
    g ((k.interestOps key ops).handlers d) = g (k.handlers d) := by
  unfold interestOps
  split
  · rfl
  · split_ifs
    · exact modify_field (fun h => hg h ops) ..
    · rfl

@[simp] theorem interestOps_isOpen :
    ((k.interestOps key ops).handlers d).isOpen = (k.handlers d).isOpen :=
  interestOps_field k key ops d fun _ _ => rfl

@[simp] theorem interestOps_todo :
    ((k.interestOps key ops).handlers d).todo = (k.handlers d).todo :=
  interestOps_field k key ops d fun _ _ => rfl

@[simp] theorem interestOps_deregistered :
    ((k.interestOps key ops).handlers d).deregistered = (k.handlers d).deregistered :=
  interestOps_field k key ops d fun _ _ => rfl

@[simp] theorem interestOps_tasks :
    ((k.interestOps key ops).handlers d).tasks = (k.handlers d).tasks :=
  interestOps_field k key ops d fun _ _ => rfl

theorem interestOps_steady : Steady (k.handlers d) ((k.interestOps key ops).handlers d) :=
  ⟨k.interestOps_todo .., k.interestOps_deregistered .., fun hopen => by simpa using hopen⟩

@[simp] theorem interestOps_selectorTasks :
    (k.interestOps key ops).selectorTasks = k.selectorTasks := by
  unfold interestOps
  split
  · rfl
  · split_ifs <;> rfl

variable {k key}

theorem interestOps_pc_valid (h : k.ValidKey key) : (k.interestOps key ops).pc = k.pc := by
  obtain ⟨d, rfl, hopen⟩ := h
  simp [interestOps, hopen]

/-- A key that cannot be used ends the selector thread. -/
theorem interestOps_pc_invalid (h : ¬ k.ValidKey key) : (k.interestOps key ops).pc = .failed := by
  unfold interestOps
  split
  · rfl
  · rename_i d
    have hclosed : ¬ (k.handlers d).isOpen = true := fun hopen => h ⟨d, rfl, hopen⟩
    rw [if_neg hclosed]
    rfl

end InterestOps

/-- What a step of the selector thread can do: accept a connection, use a key, or neither. -/
inductive SelectorMove (k k' : Reactor) : Prop
  | accept (hhandlers : k'.handlers = Function.update k.handlers k.server.accepted {})
      (htasks : k'.selectorTasks = k.selectorTasks) (hpc : k'.pc ≠ .failed)
  | task (task : SelectorTask) (tasks : List SelectorTask) (selected : List SelectedKey)
      (hpc : k.pc = .tasks selected) (htasks : k.selectorTasks = task :: tasks)
      (heq : k' = (k.setTasks tasks).interestOps task.key task.ops)
  | interestRead (c : ℕ) (rest : List SelectedKey) (hpc : k.pc = .interestRead c rest)
      (heq : k' = (k.setPc (.keys rest)).interestOps (k.keyFor c) opRead)
  | steady (hhandlers : ∀ d, Steady (k.handlers d) (k'.handlers d))
      (htasks : k'.selectorTasks = k.selectorTasks) (hpc : k'.pc = .failed → k.pc = .failed)

theorem steady_close (k : Reactor) (c d : ℕ) : Steady (k.handlers d) ((k.close c).handlers d) := by
  refine Steady.modify (fun h => ?_) d
  exact ⟨rfl, rfl, fun hopen => absurd hopen (by simp)⟩

theorem steady_continueRead (k : Reactor) (c d : ℕ) (result : IoResult) :
    Steady (k.handlers d) ((k.continueRead c result).handlers d) := by
  cases result with
  | bytes buf =>
    rw [continueRead]
    refine Steady.modify (fun h => ?_) d
    exact ⟨rfl, rfl, id⟩
  | _ => exact k.steady_close c d

theorem steady_writeTop (k : Reactor) (c d : ℕ) (rest : List SelectedKey) (result : IoResult) :
    Steady (k.handlers d) ((k.writeTop c rest result).handlers d) := by
  unfold writeTop
  split
  · dsimp only
    split_ifs
    all_goals
      rw [setPc_handlers]
      refine Steady.modify (fun h => ?_) d
      exact ⟨rfl, rfl, id⟩
  · exact k.steady_close c d

@[simp] theorem writeTop_selectorTasks (k : Reactor) (c : ℕ) (rest : List SelectedKey)
    (result : IoResult) : (k.writeTop c rest result).selectorTasks = k.selectorTasks := by
  unfold writeTop
  split
  · dsimp only
    split_ifs <;> rfl
  · rfl

theorem selectorMove (k : Reactor) (result : IoResult) :
    SelectorMove k (k.selectorStep result) := by
  unfold selectorStep
  cases hpc : k.pc with
  | select => exact .steady (fun _ => .refl _) rfl (by simp [hpc])
  | failed => exact .steady (fun _ => .refl _) rfl (fun _ => hpc)
  | tasks selected =>
    cases htasks : k.selectorTasks with
    | nil => exact .steady (fun _ => .refl _) (by simp [htasks]) (by simp)
    | cons task tasks => exact .task task tasks selected hpc htasks rfl
  | keys selected =>
    cases selected with
    | nil => exact .steady (fun _ => .refl _) rfl (by simp)
    | cons key rest =>
      cases key with
      | accept => exact .accept rfl rfl (by simp)
      | channel c readable writable =>
        dsimp only
        split_ifs <;> exact .steady (fun _ => .refl _) rfl (by simp)
  | read c writable rest =>
    exact .steady (fun d => k.steady_continueRead c d result) (by cases result <;> rfl) (by simp)
  | readDone c writable rest =>
    dsimp only
    split_ifs <;> exact .steady (fun _ => .refl _) rfl (by simp)
  | checkQueue c rest =>
    dsimp only
    split_ifs <;> exact .steady (fun _ => .refl _) rfl (by simp)
  | write c rest =>
    refine .steady (fun d => k.steady_writeTop c d rest result)
      (k.writeTop_selectorTasks c rest result) ?_
    rcases k.writeTop_pc c rest result with h | h <;> simp [h]
  | checkEmpty c rest =>
    dsimp only
    split_ifs <;> exact .steady (fun _ => .refl _) rfl (by simp)
  | checkTerminate c rest =>
    dsimp only
    split_ifs
    · exact .steady (k.steady_close c) rfl (by simp)
    · exact .steady (fun _ => .refl _) rfl (by simp)
  | interestRead c rest => exact .interestRead c rest hpc rfl

/-- What a step of a pool thread can do: an operation on a handler, or the next part of its task,
which posts nothing yet. -/
inductive PoolMove (k k' : Reactor) (c : ℕ) : Prop
  | op (op : PoolOp) (todo : List PoolOp) (htodo : (k.handlers c).todo = op :: todo)
      (heq : k' = (k.modify c fun h => { h with todo := todo }).runOp c op)
  | task (htodo : (k.handlers c).todo = []) (htasks : k'.selectorTasks = k.selectorTasks)
      (hothers : ∀ d, d ≠ c → k'.handlers d = k.handlers d)
      (hopen : (k'.handlers c).isOpen = (k.handlers c).isOpen)
      (hderegistered : (k'.handlers c).deregistered = (k.handlers c).deregistered)
      (hqueue : (k'.handlers c).writeQueue = (k.handlers c).writeQueue)
      (hposts : ∀ key, .post key ∉ (k'.handlers c).todo)

/-- The calls of a frame do not post by themselves. -/
theorem post_notMem_ops (calls : List Call) : .post key ∉ calls.flatMap Call.ops := by
  intro hmem
  obtain ⟨call, -, hop⟩ := List.mem_flatMap.1 hmem
  cases call <;> simp [Call.ops] at hop

theorem PoolMove.modify {f : NonBlockingConnectionHandler → NonBlockingConnectionHandler}
    (htodo : (k.handlers c).todo = []) (hopen : ∀ h, (f h).isOpen = h.isOpen)
    (hderegistered : ∀ h, (f h).deregistered = h.deregistered)
    (hqueue : ∀ h, (f h).writeQueue = h.writeQueue) (hf : ∀ h, (f h).todo = h.todo) :
    PoolMove k (k.modify c f) c := by
  refine .task htodo rfl (fun d hd => modify_other k f hd) ?_ ?_ ?_ fun key => ?_
  all_goals rw [modify_self]
  · exact hopen _
  · exact hderegistered _
  · exact hqueue _
  · rw [hf, htodo]
    exact List.not_mem_nil

theorem poolMove (k : Reactor) (c : ℕ) : PoolMove k (k.poolStep c) c := by
  unfold poolStep
  cases htodo : (k.handlers c).todo with
  | cons op todo => exact .op op todo htodo rfl
  | nil =>
    dsimp only
    unfold continueTask
    split_ifs
    · exact .modify htodo (fun _ => rfl) (fun _ => rfl) (fun _ => rfl) fun _ => rfl
    · split
      · exact .task htodo rfl (fun _ _ => rfl) rfl rfl rfl fun key => by
          rw [htodo]
          exact List.not_mem_nil
      · exact .modify htodo (fun _ => rfl) (fun _ => rfl) (fun _ => rfl) fun _ => rfl
      · dsimp only
        split
        · refine .task htodo rfl (fun d hd => ?_) ?_ ?_ ?_ fun key => ?_
          · simp [process, modify_other _ _ hd]
          · simp [process]
          · simp [process]
          · simp [process]
          · simpa [process] using post_notMem_ops _
        · exact .modify htodo (fun _ => rfl) (fun _ => rfl) (fun _ => rfl) fun _ => rfl

theorem poolStep_cons {op : PoolOp} {todo : List PoolOp}
    (htodo : (k.handlers c).todo = op :: todo) :
    k.poolStep c = (k.modify c fun h => { h with todo := todo }).runOp c op := by
  rw [poolStep, htodo]

theorem poolStep_nil (htodo : (k.handlers c).todo = []) : k.poolStep c = k.continueTask c := by
  rw [poolStep, htodo]

/-- A step of a pool thread touches no key, and takes no buffer from a write queue. -/
structure Kept (h h' : NonBlockingConnectionHandler) : Prop where
  isOpen : h'.isOpen = h.isOpen
  deregistered : h'.deregistered = h.deregistered
  queue : h.writeQueue <+: h'.writeQueue

theorem Kept.refl (h : NonBlockingConnectionHandler) : Kept h h := ⟨rfl, rfl, List.prefix_rfl⟩

theorem Kept.trans {h h' h'' : NonBlockingConnectionHandler} (h₁ : Kept h h') (h₂ : Kept h' h'') :
    Kept h h'' :=
  ⟨h₂.isOpen.trans h₁.isOpen, h₂.deregistered.trans h₁.deregistered, h₁.queue.trans h₂.queue⟩

theorem Kept.modify {f : NonBlockingConnectionHandler → NonBlockingConnectionHandler}
    (hf : ∀ h, Kept h (f h)) (d : ℕ) : Kept (k.handlers d) ((k.modify c f).handlers d) :=
  modify_rel Kept.refl (hf _) d

theorem runOp_kept (k : Reactor) (c d : ℕ) (op : PoolOp) :
    Kept (k.handlers d) ((k.runOp c op).handlers d) := by
  cases op with
  | post key => exact .refl _
  | enqueue e msg =>
    rw [runOp]
    refine Kept.modify (fun h => ?_) d
    exact ⟨rfl, rfl, List.prefix_append ..⟩
  | _ =>
    rw [runOp]
    refine Kept.modify (fun h => ?_) d
    exact ⟨rfl, rfl, List.prefix_rfl⟩

theorem poolStep_kept (k : Reactor) (c d : ℕ) :
    Kept (k.handlers d) ((k.poolStep c).handlers d) := by
  cases k.poolMove c with
  | op op todo htodo heq =>
    rw [heq]
    refine Kept.trans ?_ (runOp_kept _ c d op)
    refine Kept.modify (fun h => ?_) d
    exact ⟨rfl, rfl, List.prefix_rfl⟩
  | task htodo htasks hothers hopen hderegistered hqueue =>
    by_cases hd : d = c
    · subst hd
      exact ⟨hopen, hderegistered, hqueue ▸ List.prefix_rfl⟩
    · exact hothers d hd ▸ .refl _

@[simp] theorem keyFor_todo (k : Reactor) (c d : ℕ) (todo : List PoolOp) :
    (k.modify c fun h => { h with todo := todo }).keyFor d = k.keyFor d := by
  simp only [Reactor.keyFor, handlers_modify]
  split_ifs <;> simp_all

/-- What is left to do after an operation: a key that has been looked up is posted next. -/
theorem todo_runOp (k : Reactor) (c d : ℕ) (op : PoolOp) : ((k.runOp c op).handlers d).todo =
    if d = c then
      match op with
      | .keyFor e => .post (k.keyFor e) :: (k.handlers c).todo
      | _ => (k.handlers c).todo
    else (k.handlers d).todo := by
  cases op with
  | post key => simp only [runOp, setTasks_handlers]; split_ifs with hd <;> simp [hd]
  | keyFor e => simp only [runOp, handlers_modify]; split_ifs <;> rfl
  | enqueue e msg => simp only [runOp, handlers_modify]; split_ifs <;> simp_all
  | terminate e => simp only [runOp, handlers_modify]; split_ifs <;> simp_all

/-- What the thread of the connection has to do after an operation. -/
theorem todo_poolStep {op : PoolOp} {todo : List PoolOp}
    (htodo : (k.handlers c).todo = op :: todo) :
    ((k.poolStep c).handlers c).todo =
      match op with
      | .keyFor e => .post (k.keyFor e) :: todo
      | _ => todo := by
  rw [poolStep_cons htodo, todo_runOp, if_pos rfl, modify_self]
  cases op <;> simp

/-- An operation touches the queue of a handler, its flag, or what its thread has to do. -/
theorem runOp_field {β : Type} {g : NonBlockingConnectionHandler → β}
    (hqueue : ∀ h queue, g { h with writeQueue := queue } = g h)
    (htodo : ∀ h todo, g { h with todo := todo } = g h)
    (hflag : ∀ h flag, g { h with shouldTerminate := flag } = g h) (k : Reactor) (c d : ℕ)
    (op : PoolOp) : g ((k.runOp c op).handlers d) = g (k.handlers d) := by
  cases op with
  | enqueue e msg => exact modify_field (fun h => hqueue h _) k e d
  | keyFor e => exact modify_field (fun h => htodo h _) k c d
  | post key => rfl
  | terminate e => exact modify_field (fun h => hflag h _) k e d

theorem tasks_runOp (k : Reactor) (c d : ℕ) (op : PoolOp) :
    ((k.runOp c op).handlers d).tasks = (k.handlers d).tasks :=
  runOp_field (fun _ _ => rfl) (fun _ _ => rfl) (fun _ _ => rfl) k c d op

theorem selectorTasks_runOp (k : Reactor) (c : ℕ) (op : PoolOp) : (k.runOp c op).selectorTasks =
    match op with
    | .post key => k.selectorTasks ++ [⟨key, opReadWrite⟩]
    | _ => k.selectorTasks := by
  cases op <;> rfl

/-! ### `continueWrite` leaves its loop with an open channel -/

/-- What `continueWrite` knows of its channel.  After an `IOException` the buffer stays in the
queue, so that the loop is not left with a closed channel. -/
def ChannelOfPc (k : Reactor) : SelectorPc → Prop
  | .checkQueue c _ => (k.handlers c).isOpen = true ∨ (k.handlers c).writeQueue ≠ []
  | .write c _ => (k.handlers c).writeQueue ≠ []
  | .checkEmpty c _ | .checkTerminate c _ | .interestRead c _ => (k.handlers c).isOpen = true
  | _ => True

/-- Deregistered keys belong to closed channels, and `continueWrite` works on its channel. -/
structure Channels (k : Reactor) : Prop where
  closed : ∀ d, (k.handlers d).deregistered = true → (k.handlers d).isOpen = false
  ofPc : k.ChannelOfPc k.pc

theorem Steady.closed {h h' : NonBlockingConnectionHandler} (hs : Steady h h')
    (hh : h.deregistered = true → h.isOpen = false) (hd : h'.deregistered = true) :
    h'.isOpen = false := by
  by_contra hopen
  rw [hs.deregistered] at hd
  rw [Bool.not_eq_false] at hopen
  rw [hs.isOpen hopen] at hh
  exact absurd (hh hd) (by simp)

theorem Channels.selector_closed (hk : k.Channels) (result : IoResult) (d : ℕ)
    (hd : ((k.selectorStep result).handlers d).deregistered = true) :
    ((k.selectorStep result).handlers d).isOpen = false := by
  cases k.selectorMove result with
  | accept hhandlers =>
    rw [hhandlers, Function.update_apply] at hd ⊢
    split_ifs at hd ⊢
    exact hk.closed d hd
  | task task tasks selected hpc htasks heq =>
    rw [heq, interestOps_deregistered] at hd
    rw [heq, interestOps_isOpen]
    exact hk.closed d hd
  | interestRead c rest hpc heq =>
    rw [heq, interestOps_deregistered] at hd
    rw [heq, interestOps_isOpen]
    exact hk.closed d hd
  | steady hhandlers => exact (hhandlers d).closed (hk.closed d) hd

theorem Channels.selector_ofPc (hk : k.Channels) (result : IoResult) :
    (k.selectorStep result).ChannelOfPc (k.selectorStep result).pc := by
  have hofPc := hk.ofPc
  unfold selectorStep
  cases hpc : k.pc with
  | select => simp [hpc, ChannelOfPc]
  | failed => simp [hpc, ChannelOfPc]
  | tasks selected =>
    cases k.selectorTasks with
    | nil => simp [ChannelOfPc]
    | cons task tasks =>
      rcases (k.setTasks tasks).interestOps_pc task.key task.ops with h | h <;>
        simp [h, hpc, ChannelOfPc]
  | keys selected =>
    cases selected with
    | nil => simp [ChannelOfPc]
    | cons key rest =>
      cases key with
      | accept => simp [ChannelOfPc]
      | channel c readable writable => dsimp only; split_ifs <;> simp [ChannelOfPc]
  | read c writable rest => simp [ChannelOfPc]
  | readDone c writable rest =>
    dsimp only
    split_ifs with hopen
    · rw [Bool.and_eq_true] at hopen
      exact .inl hopen.1
    · trivial
  | checkQueue c rest =>
    dsimp only
    rw [hpc] at hofPc
    split_ifs with hempty
    · exact hofPc.resolve_right (not_not_intro hempty)
    · exact hempty
  | write c rest =>
    dsimp only
    rw [hpc] at hofPc
    unfold writeTop
    split
    · rename_i top queue count hqueue hresult hopen
      dsimp only
      split_ifs
      · refine .inl ?_
        rw [setPc_handlers, modify_self]
        exact hopen
      · trivial
    · refine .inr ?_
      rw [setPc_handlers, close, modify_self]
      exact hofPc
  | checkEmpty c rest =>
    dsimp only
    rw [hpc] at hofPc
    split_ifs
    · exact hofPc
    · trivial
  | checkTerminate c rest =>
    dsimp only
    rw [hpc] at hofPc
    split_ifs
    · trivial
    · exact hofPc
  | interestRead c rest =>
    rcases (k.setPc (.keys rest)).interestOps_pc (k.keyFor c) opRead with h | h <;>
      simp [h, ChannelOfPc]

theorem Channels.step (hk : k.Channels) (e : ReactorEvent) : (k.step e).Channels := by
  cases e with
  | select selected =>
    simp only [Reactor.step]
    split_ifs
    · refine ⟨fun d hd => ?_, trivial⟩
      have hor : ((k.handlers d).deregistered || !(k.handlers d).isOpen) = true := hd
      rw [Bool.or_eq_true, Bool.not_eq_true'] at hor
      exact hor.elim (hk.closed d) id
    · exact hk
  | selector result => exact ⟨hk.selector_closed result, hk.selector_ofPc result⟩
  | pool c =>
    have hkept := k.poolStep_kept c
    have hqueue : ∀ d, (k.handlers d).writeQueue ≠ [] →
        ((k.poolStep c).handlers d).writeQueue ≠ [] := fun d hne hnil =>
      hne (List.prefix_nil.1 (hnil ▸ (hkept d).queue))
    have hopen : ∀ d, ((k.poolStep c).handlers d).isOpen = (k.handlers d).isOpen :=
      fun d => (hkept d).isOpen
    refine ⟨fun d hd => ?_, ?_⟩
    · rw [Reactor.step, hopen]
      exact hk.closed d ((hkept d).deregistered.symm.trans hd)
    · have hofPc := hk.ofPc
      simp only [Reactor.step, poolStep_pc]
      cases hpc : k.pc with
      | checkQueue d rest =>
        rw [hpc] at hofPc
        exact hofPc.imp (fun h => (hopen d).trans h) (hqueue d)
      | write d rest =>
        rw [hpc] at hofPc
        exact hqueue d hofPc
      | checkEmpty d rest => rw [hpc] at hofPc; exact (hopen d).trans hofPc
      | checkTerminate d rest => rw [hpc] at hofPc; exact (hopen d).trans hofPc
      | interestRead d rest => rw [hpc] at hofPc; exact (hopen d).trans hofPc
      | _ => trivial

theorem channels_init : Channels {} := ⟨fun d hd => absurd hd (by simp), trivial⟩

/-! ### Connections that have not been accepted -/

/-- Nothing has happened to the channel and the pool has nothing to do. -/
def IdleHandler (h : NonBlockingConnectionHandler) : Prop :=
  h.isOpen = true ∧ h.todo = [] ∧ h.tasks = []

/-- The handlers of connections that have not been accepted yet are idle. -/
structure Fresh (k : Reactor) : Prop where
  selected : k.SelectedAccepted
  idle : ∀ c, k.server.accepted ≤ c → IdleHandler (k.handlers c)

theorem close_other (k : Reactor) (h : d ≠ c) : (k.close c).handlers d = k.handlers d :=
  modify_other k _ h

theorem continueRead_other (k : Reactor) (result : IoResult) (h : d ≠ c) :
    (k.continueRead c result).handlers d = k.handlers d := by
  cases result with
  | bytes buf =>
    rw [continueRead]
    exact modify_other k _ h
  | _ => exact k.close_other h

theorem writeTop_other (k : Reactor) (rest : List SelectedKey) (result : IoResult) (h : d ≠ c) :
    (k.writeTop c rest result).handlers d = k.handlers d := by
  unfold writeTop
  split
  · dsimp only
    split_ifs
    all_goals
      rw [setPc_handlers]
      exact modify_other k _ h
  · exact k.close_other h

/-- The selector thread works for the selected connections. -/
theorem selectorStep_idle (result : IoResult) (hd : d ∉ k.pc.connections)
    (hidle : IdleHandler (k.handlers d)) : IdleHandler ((k.selectorStep result).handlers d) := by
  have hne : ∀ {c rest}, k.pc.connections = c :: rest → d ≠ c := fun hconn heq =>
    hd (by rw [hconn, heq]; exact List.mem_cons_self)
  unfold selectorStep
  cases hpc : k.pc with
  | tasks selected =>
    cases k.selectorTasks with
    | nil => exact hidle
    | cons task tasks => simpa [IdleHandler] using hidle
  | keys selected =>
    cases selected with
    | nil => exact hidle
    | cons key rest =>
      cases key with
      | accept =>
        simp only [setPc_handlers, handleAccept, Function.update_apply]
        split_ifs
        · exact ⟨rfl, rfl, rfl⟩
        · exact hidle
      | channel c readable writable => dsimp only; split_ifs <;> exact hidle
  | read c writable rest =>
    rw [hpc] at hne
    rw [setPc_handlers, k.continueRead_other result (hne rfl)]
    exact hidle
  | readDone c writable rest => dsimp only; split_ifs <;> exact hidle
  | checkQueue c rest => dsimp only; split_ifs <;> exact hidle
  | write c rest =>
    rw [hpc] at hne
    rw [k.writeTop_other rest result (hne rfl)]
    exact hidle
  | checkEmpty c rest => dsimp only; split_ifs <;> exact hidle
  | checkTerminate c rest =>
    rw [hpc] at hne
    dsimp only
    split_ifs
    · rw [setPc_handlers, k.close_other (hne rfl)]
      exact hidle
    · exact hidle
  | interestRead c rest => simpa [IdleHandler] using hidle
  | _ => exact hidle

theorem poolStep_idle (c : ℕ) (hidle : IdleHandler (k.handlers d)) :
    IdleHandler ((k.poolStep c).handlers d) := by
  obtain ⟨hopen, htodo, htasks⟩ := hidle
  by_cases hd : d = c
  · subst hd
    unfold poolStep continueTask
    rw [htodo, htasks]
    dsimp only
    split_ifs
    · rw [modify_self]
      exact ⟨hopen, htodo, by simp [htasks]⟩
    · exact ⟨hopen, htodo, htasks⟩
  · refine ⟨(k.poolStep_kept c d).isOpen.trans hopen, ?_⟩
    cases k.poolMove c with
    | op op todo htodo' heq =>
      rw [heq, todo_runOp, if_neg hd, tasks_runOp, modify_other _ _ hd]
      exact ⟨htodo, htasks⟩
    | task htodo' htasks' hothers =>
      rw [hothers d hd]
      exact ⟨htodo, htasks⟩

theorem Fresh.step (hk : k.Fresh) (e : ReactorEvent) : (k.step e).Fresh := by
  refine ⟨hk.selected.step e, fun c hc => ?_⟩
  have hle : k.server.accepted ≤ c := (k.accepted_mono e).trans hc
  have hidle := hk.idle c hle
  cases e with
  | select selected =>
    simp only [Reactor.step]
    split_ifs
    · exact hidle
    · exact hidle
  | pool d => exact poolStep_idle d hidle
  | selector result =>
    refine selectorStep_idle result (fun hmem => ?_) hidle
    exact absurd (hk.selected c hmem) (by omega)

theorem fresh_init : Fresh {} :=
  ⟨fun _ hc => absurd hc List.not_mem_nil, fun _ _ => ⟨rfl, rfl, rfl⟩⟩

theorem fresh_run (es : List ReactorEvent) : (run es).Fresh :=
  Machine.run_invariant (I := Fresh) (fun _ e hk => hk.step e) fresh_init es

end Reactor

end WorldCupInformer
