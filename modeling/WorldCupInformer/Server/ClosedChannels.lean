import WorldCupInformer.Server.SelectorKeys

/-!
# Closing a channel after the final reply

A frame that ends in `disconnect` sends its reply and then calls `terminate()`.  Each is an
operation of the pool thread that the selector thread can see; `continueWrite` looks at the write
queue and at `shouldTerminate` in two steps.

* `terminated_closed`: a connection that has been asked to terminate is closed, or will be, if
  `continueWrite` never reads `shouldTerminate` too early (`ReadsTooEarly`);
* `closed_after_final_reply`: when `continueWrite` closes a channel, everything enqueued before
  `terminate()` has been written, if `terminate()` is not called while `continueWrite` stands before
  its read of the flag and a buffer has been enqueued behind its back (`TerminatesUnseen`).
-/

namespace WorldCupInformer

/-! ### The operations of a frame -/

section Ops

variable {s : ConnectionsImp} {n c : ℕ} {hd : HeaderTable} {e : Exec}

/-- A part of `send` on the handler of the connection. -/
def PoolOp.SendsTo (op : PoolOp) (d : ℕ) : Prop := (∃ msg, op = .enqueue d msg) ∨ op = .keyFor d

theorem sendsTo_of_mem {h : ConnectionHandler} {msg : Str} {op : PoolOp}
    (hop : op ∈ (Call.send h msg).ops) : op.SendsTo h.serial := by
  rcases List.mem_cons.1 hop with rfl | hop
  · exact .inl ⟨msg, rfl⟩
  · exact .inr (List.mem_singleton.1 hop)

theorem ops_receiptCalls (h : ConnectionHandler) (r : Option Str) {op : PoolOp}
    (hop : op ∈ (receiptCalls h r).flatMap Call.ops) : op.SendsTo h.serial := by
  cases r with
  | none => exact absurd hop List.not_mem_nil
  | some r =>
    rw [receiptCalls, List.flatMap_singleton] at hop
    exact sendsTo_of_mem hop

theorem ops_broadcastCalls (t body : Str) {op : PoolOp}
    (hop : op ∈ (broadcastCalls s t body).flatMap Call.ops) :
    ∃ h, s.entry t h ≠ none ∧ op.SendsTo h.serial := by
  obtain ⟨call, hcall, hop⟩ := List.mem_flatMap.1 hop
  obtain ⟨h, hmem, rfl⟩ := List.mem_map.1 hcall
  exact ⟨h, ConnectionsImp.mem_clientsOf.1 hmem, sendsTo_of_mem hop⟩

/-- The calls before a rejection are not about handlers. -/
theorem Rejects.ops_pre {h : ConnectionHandler} {s₁ : ConnectionsImp} {pre : List Call}
    {errors : List Str} (hrej : Rejects s c h hd s₁ pre errors) : pre.flatMap Call.ops = [] := by
  rw [List.flatMap_eq_nil_iff]
  intro call hcall
  rcases hrej.mem_pre hcall with ⟨t, id, rfl⟩ | ⟨id, rfl⟩ <;> rfl

/-- **A frame sends to accepted connections, or it sends its own connection the final reply and
terminates it.** -/
theorem Effect.ops (hs : WellFormed s n) (he : Effect s c hd e) :
    (∀ op ∈ e.calls.flatMap Call.ops, ∃ d < n, op.SendsTo d) ∨
    c < n ∧ ∃ msg, e.calls.flatMap Call.ops = [.enqueue c msg, .keyFor c, .terminate c] := by
  have hreceipt : ∀ {h}, s.idToHandler.lookup c = some h → ∀ r op,
      op ∈ (receiptCalls h r).flatMap Call.ops → ∃ d < n, op.SendsTo d :=
        fun {h} hreg r op hop => by
    obtain ⟨rfl, hlt⟩ := hs.handlers c h hreg
    exact ⟨c, hlt, ops_receiptCalls _ r hop⟩
  cases he with
  | rejected hreg hrej =>
    obtain ⟨rfl, hlt⟩ := hs.handlers c _ hreg
    rw [List.flatMap_append, hrej.ops_pre]
    exact .inr ⟨hlt, _, rfl⟩
  | disconnected hreg =>
    obtain ⟨rfl, hlt⟩ := hs.handlers c _ hreg
    exact .inr ⟨hlt, _, rfl⟩
  | connected hreg =>
    refine .inl fun op hop => ?_
    obtain ⟨rfl, hlt⟩ := hs.handlers c _ hreg
    rw [List.flatMap_cons, List.mem_append] at hop
    rcases hop with hop | hop
    · exact ⟨c, hlt, sendsTo_of_mem hop⟩
    · exact hreceipt hreg _ op hop
  | broadcast hreg =>
    refine .inl fun op hop => ?_
    rw [List.flatMap_append, List.mem_append] at hop
    rcases hop with hop | hop
    · obtain ⟨h, hent, hop⟩ := ops_broadcastCalls _ _ hop
      obtain ⟨id, hid⟩ := Option.ne_none_iff_exists'.1 hent
      exact ⟨h.serial, hs.entered _ h id hid, hop⟩
    · exact hreceipt hreg _ op hop
  | subscribed hreg => exact .inl fun op hop => hreceipt hreg _ op (by simpa [Call.ops] using hop)
  | unsubscribed hreg => exact .inl fun op hop => hreceipt hreg _ op (by simpa [Call.ops] using hop)
  | _ => exact .inl (by simp)

end Ops

namespace Reactor

variable {k : Reactor} {c d : ℕ}

/-! ### A pool thread between two frames -/

/-- The two states of the handler have the same channel, queue and flag. -/
structure SameChannel (h h' : NonBlockingConnectionHandler) : Prop where
  shouldTerminate : h'.shouldTerminate = h.shouldTerminate
  writeQueue : h'.writeQueue = h.writeQueue
  isOpen : h'.isOpen = h.isOpen
  interestOps : h'.interestOps = h.interestOps
  written : h'.written = h.written

theorem SameChannel.refl (h : NonBlockingConnectionHandler) : SameChannel h h :=
  ⟨rfl, rfl, rfl, rfl, rfl⟩

theorem SameChannel.modify {f : NonBlockingConnectionHandler → NonBlockingConnectionHandler}
    (hf : ∀ h, SameChannel h (f h)) (d : ℕ) :
    SameChannel (k.handlers d) ((k.modify c f).handlers d) :=
  modify_rel SameChannel.refl (hf _) d

/-- The next part of a task does not touch the channels; it leaves the operations of a frame to be
done, or none. -/
theorem continueTask_same (k : Reactor) (c d : ℕ) :
    SameChannel (k.handlers d) ((k.continueTask c).handlers d) := by
  unfold continueTask
  split_ifs
  · refine SameChannel.modify (fun h => ?_) d
    exact ⟨rfl, rfl, rfl, rfl, rfl⟩
  · split
    · exact .refl _
    · refine SameChannel.modify (fun h => ?_) d
      exact ⟨rfl, rfl, rfl, rfl, rfl⟩
    · dsimp only
      split
      · simp only [process, handlers_modify]
        split_ifs with hd
        · exact hd ▸ ⟨rfl, rfl, rfl, rfl, rfl⟩
        · exact .refl _
      · refine SameChannel.modify (fun h => ?_) d
        exact ⟨rfl, rfl, rfl, rfl, rfl⟩

theorem continueTask_todo (htodo : (k.handlers c).todo = []) :
    ((k.continueTask c).handlers c).todo = [] ∨
      ∃ msg, ((k.continueTask c).handlers c).todo =
        (k.server.handle (.message c msg)).calls.flatMap Call.ops := by
  unfold continueTask
  split_ifs
  · exact .inl (by simpa using htodo)
  · split
    · exact .inl htodo
    · exact .inl (by simpa using htodo)
    · dsimp only
      split
      · rename_i nextMessage _
        exact .inr ⟨nextMessage, by simp [process]⟩
      · exact .inl (by simpa using htodo)

theorem continueTask_other (k : Reactor) (hd : d ≠ c) :
    ((k.continueTask c).handlers d).todo = (k.handlers d).todo := by
  unfold continueTask
  split_ifs
  · rw [modify_other _ _ hd]
  · split
    · rfl
    · rw [modify_other _ _ hd]
    · dsimp only
      split
      · simp [process, modify_other _ _ hd]
      · rw [modify_other _ _ hd]

@[simp] theorem continueTask_selectorTasks (k : Reactor) (c : ℕ) :
    (k.continueTask c).selectorTasks = k.selectorTasks := by
  unfold continueTask
  split_ifs
  · rfl
  · split
    · rfl
    · rfl
    · dsimp only
      split <;> rfl

theorem wellFormed_step (hk : k.server.WellFormed) (e : ReactorEvent) :
    (k.step e).server.WellFormed := by
  rw [step_server]
  exact Machine.run_invariant (fun _ e hs => hs.step e) hk _

/-! ### The write interest of a terminated connection -/

/-- The write interest of the connection, posted and still to be set. -/
def writeInterest (c : ℕ) : SelectorTask := ⟨some c, opReadWrite⟩

/-- The selector thread reads `shouldTerminate` as false after the write interest for the final
reply has been set, and before the pool thread, which has nothing else left to do, has called
`terminate()`. -/
def ReadsTooEarly (k : Reactor) : ReactorEvent → Prop
  | .selector _ =>
    match k.pc with
    | .checkTerminate c _ => (k.handlers c).shouldTerminate = false ∧
        (k.handlers c).todo = [.terminate c] ∧ writeInterest c ∉ k.selectorTasks
    | _ => False
  | _ => False

instance (k : Reactor) : DecidablePred k.ReadsTooEarly
  | .selector _ =>
    match hpc : k.pc with
    | .checkTerminate c _ =>
      decidable_of_iff ((k.handlers c).shouldTerminate = false ∧
        (k.handlers c).todo = [.terminate c] ∧ writeInterest c ∉ k.selectorTasks)
        (by simp [ReadsTooEarly, hpc])
    | .select | .failed | .tasks _ | .keys _ | .read _ _ _ | .readDone _ _ _ | .checkQueue _ _
    | .write _ _ | .checkEmpty _ _ | .interestRead _ _ => isFalse (by simp [ReadsTooEarly, hpc])
  | .select _ | .pool _ => isFalse id

/-- The channel is closed, or `continueWrite` will be run for it. -/
def Armed (k : Reactor) (c : ℕ) : Prop :=
  (k.handlers c).isOpen = false ∨ writeInterest c ∈ k.selectorTasks ∨
    (k.handlers c).interestOps.write = true ∧ ∀ rest, k.pc ≠ .interestRead c rest

/-- How far the pool thread of the connection is with a frame that ends in `disconnect`. -/
inductive Ending (k : Reactor) (c : ℕ) : List PoolOp → Prop
  | other {todo : List PoolOp} (h : ∀ d, .terminate d ∉ todo) : Ending k c todo
  | enqueue (msg : Str) : Ending k c [.enqueue c msg, .keyFor c, .terminate c]
  | keyFor : Ending k c [.keyFor c, .terminate c]
  | post (key : Option ℕ) (h : key = some c ∨ (k.handlers c).isOpen = false) :
      Ending k c [.post key, .terminate c]
  | terminate (h : k.Armed c) : Ending k c [.terminate c]

/-- What holds as long as the flag is not read too early. -/
structure Closing (k : Reactor) : Prop where
  channels : k.Channels
  fresh : k.Fresh
  wellFormed : k.server.WellFormed
  ops : ∀ task ∈ k.selectorTasks, task.ops = opReadWrite
  todo : ∀ c, k.Ending c (k.handlers c).todo
  flag : ∀ c, (k.handlers c).shouldTerminate = true → c < k.server.accepted ∧ k.Armed c

/-- The operations of a message, before any of them. -/
theorem ending_of_handle (hs : k.server.WellFormed) (c : ℕ) (msg : Str) :
    k.Ending c ((k.server.handle (.message c msg)).calls.flatMap Call.ops) := by
  rcases Server.handle_message hs.backed c msg with ⟨hd, -, he⟩ | heq
  · rcases he.ops hs with hops | ⟨-, m, hops⟩
    · refine .other fun d hmem => ?_
      obtain ⟨d', -, ⟨m, heq⟩ | heq⟩ := hops _ hmem <;> cases heq
    · rw [hops]
      exact .enqueue m
  · rw [heq]
    exact .other fun d => List.not_mem_nil

theorem poolStep_interestOps (k : Reactor) (c d : ℕ) :
    ((k.poolStep c).handlers d).interestOps = (k.handlers d).interestOps := by
  cases htodo : (k.handlers c).todo with
  | nil =>
    rw [poolStep_nil htodo]
    exact (k.continueTask_same c d).interestOps
  | cons op todo =>
    rw [poolStep_cons htodo]
    cases op <;> simp only [runOp, setTasks_handlers, handlers_modify] <;> split_ifs <;> simp_all

theorem poolStep_selectorTasks (k : Reactor) (c : ℕ) :
    k.selectorTasks ⊆ (k.poolStep c).selectorTasks := by
  cases htodo : (k.handlers c).todo with
  | nil => simp [poolStep_nil htodo]
  | cons op todo =>
    rw [poolStep_cons htodo, selectorTasks_runOp]
    cases op <;> simp

/-- A step of the pool leaves a connection armed. -/
theorem Armed.poolStep (h : k.Armed d) (c : ℕ) : (k.poolStep c).Armed d := by
  unfold Armed
  rw [(k.poolStep_kept c d).isOpen, poolStep_pc, poolStep_interestOps]
  exact h.imp_right (Or.imp_left fun hmem => k.poolStep_selectorTasks c hmem)

theorem shouldTerminate_runOp (k : Reactor) (c d : ℕ) (op : PoolOp) :
    ((k.runOp c op).handlers d).shouldTerminate = true ↔
      (k.handlers d).shouldTerminate = true ∨ op = .terminate d := by
  cases op with
  | post key => simp [runOp]
  | terminate e =>
    rw [runOp, handlers_modify]
    split_ifs with hd
    · simp [hd]
    · simp [Ne.symm hd]
  | _ =>
    rw [runOp, handlers_modify]
    split_ifs with hd <;> simp [hd]

theorem todo_poolStep_other (k : Reactor) (hd : d ≠ c) :
    ((k.poolStep c).handlers d).todo = (k.handlers d).todo := by
  cases htodo : (k.handlers c).todo with
  | nil => rw [poolStep_nil htodo, continueTask_other k hd]
  | cons op todo => rw [poolStep_cons htodo, todo_runOp, if_neg hd, modify_other _ _ hd]

/-- The next operation of a frame that ends in `disconnect`. -/
theorem ending_runOp (hk : k.Channels) {op : PoolOp} {todo : List PoolOp}
    (htodo : (k.handlers c).todo = op :: todo) (hend : k.Ending c (op :: todo)) :
    (k.poolStep c).Ending c ((k.poolStep c).handlers c).todo := by
  have hopen : ((k.poolStep c).handlers c).isOpen = (k.handlers c).isOpen :=
    (k.poolStep_kept c c).isOpen
  rw [todo_poolStep htodo]
  cases hend with
  | other h =>
    refine .other fun d => ?_
    have htail : .terminate d ∉ todo := fun hmem => h d (List.mem_cons_of_mem _ hmem)
    cases op <;> simpa using htail
  | enqueue msg => exact .keyFor
  | keyFor =>
    refine .post _ ?_
    unfold Reactor.keyFor
    split_ifs with hd
    · exact .inr (hopen.trans (hk.closed c hd))
    · exact .inl rfl
  | post key h =>
    refine .terminate (h.elim (fun hkey => .inr (.inl ?_))
      fun hclosed => .inl (hopen.trans hclosed))
    rw [poolStep_cons htodo, selectorTasks_runOp, hkey]
    exact List.mem_append_right _ List.mem_cons_self
  | terminate h => exact .other fun d => List.not_mem_nil

/-- The tasks of the selector thread set the write interest. -/
theorem ops_poolStep (hk : ∀ task ∈ k.selectorTasks, task.ops = opReadWrite) (c : ℕ) :
    ∀ task ∈ (k.poolStep c).selectorTasks, task.ops = opReadWrite := by
  cases htodo : (k.handlers c).todo with
  | nil => simpa [poolStep_nil htodo] using hk
  | cons op todo =>
    intro task hmem
    rw [poolStep_cons htodo, selectorTasks_runOp] at hmem
    cases op with
    | post key =>
      rcases List.mem_append.1 hmem with hmem | hmem
      · exact hk task hmem
      · rw [List.mem_singleton.1 hmem]
    | _ => exact hk task hmem

theorem ops_selectorStep (hk : ∀ task ∈ k.selectorTasks, task.ops = opReadWrite)
    (result : IoResult) :
    ∀ task ∈ (k.selectorStep result).selectorTasks, task.ops = opReadWrite := by
  intro task hmem
  cases k.selectorMove result with
  | accept _ htasks => exact hk task (htasks ▸ hmem)
  | task task' tasks selected hpc htasks heq =>
    rw [heq, interestOps_selectorTasks, setTasks_selectorTasks] at hmem
    exact hk task (htasks ▸ List.mem_cons_of_mem _ hmem)
  | interestRead c rest hpc heq =>
    rw [heq, interestOps_selectorTasks] at hmem
    exact hk task hmem
  | steady _ htasks => exact hk task (htasks ▸ hmem)

/-- **A step of the pool.**  The final reply arms the connection before `terminate()`. -/
theorem Closing.pool (hk : k.Closing) (c : ℕ) : (k.step (.pool c)).Closing := by
  have hstep : k.step (.pool c) = k.poolStep c := rfl
  have hopen : ∀ d, ((k.poolStep c).handlers d).isOpen = (k.handlers d).isOpen :=
    fun d => (k.poolStep_kept c d).isOpen
  have hacc : k.server.accepted ≤ (k.poolStep c).server.accepted := k.accepted_mono (.pool c)
  -- the pool threads of the other connections are where they were
  have hkeep : ∀ d todo, k.Ending d todo → (k.poolStep c).Ending d todo := by
    intro d todo hd
    cases hd with
    | other h => exact .other h
    | enqueue msg => exact .enqueue msg
    | keyFor => exact .keyFor
    | post key h => exact .post key (by rwa [hopen])
    | terminate h => exact .terminate (h.poolStep c)
  refine
    { channels := hk.channels.step _
      fresh := hk.fresh.step _
      wellFormed := wellFormed_step hk.wellFormed _
      ops := ops_poolStep hk.ops c
      todo := ?_
      flag := ?_ }
  · intro d
    by_cases hd : d = c
    · subst hd
      cases htodo : (k.handlers d).todo with
      | cons op todo => exact ending_runOp hk.channels htodo (htodo ▸ hk.todo d)
      | nil =>
        have hnew := continueTask_todo htodo
        rw [← poolStep_nil htodo] at hnew
        rcases hnew with hnew | ⟨msg, hnew⟩
        · rw [hstep, hnew]
          exact .other fun d => List.not_mem_nil
        · rw [hstep, hnew]
          exact hkeep d _ (ending_of_handle hk.wellFormed d msg)
    · rw [hstep, todo_poolStep_other k hd]
      exact hkeep d _ (hk.todo d)
  · intro d hflag
    cases htodo : (k.handlers c).todo with
    | nil =>
      rw [hstep, poolStep_nil htodo, (k.continueTask_same c d).shouldTerminate] at hflag
      obtain ⟨hlt, harmed⟩ := hk.flag d hflag
      exact ⟨hlt.trans_le hacc, harmed.poolStep c⟩
    | cons op todo =>
      rw [hstep, poolStep_cons htodo, shouldTerminate_runOp] at hflag
      rcases hflag with hflag | rfl
      · have hflag' : (k.handlers d).shouldTerminate = true := by
          rw [handlers_modify] at hflag
          split_ifs at hflag with hd
          · exact hd ▸ hflag
          · exact hflag
        obtain ⟨hlt, harmed⟩ := hk.flag d hflag'
        exact ⟨hlt.trans_le hacc, harmed.poolStep c⟩
      · -- `terminate()` is called
        have hlt : c < k.server.accepted := by
          by_contra hge
          have hidle := (hk.fresh.idle c (not_lt.1 hge)).2.1
          rw [htodo] at hidle
          cases hidle
        have hend := hk.todo c
        rw [htodo] at hend
        cases hend with
        | other h => exact absurd List.mem_cons_self (h d)
        | terminate h => exact ⟨hlt.trans_le hacc, h.poolStep c⟩

/-! ### The selector thread -/

/-- A step that neither opens the channel nor takes away its write interest. -/
theorem Armed.of_steady {k' : Reactor} (h : k.Armed c) (hs : Steady (k.handlers c) (k'.handlers c))
    (hops : (k'.handlers c).interestOps = (k.handlers c).interestOps)
    (htasks : k'.selectorTasks = k.selectorTasks) (hpc : ∀ rest, k'.pc ≠ .interestRead c rest) :
    k'.Armed c := by
  unfold Armed
  rw [htasks, hops]
  refine h.imp (fun hclosed => ?_) (Or.imp_right fun hwrite => ⟨hwrite.1, hpc⟩)
  by_contra hopen
  rw [hs.isOpen (Bool.not_eq_false _ ▸ hopen)] at hclosed
  cases hclosed

/-- The bytes the channel has taken and those it is still to be given. -/
def output (h : NonBlockingConnectionHandler) : List UInt8 := h.written ++ h.writeQueue.flatten

/-- The two states of the handler have the same interest, flag and output. -/
structure SameOutput (h h' : NonBlockingConnectionHandler) : Prop where
  interestOps : h'.interestOps = h.interestOps
  shouldTerminate : h'.shouldTerminate = h.shouldTerminate
  output : output h' = output h

theorem SameOutput.refl (h : NonBlockingConnectionHandler) : SameOutput h h := ⟨rfl, rfl, rfl⟩

theorem SameOutput.modify {f : NonBlockingConnectionHandler → NonBlockingConnectionHandler}
    (hf : SameOutput (k.handlers c) (f (k.handlers c))) (d : ℕ) :
    SameOutput (k.handlers d) ((k.modify c f).handlers d) :=
  modify_rel SameOutput.refl hf d

theorem sameOutput_close (k : Reactor) (c d : ℕ) :
    SameOutput (k.handlers d) ((k.close c).handlers d) := by
  refine SameOutput.modify ?_ d
  exact ⟨rfl, rfl, rfl⟩

theorem sameOutput_continueRead (k : Reactor) (c d : ℕ) (result : IoResult) :
    SameOutput (k.handlers d) ((k.continueRead c result).handlers d) := by
  cases result with
  | bytes buf =>
    rw [continueRead]
    refine SameOutput.modify ?_ d
    exact ⟨rfl, rfl, rfl⟩
  | _ => exact k.sameOutput_close c d

/-- A partial write moves bytes from the first buffer to the channel. -/
theorem sameOutput_writeTop (k : Reactor) (c d : ℕ) (rest : List SelectedKey)
    (result : IoResult) : SameOutput (k.handlers d) ((k.writeTop c rest result).handlers d) := by
  unfold writeTop
  split
  · rename_i top queue count hqueue hopen
    have hout : (k.handlers c).written ++ top.take count ++
        (if top.drop count = [] then queue else top.drop count :: queue).flatten =
          output (k.handlers c) := by
      rw [output, hqueue, List.flatten_cons, List.append_assoc]
      split_ifs with hdone
      · rw [← List.append_nil (top.take count), ← hdone, List.take_append_drop]
      · rw [List.flatten_cons, ← List.append_assoc (top.take count), List.take_append_drop]
    dsimp only
    split_ifs with hdone
    all_goals
      rw [setPc_handlers]
      refine SameOutput.modify ?_ d
      refine ⟨rfl, rfl, Eq.trans ?_ hout⟩
      simp [output, hdone]
  · exact k.sameOutput_close c d

theorem sameOutput_accept (k : Reactor) (hc : c ≠ k.server.accepted) :
    SameOutput (k.handlers c) (k.handleAccept.handlers c) := by
  have hsame : k.handleAccept.handlers c = k.handlers c := Function.update_of_ne hc _ _
  exact hsame ▸ .refl _

theorem interestOps_output (k : Reactor) (key : Option ℕ) (ops : Ops) (d : ℕ) :
    ((k.interestOps key ops).handlers d).shouldTerminate = (k.handlers d).shouldTerminate ∧
    output ((k.interestOps key ops).handlers d) = output (k.handlers d) :=
  ⟨interestOps_field k key ops d fun _ _ => rfl, interestOps_field k key ops d fun _ _ => rfl⟩

/-- The selector thread raises no flag, and neither loses nor doubles a byte. -/
theorem selectorStep_output (k : Reactor) (result : IoResult) (c : ℕ) :
    (c = k.server.accepted ∧ (k.selectorStep result).handlers c = {}) ∨
    ((k.selectorStep result).handlers c).shouldTerminate = (k.handlers c).shouldTerminate ∧
      output ((k.selectorStep result).handlers c) = output (k.handlers c) := by
  unfold selectorStep
  cases hpc : k.pc with
  | tasks selected =>
    right
    cases htasks : k.selectorTasks with
    | nil => exact ⟨rfl, rfl⟩
    | cons task tasks => exact (k.setTasks tasks).interestOps_output _ _ _
  | keys selected =>
    cases selected with
    | nil => exact .inr ⟨rfl, rfl⟩
    | cons key rest =>
      cases key with
      | accept =>
        by_cases hc : c = k.server.accepted
        · refine .inl ⟨hc, ?_⟩
          simp [handleAccept, hc]
        · have hsame := k.sameOutput_accept hc
          exact .inr ⟨hsame.shouldTerminate, hsame.output⟩
      | channel d readable writable =>
        dsimp only
        split_ifs <;> exact .inr ⟨rfl, rfl⟩
  | read d writable rest =>
    have hsame := k.sameOutput_continueRead d c result
    exact .inr ⟨hsame.shouldTerminate, hsame.output⟩
  | write d rest =>
    have hsame := k.sameOutput_writeTop d c rest result
    exact .inr ⟨hsame.shouldTerminate, hsame.output⟩
  | checkTerminate d rest =>
    dsimp only
    split_ifs
    · have hsame := k.sameOutput_close d c
      exact .inr ⟨hsame.shouldTerminate, hsame.output⟩
    · exact .inr ⟨rfl, rfl⟩
  | interestRead d rest =>
    exact .inr ((k.setPc (.keys rest)).interestOps_output (k.keyFor d) opRead c)
  | select => exact .inr ⟨rfl, rfl⟩
  | failed => exact .inr ⟨rfl, rfl⟩
  | _ =>
    dsimp only
    split_ifs <;> exact .inr ⟨rfl, rfl⟩

theorem selectorStep_flag (k : Reactor) (result : IoResult)
    (h : ((k.selectorStep result).handlers c).shouldTerminate = true) :
    (k.handlers c).shouldTerminate = true := by
  rcases k.selectorStep_output result c with ⟨-, heq⟩ | ⟨heq, -⟩
  · rw [heq] at h
    cases h
  · rwa [← heq]

theorem interestOps_other (k : Reactor) {key : Option ℕ} (ops : Ops) (hkey : key ≠ some c) :
    ((k.interestOps key ops).handlers c).interestOps = (k.handlers c).interestOps := by
  unfold Reactor.interestOps
  split
  · rfl
  · rename_i d
    split_ifs
    · rw [modify_other _ _ fun hcd => hkey (congrArg some hcd.symm)]
    · rfl

/-- A task of the selector thread sets the write interest of its connection. -/
theorem Armed.task {task : SelectorTask} {tasks : List SelectorTask} (h : k.Armed c)
    (htasks : k.selectorTasks = task :: tasks) (hops : task.ops = opReadWrite)
    (hpc : ∀ rest, k.pc ≠ .interestRead c rest) :
    ((k.setTasks tasks).interestOps task.key task.ops).Armed c := by
  have hpc' : ∀ rest,
      ((k.setTasks tasks).interestOps task.key task.ops).pc ≠ .interestRead c rest := by
    intro rest
    rcases (k.setTasks tasks).interestOps_pc task.key task.ops with heq | heq
    · rw [heq]
      exact hpc rest
    · rw [heq]
      exact SelectorPc.noConfusion
  obtain ⟨key, ops⟩ := task
  subst hops
  unfold Armed at h ⊢
  rw [htasks, List.mem_cons] at h
  rw [interestOps_isOpen, interestOps_selectorTasks, setTasks_selectorTasks]
  rcases h with hclosed | (hown | hlater) | ⟨hwrite, -⟩
  · exact .inl hclosed
  · -- its own task
    obtain ⟨rfl, -⟩ := SelectorTask.mk.inj hown
    cases hopen : (k.handlers c).isOpen with
    | false => exact .inl hopen
    | true => exact .inr (.inr ⟨by simp [Reactor.interestOps, hopen, opReadWrite], hpc'⟩)
  · exact .inr (.inl hlater)
  · refine .inr (.inr ⟨?_, hpc'⟩)
    by_cases hkey : key = some c
    · subst hkey
      cases hopen : (k.handlers c).isOpen <;> simp [Reactor.interestOps, hopen, opReadWrite, hwrite]
    · rw [interestOps_other _ _ hkey]
      exact hwrite

theorem Armed.selectorStep (hk : ∀ task ∈ k.selectorTasks, task.ops = opReadWrite)
    (h : k.Armed c) (hne : ∀ rest, k.pc = .keys (.accept :: rest) → c ≠ k.server.accepted)
    (hread : ∀ rest, k.pc = .checkTerminate c rest →
      (k.handlers c).shouldTerminate = true ∨ writeInterest c ∈ k.selectorTasks)
    (result : IoResult) : (k.selectorStep result).Armed c := by
  have hsetPc : ∀ pc, (∀ rest, pc ≠ .interestRead c rest) → (k.setPc pc).Armed c := fun pc hpc =>
    h.of_steady (.refl _) rfl rfl hpc
  unfold Reactor.selectorStep
  cases hpc : k.pc with
  | select => exact h
  | failed => exact h
  | tasks selected =>
    cases htasks : k.selectorTasks with
    | nil => exact hsetPc _ fun _ => SelectorPc.noConfusion
    | cons task tasks =>
      have hops := hk task (htasks ▸ List.mem_cons_self)
      exact h.task htasks hops (by simp [hpc])
  | keys selected =>
    cases selected with
    | nil => exact hsetPc _ fun _ => SelectorPc.noConfusion
    | cons key rest =>
      cases key with
      | accept =>
        have hother : (k.handleAccept.setPc (.keys rest)).handlers c = k.handlers c :=
          Function.update_of_ne (hne rest hpc) _ _
        exact h.of_steady (hother ▸ .refl _) (congrArg _ hother) rfl fun _ => SelectorPc.noConfusion
      | channel d readable writable =>
        dsimp only
        split_ifs <;> exact hsetPc _ fun _ => SelectorPc.noConfusion
  | read d writable rest =>
    exact h.of_steady (k.steady_continueRead d c result)
      (k.sameOutput_continueRead d c result).interestOps
      (by cases result <;> rfl) fun _ => SelectorPc.noConfusion
  | readDone d writable rest =>
    dsimp only
    split_ifs <;> exact hsetPc _ fun _ => SelectorPc.noConfusion
  | checkQueue d rest =>
    dsimp only
    split_ifs <;> exact hsetPc _ fun _ => SelectorPc.noConfusion
  | write d rest =>
    refine h.of_steady (k.steady_writeTop d c rest result)
      (k.sameOutput_writeTop d c rest result).interestOps
      (k.writeTop_selectorTasks d rest result) fun rest' => ?_
    rcases k.writeTop_pc d rest result with heq | heq <;> simp [heq]
  | checkEmpty d rest =>
    dsimp only
    split_ifs <;> exact hsetPc _ fun _ => SelectorPc.noConfusion
  | checkTerminate d rest =>
    dsimp only
    split_ifs with hflag
    · exact h.of_steady (k.steady_close d c) (k.sameOutput_close d c).interestOps rfl
        fun _ => SelectorPc.noConfusion
    · by_cases hd : d = c
      · subst hd
        exact .inr (.inl ((hread rest hpc).resolve_left hflag))
      · exact hsetPc _ fun rest' heq => hd (SelectorPc.interestRead.inj heq).1
  | interestRead d rest =>
    have hpc' : ∀ rest', ((k.setPc (.keys rest)).interestOps (k.keyFor d) opRead).pc ≠
        .interestRead c rest' := fun rest' => by
      rcases (k.setPc (.keys rest)).interestOps_pc (k.keyFor d) opRead with heq | heq <;> simp [heq]
    unfold Armed at h ⊢
    dsimp only
    rw [interestOps_isOpen, interestOps_selectorTasks, setPc_handlers, setPc_selectorTasks]
    refine h.imp_right (Or.imp_right fun hwrite => ⟨?_, hpc'⟩)
    have hd : d ≠ c := fun hd => hwrite.2 rest (hd ▸ hpc)
    have hkey : k.keyFor d ≠ some c := by
      unfold Reactor.keyFor
      split_ifs <;> simp [hd]
    rw [interestOps_other _ _ hkey]
    exact hwrite.1

theorem steady_selectorStep (k : Reactor) (result : IoResult) (hc : c ≠ k.server.accepted) :
    Steady (k.handlers c) ((k.selectorStep result).handlers c) := by
  cases k.selectorMove result with
  | accept hhandlers =>
    rw [hhandlers, Function.update_of_ne hc]
    exact .refl _
  | task task tasks selected hpc htasks heq =>
    rw [heq]
    exact (k.setTasks tasks).interestOps_steady task.key task.ops c
  | interestRead d rest hpc heq =>
    rw [heq]
    exact (k.setPc (.keys rest)).interestOps_steady (k.keyFor d) opRead c
  | steady hhandlers => exact hhandlers c

/-- **A step of the selector thread** that does not read the flag too early. -/
theorem Closing.selector (hk : k.Closing) {result : IoResult}
    (hread : ¬ k.ReadsTooEarly (.selector result)) : (k.step (.selector result)).Closing := by
  have hstep : k.step (.selector result) = k.selectorStep result := rfl
  have hacc : k.server.accepted ≤ (k.selectorStep result).server.accepted :=
    k.accepted_mono (.selector result)
  have hflag : ∀ c, ((k.selectorStep result).handlers c).shouldTerminate = true →
      c < (k.selectorStep result).server.accepted ∧ (k.selectorStep result).Armed c :=
        fun c hc => by
    have hc' := k.selectorStep_flag result hc
    obtain ⟨hlt, harmed⟩ := hk.flag c hc'
    exact ⟨hlt.trans_le hacc,
      harmed.selectorStep hk.ops (fun _ _ => hlt.ne) (fun _ _ => .inl hc') result⟩
  refine
    { channels := hk.channels.step _
      fresh := hk.fresh.step _
      wellFormed := wellFormed_step hk.wellFormed _
      ops := ops_selectorStep hk.ops result
      todo := ?_
      flag := hflag }
  · intro c
    rw [hstep]
    by_cases hlt : c < k.server.accepted
    · have hsteady := k.steady_selectorStep result hlt.ne
      have hend := hk.todo c
      rw [hsteady.todo]
      generalize htodo : (k.handlers c).todo = todo at hend
      cases hend with
      | other h => exact .other h
      | enqueue msg => exact .enqueue msg
      | keyFor => exact .keyFor
      | post key h =>
        refine .post key (h.imp_right fun hclosed => ?_)
        by_contra hopen
        rw [hsteady.isOpen (Bool.not_eq_false _ ▸ hopen)] at hclosed
        cases hclosed
      | terminate h =>
        refine .terminate (h.selectorStep hk.ops (fun _ _ => hlt.ne) (fun rest hpc => ?_) result)
        by_contra hnot
        rw [not_or, Bool.not_eq_true] at hnot
        exact hread (by simp [ReadsTooEarly, hpc, hnot.1, htodo, hnot.2])
    · have hselected : c ∉ k.pc.connections := fun hmem => hlt (hk.fresh.selected c hmem)
      rw [(selectorStep_idle result hselected (hk.fresh.idle c (not_lt.1 hlt))).2.1]
      exact .other fun d => List.not_mem_nil

theorem Armed.select (h : k.Armed c) (selected : List SelectedKey) :
    (k.select selected).Armed c :=
  h.imp_right (Or.imp_right fun hwrite => ⟨hwrite.1, fun _ => SelectorPc.noConfusion⟩)

theorem Closing.select (hk : k.Closing) (selected : List SelectedKey) :
    (k.step (.select selected)).Closing := by
  have hchannels := hk.channels.step (.select selected)
  have hfresh := hk.fresh.step (.select selected)
  simp only [Reactor.step] at hchannels hfresh ⊢
  split_ifs at hchannels hfresh ⊢
  · have harmed : ∀ c, k.Armed c → (k.select selected).Armed c := fun c h => h.select selected
    refine
      { channels := hchannels
        fresh := hfresh
        wellFormed := hk.wellFormed
        ops := hk.ops
        todo := fun c => ?_
        flag := fun c hc => ⟨(hk.flag c hc).1, harmed c (hk.flag c hc).2⟩ }
    have hend := hk.todo c
    have htodo : ((k.select selected).handlers c).todo = (k.handlers c).todo := rfl
    rw [htodo]
    generalize (k.handlers c).todo = todo at hend
    cases hend with
    | other h => exact .other h
    | enqueue msg => exact .enqueue msg
    | keyFor => exact .keyFor
    | post key h => exact .post key h
    | terminate h => exact .terminate (harmed c h)
  · exact hk

theorem Closing.step (hk : k.Closing) {e : ReactorEvent} (hread : ¬ k.ReadsTooEarly e) :
    (k.step e).Closing := by
  cases e with
  | select selected => exact hk.select selected
  | selector result => exact hk.selector hread
  | pool c => exact hk.pool c

theorem closing_init : Closing {} where
  channels := channels_init
  fresh := fresh_init
  wellFormed := Server.wellFormed_init
  ops task hmem := absurd hmem List.not_mem_nil
  todo c := .other fun d => List.not_mem_nil
  flag c hc := absurd hc (by simp)

/-- The pool thread of the connection has nothing left to do, its queue and the tasks are worked
off, and the selector thread is not in `continueWrite`. -/
structure Settled (k : Reactor) (c : ℕ) : Prop where
  pool : (k.handlers c).todo = []
  queue : (k.handlers c).writeQueue = []
  tasks : k.selectorTasks = []
  selector : ∀ rest, k.pc ∉ [.checkQueue c rest, .write c rest, .checkEmpty c rest,
    .checkTerminate c rest, .interestRead c rest]

/-- **A terminated connection gets closed**: when everything has settled, its channel is closed or
still has its write interest, in every run in which the flag is never read too early. -/
theorem terminated_closed (es : List ReactorEvent)
    (hes : Machine.Along step (fun k e => ¬ k.ReadsTooEarly e) {} es) (c : ℕ)
    (hflag : ((run es).handlers c).shouldTerminate = true) (hsettled : (run es).Settled c) :
    ((run es).handlers c).isOpen = false ∨ ((run es).handlers c).interestOps.write = true := by
  have hclosing : (run es).Closing :=
    Machine.Along.invariant (fun k e hk hread => hk.step hread) closing_init hes
  refine (hclosing.flag c hflag).2.imp_right fun harmed => ?_
  rcases harmed with hpending | hwrite
  · rw [hsettled.tasks] at hpending
    exact absurd hpending List.not_mem_nil
  · exact hwrite.1

/-- The step is no channel operation that fails or ends the stream. -/
def faultFree (k : Reactor) : ReactorEvent → Bool
  | .selector result =>
    match k.pc, result with
    | .read _ _ _, .bytes _ | .write _ _, .written _ => true
    | .read _ _ _, _ | .write _ _, _ => false
    | _, _ => true
  | _ => true

/-- The next steps of the selector thread, when none of them is a channel operation. -/
def selects (n : ℕ) : List ReactorEvent := List.replicate n (.selector .ioException)

/-- A connection is accepted, and a buffer is read from it. -/
def bufferRead (buf : List UInt8) : List ReactorEvent :=
  [.select [.accept]] ++ selects 3 ++ [.select [.channel 0 true false]] ++ selects 2 ++
    [.selector (.bytes buf)] ++ selects 2

/-- A frame is read that will be answered with ERROR. -/
def rejectedFrame : List ReactorEvent :=
  bufferRead (LineMessageEncoderDecoder.encode "SEND\na :b\n\n")

/-- The selector thread sets the posted write interest, selects the channel, writes the reply and
stands before its look at the flag. -/
def replyWritten : List ReactorEvent :=
  [.select []] ++ selects 3 ++ [.select [.channel 0 false true]] ++ selects 4 ++
    [.selector (.written 1000)] ++ selects 2

/-- `terminate()` is called after the look at the flag. -/
def terminatedTooLate : List ReactorEvent :=
  rejectedFrame ++ List.replicate 15 (.pool 0) ++ replyWritten ++ selects 1 ++
    List.replicate 2 (.pool 0) ++ selects 2

/-- `terminate()` is called before the reply is written. -/
def repliedInTime : List ReactorEvent :=
  rejectedFrame ++ List.replicate 17 (.pool 0) ++ replyWritten

/-- The selector thread looks at the flag after that. -/
def terminatedInTime : List ReactorEvent := repliedInTime ++ selects 2

theorem settled_of_select (h : k.pc = .select ∧ (k.handlers c).todo = [] ∧
    (k.handlers c).writeQueue = [] ∧ k.selectorTasks = []) : k.Settled c := by
  obtain ⟨hpc, htodo, hqueue, htasks⟩ := h
  exact ⟨htodo, hqueue, htasks, by simp [hpc]⟩

theorem not_forall_terminated_closed : ¬ ∀ es,
    Machine.Along step (fun k e => k.faultFree e = true) {} es →
    ∀ c, ((run es).handlers c).shouldTerminate = true → (run es).Settled c →
    ((run es).handlers c).isOpen = false ∨ ((run es).handlers c).interestOps.write = true := by
  intro hall
  have hsettled : (run terminatedTooLate).Settled 0 := settled_of_select (by decide +kernel)
  have hflags : ((run terminatedTooLate).handlers 0).shouldTerminate = true ∧
      ¬ (((run terminatedTooLate).handlers 0).isOpen = false ∨
        ((run terminatedTooLate).handlers 0).interestOps.write = true) := by decide +kernel
  exact hflags.2 (hall terminatedTooLate (by decide +kernel) 0 hflags.1 hsettled)

theorem terminatedInTime_closed : ((run terminatedInTime).handlers 0).isOpen = false ∨
    ((run terminatedInTime).handlers 0).interestOps.write = true :=
  terminated_closed terminatedInTime (by decide +kernel) 0 (by decide +kernel)
    (settled_of_select (by decide +kernel))

/-! ### The final reply -/

/-- The buffer that the operation adds to the queue of the connection. -/
def bufferFor (c : ℕ) : PoolOp → Option (List UInt8)
  | .enqueue e msg => if e = c then some (LineMessageEncoderDecoder.encode msg) else none
  | _ => none

/-- The buffer that the step adds to the queue of the connection before it has been terminated. -/
def enqueuedEarly (c : ℕ) (k : Reactor) : ReactorEvent → Option (List UInt8)
  | .pool d =>
    match (k.handlers d).todo with
    | op :: _ => if (k.handlers c).shouldTerminate then none else bufferFor c op
    | [] => none
  | _ => none

/-- The buffers enqueued for the connection before `terminate()` was called, in order. -/
def beforeTerminate (c : ℕ) (es : List ReactorEvent) : List (List UInt8) :=
  Machine.trace step (enqueuedEarly c) {} es

/-- `terminate()` is called between the emptiness check of `continueWrite` and its look at the flag,
and a buffer has been enqueued since the check. -/
def TerminatesUnseen (k : Reactor) : ReactorEvent → Prop
  | .pool d =>
    match (k.handlers d).todo, k.pc with
    | .terminate c :: _, .checkTerminate c' _ => c = c' ∧ (k.handlers c).writeQueue ≠ []
    | _, _ => False
  | _ => False

/-- The operation sends to an accepted connection, or terminates that of its own thread. -/
def OpOf (k : Reactor) (d : ℕ) : PoolOp → Prop
  | .enqueue e _ => e < k.server.accepted
  | .terminate e => e = d
  | _ => True

theorem OpOf.mono {k' : Reactor} (hle : k.server.accepted ≤ k'.server.accepted) {op : PoolOp}
    (hop : k.OpOf d op) : k'.OpOf d op := by
  cases op with
  | enqueue e msg => exact Nat.lt_of_lt_of_le hop hle
  | _ => exact hop

/-- The operations of a message, before any of them. -/
theorem opOf_handle (hs : k.server.WellFormed) {msg : Str} {op : PoolOp}
    (hop : op ∈ (k.server.handle (.message d msg)).calls.flatMap Call.ops) : k.OpOf d op := by
  rcases Server.handle_message hs.backed d msg with ⟨hd, -, he⟩ | heq
  · rcases he.ops hs with hops | ⟨hlt, m, hops⟩
    · obtain ⟨c', hlt, ⟨m, rfl⟩ | rfl⟩ := hops op hop
      · exact hlt
      · trivial
    · rw [hops] at hop
      rcases List.mem_cons.1 hop with rfl | hop
      · exact hlt
      · rcases List.mem_pair.1 hop with rfl | rfl
        · trivial
        · exact rfl
  · rw [heq] at hop
    exact absurd hop List.not_mem_nil

instance (k : Reactor) : DecidablePred k.TerminatesUnseen
  | .pool d =>
    match htodo : (k.handlers d).todo, hpc : k.pc with
    | .terminate c :: _, .checkTerminate c' _ =>
      decidable_of_iff (c = c' ∧ (k.handlers c).writeQueue ≠ [])
        (by simp [TerminatesUnseen, htodo, hpc])
    | [], _ | .enqueue _ _ :: _, _ | .keyFor _ :: _, _ | .post _ :: _, _ =>
      isFalse (by simp [TerminatesUnseen, htodo])
    | .terminate _ :: _, .select | .terminate _ :: _, .failed | .terminate _ :: _, .tasks _
    | .terminate _ :: _, .keys _ | .terminate _ :: _, .read _ _ _
    | .terminate _ :: _, .readDone _ _ _ | .terminate _ :: _, .checkQueue _ _
    | .terminate _ :: _, .write _ _ | .terminate _ :: _, .checkEmpty _ _
    | .terminate _ :: _, .interestRead _ _ => isFalse (by simp [TerminatesUnseen, htodo, hpc])
  | .select _ | .selector _ => isFalse id

/-- What holds of the output of the connection and the buffers enqueued before `terminate()`. -/
structure Replying (c : ℕ) (k : Reactor) (early : List (List UInt8)) : Prop where
  fresh : k.Fresh
  wellFormed : k.server.WellFormed
  ops : ∀ d, ∀ op ∈ (k.handlers d).todo, k.OpOf d op
  unaccepted : k.server.accepted ≤ c → early = [] ∧ output (k.handlers c) = []
  running : (k.handlers c).shouldTerminate = false → output (k.handlers c) = early.flatten
  ending : (k.handlers c).shouldTerminate = true → early.flatten <+: output (k.handlers c)
  checked : ∀ rest, k.pc = .checkTerminate c rest → (k.handlers c).shouldTerminate = true →
    early.flatten <+: (k.handlers c).written

variable {early : List (List UInt8)}

/-- The selector thread comes to its look at the flag with an empty queue. -/
theorem selectorStep_checkTerminate {result : IoResult} {rest : List SelectedKey}
    (h : (k.selectorStep result).pc = .checkTerminate c rest) :
    (k.handlers c).writeQueue = [] ∧ (k.selectorStep result).handlers c = k.handlers c := by
  unfold selectorStep at h ⊢
  cases hpc : k.pc with
  | tasks selected =>
    simp only [hpc] at h
    cases htasks : k.selectorTasks with
    | nil => simp [htasks] at h
    | cons task tasks =>
      simp only [htasks] at h
      rcases (k.setTasks tasks).interestOps_pc task.key task.ops with heq | heq <;>
        simp [heq, hpc] at h
  | keys selected =>
    simp only [hpc] at h
    cases selected with
    | nil => simp at h
    | cons key rest =>
      cases key with
      | accept => simp at h
      | channel d readable writable =>
        dsimp only at h
        split_ifs at h <;> simp at h
  | write d rest =>
    simp only [hpc] at h
    rcases k.writeTop_pc d rest result with heq | heq <;> simp [heq] at h
  | interestRead d rest =>
    simp only [hpc] at h
    rcases (k.setPc (.keys rest)).interestOps_pc (k.keyFor d) opRead with heq | heq <;>
      simp [heq] at h
  | checkEmpty d rest =>
    simp only [hpc] at h
    split_ifs at h with hempty
    · obtain ⟨rfl, -⟩ := SelectorPc.checkTerminate.inj h
      exact ⟨hempty, by simp [hempty]⟩
    · simp at h
  | select => simp [hpc] at h
  | failed => simp [hpc] at h
  | read d writable rest => simp [hpc] at h
  | _ =>
    simp only [hpc] at h
    split_ifs at h <;> simp at h

theorem Fresh.todo_selectorStep (hk : k.Fresh) (result : IoResult) (d : ℕ) :
    ((k.selectorStep result).handlers d).todo = (k.handlers d).todo := by
  by_cases hlt : d < k.server.accepted
  · exact (k.steady_selectorStep result hlt.ne).todo
  · have hidle := hk.idle d (not_lt.1 hlt)
    have hselected : d ∉ k.pc.connections := fun hmem => hlt (hk.selected d hmem)
    rw [(selectorStep_idle result hselected hidle).2.1, hidle.2.1]

theorem Replying.selector (hk : Replying c k early) (result : IoResult) :
    Replying c (k.step (.selector result)) early := by
  have hstep : k.step (.selector result) = k.selectorStep result := rfl
  have hacc : k.server.accepted ≤ (k.selectorStep result).server.accepted :=
    k.accepted_mono (.selector result)
  have hout := k.selectorStep_output result c
  have hinit : output ({} : NonBlockingConnectionHandler) = [] := rfl
  refine
    { fresh := hk.fresh.step _
      wellFormed := wellFormed_step hk.wellFormed _
      ops := fun d op hmem => ?_
      unaccepted := fun hle => ?_
      running := fun hflag => ?_
      ending := fun hflag => ?_
      checked := fun rest hpc hflag => ?_ }
  · rw [hstep, hk.fresh.todo_selectorStep] at hmem
    exact (hk.ops d op hmem).mono hacc
  · obtain ⟨hnil, hold⟩ := hk.unaccepted (hacc.trans hle)
    refine ⟨hnil, ?_⟩
    rcases hout with ⟨-, hnew⟩ | ⟨-, hsame⟩
    · rw [hstep, hnew, hinit]
    · rw [hstep, hsame, hold]
  · rcases hout with ⟨hc, hnew⟩ | ⟨hsameFlag, hsame⟩
    · rw [hstep, hnew, hinit, (hk.unaccepted hc.ge).1, List.flatten_nil]
    · rw [hstep, hsame]
      exact hk.running (hsameFlag ▸ hflag)
  · rcases hout with ⟨hc, hnew⟩ | ⟨hsameFlag, hsame⟩
    · rw [hstep, hnew] at hflag
      cases hflag
    · rw [hstep, hsame]
      exact hk.ending (hsameFlag ▸ hflag)
  · obtain ⟨hempty, hsame⟩ := selectorStep_checkTerminate hpc
    rw [hstep, hsame] at hflag ⊢
    have hprefix := hk.ending hflag
    rwa [output, hempty, List.flatten_nil, List.append_nil] at hprefix

/-- What an operation of the pool does to the output of a connection. -/
theorem runOp_output (k : Reactor) (c d : ℕ) (op : PoolOp) : output ((k.runOp d op).handlers c) =
    output (k.handlers c) ++ (bufferFor c op).toList.flatten := by
  cases op with
  | post key => simp [runOp, bufferFor]
  | enqueue e msg =>
    rw [runOp, handlers_modify, bufferFor]
    split_ifs with hc hc' hc'
    · simp [output, hc]
    · exact absurd hc.symm hc'
    · exact absurd hc'.symm hc
    · simp
  | _ =>
    rw [runOp, handlers_modify]
    split_ifs with hd <;> simp [output, hd, bufferFor]

theorem runOp_written (k : Reactor) (c d : ℕ) (op : PoolOp) :
    ((k.runOp c op).handlers d).written = (k.handlers d).written := by
  cases op with
  | post key => rfl
  | _ =>
    rw [runOp, handlers_modify]
    split_ifs with hd <;> simp [hd]

/-- Between two frames the pool thread neither raises the flag nor sends. -/
theorem Replying.task (hk : Replying c k early) {d : ℕ} (htodo : (k.handlers d).todo = []) :
    Replying c (k.poolStep d) early := by
  have hsame := k.continueTask_same d c
  have hpc : (k.poolStep d).pc = k.pc := k.poolStep_pc d
  have hacc : k.server.accepted ≤ (k.poolStep d).server.accepted := k.accepted_mono (.pool d)
  have hout : output ((k.continueTask d).handlers c) = output (k.handlers c) := by
    rw [output, hsame.written, hsame.writeQueue, output]
  rw [← poolStep_nil htodo] at hsame hout
  refine
    { fresh := hk.fresh.step (.pool d)
      wellFormed := wellFormed_step hk.wellFormed (.pool d)
      ops := fun d' op hmem => (?_ : k.OpOf d' op).mono hacc
      unaccepted := fun hle => hout ▸ hk.unaccepted (hacc.trans hle)
      running := fun hflag => hout ▸ hk.running (hsame.shouldTerminate ▸ hflag)
      ending := fun hflag => hout ▸ hk.ending (hsame.shouldTerminate ▸ hflag)
      checked := fun rest hrest hflag =>
        hsame.written ▸ hk.checked rest (hpc ▸ hrest) (hsame.shouldTerminate ▸ hflag) }
  by_cases hd : d' = d
  · subst hd
    have hnew := continueTask_todo htodo
    rw [← poolStep_nil htodo] at hnew
    rcases hnew with hnew | ⟨m, hnew⟩
    · rw [hnew] at hmem
      exact absurd hmem List.not_mem_nil
    · exact opOf_handle hk.wellFormed (hnew ▸ hmem)
  · rw [todo_poolStep_other k hd] at hmem
    exact hk.ops d' op hmem

/-- The next operation of a frame; `terminate()` is not called unseen. -/
theorem Replying.op (hk : Replying c k early) {d : ℕ} {op : PoolOp} {todo : List PoolOp}
    (htodo : (k.handlers d).todo = op :: todo) (hseen : ¬ k.TerminatesUnseen (.pool d)) :
    Replying c (k.poolStep d) (early ++ (enqueuedEarly c k (.pool d)).toList) := by
  have hpc : (k.poolStep d).pc = k.pc := k.poolStep_pc d
  have hacc : k.server.accepted ≤ (k.poolStep d).server.accepted := k.accepted_mono (.pool d)
  have hflag : ((k.poolStep d).handlers c).shouldTerminate = true ↔
      (k.handlers c).shouldTerminate = true ∨ op = .terminate c := by
    rw [poolStep_cons htodo, shouldTerminate_runOp, handlers_modify]
    split_ifs with hc <;> simp [hc]
  have hout : output ((k.poolStep d).handlers c) =
      output (k.handlers c) ++ (bufferFor c op).toList.flatten := by
    rw [poolStep_cons htodo, runOp_output, handlers_modify]
    congr 1
    split_ifs with hc <;> simp [output, hc]
  have hwritten : ((k.poolStep d).handlers c).written = (k.handlers c).written := by
    rw [poolStep_cons htodo, runOp_written, handlers_modify]
    split_ifs with hc <;> simp [hc]
  have hearly : enqueuedEarly c k (.pool d) =
      if (k.handlers c).shouldTerminate then none else bufferFor c op := by
    rw [enqueuedEarly, htodo]
  have hnotEarly : (k.handlers c).shouldTerminate = true ∨ op = .terminate c →
      early ++ (enqueuedEarly c k (.pool d)).toList = early := by
    rw [hearly]
    rintro (hc | rfl)
    · simp [hc]
    · simp [bufferFor]
  have hop : k.OpOf d op := hk.ops d op (htodo ▸ List.mem_cons_self)
  refine
    { fresh := hk.fresh.step (.pool d)
      wellFormed := wellFormed_step hk.wellFormed (.pool d)
      ops := fun d' op' hmem => (?_ : k.OpOf d' op').mono hacc
      unaccepted := fun hle => ?_
      running := fun hc => ?_
      ending := fun hc => ?_
      checked := fun rest hrest hc => ?_ }
  · rw [poolStep_cons htodo, todo_runOp] at hmem
    split_ifs at hmem with hd
    · subst hd
      have htail : ∀ op' ∈ todo, k.OpOf d' op' := fun op' htail =>
        hk.ops d' op' (htodo ▸ List.mem_cons_of_mem _ htail)
      rw [modify_self] at hmem
      cases op with
      | keyFor e =>
        rcases List.mem_cons.1 hmem with rfl | hmem
        · trivial
        · exact htail op' hmem
      | _ => exact htail op' hmem
    · rw [modify_other _ _ hd] at hmem
      exact hk.ops d' op' hmem
  · obtain ⟨hnil, hold⟩ := hk.unaccepted (hacc.trans hle)
    have hbuffer : bufferFor c op = none := by
      cases op with
      | enqueue e msg => exact if_neg (Nat.lt_of_lt_of_le hop (hacc.trans hle)).ne
      | _ => rfl
    rw [hout, hold, hearly, hbuffer, hnil]
    simp
  · have hrunning : (k.handlers c).shouldTerminate = false :=
      Bool.eq_false_iff.2 fun hold => by simp [hflag.2 (.inl hold)] at hc
    rw [hout, hk.running hrunning, hearly, hrunning, List.flatten_append]
    rfl
  · rw [hnotEarly (hflag.1 hc), hout]
    refine List.IsPrefix.trans ?_ (List.prefix_append _ _)
    cases hold : (k.handlers c).shouldTerminate with
    | true => exact hk.ending hold
    | false => rw [hk.running hold]
  · rw [hnotEarly (hflag.1 hc), hwritten]
    rw [hpc] at hrest
    cases hold : (k.handlers c).shouldTerminate with
    | true => exact hk.checked rest hrest hold
    | false =>
      have hlast : op = .terminate c := (hflag.1 hc).resolve_left (by simp [hold])
      -- the queue is as empty as the selector thread has found it
      have hempty : (k.handlers c).writeQueue = [] := by
        by_contra hne
        exact hseen (by simp [TerminatesUnseen, htodo, hlast, hrest, hne])
      rw [← hk.running hold, output, hempty, List.flatten_nil, List.append_nil]

theorem Replying.pool (hk : Replying c k early) (d : ℕ) (hseen : ¬ k.TerminatesUnseen (.pool d)) :
    Replying c (k.step (.pool d)) (early ++ (enqueuedEarly c k (.pool d)).toList) := by
  cases htodo : (k.handlers d).todo with
  | nil =>
    have hearly : enqueuedEarly c k (.pool d) = none := by rw [enqueuedEarly, htodo]
    rw [hearly, Option.toList_none, List.append_nil]
    exact hk.task htodo
  | cons op todo => exact hk.op htodo hseen

theorem Replying.select (hk : Replying c k early) (selected : List SelectedKey) :
    Replying c (k.step (.select selected)) early := by
  have hfresh := hk.fresh.step (.select selected)
  simp only [Reactor.step] at hfresh ⊢
  split_ifs at hfresh ⊢
  · exact
      { fresh := hfresh
        wellFormed := hk.wellFormed
        ops := hk.ops
        unaccepted := hk.unaccepted
        running := hk.running
        ending := hk.ending
        checked := fun rest hpc => SelectorPc.noConfusion hpc }
  · exact hk

/-- **A step** in which `terminate()` is not called unseen. -/
theorem Replying.step (hk : Replying c k early) {e : ReactorEvent}
    (hseen : ¬ k.TerminatesUnseen e) :
    Replying c (k.step e) (early ++ (enqueuedEarly c k e).toList) := by
  cases e with
  | pool d => exact hk.pool d hseen
  | selector result => exact (List.append_nil early).symm ▸ hk.selector result
  | select selected => exact (List.append_nil early).symm ▸ hk.select selected

theorem replying_init (c : ℕ) : Replying c {} [] where
  fresh := fresh_init
  wellFormed := Server.wellFormed_init
  ops d op hmem := absurd hmem List.not_mem_nil
  unaccepted _ := ⟨rfl, rfl⟩
  running _ := rfl
  ending hflag := absurd hflag (by simp)
  checked _ hpc := SelectorPc.noConfusion hpc

/-- Without a failed operation, a channel is closed only after a look at the flag. -/
theorem Closes.checkTerminate (hk : k.Channels) {e : ReactorEvent} (hio : k.faultFree e = true)
    (hcloses : k.Closes e c) :
    (∃ rest, k.pc = .checkTerminate c rest) ∧ (k.handlers c).shouldTerminate = true := by
  obtain ⟨hopen, hclosed⟩ := hcloses
  have hkept : ∀ {k' : Reactor}, (k'.handlers c).isOpen = false →
      (k'.handlers c).isOpen = (k.handlers c).isOpen → False := fun hc heq => by
    rw [heq, hopen] at hc
    cases hc
  cases e with
  | pool d => exact (hkept hclosed (k.poolStep_kept d c).isOpen).elim
  | select selected =>
    simp only [Reactor.step] at hclosed
    split_ifs at hclosed <;> exact (hkept hclosed rfl).elim
  | selector result =>
    rw [Reactor.step, selectorStep] at hclosed
    cases hpc : k.pc with
    | checkTerminate d rest =>
      simp only [hpc] at hclosed
      split_ifs at hclosed with hflag
      · by_cases hd : c = d
        · subst hd
          exact ⟨⟨rest, rfl⟩, hflag⟩
        · rw [setPc_handlers, close_other k hd] at hclosed
          exact (hkept hclosed rfl).elim
      · exact (hkept hclosed rfl).elim
    | read d writable rest =>
      cases result with
      | bytes buf =>
        simp only [hpc, setPc_handlers, continueRead, handlers_modify] at hclosed
        split_ifs at hclosed with hd
        · rw [← hd, hopen] at hclosed
          cases hclosed
        · exact (hkept hclosed rfl).elim
      | _ => simp [faultFree, hpc] at hio
    | write d rest =>
      cases result with
      | written count =>
        simp only [hpc] at hclosed
        by_cases hd : c = d
        · subst hd
          have hqueue : (k.handlers c).writeQueue ≠ [] := by
            have hofPc := hk.ofPc
            rwa [hpc] at hofPc
          obtain ⟨top, queue, hcons⟩ := List.exists_cons_of_ne_nil hqueue
          simp only [writeTop, hcons, hopen] at hclosed
          split_ifs at hclosed <;> simp [hopen] at hclosed
        · rw [writeTop_other k rest _ hd] at hclosed
          exact (hkept hclosed rfl).elim
      | _ => simp [faultFree, hpc] at hio
    | tasks selected =>
      simp only [hpc] at hclosed
      cases htasks : k.selectorTasks with
      | nil =>
        simp only [htasks] at hclosed
        exact (hkept hclosed rfl).elim
      | cons task tasks =>
        simp only [htasks] at hclosed
        exact (hkept hclosed (interestOps_isOpen ..)).elim
    | keys selected =>
      cases selected with
      | nil =>
        simp only [hpc] at hclosed
        exact (hkept hclosed rfl).elim
      | cons key rest =>
        cases key with
        | accept =>
          simp only [hpc, setPc_handlers, handleAccept, Function.update_apply] at hclosed
          split_ifs at hclosed
          exact (hkept hclosed rfl).elim
        | channel d readable writable =>
          simp only [hpc] at hclosed
          split_ifs at hclosed <;> exact (hkept hclosed rfl).elim
    | interestRead d rest =>
      simp only [hpc] at hclosed
      exact (hkept hclosed (interestOps_isOpen ..)).elim
    | select | failed =>
      simp only [hpc] at hclosed
      exact (hkept hclosed rfl).elim
    | _ =>
      simp only [hpc] at hclosed
      split_ifs at hclosed <;> exact (hkept hclosed rfl).elim

/-- The pool thread of the connection is about to send its final reply. -/
structure FinalReply (k : Reactor) (c : ℕ) (msg : Str) : Prop where
  running : (k.handlers c).shouldTerminate = false
  todo : (k.handlers c).todo = [.enqueue c msg, .keyFor c, .terminate c]

/-- The final reply is still to be sent, or it has been enqueued before `terminate()`. -/
def Replies (c : ℕ) (msg : Str) (k : Reactor) (early : List (List UInt8)) : Prop :=
  k.FinalReply c msg ∨ LineMessageEncoderDecoder.encode msg ∈ early

theorem Replies.step {msg : Str} (hk : Replying c k early) (h : Replies c msg k early)
    (e : ReactorEvent) :
    Replies c msg (k.step e) (early ++ (enqueuedEarly c k e).toList) := by
  rcases h with ⟨hrunning, htodo⟩ | h
  · cases e with
    | select selected =>
      left
      simp only [Reactor.step]
      split_ifs <;> exact ⟨hrunning, htodo⟩
    | selector result =>
      left
      rcases k.selectorStep_output result c with ⟨hc, -⟩ | ⟨hflag, -⟩
      · have hidle := (hk.fresh.idle c hc.ge).2.1
        rw [htodo] at hidle
        cases hidle
      · exact ⟨hflag.trans hrunning, (hk.fresh.todo_selectorStep result c).trans htodo⟩
    | pool d =>
      by_cases hd : c = d
      · subst hd
        right
        simp [enqueuedEarly, htodo, hrunning, bufferFor]
      · refine .inl ⟨?_, (todo_poolStep_other k hd).trans htodo⟩
        rw [Reactor.step]
        cases htodo' : (k.handlers d).todo with
        | nil => rw [poolStep_nil htodo', (k.continueTask_same d c).shouldTerminate, hrunning]
        | cons op todo =>
          -- only the thread of a connection terminates it
          have hop : op ≠ .terminate c := fun hop =>
            hd (hk.ops d (.terminate c) (htodo' ▸ hop ▸ List.mem_cons_self))
          rw [poolStep_cons htodo', Bool.eq_false_iff, Ne, shouldTerminate_runOp, not_or,
            modify_other _ _ hd]
          exact ⟨by simp [hrunning], hop⟩
  · exact .inr (List.mem_append_left _ h)

/-- **When a channel is closed, everything enqueued before `terminate()` has been written**, and the
final reply is among it, in every run in which `terminate()` is never called unseen. -/
theorem closed_after_final_reply (es : List ReactorEvent)
    (hes : Machine.Along step (fun k e => ¬ k.TerminatesUnseen e) {} es) (e : ReactorEvent)
    (hio : (run es).faultFree e = true) (c : ℕ) (hcloses : (run es).Closes e c) :
    (beforeTerminate c es).flatten <+: ((run es).handlers c).written ∧
    ∀ pre msg, pre <+: es → (run pre).FinalReply c msg →
      LineMessageEncoderDecoder.encode msg ∈ beforeTerminate c es := by
  have hstep : ∀ (k : Reactor) early e, Replying c k early → ¬ k.TerminatesUnseen e →
      Replying c (k.step e) (early ++ (enqueuedEarly c k e).toList) :=
    fun _ _ _ hk hseen => hk.step hseen
  have hchannels : (run es).Channels :=
    Machine.run_invariant (I := Channels) (fun _ e hk => hk.step e) channels_init es
  obtain ⟨⟨rest, hpc⟩, hflag⟩ := hcloses.checkTerminate hchannels hio
  have hreplying : Replying c (run es) (beforeTerminate c es) :=
    hes.trace_invariant (I := Replying c) hstep (replying_init c)
  refine ⟨hreplying.checked rest hpc hflag, ?_⟩
  rintro pre msg ⟨post, rfl⟩ hfinal
  rw [Machine.along_append] at hes
  have hpre : Replying c (run pre) (beforeTerminate c pre) :=
    hes.1.trace_invariant (I := Replying c) hstep (replying_init c)
  have hpost := hes.2.trace_invariant
    (I := fun k early => Replying c k early ∧ Replies c msg k early)
    (fun k early e hk hseen => ⟨hk.1.step hseen, hk.2.step hk.1 e⟩) ⟨hpre, .inl hfinal⟩
  rw [beforeTerminate, Machine.trace_append]
  refine hpost.2.resolve_left fun hlate => ?_
  have hrun : run (pre ++ post) = Machine.run step (run pre) post := Machine.run_append ..
  rw [hrun] at hflag
  rw [hlate.running] at hflag
  cases hflag

/-- A client logs in and logs out, with one buffer. -/
def loginAndLogout : List ReactorEvent :=
  bufferRead (LineMessageEncoderDecoder.encode
      "CONNECT\naccept - version :1.2\nhost :h\nlogin :bob\npasscode :pw\n\n" ++
    LineMessageEncoderDecoder.encode "DISCONNECT\nreceipt :0\n\n")

/-- CONNECTED is written; then DISCONNECT is handled up to `terminate()`. -/
def terminatedUnseen : List ReactorEvent :=
  loginAndLogout ++ List.replicate 67 (.pool 0) ++ replyWritten ++ List.replicate 28 (.pool 0)

theorem not_forall_closed_after_final_reply : ¬ ∀ es e,
    Machine.Along step (fun k e => k.faultFree e = true) {} (es ++ [e]) →
    ∀ c, (run es).Closes e c →
      (beforeTerminate c es).flatten <+: ((run es).handlers c).written := by
  intro hall
  have hwritten := hall terminatedUnseen (.selector .ioException) (by decide +kernel) 0
    ⟨by decide +kernel, by decide +kernel⟩
  revert hwritten
  decide +kernel

theorem repliedInTime_written :
    (beforeTerminate 0 repliedInTime).flatten <+: ((run repliedInTime).handlers 0).written ∧
    ∀ pre msg, pre <+: repliedInTime → (run pre).FinalReply 0 msg →
      LineMessageEncoderDecoder.encode msg ∈ beforeTerminate 0 repliedInTime :=
  closed_after_final_reply repliedInTime (by decide +kernel) (.selector .ioException)
    (by decide +kernel) 0 ⟨by decide +kernel, by decide +kernel⟩

end Reactor

end WorldCupInformer
