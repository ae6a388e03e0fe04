import WorldCupInformer.Server.Isolation
import WorldCupInformer.Server.LineMessageEncoderDecoder

/-!
# The reactor (`Reactor`, `NonBlockingConnectionHandler`)

The selector thread runs the loop of `serve`: `select`, the tasks posted by other threads, the
selected keys; threads of the pool work off the buffers it has read, those of one handler in order
and one at a time.  A step is one operation that the other threads can see: a posted task, a read or
write of a channel, an emptiness check of a write queue, a look at a key.

A pool thread handles the frame of a message in one step and then makes the calls of the frame on
the handlers one operation at a time (`PoolOp`).

Of `java.nio`: closing a channel cancels its key; `keyFor` gives `null` once a later `select` has
deregistered the key; `interestOps` throws on a cancelled key, and `serve` catches neither that nor
the exception of a `null` key, so that the selector thread ends (`SelectorPc.failed`).

* `Reactor.run_server`: what the threads do to the registries is a run of the server.
-/

namespace WorldCupInformer

/-- The operations a key is interested in. -/
structure Ops where
  read : Bool
  write : Bool
  deriving DecidableEq

/-- `SelectionKey.OP_READ`. -/
def opRead : Ops := ⟨true, false⟩

/-- `SelectionKey.OP_READ | SelectionKey.OP_WRITE`. -/
def opReadWrite : Ops := ⟨true, true⟩

/-- An operation of a pool thread on a handler, given by its connection. -/
inductive PoolOp
  /-- `writeQueue.add` -/
  | enqueue (c : ℕ) (msg : Str)
  /-- `chan.keyFor(selector)` in `updateInterestedOps` -/
  | keyFor (c : ℕ)
  /-- `selectorTasks.add` of the task that sets the key to reading and writing -/
  | post (key : Option ℕ)
  /-- `protocol.terminate()` -/
  | terminate (c : ℕ)
  deriving DecidableEq

/-- `NonBlockingConnectionHandler.send` and `terminate`; the other calls are not about handlers. -/
def Call.ops : Call → List PoolOp
  | .send h msg => [.enqueue h.serial msg, .keyFor h.serial]
  | .terminate h => [.terminate h.serial]
  | _ => []

/-- A handler with its channel and key, the flag of its protocol object, and its pool state. -/
structure NonBlockingConnectionHandler where
  encdec : LineMessageEncoderDecoder := {}
  shouldTerminate : Bool := false
  writeQueue : List (List UInt8) := []
  /-- the channel has not been closed, and its key is valid -/
  isOpen : Bool := true
  /-- a `select` has taken the cancelled key from the channel -/
  deregistered : Bool := false
  interestOps : Ops := opRead
  /-- the bytes the channel has taken -/
  written : List UInt8 := []
  /-- the buffers submitted to the pool, less what has been decoded -/
  tasks : List (List UInt8) := []
  /-- what the pool thread does before it decodes the next byte -/
  todo : List PoolOp := []
  /-- the task ends with an exception after that -/
  throws : Bool := false

/-- A selected key with its ready operations. -/
inductive SelectedKey
  | accept
  | channel (c : ℕ) (readable writable : Bool)
  deriving DecidableEq

/-- The connection of a key; the server socket has none. -/
def SelectedKey.connection : SelectedKey → Option ℕ
  | .accept => none
  | .channel c _ _ => some c

/-- Where the selector thread is. -/
inductive SelectorPc
  /-- at `selector.select()` -/
  | select
  /-- in `runSelectionThreadTasks` -/
  | tasks (selected : List SelectedKey)
  /-- in the loop over the selected keys -/
  | keys (selected : List SelectedKey)
  /-- at `chan.read(buf)` in `continueRead` -/
  | read (c : ℕ) (writable : Bool) (rest : List SelectedKey)
  /-- at the second condition of `handleReadWrite` -/
  | readDone (c : ℕ) (writable : Bool) (rest : List SelectedKey)
  /-- at the condition of the loop of `continueWrite` -/
  | checkQueue (c : ℕ) (rest : List SelectedKey)
  /-- at `chan.write(top)` -/
  | write (c : ℕ) (rest : List SelectedKey)
  /-- at the emptiness check after the loop -/
  | checkEmpty (c : ℕ) (rest : List SelectedKey)
  /-- at `protocol.shouldTerminate()` -/
  | checkTerminate (c : ℕ) (rest : List SelectedKey)
  /-- at `reactor.updateInterestedOps(chan, SelectionKey.OP_READ)` -/
  | interestRead (c : ℕ) (rest : List SelectedKey)
  /-- `serve` has ended with an exception -/
  | failed
  deriving DecidableEq

/-- The connections of the keys the selector thread has selected and not left behind. -/
def SelectorPc.connections : SelectorPc → List ℕ
  | .select | .failed => []
  | .tasks selected | .keys selected => selected.filterMap SelectedKey.connection
  | .read c _ rest | .readDone c _ rest | .checkQueue c rest | .write c rest
  | .checkEmpty c rest | .checkTerminate c rest | .interestRead c rest =>
    c :: rest.filterMap SelectedKey.connection

/-- A task of `selectorTasks`: the key that was looked up, and what to set. -/
structure SelectorTask where
  key : Option ℕ
  ops : Ops
  deriving DecidableEq

/-- What a channel operation does.  Where a result does not fit the operation, it is an
`IOException`. -/
inductive IoResult
  | bytes (buf : List UInt8)
  | endOfStream
  | written (count : ℕ)
  | ioException
  deriving DecidableEq

/-- The server, its handlers by connection, and the selector thread. -/
structure Reactor where
  server : Server := {}
  handlers : ℕ → NonBlockingConnectionHandler := fun _ => {}
  selectorTasks : List SelectorTask := []
  pc : SelectorPc := .select

/-- A step of one of the threads. -/
inductive ReactorEvent
  /-- `select` returns with these keys -/
  | select (selected : List SelectedKey)
  /-- the next step of the selector thread; `result` is that of its channel operation, if it is at
  one -/
  | selector (result : IoResult)
  /-- the next step of the pool thread that works for the connection -/
  | pool (c : ℕ)
  deriving DecidableEq

namespace Reactor

/-- Change one handler. -/
def modify (k : Reactor) (c : ℕ) (f : NonBlockingConnectionHandler → NonBlockingConnectionHandler) :
    Reactor :=
  { k with handlers := Function.update k.handlers c (f (k.handlers c)) }

def setPc (k : Reactor) (pc : SelectorPc) : Reactor := { k with pc := pc }

def setTasks (k : Reactor) (tasks : List SelectorTask) : Reactor :=
  { k with selectorTasks := tasks }

/-- `NonBlockingConnectionHandler.close`. -/
def close (k : Reactor) (c : ℕ) : Reactor := k.modify c fun h => { h with isOpen := false }

/-- `chan.keyFor(selector)`. -/
def keyFor (k : Reactor) (c : ℕ) : Option ℕ :=
  if (k.handlers c).deregistered then none else some c

/-- `key.interestOps(ops)` on the selector thread. -/
def interestOps (k : Reactor) (key : Option ℕ) (ops : Ops) : Reactor :=
  match key with
  | none => k.setPc .failed
  | some c =>
    if (k.handlers c).isOpen then k.modify c fun h => { h with interestOps := ops }
    else k.setPc .failed

/-! ### The pool -/

/-- `protocol.process` of a message. -/
def process (k : Reactor) (c : ℕ) (message : Str) : Reactor :=
  { k.modify c fun h =>
      { h with
        todo := (k.server.handle (.message c message)).calls.flatMap Call.ops
        throws := (raised (WorldCupInformer.process c message) k.server.connections).isSome } with
    server := k.server.step (.message c message) }

/-- The task of `continueRead` goes on; an exception ends it, and what is left of its buffer is
lost. -/
def continueTask (k : Reactor) (c : ℕ) : Reactor :=
  if (k.handlers c).throws then
    k.modify c fun h => { h with tasks := h.tasks.tail, throws := false }
  else
    match (k.handlers c).tasks with
    | [] => k
    | [] :: tasks => k.modify c fun h => { h with tasks := tasks }
    | (b :: buf) :: tasks =>
      let decoded := (k.handlers c).encdec.decodeNextByte b
      let k' := k.modify c fun h => { h with encdec := decoded.1, tasks := buf :: tasks }
      match decoded.2 with
      | some nextMessage => k'.process c nextMessage
      | none => k'

/-- One operation of a pool thread. -/
def runOp (k : Reactor) (c : ℕ) : PoolOp → Reactor
  | .enqueue d msg =>
    k.modify d fun h =>
      { h with writeQueue := h.writeQueue ++ [LineMessageEncoderDecoder.encode msg] }
  | .keyFor d => k.modify c fun h => { h with todo := .post (k.keyFor d) :: h.todo }
  | .post key => k.setTasks (k.selectorTasks ++ [⟨key, opReadWrite⟩])
  | .terminate d => k.modify d fun h => { h with shouldTerminate := true }

/-- A step of the pool thread that works for the connection. -/
def poolStep (k : Reactor) (c : ℕ) : Reactor :=
  match (k.handlers c).todo with
  | op :: todo => (k.modify c fun h => { h with todo := todo }).runOp c op
  | [] => k.continueTask c

/-! ### The selector thread -/

/-- The key belongs to an open channel and is ready for something it is interested in. -/
def Ready (k : Reactor) : SelectedKey → Prop
  | .accept => True
  | .channel c readable writable =>
    c < k.server.accepted ∧ (k.handlers c).isOpen = true ∧ (readable || writable) = true ∧
      (readable = true → (k.handlers c).interestOps.read = true) ∧
      (writable = true → (k.handlers c).interestOps.write = true)

instance (k : Reactor) : DecidablePred k.Ready
  | .accept => isTrue trivial
  | .channel _ _ _ => inferInstanceAs (Decidable (_ ∧ _))

/-- What `select` can return: ready keys, each once. -/
def Selectable (k : Reactor) (selected : List SelectedKey) : Prop :=
  (selected.map SelectedKey.connection).Nodup ∧ ∀ key ∈ selected, k.Ready key

instance (k : Reactor) (selected : List SelectedKey) : Decidable (k.Selectable selected) :=
  inferInstanceAs (Decidable (_ ∧ _))

/-- `selector.select()`: cancelled keys are deregistered. -/
def select (k : Reactor) (selected : List SelectedKey) : Reactor :=
  { k with
    handlers := fun c => { k.handlers c with
      deregistered := (k.handlers c).deregistered || !(k.handlers c).isOpen }
    pc := .tasks selected }

/-- `handleAccept`. -/
def handleAccept (k : Reactor) : Reactor :=
  { k with
    server := k.server.step .accept
    handlers := Function.update k.handlers k.server.accepted {} }

/-- `chan.read(buf)` in `continueRead`, with what follows. -/
def continueRead (k : Reactor) (c : ℕ) : IoResult → Reactor
  | .bytes buf => k.modify c fun h => { h with tasks := h.tasks ++ [buf] }
  | _ => k.close c

/-- `chan.write(top)` in `continueWrite`, with what follows up to the next check.  The queue is not
empty here: only the selector thread takes buffers out. -/
def writeTop (k : Reactor) (c : ℕ) (rest : List SelectedKey) (result : IoResult) : Reactor :=
  match (k.handlers c).writeQueue, result, (k.handlers c).isOpen with
  | top :: queue, .written count, true =>
    let k' := k.modify c fun h =>
      { h with
        written := h.written ++ top.take count
        writeQueue := if top.drop count = [] then queue else top.drop count :: queue }
    if top.drop count = [] then k'.setPc (.checkQueue c rest) else k'.setPc (.keys rest)
  | _, _, _ => (k.close c).setPc (.checkQueue c rest)

/-- A step of the selector thread. -/
def selectorStep (k : Reactor) (result : IoResult) : Reactor :=
  match k.pc with
  | .select => k
  | .tasks selected =>
    match k.selectorTasks with
    | [] => k.setPc (.keys selected)
    | task :: tasks => (k.setTasks tasks).interestOps task.key task.ops
  | .keys [] => k.setPc .select
  | .keys (.accept :: rest) => k.handleAccept.setPc (.keys rest)
  | .keys (.channel c readable writable :: rest) =>
    if (k.handlers c).isOpen then
      if readable then k.setPc (.read c writable rest) else k.setPc (.readDone c writable rest)
    else k.setPc (.keys rest)
  | .read c writable rest => (k.continueRead c result).setPc (.readDone c writable rest)
  | .readDone c writable rest =>
    if (k.handlers c).isOpen && writable then k.setPc (.checkQueue c rest)
    else k.setPc (.keys rest)
  | .checkQueue c rest =>
    if (k.handlers c).writeQueue = [] then k.setPc (.checkEmpty c rest)
    else k.setPc (.write c rest)
  | .write c rest => k.writeTop c rest result
  | .checkEmpty c rest =>
    if (k.handlers c).writeQueue = [] then k.setPc (.checkTerminate c rest)
    else k.setPc (.keys rest)
  | .checkTerminate c rest =>
    if (k.handlers c).shouldTerminate then (k.close c).setPc (.keys rest)
    else k.setPc (.interestRead c rest)
  | .interestRead c rest => (k.setPc (.keys rest)).interestOps (k.keyFor c) opRead
  | .failed => k

/-- One step; a step that its thread cannot make changes nothing. -/
def step (k : Reactor) : ReactorEvent → Reactor
  | .select selected => if k.pc = .select ∧ k.Selectable selected then k.select selected else k
  | .selector result => k.selectorStep result
  | .pool c => k.poolStep c

/-- The reactor after the events. -/
def run (es : List ReactorEvent) : Reactor := Machine.run step {} es

/-! ### The registries -/

/-- What a step does to the registries. -/
def serverEvent (k : Reactor) : ReactorEvent → Option Event
  | .select _ => none
  | .selector _ =>
    match k.pc with
    | .keys (.accept :: _) => some .accept
    | _ => none
  | .pool c =>
    match (k.handlers c).todo, (k.handlers c).throws, (k.handlers c).tasks with
    | [], false, (b :: _) :: _ => ((k.handlers c).encdec.decodeNextByte b).2.map (.message c)
    | _, _, _ => none

/-- The frames and the accepted connections of a run, in order. -/
def serverEvents (es : List ReactorEvent) : List Event := Machine.trace step serverEvent {} es

section Fields

variable (k : Reactor) (c d : ℕ) (f : NonBlockingConnectionHandler → NonBlockingConnectionHandler)
  (pc : SelectorPc)

@[simp] theorem modify_server : (k.modify c f).server = k.server := rfl

@[simp] theorem modify_pc : (k.modify c f).pc = k.pc := rfl

@[simp] theorem modify_selectorTasks : (k.modify c f).selectorTasks = k.selectorTasks := rfl

@[simp] theorem modify_self : (k.modify c f).handlers c = f (k.handlers c) :=
  Function.update_self ..

theorem modify_other {c d : ℕ} (h : d ≠ c) : (k.modify c f).handlers d = k.handlers d :=
  Function.update_of_ne h ..

@[simp] theorem setPc_server : (k.setPc pc).server = k.server := rfl

@[simp] theorem setPc_handlers : (k.setPc pc).handlers = k.handlers := rfl

@[simp] theorem setPc_selectorTasks : (k.setPc pc).selectorTasks = k.selectorTasks := rfl

@[simp] theorem setPc_pc : (k.setPc pc).pc = pc := rfl

@[simp] theorem setTasks_server (tasks : List SelectorTask) :
    (k.setTasks tasks).server = k.server := rfl

@[simp] theorem setTasks_handlers (tasks : List SelectorTask) :
    (k.setTasks tasks).handlers = k.handlers := rfl

@[simp] theorem setTasks_pc (tasks : List SelectorTask) : (k.setTasks tasks).pc = k.pc := rfl

@[simp] theorem setTasks_selectorTasks (tasks : List SelectorTask) :
    (k.setTasks tasks).selectorTasks = tasks := rfl

@[simp] theorem interestOps_server (key : Option ℕ) (ops : Ops) :
    (k.interestOps key ops).server = k.server := by
  unfold interestOps
  split
  · rfl
  · split_ifs <;> rfl

@[simp] theorem runOp_server (op : PoolOp) : (k.runOp c op).server = k.server := by
  cases op <;> rfl

@[simp] theorem writeTop_server (rest : List SelectedKey) (result : IoResult) :
    (k.writeTop c rest result).server = k.server := by
  unfold writeTop
  split
  · dsimp only
    split_ifs <;> rfl
  · rfl

@[simp] theorem continueRead_server (result : IoResult) :
    (k.continueRead c result).server = k.server := by
  cases result <;> rfl

end Fields

theorem selectorStep_server (k : Reactor) (result : IoResult) :
    (k.selectorStep result).server =
      Machine.run Server.step k.server (k.serverEvent (.selector result)).toList := by
  unfold selectorStep serverEvent
  cases hpc : k.pc with
  | tasks selected => cases htasks : k.selectorTasks <;> simp
  | keys selected =>
    cases selected with
    | nil => rfl
    | cons key rest =>
      cases key with
      | accept => rfl
      | channel c readable writable => dsimp only; split_ifs <;> rfl
  | read c writable rest => simp
  | readDone c writable rest => dsimp only; split_ifs <;> rfl
  | checkQueue c rest => dsimp only; split_ifs <;> rfl
  | write c rest => simp
  | checkEmpty c rest => dsimp only; split_ifs <;> rfl
  | checkTerminate c rest => dsimp only; split_ifs <;> rfl
  | interestRead c rest => simp
  | _ => rfl

theorem poolStep_server (k : Reactor) (c : ℕ) : (k.poolStep c).server =
    Machine.run Server.step k.server (k.serverEvent (.pool c)).toList := by
  unfold poolStep serverEvent
  cases htodo : (k.handlers c).todo with
  | cons op todo => simp [htodo]
  | nil =>
    unfold continueTask
    cases hthrows : (k.handlers c).throws with
    | true => simp [htodo, hthrows]
    | false =>
      cases htasks : (k.handlers c).tasks with
      | nil => simp [htodo, hthrows, htasks]
      | cons buf tasks =>
        cases buf with
        | nil => simp [htodo, hthrows, htasks]
        | cons b buf =>
          cases hmsg : ((k.handlers c).encdec.decodeNextByte b).2 <;>
            simp [htodo, hthrows, htasks, hmsg, process]

theorem step_server (k : Reactor) (e : ReactorEvent) :
    (k.step e).server = Machine.run Server.step k.server (k.serverEvent e).toList := by
  cases e with
  | select selected => simp only [step]; split_ifs <;> rfl
  | selector result => exact k.selectorStep_server result
  | pool c => exact k.poolStep_server c

/-- **What the threads do to the registries is a run of the server.** -/
theorem run_server (es : List ReactorEvent) :
    (run es).server = Server.atServer (serverEvents es) :=
  Machine.run_trace step_server {} es

/-! ### The selected connections -/

theorem interestOps_pc (k : Reactor) (key : Option ℕ) (ops : Ops) :
    (k.interestOps key ops).pc = k.pc ∨ (k.interestOps key ops).pc = .failed := by
  unfold interestOps
  split
  · exact .inr rfl
  · split_ifs
    · exact .inl rfl
    · exact .inr rfl

theorem writeTop_pc (k : Reactor) (c : ℕ) (rest : List SelectedKey) (result : IoResult) :
    (k.writeTop c rest result).pc = .checkQueue c rest ∨
      (k.writeTop c rest result).pc = .keys rest := by
  unfold writeTop
  split
  · dsimp only
    split_ifs
    · exact .inl rfl
    · exact .inr rfl
  · exact .inl rfl

/-- Apart from `select`, no step selects a connection. -/
theorem selectorStep_connections (k : Reactor) (result : IoResult) :
    (k.selectorStep result).pc.connections ⊆ k.pc.connections := by
  unfold selectorStep
  cases hpc : k.pc with
  | select => simp [hpc]
  | failed => simp [hpc]
  | tasks selected =>
    cases k.selectorTasks with
    | nil => simp [SelectorPc.connections]
    | cons task tasks =>
      rcases interestOps_pc (k.setTasks tasks) task.key task.ops with h | h <;>
        simp [h, hpc, SelectorPc.connections]
  | keys selected =>
    cases selected with
    | nil => simp [SelectorPc.connections]
    | cons key rest =>
      cases key with
      | accept => simp [SelectorPc.connections, SelectedKey.connection, List.filterMap_cons]
      | channel c readable writable =>
        dsimp only
        split_ifs <;> simp [SelectorPc.connections, SelectedKey.connection]
  | read c writable rest => simp [SelectorPc.connections]
  | readDone c writable rest => dsimp only; split_ifs <;> simp [SelectorPc.connections]
  | checkQueue c rest => dsimp only; split_ifs <;> simp [SelectorPc.connections]
  | write c rest =>
    rcases k.writeTop_pc c rest result with h | h <;> simp [h, SelectorPc.connections]
  | checkEmpty c rest => dsimp only; split_ifs <;> simp [SelectorPc.connections]
  | checkTerminate c rest => dsimp only; split_ifs <;> simp [SelectorPc.connections]
  | interestRead c rest =>
    rcases (k.setPc (.keys rest)).interestOps_pc (k.keyFor c) opRead with h | h <;>
      simp [h, SelectorPc.connections]

@[simp] theorem runOp_pc (k : Reactor) (c : ℕ) (op : PoolOp) : (k.runOp c op).pc = k.pc := by
  cases op <;> rfl

@[simp] theorem poolStep_pc (k : Reactor) (c : ℕ) : (k.poolStep c).pc = k.pc := by
  unfold poolStep
  split
  · simp
  · unfold continueTask
    split_ifs
    · rfl
    · split
      · rfl
      · rfl
      · dsimp only
        split <;> rfl

/-- The selected connections have been accepted. -/
def SelectedAccepted (k : Reactor) : Prop := ∀ c ∈ k.pc.connections, c < k.server.accepted

theorem accepted_mono (k : Reactor) (e : ReactorEvent) :
    k.server.accepted ≤ (k.step e).server.accepted := by
  rw [step_server]
  cases hev : k.serverEvent e with
  | none => simp
  | some ev => cases ev <;> simp [Server.step_accept]

theorem SelectedAccepted.step {k : Reactor} (hk : k.SelectedAccepted) (e : ReactorEvent) :
    (k.step e).SelectedAccepted := by
  intro c hc
  cases e with
  | select selected =>
    simp only [Reactor.step] at hc ⊢
    split_ifs at hc ⊢ with hsel
    · obtain ⟨key, hkey, hconn⟩ := List.mem_filterMap.1 hc
      cases key with
      | accept => cases hconn
      | channel c' readable writable =>
        cases hconn
        exact (hsel.2.2 _ hkey).1
    · exact hk c hc
  | selector result =>
    exact (hk c (k.selectorStep_connections result hc)).trans_le
      (k.accepted_mono (.selector result))
  | pool d =>
    have hpc : (k.step (.pool d)).pc = k.pc := k.poolStep_pc d
    rw [hpc] at hc
    exact (hk c hc).trans_le (k.accepted_mono (.pool d))

theorem accepted_of_mem {es : List ReactorEvent} {c : ℕ} (hc : c ∈ (run es).pc.connections) :
    c < (run es).server.accepted := by
  have hinit : SelectedAccepted {} := fun c hc => absurd hc List.not_mem_nil
  have hrun : (run es).SelectedAccepted :=
    Machine.run_invariant (I := SelectedAccepted) (fun _ e hk => hk.step e) hinit es
  exact hrun c hc

end Reactor

end WorldCupInformer
