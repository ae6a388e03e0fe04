import WorldCupInformer.Server.BlockingConnectionHandler
import WorldCupInformer.Server.ReactorStreams

/-!
# The streams of the thread-per-client server (`Server.threadPerClient`)

The threads of `BaseServer` with the streams of their sockets.  A thread handles the frame of a
message in one step and then makes the calls of the frame: `send` of a handler, by whatever thread,
is a `write` to the `BufferedOutputStream` of the handler and, unless that throws, a `flush`; each
of the two is one step (both are synchronized), and nothing keeps them together.  The flags that
only the own thread of a handler reads change with the frame.

* `ThreadPerClient.run_base`: what the threads do is a run of `BaseServer`;
* `ThreadPerClient.out_ready`: no `send` finds the field `out` still `null`;
* `ThreadPerClient.output_merges`: what a socket has taken are the frames sent to its connection,
  those of each sender in order; when no call is under way, it has taken all of them.
-/

namespace WorldCupInformer

open LineMessageEncoderDecoder

/-! ### A buffered stream -/

/-- The size of the buffer. -/
def streamSize : ℕ := 8192

/-- A `BufferedOutputStream` and the socket under it. -/
structure BufferedOutputStream where
  buf : List UInt8 := []
  /-- the bytes that the socket has taken -/
  written : List UInt8 := []
  /-- a write to the socket has failed, or the socket has been closed; later writes fail, too -/
  broken : Bool := false
  deriving DecidableEq

namespace BufferedOutputStream

/-- The socket is to take `bytes`, and then `rest` is in the buffer.  `failure` is the number of
bytes after which an `IOException` comes, if one does. -/
def hand (o : BufferedOutputStream) (bytes rest : List UInt8) (failure : Option ℕ) :
    BufferedOutputStream × Bool :=
  if o.broken then (o, false)
  else
    match failure with
    | none => ({ o with buf := rest, written := o.written ++ bytes }, true)
    | some n =>
      -- an exception in `flushBuffer` leaves `count` as it is
      ({ buf := if n < o.buf.length then o.buf else []
         written := o.written ++ bytes.take n
         broken := true }, false)

/-- `write`, and whether it returns. -/
def write (o : BufferedOutputStream) (bytes : List UInt8) (failure : Option ℕ) :
    BufferedOutputStream × Bool :=
  -- a long array goes past the buffer, and a short one for which there is no room empties it
  if streamSize ≤ bytes.length then o.hand (o.buf ++ bytes) [] failure
  else if streamSize - o.buf.length < bytes.length then o.hand o.buf bytes failure
  else ({ o with buf := o.buf ++ bytes }, true)

/-- `flush`, and whether it returns. -/
def flush (o : BufferedOutputStream) (failure : Option ℕ) : BufferedOutputStream × Bool :=
  if o.buf = [] then (o, true) else o.hand o.buf [] failure

/-- The stream has been given `bytes`: its socket has taken the first of them, and the buffer has
the others, as long as the socket works. -/
structure Carries (o : BufferedOutputStream) (bytes : List UInt8) : Prop where
  written : o.written <+: bytes
  rest : o.broken = false → o.written ++ o.buf = bytes

variable {o : BufferedOutputStream} {bytes given : List UInt8}

theorem Carries.hand (h : o.Carries given) {out rest : List UInt8}
    (hbytes : out ++ rest = o.buf ++ bytes) (failure : Option ℕ) :
    (o.hand out rest failure).1.Carries (given ++ bytes) := by
  unfold BufferedOutputStream.hand
  split_ifs with hbroken
  · exact ⟨h.written.trans (List.prefix_append _ _), fun hworks => by simp [hbroken] at hworks⟩
  · have hgiven : o.written ++ (out ++ rest) = given ++ bytes := by
      rw [hbytes, ← List.append_assoc, h.rest (by simpa using hbroken)]
    cases failure with
    | none => exact ⟨⟨rest, by rw [← hgiven, List.append_assoc]⟩,
        fun _ => by rw [← hgiven, List.append_assoc]⟩
    | some n =>
      refine ⟨?_, fun hworks => by cases hworks⟩
      rw [← hgiven]
      refine List.prefix_append_right_inj _ |>.2 ?_
      exact (List.take_prefix n out).trans (List.prefix_append out rest)

theorem Carries.write (h : o.Carries given) (bytes : List UInt8) (failure : Option ℕ) :
    (o.write bytes failure).1.Carries (given ++ bytes) := by
  unfold BufferedOutputStream.write
  split_ifs
  · exact h.hand (List.append_nil _) failure
  · exact h.hand rfl failure
  · refine ⟨h.written.trans (List.prefix_append _ _), fun hworks => ?_⟩
    rw [← h.rest hworks, List.append_assoc]

theorem Carries.flush (h : o.Carries given) (failure : Option ℕ) :
    (o.flush failure).1.Carries given := by
  unfold BufferedOutputStream.flush
  split_ifs
  · exact h
  · have hbytes : o.buf ++ [] = o.buf ++ [] := rfl
    have hhand := h.hand hbytes failure
    rwa [List.append_nil] at hhand

/-- After a `flush` nothing is left in the buffer of a stream that works. -/
theorem buf_flush (o : BufferedOutputStream) (failure : Option ℕ) :
    (o.flush failure).1.buf = [] ∨ (o.flush failure).1.broken = true := by
  unfold BufferedOutputStream.flush BufferedOutputStream.hand
  split_ifs with hbuf hbroken
  · exact .inl hbuf
  · exact .inr hbroken
  · cases failure with
    | none => exact .inl rfl
    | some n => exact .inr rfl

/-- A `write` that throws leaves a broken stream. -/
theorem broken_of_write {failure : Option ℕ} (h : (o.write bytes failure).2 = false) :
    (o.write bytes failure).1.broken = true := by
  have hhand : ∀ out rest : List UInt8, (o.hand out rest failure).2 = false →
      (o.hand out rest failure).1.broken = true := by
    intro out rest
    unfold BufferedOutputStream.hand
    split_ifs with hbroken
    · exact fun _ => hbroken
    · cases failure <;> simp
  unfold BufferedOutputStream.write at h ⊢
  split_ifs at h ⊢
  · exact hhand _ _ h
  · exact hhand _ _ h

end BufferedOutputStream

/-! ### The threads -/

/-- What a thread does next for a `send` to connection `d`. -/
inductive SendOp
  /-- `out.write(encdec.encode(msg))` -/
  | write (d : ℕ) (msg : Str)
  /-- `out.flush()` -/
  | flush (d : ℕ)
  deriving DecidableEq

/-- The connection whose stream the operation is for. -/
def SendOp.recipient : SendOp → ℕ
  | .write d _ | .flush d => d

/-- What an operation is to send to connection `d`. -/
def SendOp.textFor (d : ℕ) : SendOp → Option Str
  | .write e msg => if e = d then some msg else none
  | .flush _ => none

/-- An operation on its stream, and whether it returns. -/
def SendOp.perform (op : SendOp) (o : BufferedOutputStream) (failure : Option ℕ) :
    BufferedOutputStream × Bool :=
  match op with
  | .write _ msg => o.write (encode msg) failure
  | .flush _ => o.flush failure

/-- What `send` does after an operation. -/
def SendOp.next (op : SendOp) (returned : Bool) : List SendOp :=
  match op with
  | .write d _ => if returned then [.flush d] else []
  | .flush _ => []

/-- `BlockingConnectionHandler.send`; the other calls are not about streams. -/
def Call.sendOps : Call → List SendOp
  | .send h msg => [.write h.serial msg]
  | _ => []

/-- The field `out` of a handler, and the calls that its thread has still to make. -/
structure ClientThread where
  out : Option BufferedOutputStream := none
  todo : List SendOp := []

/-- The threads of the server. -/
structure ThreadPerClient where
  base : BaseServer := {}
  threads : ℕ → ClientThread := fun _ => {}

/-- A step of one of the threads. -/
inductive ThreadStep
  /-- of the accepting loop, or of the loop of `run` -/
  | loop (e : ThreadEvent)
  /-- `run` has made `in` and `out` -/
  | start (c : ℕ)
  /-- the next operation of a `send`; an `IOException` may come after some bytes -/
  | op (c : ℕ) (failure : Option ℕ)
  /-- an exception of `process` has left `run`, which closes the socket -/
  | unwind (c : ℕ)
  deriving DecidableEq

namespace ThreadPerClient

open BaseServer (Running Reading)

/-- Change one thread. -/
def modify (k : ThreadPerClient) (c : ℕ) (f : ClientThread → ClientThread) : ThreadPerClient :=
  { k with threads := Function.update k.threads c (f (k.threads c)) }

/-- `sock.close()`. -/
def closeSocket (k : ThreadPerClient) (c : ℕ) : ThreadPerClient :=
  k.modify c fun t => { t with out := t.out.map fun o => { o with broken := true } }

/-- The thread is in the loop of `run`. -/
def AtLoop (k : ThreadPerClient) (c : ℕ) : Prop :=
  (k.threads c).out.isSome = true ∧ (k.threads c).todo = []

instance (k : ThreadPerClient) (c : ℕ) : Decidable (k.AtLoop c) :=
  inferInstanceAs (Decidable (_ ∧ _))

/-- The thread can make this step of its loop; the streams of the socket may fail before the loop,
too. -/
def Enabled (k : ThreadPerClient) : ThreadEvent → Prop
  | .accept => True
  | .byte c _ => k.base.Reading c ∧ k.AtLoop c
  | .endOfStream c => k.base.Reading c ∧ k.AtLoop c
  | .ioException c => k.base.Reading c ∧ (k.threads c).todo = []
  | .leave c => (k.base.Running c ∧ ¬ k.base.Reading c) ∧ k.AtLoop c

instance (k : ThreadPerClient) : DecidablePred k.Enabled
  | .accept => isTrue trivial
  | .byte _ _ | .endOfStream _ | .ioException _ | .leave _ => inferInstanceAs (Decidable (_ ∧ _))

/-- What the frame of a message is to send. -/
def sendOps (k : ThreadPerClient) (c : ℕ) (message : Str) : List SendOp :=
  (k.base.server.handle (.message c message)).calls.flatMap Call.sendOps

/-- A step of a loop. -/
def loopStep (k : ThreadPerClient) (e : ThreadEvent) : ThreadPerClient :=
  let k' : ThreadPerClient := { k with base := k.base.step e }
  match e with
  -- the handler is registered before its thread has started
  | .accept => k'.modify k.base.server.accepted fun _ => {}
  | .byte c b =>
    match ((k.base.handlers c).encdec.decodeNextByte b).2 with
    | some message => k'.modify c fun t => { t with todo := k.sendOps c message }
    | none => k'
  -- `close()`, or the end of the `try` with its socket
  | .endOfStream c | .ioException c | .leave c => k'.closeSocket c

/-- An operation of a `send`.  A `null` stream would end the frame with an exception. -/
def runOp (k : ThreadPerClient) (c : ℕ) (op : SendOp) (todo : List SendOp)
    (failure : Option ℕ) : ThreadPerClient :=
  match (k.threads op.recipient).out with
  | none => k.modify c fun t => { t with todo := [] }
  | some o =>
    let result := op.perform o failure
    (k.modify c fun t => { t with todo := op.next result.2 ++ todo }).modify op.recipient
      fun t => { t with out := some result.1 }

/-- One step; a step that its thread cannot make changes nothing. -/
def step (k : ThreadPerClient) : ThreadStep → ThreadPerClient
  | .loop e => if k.Enabled e then k.loopStep e else k
  | .start c =>
    if k.base.Running c ∧ (k.threads c).out = none then
      k.modify c fun t => { t with out := some {} }
    else k
  | .op c failure =>
    match (k.threads c).todo with
    | op :: todo => k.runOp c op todo failure
    | [] => k
  | .unwind c =>
    if (k.base.handlers c).running = false ∧ (k.threads c).todo = [] then k.closeSocket c else k

/-- The server after the steps. -/
def run (es : List ThreadStep) : ThreadPerClient := Machine.run step {} es

/-! ### The loops -/

/-- What a step does in `BaseServer`. -/
def baseEvent (k : ThreadPerClient) : ThreadStep → Option ThreadEvent
  | .loop e => if k.Enabled e then some e else none
  | _ => none

/-- The steps of the loops, in order. -/
def baseEvents (es : List ThreadStep) : List ThreadEvent := Machine.trace step baseEvent {} es

section Fields

variable {k : ThreadPerClient} {c d : ℕ}

@[simp] theorem modify_base (f : ClientThread → ClientThread) : (k.modify c f).base = k.base := rfl

@[simp] theorem closeSocket_base : (k.closeSocket c).base = k.base := rfl

theorem threads_modify (f : ClientThread → ClientThread) (d : ℕ) :
    (k.modify c f).threads d = if d = c then f (k.threads c) else k.threads d :=
  Function.update_apply ..

@[simp] theorem loopStep_base (e : ThreadEvent) : (k.loopStep e).base = k.base.step e := by
  unfold loopStep
  cases e with
  | byte c b =>
    dsimp only
    split <;> rfl
  | _ => rfl

@[simp] theorem runOp_base (op : SendOp) (todo : List SendOp) (failure : Option ℕ) :
    (k.runOp c op todo failure).base = k.base := by
  unfold runOp
  split <;> rfl

end Fields

theorem step_base (k : ThreadPerClient) (e : ThreadStep) :
    (k.step e).base = Machine.run BaseServer.step k.base (k.baseEvent e).toList := by
  cases e with
  | loop e =>
    simp only [step, baseEvent]
    split_ifs <;> simp
  | start c =>
    simp only [step]
    split_ifs <;> rfl
  | op c failure =>
    simp only [step]
    split
    · simp [baseEvent]
    · rfl
  | unwind c =>
    simp only [step]
    split_ifs <;> rfl

/-- **What the threads do is a run of `BaseServer`.** -/
theorem run_base (es : List ThreadStep) : (run es).base = BaseServer.run (baseEvents es) :=
  Machine.run_trace step_base {} es

/-- What a step does to the registries. -/
def serverEvent (k : ThreadPerClient) (e : ThreadStep) : Option Event :=
  (k.baseEvent e).bind k.base.serverEvent

/-- The frames and the accepted connections of a run, in order. -/
def serverEvents (es : List ThreadStep) : List Event := Machine.trace step serverEvent {} es

theorem step_server (k : ThreadPerClient) (e : ThreadStep) : (k.step e).base.server =
    Machine.run Server.step k.base.server (k.serverEvent e).toList := by
  rw [step_base, serverEvent]
  cases k.baseEvent e with
  | none => rfl
  | some event => exact k.base.step_server event

theorem accepted_mono (k : ThreadPerClient) (e : ThreadStep) :
    k.base.server.accepted ≤ (k.step e).base.server.accepted := by
  rw [step_server]
  cases k.serverEvent e with
  | none => exact le_rfl
  | some ev => cases ev <;> simp [Server.step_accept]

theorem run_server (es : List ThreadStep) :
    (run es).base.server = Server.atServer (serverEvents es) :=
  Machine.run_trace (f := fun k : ThreadPerClient => k.base.server) step_server {} es

theorem serverEvents_concat (es : List ThreadStep) (e : ThreadStep) :
    serverEvents (es ++ [e]) = serverEvents es ++ ((run es).serverEvent e).toList := by
  simp [serverEvents, run, Machine.trace_append]

theorem run_concat (es : List ThreadStep) (e : ThreadStep) :
    run (es ++ [e]) = (run es).step e := by simp [run]

/-! ### The streams are there -/

/-- The stream of the connection has been made. -/
def Started (k : ThreadPerClient) (c : ℕ) : Prop := (k.threads c).out.isSome = true

/-- Where frames are sent to, the stream has been made. -/
structure Ready (k : ThreadPerClient) : Prop where
  wellFormed : k.base.server.WellFormed
  fresh : ∀ c, k.base.server.accepted ≤ c → k.threads c = {}
  subscribed : ∀ t h id, k.base.server.connections.entry t h = some id → k.Started h.serial
  ops : ∀ c, ∀ op ∈ (k.threads c).todo, k.Started op.recipient

end ThreadPerClient

/-- A frame is sent to its sender, or to subscribers of its topic. -/
theorem Effect.recipient {s : ConnectionsImp} {c : ℕ} {hd : HeaderTable} {e : Exec}
    (he : Effect s c hd e) {d : ConnectionHandler} {m : Str} (hm : Call.send d m ∈ e.calls) :
    s.idToHandler.lookup c = some d ∨ ∃ t id, s.entry t d = some id := by
  have hreceipt : ∀ {h r}, Call.send d m ∈ receiptCalls h r → d = h := by
    intro h r hmem
    cases r with
    | none => exact absurd hmem List.not_mem_nil
    | some r => exact (Call.send.inj (List.mem_singleton.1 hmem)).1
  cases he with
  | rejected hreg hrej =>
    obtain ⟨rfl, -⟩ := hrej.mem_calls hm
    exact .inl hreg
  | connected hreg =>
    rcases List.mem_cons.1 hm with heq | hm
    · cases heq
      exact .inl hreg
    · exact .inl (hreceipt hm ▸ hreg)
  | disconnected hreg =>
    simp only [List.mem_cons, Call.send.injEq, reduceCtorEq, List.not_mem_nil, or_false] at hm
    exact .inl (hm.1 ▸ hreg)
  | @broadcast h t body hreg =>
    rcases List.mem_append.1 hm with hm | hm
    · obtain ⟨d', hd', heq⟩ := List.mem_map.1 hm
      cases heq
      exact .inr ⟨t, Option.ne_none_iff_exists'.1 (ConnectionsImp.mem_clientsOf.1 hd')⟩
    · exact .inl (hreceipt hm ▸ hreg)
  | subscribed hreg => exact .inl (hreceipt (List.mem_of_ne_of_mem (by simp) hm) ▸ hreg)
  | unsubscribed hreg => exact .inl (hreceipt (List.mem_of_ne_of_mem (by simp) hm) ▸ hreg)
  | _ => exact absurd hm List.not_mem_nil

namespace ThreadPerClient

variable {k : ThreadPerClient} {c d : ℕ}

/-- The frame that a step writes to a stream. -/
def written (k : ThreadPerClient) : ThreadStep → Option Outgoing
  | .op c _ =>
    match (k.threads c).todo with
    | .write d msg :: _ => some ⟨c, d, msg⟩
    | _ => none
  | _ => none

/-- What a step does in the registries, the frame it writes, and the threads after it. -/
inductive Move (k : ThreadPerClient) : Option Event → Option Outgoing → (ℕ → ClientThread) → Prop
  | idle : Move k none none k.threads
  | accepted : Move k (some .accept) none k.threads
  | message (c : ℕ) (m : Str) (hloop : k.AtLoop c) :
      Move k (some (.message c m)) none
        (Function.update k.threads c { k.threads c with todo := k.sendOps c m })
  | started (c : ℕ) (haccepted : c < k.base.server.accepted) (hnull : (k.threads c).out = none) :
      Move k none none (Function.update k.threads c { k.threads c with out := some {} })
  | closed (c : ℕ) : Move k none none (k.closeSocket c).threads
  | op (c : ℕ) (op : SendOp) (todo : List SendOp) (failure : Option ℕ) (o : BufferedOutputStream)
      (htodo : (k.threads c).todo = op :: todo) (hout : (k.threads op.recipient).out = some o) :
      Move k none (k.written (.op c failure)) (k.runOp c op todo failure).threads

/-- **What a step can do**, where frames are sent to streams that have been made. -/
theorem Ready.move (hk : k.Ready) (e : ThreadStep) :
    Move k (k.serverEvent e) (k.written e) (k.step e).threads := by
  cases e with
  | loop e =>
    by_cases henabled : k.Enabled e
    · have hstep : k.step (.loop e) = k.loopStep e := if_pos henabled
      have hevent : k.serverEvent (.loop e) = k.base.serverEvent e := by
        simp [serverEvent, baseEvent, henabled]
      rw [hstep, hevent]
      cases e with
      | accept =>
        have hthreads : (k.loopStep .accept).threads = k.threads := by
          rw [← Function.update_eq_self k.base.server.accepted k.threads, hk.fresh _ le_rfl]
          rfl
        rw [hthreads]
        exact .accepted
      | byte c b =>
        simp only [BaseServer.serverEvent, if_pos henabled.1, loopStep]
        cases ((k.base.handlers c).encdec.decodeNextByte b).2 with
        | none => exact .idle
        | some m => exact .message c m henabled.2
      | endOfStream c => exact .closed c
      | ioException c => exact .closed c
      | leave c => exact .closed c
    · have hstep : k.step (.loop e) = k := if_neg henabled
      have hevent : k.serverEvent (.loop e) = none := by simp [serverEvent, baseEvent, henabled]
      rw [hstep, hevent]
      exact .idle
  | start c =>
    simp only [step]
    split_ifs with hstart
    · exact .started c hstart.1.1 hstart.2
    · exact .idle
  | op c failure =>
    cases htodo : (k.threads c).todo with
    | nil =>
      have hwritten : k.written (.op c failure) = none := by simp [written, htodo]
      rw [hwritten]
      simp only [step, htodo]
      exact .idle
    | cons op todo =>
      -- here a stream that is null would throw
      have hstarted := hk.ops c op (htodo ▸ List.mem_cons_self)
      obtain ⟨o, hout⟩ := Option.isSome_iff_exists.1 hstarted
      simp only [step, htodo]
      exact .op c op todo failure o htodo hout
  | unwind c =>
    simp only [step]
    split_ifs
    · exact .closed c
    · exact .idle

theorem runOp_of_out {op : SendOp} {o : BufferedOutputStream}
    (hout : (k.threads op.recipient).out = some o) (todo : List SendOp) (failure : Option ℕ) :
    k.runOp c op todo failure =
      (k.modify c fun t => { t with todo := op.next (op.perform o failure).2 ++ todo }).modify
        op.recipient fun t => { t with out := some (op.perform o failure).1 } := by
  unfold runOp
  rw [hout]

theorem out_runOp {op : SendOp} {o : BufferedOutputStream}
    (hout : (k.threads op.recipient).out = some o) (todo : List SendOp) (failure : Option ℕ)
    (d : ℕ) : ((k.runOp c op todo failure).threads d).out =
      if d = op.recipient then some (op.perform o failure).1 else (k.threads d).out := by
  rw [runOp_of_out hout, threads_modify]
  split_ifs with hd
  · rfl
  · rw [threads_modify]
    split_ifs with hc
    · rw [hc]
    · rfl

theorem todo_runOp {op : SendOp} {o : BufferedOutputStream}
    (hout : (k.threads op.recipient).out = some o) (todo : List SendOp) (failure : Option ℕ)
    (d : ℕ) : ((k.runOp c op todo failure).threads d).todo =
      if d = c then op.next (op.perform o failure).2 ++ todo else (k.threads d).todo := by
  have hinner : ∀ i, ((k.modify c fun t =>
      { t with todo := op.next (op.perform o failure).2 ++ todo }).threads i).todo =
        if i = c then op.next (op.perform o failure).2 ++ todo else (k.threads i).todo := by
    intro i
    rw [threads_modify]
    split_ifs <;> rfl
  rw [runOp_of_out hout, threads_modify]
  split_ifs with hd hc hc
  · simp [hinner, ← hd, hc]
  · simp [hinner, ← hd, hc]
  · simp [hinner, hc]
  · simp [hinner, hc]

theorem out_closeSocket (k : ThreadPerClient) (c d : ℕ) : ((k.closeSocket c).threads d).out =
    if d = c then (k.threads d).out.map fun o => { o with broken := true }
    else (k.threads d).out := by
  rw [closeSocket, threads_modify]
  split_ifs with hd
  · rw [hd]
  · rfl

theorem todo_closeSocket (k : ThreadPerClient) (c d : ℕ) :
    ((k.closeSocket c).threads d).todo = (k.threads d).todo := by
  rw [closeSocket, threads_modify]
  split_ifs with hd
  · rw [hd]
  · rfl

section Moves

variable {ev : Option Event} {x : Option Outgoing} {threads' : ℕ → ClientThread}

/-- A stream that has been made stays. -/
theorem Move.started_mono (h : Move k ev x threads') (hd : k.Started d) :
    (threads' d).out.isSome = true := by
  cases h with
  | idle => exact hd
  | accepted => exact hd
  | message c m =>
    rw [Function.update_apply]
    split_ifs with hc
    · exact hc ▸ hd
    · exact hd
  | started c =>
    rw [Function.update_apply]
    split_ifs
    · rfl
    · exact hd
  | closed c =>
    rw [out_closeSocket]
    split_ifs
    · rwa [Option.isSome_map]
    · exact hd
  | op c op todo failure o htodo hout =>
    rw [out_runOp hout]
    split_ifs
    · rfl
    · exact hd

/-- What is still to be done was to be done before, or is what a message sends. -/
theorem Move.mem_todo (h : Move k ev x threads') {op : SendOp} (hop : op ∈ (threads' d).todo) :
    op ∈ (k.threads d).todo ∨ (∃ op' ∈ (k.threads d).todo, op'.recipient = op.recipient) ∨
      ∃ m, ev = some (.message d m) ∧ k.AtLoop d ∧ op ∈ k.sendOps d m := by
  cases h with
  | idle => exact .inl hop
  | accepted => exact .inl hop
  | message c m hloop =>
    rw [Function.update_apply] at hop
    split_ifs at hop with hd
    · subst hd
      exact .inr (.inr ⟨m, rfl, hloop, hop⟩)
    · exact .inl hop
  | started c =>
    rw [Function.update_apply] at hop
    split_ifs at hop with hd
    · exact .inl (hd ▸ hop)
    · exact .inl hop
  | closed c => exact .inl (todo_closeSocket k c d ▸ hop)
  | op c op' todo failure o htodo hout =>
    rw [todo_runOp hout] at hop
    split_ifs at hop with hd
    · subst hd
      rw [htodo]
      rcases List.mem_append.1 hop with hop | hop
      · refine .inr (.inl ⟨op', List.mem_cons_self, ?_⟩)
        cases op' with
        | write e msg =>
          simp only [SendOp.next] at hop
          split_ifs at hop
          · rw [List.mem_singleton.1 hop]
            rfl
          · exact absurd hop List.not_mem_nil
        | flush e => exact absurd hop List.not_mem_nil
      · exact .inl (List.mem_cons_of_mem _ hop)
    · exact .inl hop

/-- Nothing is done for connections that have not been accepted. -/
theorem Move.fresh (h : Move k ev x threads') (hk : k.Ready) (hc : k.base.server.accepted ≤ c) :
    threads' c = {} := by
  have hfresh := hk.fresh c hc
  have haccepted : ∀ {d}, k.Started d → c ≠ d := by
    rintro d hd rfl
    rw [Started, hfresh] at hd
    cases hd
  cases h with
  | idle => exact hfresh
  | accepted => exact hfresh
  | message d m hloop => rwa [Function.update_of_ne (haccepted hloop.1)]
  | started d hlt => rwa [Function.update_of_ne (hlt.trans_le hc).ne']
  | closed d =>
    rw [closeSocket, threads_modify]
    split_ifs with hd
    · rw [← hd, hfresh]
      rfl
    · exact hfresh
  | op d op todo failure o htodo hout =>
    have hd : c ≠ d := by
      rintro rfl
      rw [hfresh] at htodo
      cases htodo
    have hrecipient : c ≠ op.recipient := haccepted (by rw [Started, hout]; rfl)
    rw [runOp_of_out hout, threads_modify, if_neg hrecipient, threads_modify, if_neg hd]
    exact hfresh

end Moves

/-- The streams that the frame of a message is for have been made. -/
theorem Ready.sendOps (hk : k.Ready) (hloop : k.AtLoop c) {m : Str} {op : SendOp}
    (hop : op ∈ k.sendOps c m) : k.Started op.recipient := by
  obtain ⟨call, hcall, hop⟩ := List.mem_flatMap.1 hop
  cases call with
  | send h msg =>
    rw [List.mem_singleton.1 hop]
    rcases Server.handle_message hk.wellFormed.backed c m with ⟨hd, -, he⟩ | heq
    · rcases he.recipient hcall with hreg | ⟨t, id, hent⟩
      · obtain ⟨rfl, -⟩ := hk.wellFormed.handlers c h hreg
        exact hloop.1
      · exact hk.subscribed t h id hent
    · rw [heq] at hcall
      exact absurd hcall List.not_mem_nil
  | _ => exact absurd hop List.not_mem_nil

theorem Ready.step (hk : k.Ready) (e : ThreadStep) : (k.step e).Ready := by
  have hmove := hk.move e
  have hserver := k.step_server e
  refine ⟨?_, fun c hc => ?_, fun t h id hent => ?_, fun c op hop => ?_⟩
  · rw [hserver]
    exact Machine.run_invariant (fun _ ev hs => hs.step ev) hk.wellFormed _
  · exact hmove.fresh hk ((k.accepted_mono e).trans hc)
  · rw [hserver] at hent
    cases hev : k.serverEvent e with
    | none =>
      rw [hev] at hent
      exact hmove.started_mono (hk.subscribed t h id hent)
    | some ev =>
      rw [hev] at hent
      by_cases hown : ∃ m, ev = .message h.serial m
      · obtain ⟨m, rfl⟩ := hown
        have hmessage := hmove
        rw [hev] at hmessage
        generalize (k.step e).threads = threads', k.written e = x at hmessage
        refine hmove.started_mono ?_
        cases hmessage with
        | message c m hloop => exact hloop.1
      · have hsame := Server.sameClient_step (k := h.serial) hk.wellFormed ev fun m heq =>
          absurd ⟨m, heq⟩ hown
        have hent' : k.base.server.connections.entry t h = some id :=
          (hsame.entry t).symm.trans hent
        exact hmove.started_mono (hk.subscribed t h id hent')
  · rcases hmove.mem_todo hop with hop | ⟨op', hop', heq⟩ | ⟨m, -, hloop, hop⟩
    · exact hmove.started_mono (hk.ops c op hop)
    · exact hmove.started_mono (heq ▸ hk.ops c op' hop')
    · exact hmove.started_mono (hk.sendOps hloop hop)

theorem ready_run (es : List ThreadStep) : (run es).Ready :=
  Machine.run_invariant (I := Ready) (fun _ e hk => hk.step e)
    ⟨Server.wellFormed_init, fun _ _ => rfl, fun t h id hent => by
      simp [ConnectionsImp.entry] at hent, fun _ _ hop => absurd hop List.not_mem_nil⟩ es

/-- **No `send` meets a stream that is `null`**, whichever thread calls it. -/
theorem out_ready (es : List ThreadStep) (c : ℕ) {op : SendOp} {todo : List SendOp}
    (htodo : ((run es).threads c).todo = op :: todo) :
    ((run es).threads op.recipient).out ≠ none := by
  have hstarted := (ready_run es).ops c op (htodo ▸ List.mem_cons_self)
  exact Option.isSome_iff_ne_none.1 hstarted

/-- A connection is accepted, and a frame of it is read that will be answered with ERROR. -/
def frameHandled : List ThreadStep :=
  [.loop .accept, .start 0] ++
    (encode "SEND\na :b\n\n").map fun b => ThreadStep.loop (.byte 0 b)

theorem out_ready_frameHandled : ((run frameHandled).threads 0).out ≠ none := by
  have hops : ((run frameHandled).threads 0).todo.map SendOp.recipient = [0] := by decide +kernel
  obtain ⟨op, todo, htodo, hrecipient, -⟩ := List.map_eq_cons_iff.1 hops
  have hout := out_ready frameHandled 0 htodo
  rwa [hrecipient] at hout

/-! ### The frames -/

/-- The frames that have been written to streams, in order. -/
def writes (es : List ThreadStep) : List Outgoing := Machine.trace step written {} es

theorem writes_concat (es : List ThreadStep) (e : ThreadStep) :
    writes (es ++ [e]) = writes es ++ ((run es).written e).toList := by
  simp [writes, run, Machine.trace_append]

theorem textFor_sendOps (k : ThreadPerClient) (c d : ℕ) (m : Str) :
    (k.sendOps c m).filterMap (SendOp.textFor d) =
      sentTo ⟨d⟩ (k.base.server.handle (.message c m)).calls := by
  rw [sendOps]
  generalize (k.base.server.handle (.message c m)).calls = calls
  induction calls with
  | nil => rfl
  | cons call calls ih =>
    rw [List.flatMap_cons, List.filterMap_append, ih]
    cases call with
    | send h msg =>
      have hserial : h.serial = d ↔ h = ⟨d⟩ := ⟨fun heq => heq ▸ rfl, fun heq => heq ▸ rfl⟩
      by_cases hd : h = ⟨d⟩
      · simp [Call.sendOps, SendOp.textFor, sentTo, hd]
      · simp [Call.sendOps, SendOp.textFor, sentTo, hserial, hd]
    | _ => simp [Call.sendOps, sentTo]

section Moves

variable {ev : Option Event} {x : Option Outgoing} {threads' : ℕ → ClientThread}
  {xs : List Outgoing}

theorem written_op {op : SendOp} {todo : List SendOp} (htodo : (k.threads c).todo = op :: todo)
    (failure : Option ℕ) : (k.written (.op c failure)).toList.filterMap (Outgoing.between c d) =
      (SendOp.textFor d op).toList := by
  cases op with
  | write e msg =>
    by_cases hd : e = d <;> simp [written, htodo, Outgoing.between, SendOp.textFor, hd]
  | flush e => simp [written, htodo, SendOp.textFor]

theorem textFor_next (op : SendOp) (returned : Bool) :
    (op.next returned).filterMap (SendOp.textFor d) = [] := by
  cases op with
  | write e msg => cases returned <;> simp [SendOp.next, SendOp.textFor]
  | flush e => rfl

/-- What is written is no longer to be sent. -/
theorem Move.textFor (h : Move k ev x threads') (c d : ℕ) :
    x.toList.filterMap (Outgoing.between c d) ++ (threads' c).todo.filterMap (SendOp.textFor d) =
      (k.threads c).todo.filterMap (SendOp.textFor d) ++
        (ev.bind (Server.textsOf c d k.base.server)).getD [] := by
  cases h with
  | idle => simp
  | accepted => simp [Server.textsOf]
  | message c' m hloop =>
    rw [Function.update_apply]
    by_cases hc : c = c'
    · subst hc
      simp [hloop.2, textFor_sendOps, Server.textsOf]
    · simp [hc, Server.textsOf, Ne.symm hc]
  | started c' =>
    rw [Function.update_apply]
    split_ifs with hc
    · simp [hc]
    · simp
  | closed c' => simp [todo_closeSocket]
  | op c' op todo failure o htodo hout =>
    rw [todo_runOp hout]
    split_ifs with hc
    · subst hc
      rw [written_op htodo, List.filterMap_append, textFor_next, htodo]
      cases hop : SendOp.textFor d op <;> simp [hop]
    · have hnone : (k.written (.op c' failure)).toList.filterMap (Outgoing.between c d) = [] := by
        cases op <;> simp [written, htodo, Outgoing.between, Ne.symm hc]
      rw [hnone]
      simp

/-- The streams have been given the frames. -/
structure Flowing (k : ThreadPerClient) (xs : List Outgoing) : Prop where
  carries : ∀ d o, (k.threads d).out = some o →
    o.Carries ((xs.filterMap (Outgoing.toConnection d)).flatMap encode)
  unmade : ∀ d, (k.threads d).out = none → xs.filterMap (Outgoing.toConnection d) = []
  flushed : ∀ d o, (k.threads d).out = some o → o.buf = [] ∨ o.broken = true ∨
    ∃ c, .flush d ∈ (k.threads c).todo

theorem flowing_init : Flowing {} [] :=
  ⟨fun _ _ hout => (nomatch hout), fun _ _ => rfl, fun _ _ hout => (nomatch hout)⟩

/-- An operation gives its stream the frame that it writes. -/
theorem carries_perform {op : SendOp} {o : BufferedOutputStream} {todo : List SendOp}
    (htodo : (k.threads c).todo = op :: todo)
    (h : o.Carries ((xs.filterMap (Outgoing.toConnection op.recipient)).flatMap encode))
    (failure : Option ℕ) : (op.perform o failure).1.Carries
      (((xs ++ (k.written (.op c failure)).toList).filterMap
        (Outgoing.toConnection op.recipient)).flatMap encode) := by
  cases op with
  | write d msg =>
    have hwrite := BufferedOutputStream.Carries.write h (encode msg) failure
    simpa [written, htodo, Outgoing.toConnection, SendOp.recipient, SendOp.perform] using hwrite
  | flush d =>
    have hflush := BufferedOutputStream.Carries.flush h failure
    simpa [written, htodo, SendOp.perform] using hflush

theorem written_other {op : SendOp} {todo : List SendOp} (htodo : (k.threads c).todo = op :: todo)
    (failure : Option ℕ) (hd : d ≠ op.recipient) :
    (k.written (.op c failure)).toList.filterMap (Outgoing.toConnection d) = [] := by
  cases op with
  | write e msg =>
    have hne : e ≠ d := Ne.symm hd
    simp [written, htodo, Outgoing.toConnection, hne]
  | flush e => simp [written, htodo]

/-- After an operation, what its stream still has in the buffer is going to be flushed. -/
theorem flushed_perform (op : SendOp) (o : BufferedOutputStream) (failure : Option ℕ) :
    (op.perform o failure).1.buf = [] ∨ (op.perform o failure).1.broken = true ∨
      .flush op.recipient ∈ op.next (op.perform o failure).2 := by
  cases op with
  | write d msg =>
    cases hreturned : (o.write (encode msg) failure).2 with
    | true => simp [SendOp.perform, SendOp.next, SendOp.recipient, hreturned]
    | false => exact .inr (.inl (BufferedOutputStream.broken_of_write hreturned))
  | flush d =>
    rcases o.buf_flush failure with hbuf | hbroken
    · exact .inl hbuf
    · exact .inr (.inl hbroken)

theorem Flowing.carries_move (h : Flowing k xs) (hmove : Move k ev x threads')
    {o : BufferedOutputStream} (hout : (threads' d).out = some o) :
    o.Carries (((xs ++ x.toList).filterMap (Outgoing.toConnection d)).flatMap encode) := by
  cases hmove with
  | idle => simpa using h.carries d o hout
  | accepted => simpa using h.carries d o hout
  | message c m =>
    have hsame : (k.threads d).out = some o := by
      rw [Function.update_apply] at hout
      split_ifs at hout with hc
      · exact hc ▸ hout
      · exact hout
    simpa using h.carries d o hsame
  | started c hlt hnull =>
    rw [Function.update_apply] at hout
    split_ifs at hout with hc
    · subst hc
      cases hout
      rw [Option.toList_none, List.append_nil, h.unmade d hnull]
      exact ⟨List.prefix_rfl, fun _ => rfl⟩
    · simpa using h.carries d o hout
  | closed c =>
    rw [out_closeSocket] at hout
    split_ifs at hout with hc
    · obtain ⟨o', ho', rfl⟩ := Option.map_eq_some_iff.1 hout
      have hcarries := h.carries d o' ho'
      exact ⟨by simpa using hcarries.written, fun hworks => by cases hworks⟩
    · simpa using h.carries d o hout
  | op c op todo failure o' htodo hstream =>
    rw [out_runOp hstream] at hout
    split_ifs at hout with hd
    · subst hd
      cases hout
      exact carries_perform htodo (h.carries _ o' hstream) failure
    · rw [List.filterMap_append, written_other htodo failure hd, List.append_nil]
      exact h.carries d o hout

theorem Flowing.flushed_move (h : Flowing k xs) (hmove : Move k ev x threads')
    {o : BufferedOutputStream} (hout : (threads' d).out = some o) :
    o.buf = [] ∨ o.broken = true ∨ ∃ c, .flush d ∈ (threads' c).todo := by
  cases hmove with
  | idle => exact h.flushed d o hout
  | accepted => exact h.flushed d o hout
  | message c m hloop =>
    have hsame : (k.threads d).out = some o := by
      rw [Function.update_apply] at hout
      split_ifs at hout with hc
      · exact hc ▸ hout
      · exact hout
    refine (h.flushed d o hsame).imp_right fun hrest => hrest.imp_right ?_
    rintro ⟨c', hmem⟩
    -- a thread that reads has nothing to flush
    have hc : c' ≠ c := by
      rintro rfl
      rw [hloop.2] at hmem
      exact absurd hmem List.not_mem_nil
    exact ⟨c', by rwa [Function.update_of_ne hc]⟩
  | started c hlt hnull =>
    rw [Function.update_apply] at hout
    split_ifs at hout with hc
    · cases hout
      exact .inl rfl
    · refine (h.flushed d o hout).imp_right fun hrest => hrest.imp_right ?_
      rintro ⟨c', hmem⟩
      refine ⟨c', ?_⟩
      rw [Function.update_apply]
      split_ifs with hc'
      · exact hc' ▸ hmem
      · exact hmem
  | closed c =>
    rw [out_closeSocket] at hout
    simp only [todo_closeSocket]
    split_ifs at hout with hc
    · obtain ⟨o', -, rfl⟩ := Option.map_eq_some_iff.1 hout
      exact .inr (.inl rfl)
    · exact h.flushed d o hout
  | op c op todo failure o' htodo hstream =>
    rw [out_runOp hstream] at hout
    simp only [todo_runOp hstream]
    split_ifs at hout with hd
    · subst hd
      cases hout
      refine (flushed_perform op o' failure).imp_right fun hrest => hrest.imp_right fun hmem => ?_
      exact ⟨c, by simp [hmem]⟩
    · refine (h.flushed d o hout).imp_right fun hrest => hrest.imp_right ?_
      rintro ⟨c', hmem⟩
      refine ⟨c', ?_⟩
      split_ifs with hc
      · subst hc
        rw [htodo] at hmem
        rcases List.mem_cons.1 hmem with rfl | hmem
        · exact absurd rfl hd
        · exact List.mem_append_right _ hmem
      · exact hmem

/-- A stream that has not been made has not been given a frame. -/
theorem Flowing.unmade_move (h : Flowing k xs) (hmove : Move k ev x threads')
    (hout : (threads' d).out = none) :
    (xs ++ x.toList).filterMap (Outgoing.toConnection d) = [] := by
  have hnull : (k.threads d).out = none := by
    by_contra hsome
    have hstarted := hmove.started_mono (Option.isSome_iff_ne_none.2 hsome)
    rw [hout] at hstarted
    cases hstarted
  rw [List.filterMap_append, h.unmade d hnull, List.nil_append]
  cases hmove with
  | op c op todo failure o htodo hstream =>
    refine written_other htodo failure ?_
    rintro rfl
    rw [hstream] at hnull
    cases hnull
  | _ => rfl

end Moves

theorem flowing_run (es : List ThreadStep) : Flowing (run es) (writes es) := by
  induction es using List.reverseRecOn with
  | nil => exact flowing_init
  | append_singleton es e ih =>
    have hmove := (ready_run es).move e
    rw [run_concat, writes_concat]
    exact ⟨fun _ _ => ih.carries_move hmove, fun _ => ih.unmade_move hmove,
      fun _ _ => ih.flushed_move hmove⟩

/-- **First in, first out** for each pair of connections. -/
theorem writes_fifo (c d : ℕ) (es : List ThreadStep) :
    (writes es).filterMap (Outgoing.between c d) ++
        ((run es).threads c).todo.filterMap (SendOp.textFor d) =
      Server.texts c d (serverEvents es) := by
  induction es using List.reverseRecOn with
  | nil => rfl
  | append_singleton es e ih =>
    rw [writes_concat, run_concat, List.filterMap_append, List.append_assoc,
      ((ready_run es).move e).textFor c d, ← List.append_assoc, ih, serverEvents_concat, run_server,
      Server.texts_append]

/-- **The frames for a connection are merged in order.**  What its socket has taken are the first
bytes of frames, each with its sender; for every sender these are, with what its thread is about to
send, the frames that its messages send to the connection, in order.  While the socket works, it has
taken all of them as soon as no thread is about to flush the stream. -/
theorem output_merges (es : List ThreadStep) (d : ℕ) {o : BufferedOutputStream}
    (hout : ((run es).threads d).out = some o) : ∃ frames : List (ℕ × Str),
    o.written <+: frames.flatMap (fun frame => encode frame.2) ∧
    (o.broken = false → (∀ c, .flush d ∉ ((run es).threads c).todo) →
      o.written = frames.flatMap (fun frame => encode frame.2)) ∧
    ∀ c, (frames.filter (·.1 = c)).map Prod.snd ++
        ((run es).threads c).todo.filterMap (SendOp.textFor d) =
      Server.texts c d (serverEvents es) := by
  have hflow := flowing_run es
  have hcarries := hflow.carries d o hout
  refine ⟨Outgoing.frames d (writes es), ?_, fun hworks hquiet => ?_, fun c => ?_⟩
  · rw [Outgoing.flatMap_frames]
    exact hcarries.written
  · rw [Outgoing.flatMap_frames, ← hcarries.rest hworks]
    rcases hflow.flushed d o hout with hbuf | hbroken | ⟨c, hmem⟩
    · rw [hbuf, List.append_nil]
    · rw [hworks] at hbroken
      cases hbroken
    · exact absurd hmem (hquiet c)
  · rw [Outgoing.filter_frames]
    exact writes_fifo c d es

end ThreadPerClient

/-! ### What comes in -/

namespace BaseServer

variable {k : BaseServer} {c : ℕ}

/-- The byte that a step reads from the socket of connection `c`. -/
def readByte (c : ℕ) (k : BaseServer) : ThreadEvent → Option UInt8
  | .byte d b => if k.Reading d ∧ d = c then some b else none
  | _ => none

theorem encdec_set {d : ℕ} {h : BlockingConnectionHandler}
    (hh : h.encdec = (k.handlers d).encdec) (c : ℕ) :
    ((k.set d h).handlers c).encdec = (k.handlers c).encdec := by
  have hupdate : (k.set d h).handlers c = if c = d then h else k.handlers c :=
    Function.update_apply ..
  rw [hupdate]
  split_ifs with hc
  · rw [hc, hh]
  · rfl

theorem encdec_process (k : BaseServer) (d : ℕ) (message : Str) (c : ℕ) :
    ((k.process d message).handlers c).encdec = (k.handlers c).encdec := by
  unfold process
  dsimp only
  split_ifs
  · rfl
  · refine (encdec_set (d := d) ?_ c).trans ?_ <;> rfl

/-- The bytes read from its socket, and nothing else, feed the decoder of a connection. -/
theorem encdec_step (k : BaseServer) (e : ThreadEvent)
    (hc : e = .accept → c ≠ k.server.accepted) : ((k.step e).handlers c).encdec =
      ((k.readByte c e).map fun b => ((k.handlers c).encdec.decodeNextByte b).1).getD
        (k.handlers c).encdec := by
  cases e with
  | accept =>
    have hother : (k.step .accept).handlers c = k.handlers c := Function.update_of_ne (hc rfl) ..
    rw [hother]
    rfl
  | byte d b =>
    simp only [step, readByte]
    by_cases hread : k.Reading d
    · have hfed : ((k.read d b).handlers c).encdec = ((k.set d { k.handlers d with
          encdec := ((k.handlers d).encdec.decodeNextByte b).1 }).handlers c).encdec := by
        unfold read
        dsimp only
        split
        · exact encdec_process _ d _ c
        · rfl
      rw [if_pos hread, hfed]
      by_cases hd : c = d
      · simp [set, hread, hd]
      · simp [set, hd, Ne.symm hd]
    · simp [hread]
  | endOfStream d =>
    simp only [step]
    split_ifs
    · refine (encdec_set (d := d) ?_ c).trans ?_ <;> rfl
    · rfl
  | ioException d =>
    simp only [step]
    split_ifs
    · refine (encdec_set (d := d) ?_ c).trans ?_ <;> rfl
    · rfl
  | leave d =>
    simp only [step]
    split_ifs
    · refine (encdec_set (d := d) ?_ c).trans ?_ <;> rfl
    · rfl

/-- The message of a step is the one that its byte completes. -/
theorem message_step (k : BaseServer) (e : ThreadEvent) :
    (k.serverEvent e).bind (Server.messageOf c) =
      (k.readByte c e).bind fun b => ((k.handlers c).encdec.decodeNextByte b).2 := by
  cases e with
  | byte d b =>
    by_cases hread : k.Reading d
    · by_cases hd : d = c
      · subst hd
        cases hmsg : ((k.handlers d).encdec.decodeNextByte b).2 <;>
          simp [serverEvent, readByte, hread, hmsg, Server.messageOf]
      · cases hmsg : ((k.handlers d).encdec.decodeNextByte b).2 <;>
          simp [serverEvent, readByte, hread, hmsg, hd, Server.messageOf]
    · simp [serverEvent, readByte, hread]
  | _ => rfl

end BaseServer

namespace ThreadPerClient

variable {k : ThreadPerClient} {c : ℕ}

/-- The byte that a step reads from the socket of connection `c`. -/
def readByte (c : ℕ) (k : ThreadPerClient) (e : ThreadStep) : Option UInt8 :=
  (k.baseEvent e).bind (k.base.readByte c)

/-- The bytes read from the socket of connection `c`. -/
def input (c : ℕ) (es : List ThreadStep) : List UInt8 := Machine.trace step (readByte c) {} es

/-- The messages of connection `c` are the ones that its bytes decode to. -/
structure Decoding (c : ℕ) (k : ThreadPerClient) (bytes : List UInt8) (ms : List Str) : Prop where
  decoded : ({} : LineMessageEncoderDecoder).decodeBytes bytes =
    ((k.base.handlers c).encdec, ms)
  unaccepted : k.base.server.accepted ≤ c → bytes = []

theorem Decoding.step {bytes : List UInt8} {ms : List Str} (h : Decoding c k bytes ms)
    (e : ThreadStep) : Decoding c (k.step e) (bytes ++ (k.readByte c e).toList)
      (ms ++ ((k.serverEvent e).bind (Server.messageOf c)).toList) := by
  have hbase := k.step_base e
  cases hevent : k.baseEvent e with
  | none =>
    rw [hevent] at hbase
    have hsame : (k.step e).base = k.base := hbase
    simp only [readByte, serverEvent, hevent, Option.bind_none, Option.toList_none,
      List.append_nil]
    exact ⟨hsame ▸ h.decoded, hsame ▸ h.unaccepted⟩
  | some event =>
    rw [hevent] at hbase
    have hnew : (k.step e).base = k.base.step event := hbase
    have hread : k.readByte c e = k.base.readByte c event := by simp [readByte, hevent]
    have hmessage : (k.serverEvent e).bind (Server.messageOf c) =
        (k.base.readByte c event).bind fun b =>
          ((k.base.handlers c).encdec.decodeNextByte b).2 := by
      rw [← BaseServer.message_step, serverEvent, hevent, Option.bind_some]
    rw [hread, hmessage]
    by_cases haccept : event = .accept ∧ c = k.base.server.accepted
    · obtain ⟨rfl, rfl⟩ := haccept
      obtain rfl := h.unaccepted le_rfl
      obtain ⟨-, rfl⟩ := Prod.mk.inj h.decoded
      refine ⟨?_, fun _ => rfl⟩
      rw [hnew]
      simp [BaseServer.step, BaseServer.readByte]
    · have hencdec := k.base.encdec_step event (c := c) fun heq hc => haccept ⟨heq, hc⟩
      refine ⟨?_, fun hle => ?_⟩
      · rw [hnew, hencdec]
        cases hb : k.base.readByte c event with
        | none => simpa using h.decoded
        | some b =>
          rw [Option.toList_some, decodeBytes_concat, h.decoded]
          rfl
      · have hunread := h.unaccepted ((k.accepted_mono e).trans hle)
        have hnone : k.base.readByte c event = none := by
          cases event with
          | byte d b =>
            refine if_neg ?_
            rintro ⟨hreading, rfl⟩
            exact absurd ((k.accepted_mono e).trans hle) (Nat.not_le.2 hreading.1.1)
          | _ => rfl
        rw [hunread, hnone]
        rfl

end ThreadPerClient

end WorldCupInformer
