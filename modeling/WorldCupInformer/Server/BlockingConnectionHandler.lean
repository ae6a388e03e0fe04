import WorldCupInformer.Server.Isolation
import WorldCupInformer.Server.LineMessageEncoderDecoder

/-!
# The thread-per-client server (`BaseServer`, `BlockingConnectionHandler`)

Every connection has a thread that runs `BlockingConnectionHandler.run`: it reads bytes, and
processes a message on the byte that completes it, while the protocol object does not ask to
terminate.  One turn of the loop is one step.  The loop is left when the protocol asks to
terminate, at the end of the stream, by an `IOException` of the socket, or by an exception of
`process`; the socket is closed in every case.

* `BaseServer.run_server`: what the threads do to the registries is a run of the server;
* `BaseServer.registered_of_reading`: as long as a thread reads, its connection is registered.
-/

namespace WorldCupInformer

/-- The fields of a handler, the flag of its protocol object, and how far its thread is. -/
structure BlockingConnectionHandler where
  encdec : LineMessageEncoderDecoder := {}
  shouldTerminate : Bool := false
  connected : Bool := true
  /-- the socket has not been closed -/
  sockOpen : Bool := true
  /-- `run` has not returned -/
  running : Bool := true

namespace BlockingConnectionHandler

/-- `close`. -/
def close (h : BlockingConnectionHandler) : BlockingConnectionHandler :=
  { h with connected := false, sockOpen := false }

/-- The end of `run` behind its loop. -/
def leave (h : BlockingConnectionHandler) : BlockingConnectionHandler :=
  { h.close with running := false }

/-- The end of `run` by an exception: only the `try` with its resource closes the socket. -/
def abort (h : BlockingConnectionHandler) : BlockingConnectionHandler :=
  { h with sockOpen := false, running := false }

/-- The calls of `terminate` on the protocol object of the connection. -/
def afterCalls (h : BlockingConnectionHandler) (c : ℕ) (calls : List Call) :
    BlockingConnectionHandler :=
  { h with shouldTerminate := h.shouldTerminate || decide (Call.terminate ⟨c⟩ ∈ calls) }

end BlockingConnectionHandler

/-- The server and the handlers of the accepted connections. -/
structure BaseServer where
  server : Server := {}
  handlers : ℕ → BlockingConnectionHandler := fun _ => {}

/-- What the accepting thread and the threads of the connections meet. -/
inductive ThreadEvent
  | accept
  /-- `in.read()` returns a byte -/
  | byte (c : ℕ) (read : UInt8)
  /-- `in.read()` returns `-1` -/
  | endOfStream (c : ℕ)
  /-- an `IOException` of the socket in `run` -/
  | ioException (c : ℕ)
  /-- the condition of the loop is found false before reading -/
  | leave (c : ℕ)
  deriving DecidableEq

namespace BaseServer

open BlockingConnectionHandler

/-- The thread of the connection is running. -/
def Running (k : BaseServer) (c : ℕ) : Prop :=
  c < k.server.accepted ∧ (k.handlers c).running = true

/-- The thread of the connection is at `in.read()`. -/
def Reading (k : BaseServer) (c : ℕ) : Prop :=
  k.Running c ∧ (k.handlers c).shouldTerminate = false ∧ (k.handlers c).connected = true

instance (k : BaseServer) (c : ℕ) : Decidable (k.Running c) :=
  inferInstanceAs (Decidable (_ ∧ _))

instance (k : BaseServer) (c : ℕ) : Decidable (k.Reading c) :=
  inferInstanceAs (Decidable (_ ∧ _))

/-- Change one handler. -/
def set (k : BaseServer) (c : ℕ) (h : BlockingConnectionHandler) : BaseServer :=
  { k with handlers := Function.update k.handlers c h }

/-- `protocol.process` of a message: an exception leaves `run`. -/
def process (k : BaseServer) (c : ℕ) (message : Str) : BaseServer :=
  let calls := (k.server.handle (.message c message)).calls
  let k' : BaseServer :=
    { server := k.server.step (.message c message)
      handlers := fun i => (k.handlers i).afterCalls i calls }
  if raised (WorldCupInformer.process c message) k.server.connections = none then k'
  else k'.set c (k'.handlers c).abort

/-- A byte in the loop of `run`. -/
def read (k : BaseServer) (c : ℕ) (byte : UInt8) : BaseServer :=
  let decoded := (k.handlers c).encdec.decodeNextByte byte
  let k' := k.set c { k.handlers c with encdec := decoded.1 }
  match decoded.2 with
  | some nextMessage => k'.process c nextMessage
  | none => k'

/-- One step; a step that the thread cannot make changes nothing. -/
def step (k : BaseServer) : ThreadEvent → BaseServer
  | .accept =>
    { server := k.server.step .accept
      handlers := Function.update k.handlers k.server.accepted {} }
  | .byte c b => if k.Reading c then k.read c b else k
  | .endOfStream c => if k.Reading c then k.set c (k.handlers c).leave else k
  | .ioException c => if k.Reading c then k.set c (k.handlers c).abort else k
  | .leave c =>
    if k.Running c ∧ ¬ k.Reading c then k.set c (k.handlers c).leave else k

/-- What a step does to the registries. -/
def serverEvent (k : BaseServer) : ThreadEvent → Option Event
  | .accept => some .accept
  | .byte c b =>
    if k.Reading c then ((k.handlers c).encdec.decodeNextByte b).2.map (.message c) else none
  | _ => none

/-- The server after the events. -/
def run (es : List ThreadEvent) : BaseServer := Machine.run step {} es

/-- The frames and the accepted connections of a run, in order. -/
def serverEvents (es : List ThreadEvent) : List Event := Machine.trace step serverEvent {} es

@[simp] theorem set_server (k : BaseServer) (c : ℕ) (h : BlockingConnectionHandler) :
    (k.set c h).server = k.server := rfl

@[simp] theorem process_server (k : BaseServer) (c : ℕ) (message : Str) :
    (k.process c message).server = k.server.step (.message c message) := by
  unfold process
  split_ifs <;> rfl

theorem step_server (k : BaseServer) (e : ThreadEvent) :
    (k.step e).server = Machine.run Server.step k.server (k.serverEvent e).toList := by
  cases e with
  | accept => rfl
  | byte c b =>
    simp only [step, serverEvent, read]
    split_ifs with hread
    · cases ((k.handlers c).encdec.decodeNextByte b).2 with
      | none => rfl
      | some nextMessage => exact process_server _ _ _
    · rfl
  | endOfStream c => simp only [step, serverEvent]; split_ifs <;> rfl
  | ioException c => simp only [step, serverEvent]; split_ifs <;> rfl
  | leave c => simp only [step, serverEvent]; split_ifs <;> rfl

/-- **What the threads do to the registries is a run of the server.** -/
theorem run_server (es : List ThreadEvent) :
    (run es).server = Server.atServer (serverEvents es) :=
  Machine.run_trace step_server {} es

/-! ### Registration and termination -/

/-- An accepted connection is registered until its protocol is asked to terminate. -/
structure Terminating (k : BaseServer) : Prop where
  wellFormed : k.server.WellFormed
  registered : ∀ c, c < k.server.accepted →
    (k.server.connections.idToHandler.lookup c = some ⟨c⟩ ↔
      (k.handlers c).shouldTerminate = false)

variable {k : BaseServer} {c : ℕ}

/-- A change of a handler that is not about termination. -/
theorem Terminating.set (hk : k.Terminating) {h : BlockingConnectionHandler}
    (hh : h.shouldTerminate = (k.handlers c).shouldTerminate) : (k.set c h).Terminating := by
  refine ⟨hk.wellFormed, fun i hi => (hk.registered i hi).trans ?_⟩
  by_cases hic : i = c
  · subst hic
    simp [BaseServer.set, hh]
  · simp [BaseServer.set, hic]

theorem Terminating.process (hk : k.Terminating) (c : ℕ) (message : Str) :
    (k.process c message).Terminating := by
  have hcalls : Terminating
      { server := k.server.step (.message c message)
        handlers := fun i =>
          (k.handlers i).afterCalls i (k.server.handle (.message c message)).calls } := by
    refine ⟨hk.wellFormed.step _, fun i hi => ?_⟩
    rw [Server.registered_message hk.wellFormed, hk.registered i hi]
    simp [afterCalls]
  unfold BaseServer.process
  split_ifs
  · exact hcalls
  · exact hcalls.set rfl

theorem Terminating.step (hk : k.Terminating) (e : ThreadEvent) : (k.step e).Terminating := by
  cases e with
  | accept =>
    refine ⟨hk.wellFormed.step .accept, fun i hi => ?_⟩
    have hlt : i < k.server.accepted + 1 := hi
    simp only [BaseServer.step, Server.step_accept, Dict.lookup_insert]
    by_cases hnew : i = k.server.accepted
    · simp [hnew]
    · simpa [hnew] using hk.registered i (by omega)
  | byte c b =>
    simp only [BaseServer.step, read]
    split_ifs
    · have hk' := hk.set (c := c)
        (h := { k.handlers c with encdec := ((k.handlers c).encdec.decodeNextByte b).1 }) rfl
      cases ((k.handlers c).encdec.decodeNextByte b).2 with
      | none => exact hk'
      | some nextMessage => exact hk'.process c nextMessage
    · exact hk
  | endOfStream c => simp only [BaseServer.step]; split_ifs <;> [exact hk.set rfl; exact hk]
  | ioException c => simp only [BaseServer.step]; split_ifs <;> [exact hk.set rfl; exact hk]
  | leave c => simp only [BaseServer.step]; split_ifs <;> [exact hk.set rfl; exact hk]

theorem terminating_init : Terminating {} :=
  ⟨Server.wellFormed_init, fun c hc => absurd hc (Nat.not_lt_zero c)⟩

theorem terminating_run (es : List ThreadEvent) : (run es).Terminating :=
  Machine.run_invariant (fun _ e hk => hk.step e) terminating_init es

/-- **A thread that reads has a registered connection.** -/
theorem registered_of_reading {es : List ThreadEvent} (hread : (run es).Reading c) :
    (run es).server.connections.idToHandler.lookup c = some ⟨c⟩ :=
  ((terminating_run es).registered c hread.1.1).2 hread.2.1

end BaseServer

end WorldCupInformer
