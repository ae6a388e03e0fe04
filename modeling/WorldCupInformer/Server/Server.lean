import WorldCupInformer.Lib.Machine
import WorldCupInformer.Server.Effect

/-!
# Runs of the server

The accepting loop gives every new connection the next id and a fresh handler; a message is
processed by the protocol object of its connection.  Both are one step: a frame is handled
atomically.  A message may also come from an id that is not registered (any more), because a
handler goes on reading after `disconnect`.

* `Server.handle_message`: a message is undecodable, or has an `Effect`;
* `Server.step_message`: so it keeps what the effects keep;
* `Server.atServer es`: the server after the events `es`.
-/

namespace WorldCupInformer

/-- The registries and the number of accepted connections; the ids handed out are the numbers
below it (`connectionId + 1` in the source, whose counter wraps after `2 ^ 32` connections). -/
structure Server where
  connections : ConnectionsImp := {}
  accepted : ℕ := 0

/-- What the server reacts to. -/
inductive Event
  | accept
  | message (connectionId : ℕ) (message : Str)

namespace Server

/-- The registries and the calls after an event. -/
def handle (s : Server) : Event → Exec
  | .accept => after (addConnection s.accepted ⟨s.accepted⟩) s.connections
  | .message c msg => after (process c msg) s.connections

/-- One event. -/
def step (s : Server) (e : Event) : Server where
  connections := (s.handle e).connections
  accepted := match e with
    | .accept => s.accepted + 1
    | .message _ _ => s.accepted

/-- The event is answered with a frame of this command to the handler. -/
def Answers (s : Server) (e : Event) (cmd : String) (d : ConnectionHandler) : Prop :=
  ∃ m ∈ sentTo d (s.handle e).calls, HasCommand cmd m

instance (s : Server) (e : Event) (cmd : String) (d : ConnectionHandler) :
    Decidable (s.Answers e cmd d) :=
  inferInstanceAs (Decidable (∃ m ∈ sentTo d (s.handle e).calls, HasCommand cmd m))

/-- The server after the events. -/
def atServer (es : List Event) : Server := Machine.run step {} es

@[simp] theorem step_message_accepted (s : Server) (c : ℕ) (msg : Str) :
    (s.step (.message c msg)).accepted = s.accepted := rfl

/-- `accept` registers the next id. -/
theorem step_accept (s : Server) :
    s.step .accept = { connections := { s.connections with
      idToHandler := s.connections.idToHandler.insert s.accepted ⟨s.accepted⟩ }
                       accepted := s.accepted + 1 } := rfl

end Server

/-- The body of a decoded message is always in its table. -/
theorem orderMsgInHash_body {msg : Str} {hd : HeaderTable} (hmsg : orderMsgInHash msg = .ok hd) :
    hd.get "BODY" ≠ none := by
  obtain ⟨value, -, hmsg⟩ := bind_eq_ok.1 hmsg
  obtain ⟨bodyMsg, -, hmsg⟩ := bind_eq_ok.1 hmsg
  obtain ⟨headersMsg, -, hmsg⟩ := bind_eq_ok.1 hmsg
  obtain ⟨headers, -, hmsg⟩ := bind_eq_ok.1 hmsg
  cases hmsg
  simp [HeaderTable.get, HeaderTable.put]

theorem Server.handle_decoded {s : Server} {msg : Str} {hd : HeaderTable}
    (hmsg : orderMsgInHash msg = .ok hd) (c : ℕ) :
    s.handle (.message c msg) = after (act c hd) s.connections := by
  simp [handle, process, after, hmsg]

/-- A message is undecodable and changes nothing, or its frame has an effect. -/
theorem Server.handle_message {s : Server} (hs : s.connections.Backed) (c : ℕ) (msg : Str) :
    (∃ hd, orderMsgInHash msg = .ok hd ∧
      Effect s.connections c hd (s.handle (.message c msg))) ∨
    s.handle (.message c msg) = ⟨s.connections, []⟩ := by
  cases hmsg : orderMsgInHash msg with
  | error x => exact .inr (by simp [handle, process, after, hmsg])
  | ok hd =>
    refine .inl ⟨hd, rfl, ?_⟩
    rw [handle_decoded hmsg]
    exact act_effect hs (orderMsgInHash_body hmsg)

/-- A message keeps what the effect of its frame keeps. -/
theorem Server.step_message {s : Server} {P : ConnectionsImp → Prop} (hs : s.connections.Backed)
    (hP : P s.connections) {c : ℕ} {msg : Str} (hkeep : ∀ hd e, orderMsgInHash msg = .ok hd →
      Effect s.connections c hd e → P e.connections) : P (s.step (.message c msg)).connections := by
  rcases handle_message hs c msg with ⟨hd, hmsg, he⟩ | heq
  · exact hkeep hd _ hmsg he
  · unfold step
    rw [heq]
    exact hP

/-- An accepted SUBSCRIBE enters the subscription. -/
theorem Server.step_subscribed {s : Server} {c : ℕ} {msg t id : Str} {hd : HeaderTable}
    {h : ConnectionHandler} (hmsg : orderMsgInHash msg = .ok hd)
    (hreg : s.connections.idToHandler.lookup c = some h) (hsub : hd.IsSubscribe t id)
    (hent : s.connections.entry t h = none) :
    (s.step (.message c msg)).connections = s.connections.addSubscription t h id := by
  have hrun := run_subscribeFrame (l := []) hreg hsub hent
  rw [← run_act_subscribe c hsub.command] at hrun
  unfold step
  rw [handle_decoded hmsg, after_of_ok hrun]

end WorldCupInformer
