import WorldCupInformer.Server.Isolation
import WorldCupInformer.Server.Logins
import WorldCupInformer.Session.ErrorReasons
import WorldCupInformer.Session.Framing
import WorldCupInformer.Session.Receipts
import WorldCupInformer.Session.Reports
import WorldCupInformer.Session.Summaries

/-!
# Any number of clients and the server

Client `c` of a `Network` is the client process that opens connection `c`; a client that logs in
again is another one (`logout_eq_start`), and so is the one that is started when a process has ended
without a connection.  The clients share the server, and each has its own FIFO channel to it and
back.  A command, a message worked off by the server and a frame handled by a client are one step
each, in any order; a connection may break at any time.

* `Network.step`: the steps, each of them a step of one `Session`, or of the server;
* `History`: a run with the SENDs the server has accepted, the frames the clients have handled and
  the reports they have typed, none of which the network reads back;
* `ReadFrom`: what the server reads of a message of a client;
* `Server.handle_published`, `Server.answers_of_not_published`, `Server.silent_of_not_published`: a
  SEND that the server accepts goes to the subscribers, and any other message is answered.
-/

namespace WorldCupInformer

open Client (natToString CppException StompProtocol)

/-- A client that has logged out is one that has just started. -/
theorem logout_eq_start {p : StompProtocol} (h : p.handler.written = []) : p.logout = {} := by
  simp [StompProtocol.logout, Client.ConnectionHandler.close, Client.ConnectionHandler.reset, h]

/-- The server, the clients, and the messages and frames on their way between them. -/
structure Network where
  server : Server := {}
  client : ℕ → Except CppException StompProtocol := fun _ => .ok {}
  toServer : ℕ → List Str := fun _ => []
  toClient : ℕ → List Str := fun _ => []
  broken : Finset ℕ := ∅
  /-- what has ended processes that had no connection yet -/
  unconnected : List CppException := []

namespace Network

/-- What happens in a network. -/
inductive Event
  /-- the client of the next connection connects and logs in -/
  | login (hostPort username password : Word)
  | join (c : ℕ) (gameName : Word)
  | exit (c : ℕ) (gameName : Word)
  /-- `parseEventsFile` throws or returns what is in the file -/
  | report (c : ℕ) (file : Option Client.NamesAndEvents)
  | logout (c : ℕ)
  /-- the server works off the oldest message of connection `c` -/
  | serve (c : ℕ)
  /-- client `c` handles its oldest frame -/
  | deliver (c : ℕ)
  /-- connection `c` breaks: the server gets the first `k` of the messages on their way, the client
  gets no frame any more and cannot write -/
  | lose (c k : ℕ)

/-- Client `c` and the server, without the other clients. -/
def session (n : Network) (c : ℕ) : Session where
  client := n.client c
  link := { server := n.server, toServer := n.toServer c, toClient := n.toClient c }

/-- Client `c` has made a step of its own. -/
def put (n : Network) (c : ℕ) (s : Session) : Network :=
  { n with
    client := Function.update n.client c s.client
    toServer := Function.update n.toServer c s.link.toServer
    toClient := Function.update n.toClient c s.link.toClient }

/-- Client `c` has run a command.  Where that ends a process without a connection, another one is
started in its place. -/
def typed (n : Network) (c : ℕ) (s : Session) : Network :=
  match s.client with
  | .ok _ => n.put c s
  | .error x =>
    if c < n.server.accepted then n.put c s
    else
      { n with
        client := Function.update n.client c (.ok {})
        unconnected := n.unconnected ++ [x] }

/-- `login`; a process that its command line ends does not connect. -/
def login (n : Network) (hostPort username password : Word) : Network :=
  let s := (n.session n.server.accepted).command fun p =>
    p.handleLoginRequest [lit "login", hostPort.typed, username.typed, password.typed] true
  match s.client with
  | .ok _ => { n.put n.server.accepted s with server := n.server.step .accept }
  | .error _ => n.typed n.server.accepted s

/-- `handleReportRequest`, which has `parseEventsFile` read the file first. -/
def handleReportRequest (file : Option Client.NamesAndEvents) (p : StompProtocol) :
    Except CppException (StompProtocol × ℕ) :=
  match file with
  | some infoForFrames => p.handleReportRequest infoForFrames.bytes
  | none => .error .json

/-- The server works off a message; every client gets the frames sent to it. -/
def serve (n : Network) (c : ℕ) : Network :=
  match n.toServer c with
  | [] => n
  | msg :: msgs =>
    { n with
      server := n.server.afterMessage c msg
      toServer := Function.update n.toServer c msgs
      toClient := fun d =>
        n.toClient d ++ received (sentTo ⟨d⟩ (n.server.handle (.message c msg)).calls) }

/-- Connection `c` breaks. -/
def lose (n : Network) (c k : ℕ) : Network :=
  if c < n.server.accepted then
    { n with
      client := Function.update n.client c
        ((n.client c).map fun p => { p with handler := { p.handler with writable := false } })
      toServer := Function.update n.toServer c ((n.toServer c).take k)
      broken := insert c n.broken }
  else n

/-- One step. -/
def step (n : Network) : Event → Network
  | .login hostPort username password => n.login hostPort username password
  | .join c gameName => n.typed c ((n.session c).step c (.join gameName))
  | .exit c gameName => n.typed c ((n.session c).step c (.exit gameName))
  | .report c file => n.typed c ((n.session c).command (handleReportRequest file))
  | .logout c => n.typed c ((n.session c).command fun p => .ok p.handleLogoutRequest)
  | .serve c => n.serve c
  | .deliver c => if c ∈ n.broken then n else n.put c (n.session c).deliver
  | .lose c k => n.lose c k

end Network

/-! ### What is observed -/

/-- A SEND the server has accepted. -/
structure Publication where
  sender : ℕ
  /-- the name under which the sender is logged in -/
  username : Option Str
  destination : Str
  body : Str
  messageId : ℕ
  /-- the clients it goes to, with their subscription ids -/
  subscribers : ℕ → Option Str

/-- The SEND that the message is, if the server accepts it from connection `c`. -/
def Server.published (s : Server) (c : ℕ) (msg : Str) : Option Publication := do
  let hd ← (orderMsgInHash msg).toOption
  let destination ← hd.get "destination"
  let body ← hd.get "BODY"
  let handler ← s.connections.idToHandler.lookup c
  if hd.get "COMMAND" = some (lit "SEND") ∧ s.connections.entry destination handler ≠ none then
    some
      { sender := c
        username := s.connections.clientToUsername.lookup handler
        destination, body
        messageId := s.connections.messageId
        subscribers := fun d => s.connections.entry destination ⟨d⟩ }
  else none

namespace Publication

/-- The MESSAGE frame client `d` gets, if it is a subscriber. -/
def frameTo (d : ℕ) (pub : Publication) : Option Str :=
  (pub.subscribers d).map fun id =>
    Utf8.bytesOf (Server.messageText pub.messageId pub.destination (some id) pub.body)

/-- What is published, and where. -/
def content (pub : Publication) : Str × Str := (pub.destination, pub.body)

end Publication

namespace Network

/-- The SEND the server accepts in a step. -/
def published (n : Network) : Event → Option Publication
  | .serve c => (n.toServer c).head?.bind (n.server.published c)
  | _ => none

/-- The frame client `c` handles in a step. -/
def handled (n : Network) (c : ℕ) : Event → Option Str
  | .deliver d =>
    match n.client c with
    | .ok p =>
      if d = c ∧ c ∉ n.broken ∧ p.handler.connected then (n.toClient c).head? else none
    | .error _ => none
  | _ => none

/-- What client `c` reports in a step: a destination and a body for each event, unless the client is
not subscribed to the game or cannot write. -/
def reported (n : Network) (c : ℕ) : Event → List (Str × Str)
  | .report d (some infoForFrames) =>
    match n.client c with
    | .ok p =>
      if d = c ∧ p.handler.writable ∧ p.checkSub (Utf8.bytesOf infoForFrames.gameName) then
        infoForFrames.events.map fun event =>
          (lit "/" ++ infoForFrames.gameName, reportBody (Utf8.textOf p.username) event)
      else []
    | .error _ => []
  | _ => []

theorem put_session (n : Network) (c : ℕ) : n.put c (n.session c) = n := by
  simp [put, session]

theorem put_client_self (n : Network) (c : ℕ) (s : Session) : (n.put c s).client c = s.client :=
  Function.update_self ..

theorem put_client_of_ne (n : Network) {c d : ℕ} (h : d ≠ c) (s : Session) :
    (n.put c s).client d = n.client d := Function.update_of_ne h ..

/-- A command is one of its client, or it ends a process without a connection. -/
theorem typed_cases (n : Network) (c : ℕ) (s : Session) :
    (n.typed c s = n.put c s ∧ (n.server.accepted ≤ c → ∃ p, s.client = .ok p)) ∨
    ∃ x, s.client = .error x ∧ n.server.accepted ≤ c ∧ n.typed c s =
      { n with
        client := Function.update n.client c (.ok {})
        unconnected := n.unconnected ++ [x] } := by
  unfold typed
  cases hs : s.client with
  | ok p => exact .inl ⟨rfl, fun _ => ⟨p, rfl⟩⟩
  | error x =>
    dsimp only
    split_ifs with hc
    · exact .inl ⟨rfl, fun hle => absurd hc (Nat.not_lt.2 hle)⟩
    · exact .inr ⟨x, rfl, Nat.not_lt.1 hc, rfl⟩

/-- A frame is handled by a connected client, unless its connection has broken. -/
theorem deliver_cases (n : Network) (c : ℕ) :
    (n.step (.deliver c) = n ∧ ∀ d, n.handled d (.deliver c) = none) ∨
    ∃ p frame frames, n.client c = .ok p ∧ p.handler.connected = true ∧
      n.toClient c = frame :: frames ∧
      n.step (.deliver c) = n.put c
        { client := p.processFrame frame
          link := { server := n.server, toServer := n.toServer c, toClient := frames } } ∧
      ∀ d, n.handled d (.deliver c) = if d = c then some frame else none := by
  have hnone : (n.session c).deliver = n.session c → n.step (.deliver c) = n := by
    intro h
    simp only [step, h, put_session, ite_self]
  cases hp : n.client c with
  | error x =>
    refine .inl ⟨hnone (by simp [Session.deliver, session, hp]), fun d => ?_⟩
    by_cases hd : d = c
    · simp [handled, hd, hp]
    · cases h : n.client d <;> simp [handled, h, Ne.symm hd]
  | ok p =>
    by_cases hopen : c ∉ n.broken ∧ p.handler.connected = true
    · cases hcons : n.toClient c with
      | nil =>
        refine .inl ⟨hnone (by simp [Session.deliver, session, hp, hcons]), fun d => ?_⟩
        by_cases hd : d = c
        · simp [handled, hd, hp, hcons]
        · cases h : n.client d <;> simp [handled, h, Ne.symm hd]
      | cons frame frames =>
        refine .inr ⟨p, frame, frames, rfl, hopen.2, rfl, ?_, fun d => ?_⟩
        · simp [step, hopen.1, Session.deliver, session, hp, hcons, hopen.2, Link.receive]
        · by_cases hd : d = c
          · simp [handled, hd, hp, hcons, hopen]
          · cases h : n.client d <;> simp [handled, h, Ne.symm hd, hd]
    · refine .inl ⟨?_, fun d => ?_⟩
      · by_cases hbroken : c ∈ n.broken
        · exact if_pos hbroken
        · refine hnone ?_
          have hclosed : ¬ p.handler.connected = true := fun h => hopen ⟨hbroken, h⟩
          unfold Session.deliver
          split
          · rename_i p' frame frames hp' hframes
            obtain rfl := Except.ok.inj (hp.symm.trans hp')
            rw [if_neg hclosed]
          · rfl
      · by_cases hd : d = c
        · subst hd
          simp only [handled, hp]
          exact if_neg fun hand => hopen hand.2
        · cases h : n.client d <;> simp [handled, h, Ne.symm hd]

end Network

/-- A network with what has been observed. -/
structure History where
  network : Network := {}
  /-- the accepted SENDs, in the order in which the server has worked them off -/
  log : List Publication := []
  handled : ℕ → List Str := fun _ => []
  reported : ℕ → List (Str × Str) := fun _ => []

namespace History

/-- One step, observed. -/
def step (h : History) (e : Network.Event) : History where
  network := h.network.step e
  log := h.log ++ (h.network.published e).toList
  handled c := h.handled c ++ (h.network.handled c e).toList
  reported c := h.reported c ++ h.network.reported c e

/-- The history after the events. -/
def after (es : List Network.Event) : History := Machine.run step {} es

/-- Observing a network changes nothing. -/
theorem network_after (es : List Network.Event) :
    (after es).network = Machine.run Network.step {} es := by
  induction es using List.reverseRecOn with
  | nil => rfl
  | append_singleton es e ih => simp [after, step, ← ih]

end History

/-! ### What the server reads -/

/-- The body is the report of user `u` on an event of the game `t` stands for. -/
def IsReport (u t body : Str) : Prop :=
  ∃ (w : Word) (event : Client.Event), '_' ∈ w.text ∧ event.NulFree ∧ '\n' ∉ event.name ∧
    t = lit "/" ++ w.text ∧ body = reportBody u event

/-- What the server reads of a message of the client whose user is `u`. -/
structure ReadFrom (u msg : Str) (hd : HeaderTable) : Prop where
  decoded : orderMsgInHash msg = .ok hd
  delivered : Delivered msg
  connect : ∀ v host u' p, hd.IsConnect v host u' p →
    u' = u ∧ v = lit "1.2" ∧ hd.get "receipt-id" = none
  subscribe : ∀ t id, hd.IsSubscribe t id →
    (∃ w : Word, t = lit "/" ++ w.text) ∧ ∃ n, id = natToString n
  send : ∀ t body, hd.IsSend t body → hd.get "receipt-id" = none ∧ IsReport u t body
  receipt : hd.get "COMMAND" ≠ some (lit "CONNECT") → hd.get "COMMAND" ≠ some (lit "SEND") →
    ∀ r, hd.get "receipt" = some r → ∃ k, r = natToString k

theorem Delivered.of_bytes {msg : Str} (h : delivered (Utf8.bytesOf msg) = [msg]) :
    Delivered msg := by
  refine ⟨Utf8.encode msg, ?_⟩
  rw [← delivered_eq]
  have hmem : msg ∈ delivered (Utf8.bytesOf msg) := h ▸ List.mem_singleton_self msg
  exact hmem

section ReadFrom

variable {u g id body : Str}

/-- The CONNECT of a client. -/
theorem readFrom_connect (hu : Plain u) {pw : Str} (hpw : Plain pw) :
    ∃ hd, ReadFrom u (connectMessage u pw) hd ∧
      ∃ v host, hd.IsConnect v host u pw := by
  obtain ⟨hd, hmsg, hcon, hreceipt⟩ := decodes_connect hu hpw
  have hcmd := hcon.command
  refine ⟨hd, ?_, _, _, hcon⟩
  exact
    { decoded := hmsg
      delivered := .of_bytes (ClientMessage.connect hu hpw).delivered
      connect := fun v host u' p hcon' =>
        ⟨Option.some.inj (hcon'.login.symm.trans hcon.login),
          Option.some.inj (hcon'.version.symm.trans hcon.version), hreceipt⟩
      subscribe := fun t id hsub => by simp [hsub.command] at hcmd
      send := fun t body hsend => by simp [hsend.command] at hcmd
      receipt := fun hne => absurd hcmd hne }

/-- A SUBSCRIBE of a client. -/
theorem readFrom_subscribe (u : Str) (w : Word) (n k : ℕ) :
    ∃ hd, ReadFrom u (subscribeMessage w.text (natToString n) (natToString k)) hd ∧
      hd.get "COMMAND" = some (lit "SUBSCRIBE") := by
  have hmsg := ClientMessage.subscribe w.plain (plain_natToString n) k
  obtain ⟨hd, hdecoded, hsub, hreceipt⟩ :=
    decodes_subscribe w.plain (plain_natToString n) (plain_natToString k)
  have hcmd := hsub.command
  refine ⟨hd, ?_, hcmd⟩
  exact
    { decoded := hdecoded
      delivered := .of_bytes hmsg.delivered
      connect := fun v host u' p hcon => by simp [hcon.command] at hcmd
      subscribe := fun t id hsub' =>
        ⟨⟨w, Option.some.inj (hsub'.destination.symm.trans hsub.destination)⟩,
          n, Option.some.inj (hsub'.id.symm.trans hsub.id)⟩
      send := fun t body hsend => by simp [hsend.command] at hcmd
      receipt := fun _ _ r hr => ⟨k, Option.some.inj (hr.symm.trans hreceipt)⟩ }

/-- An UNSUBSCRIBE of a client. -/
theorem readFrom_unsubscribe (u : Str) (hid : Plain id) (k : ℕ) :
    ∃ hd, ReadFrom u (unsubscribeMessage id (natToString k)) hd ∧
      hd.get "COMMAND" = some (lit "UNSUBSCRIBE") := by
  obtain ⟨hd, hdecoded, huns, hreceipt⟩ := decodes_unsubscribe hid (plain_natToString k)
  have hcmd := huns.command
  refine ⟨hd, ?_, hcmd⟩
  exact
    { decoded := hdecoded
      delivered := .of_bytes (ClientMessage.unsubscribe hid k).delivered
      connect := fun v host u' p hcon => by simp [hcon.command] at hcmd
      subscribe := fun t id hsub => by simp [hsub.command] at hcmd
      send := fun t body hsend => by simp [hsend.command] at hcmd
      receipt := fun _ _ r hr => ⟨k, Option.some.inj (hr.symm.trans hreceipt)⟩ }

/-- The DISCONNECT of a client. -/
theorem readFrom_disconnect (u : Str) (k : ℕ) :
    ∃ hd, ReadFrom u (disconnectMessage (natToString k)) hd ∧
      hd.get "COMMAND" = some (lit "DISCONNECT") := by
  obtain ⟨hd, hdecoded, hdis⟩ := decodes_disconnect (plain_natToString k)
  have hcmd := hdis.command
  refine ⟨hd, ?_, hcmd⟩
  exact
    { decoded := hdecoded
      delivered := .of_bytes (ClientMessage.disconnect k).delivered
      connect := fun v host u' p hcon => by simp [hcon.command] at hcmd
      subscribe := fun t id hsub => by simp [hsub.command] at hcmd
      send := fun t body hsend => by simp [hsend.command] at hcmd
      receipt := fun _ _ r hr => ⟨k, Option.some.inj (hr.symm.trans hdis.receipt)⟩ }

/-- A report of a client. -/
theorem readFrom_send (hu : '\x00' ∉ u) (w : Word) (hteams : '_' ∈ w.text)
    {event : Client.Event} (hnul : event.NulFree) (hname : '\n' ∉ event.name) :
    ∃ hd, ReadFrom u (sendMessage w.text (reportBody u event)) hd ∧
      hd.IsSend (lit "/" ++ w.text) (reportBody u event) := by
  have hbody := hnul.body hu
  obtain ⟨hd, hdecoded, hsend, hreceipt⟩ := decodes_send w.plain hbody
  have hcmd := hsend.command
  have hdelivered : delivered (Utf8.bytesOf (sendMessage w.text (reportBody u event))) =
      [sendMessage w.text (reportBody u event)] := by
    refine delivered_frameText ⟨by decide, by decide, by decide⟩ ?_ hbody
    refine List.forall_mem_singleton.2 (isLine_headerLine plain_destination ?_)
    exact w.plain.cons (by decide)
  refine ⟨hd, ?_, hsend⟩
  exact
    { decoded := hdecoded
      delivered := .of_bytes hdelivered
      connect := fun v host u' p hcon => by simp [hcon.command] at hcmd
      subscribe := fun t id hsub => by simp [hsub.command] at hcmd
      send := fun t body hsend' => by
        refine ⟨hreceipt, w, event, hteams, hnul, hname, ?_, ?_⟩
        · exact Option.some.inj (hsend'.destination.symm.trans hsend.destination)
        · exact Option.some.inj (hsend'.body.symm.trans hsend.body)
      receipt := fun _ hne => absurd hcmd hne }

end ReadFrom

/-! ### What the server does -/

section Effect

variable {s : ConnectionsImp} {c : ℕ} {h d : ConnectionHandler} {hd : HeaderTable} {e : Exec}
  {t id : Str}

/-- The checks of a rejected frame add no entry. -/
theorem Rejects.entry_old {s₁ : ConnectionsImp} {pre : List Call} {errors : List Str}
    (hrej : Rejects s c h hd s₁ pre errors) (hent : s₁.entry t d = some id) :
    s.entry t d = some id := by
  cases hrej with
  | connect =>
    unfold ConnectionsImp.checked at hent
    split_ifs at hent <;> exact hent
  | unsubscribeEmpty =>
    rw [ConnectionsImp.entry_dropEntry] at hent
    split_ifs at hent
    exact hent
  | _ => exact hent

/-- A new entry comes from an accepted SUBSCRIBE. -/
theorem Effect.entry_new (he : Effect s c hd e) (hent : e.connections.entry t d = some id) :
    s.entry t d = some id ∨ s.idToHandler.lookup c = some d ∧ hd.IsSubscribe t id := by
  have hdrop : ∀ {s₁ : ConnectionsImp} {h}, (s₁.drop c h).entry t d = some id →
      s₁.entry t d = some id := by
    intro s₁ h hent
    rw [ConnectionsImp.entry_drop] at hent
    split_ifs at hent
    exact hent
  cases he with
  | opened hreg hsub ht => exact .inl (by rwa [ConnectionsImp.entry_openTopic d t ht] at hent)
  | rejected hreg hrej => exact .inl (hrej.entry_old (hdrop hent))
  | disconnected => exact .inl (hdrop hent)
  | subscribed hreg hsub =>
    rw [ConnectionsImp.entry_addSubscription] at hent
    split_ifs at hent with hnew
    · obtain ⟨rfl, rfl⟩ := hnew
      obtain rfl := Option.some.inj hent
      exact .inr ⟨hreg, hsub⟩
    · exact .inl hent
  | unsubscribed =>
    rw [ConnectionsImp.entry_removeSubscription] at hent
    split_ifs at hent
    exact .inl hent
  | connected => exact .inl hent
  | ignored => exact .inl hent
  | unregistered => exact .inl hent
  | anonymous => exact .inl hent
  | broadcast => exact .inl hent
  | unindexed => exact .inl hent

/-- Only a CONNECT changes a username. -/
theorem Effect.username_same (he : Effect s c hd e)
    (hcmd : hd.get "COMMAND" ≠ some (lit "CONNECT")) :
    e.connections.clientToUsername = s.clientToUsername := by
  cases he with
  | connected _ hcon => exact absurd hcon.command hcmd
  | rejected _ hrej => exact hrej.same_sessions.2.1
  | _ => rfl

/-- After a CONNECT with its four headers the client is logged in, or it has been dropped. -/
theorem Effect.connect_done {v host u p : Str} (he : Effect s c hd e)
    (hcon : hd.IsConnect v host u p) : e.connections.idToHandler.lookup c = none ∨
      ∃ h, s.idToHandler.lookup c = some h ∧
        e.connections.clientToUsername.lookup h = some u := by
  have hcmd := hcon.command
  cases he with
  | ignored hother => exact absurd hcmd (hother "CONNECT" (by simp))
  | unregistered hreg => exact .inl hreg
  | opened _ hsub => simp [hsub.command] at hcmd
  | rejected => exact .inl (by simp [ConnectionsImp.drop])
  | connected hreg hcon' =>
    obtain rfl := Option.some.inj (hcon.login.symm.trans hcon'.login)
    exact .inr ⟨_, hreg, by simp [ConnectionsImp.login]⟩
  | disconnected _ hdis => simp [hdis.command] at hcmd
  | anonymous _ hdis => simp [hdis.command] at hcmd
  | broadcast _ hsend => simp [hsend.command] at hcmd
  | subscribed _ hsub => simp [hsub.command] at hcmd
  | unsubscribed _ huns => simp [huns.command] at hcmd
  | unindexed _ huns => simp [huns.command] at hcmd

end Effect

/-- A frame that answers a message of a client, as the client reads it. -/
inductive Answer : Str → Prop
  | connected : Answer (lit "CONNECTED\nversion: 1.2\n\n")
  | receipt (k : ℕ) : Answer (Client.receiptText (natToString k))
  | error {errors : List Str} {hd : HeaderTable} (hhd : Parsed hd)
      (herrors : ∀ error ∈ errors, IsErrorLine error) :
      Answer (Utf8.bytesOf (errorText errors hd))

theorem Answer.not_message {frame : Str} (h : Answer frame) : ¬ HasCommand "MESSAGE" frame := by
  have hhead : frame.head? ≠ some 'M' := by
    cases h with
    | connected => decide
    | receipt k => simp [Client.receiptText, lit]
    | error => simp [errorText, lit, Utf8.bytesOf_cons]
  rintro ⟨rest, rfl⟩
  exact hhead rfl

/-- A client goes on after an answer: it does what a RECEIPT stands for, it ends its session, or it
does nothing. -/
theorem Answer.processFrame {frame : Str} (h : Answer frame) (p : StompProtocol) :
    p.processFrame frame = .ok p ∨ p.processFrame frame = .ok p.logout ∨
      ∃ receipts command, p.processFrame frame =
        .ok (StompProtocol.receiptOf { p with receiptToMsg := receipts } command) := by
  cases h with
  | connected => exact .inl rfl
  | receipt k =>
    rw [StompProtocol.processFrame_receipt_eq (plain_natToString k).newline,
      StompProtocol.handleReceiptFrame, StompProtocol.receiptId_eq]
    exact .inr (.inr ⟨_, _, rfl⟩)
  | @error errors hd hhd =>
    rw [StompProtocol.processFrame_of_splitFrame_error (splitFrame_errorText hhd errors),
      StompProtocol.handleErrorFrame]
    rcases errorMessage_errorBody errors hd with ⟨-, hmessage⟩ | ⟨-, rest, -, hmessage⟩
    · rw [hmessage]
      exact .inr (.inl rfl)
    · rw [hmessage]
      exact .inr (.inl rfl)

namespace Server

variable {s : Server} {c d : ℕ} {u msg : Str} {hd : HeaderTable}

/-- A SEND is published if it comes from a subscriber. -/
theorem published_send {t body : Str} (hmsg : orderMsgInHash msg = .ok hd)
    (hsend : hd.IsSend t body) (hreg : s.connections.idToHandler.lookup c = some ⟨c⟩) :
    s.published c msg =
      if s.connections.entry t ⟨c⟩ ≠ none then some
        { sender := c
          username := s.connections.clientToUsername.lookup ⟨c⟩
          destination := t
          body := body
          messageId := s.connections.messageId
          subscribers := fun d => s.connections.entry t ⟨d⟩ }
      else none := by
  simp [published, hmsg, Except.toOption, hsend.command, hsend.destination, hsend.body, hreg]

theorem published_eq_none (hmsg : orderMsgInHash msg = .ok hd)
    (hcmd : hd.get "COMMAND" ≠ some (lit "SEND")) : s.published c msg = none := by
  simp [published, hmsg, Except.toOption, hcmd]

theorem published_unregistered (hreg : s.connections.idToHandler.lookup c = none) :
    s.published c msg = none := by
  unfold published
  rw [hreg]
  cases orderMsgInHash msg with
  | error x => rfl
  | ok hd =>
    cases hd.get "destination" with
    | none => simp [Except.toOption]
    | some t => cases hd.get "BODY" <;> simp [Except.toOption]

/-- What the accepted SEND of a client is. -/
structure Publishes (s : Server) (c : ℕ) (u : Str) (pub : Publication) : Prop where
  registered : s.connections.idToHandler.lookup c = some ⟨c⟩
  sender : pub.sender = c
  username : pub.username = s.connections.clientToUsername.lookup ⟨c⟩
  report : IsReport u pub.destination pub.body
  subscribed : s.connections.entry pub.destination ⟨c⟩ ≠ none
  subscribers : ∀ d, pub.subscribers d = s.connections.entry pub.destination ⟨d⟩

/-- The subscription ids are numbers. -/
def NumberedIds (s : Server) : Prop :=
  ∀ t d id, s.connections.entry t ⟨d⟩ = some id → ∃ n, id = natToString n

theorem buildSendMessage_eq (messageId : ℕ) (t : Str) (id : Option Str) (body : Str) :
    buildSendMessage messageId t id body = messageText messageId t id body ++ lit "\x00" := by
  simp [buildSendMessage, messageText, natToString, lit]

/-- A MESSAGE frame arrives as one. -/
theorem received_sendMessage {messageId : ℕ} {t id body : Str} (ht : '\x00' ∉ t)
    (hid : '\x00' ∉ id) (hbody : '\x00' ∉ body) :
    received [buildSendMessage messageId t (some id) body] =
      [Utf8.bytesOf (messageText messageId t (some id) body)] := by
  have hnum : '\x00' ∉ natToString messageId := Client.notMem_natToString (by decide)
  have hframe : ∀ text ∈ [messageText messageId t (some id) body], text ≠ [] ∧ '\x00' ∉ text := by
    simp [messageText, stringOf, lit, ht, hid, hbody, hnum]
  have hall := received_map hframe
  rw [List.map_singleton, List.map_singleton] at hall
  rw [buildSendMessage_eq, hall]

theorem received_nil : received [] = [] := rfl

/-- **A published report** goes to the subscribers of its game, and changes nothing. -/
theorem handle_published (hwf : s.WellFormed) (hids : s.NumberedIds) (hu : '\x00' ∉ u)
    (hread : ReadFrom u msg hd) {pub : Publication} (hpub : s.published c msg = some pub) :
    s.Publishes c u pub ∧ (s.handle (.message c msg)).connections = s.connections ∧
      ∀ d, received (sentTo ⟨d⟩ (s.handle (.message c msg)).calls) = (pub.frameTo d).toList := by
  have hcmd : hd.get "COMMAND" = some (lit "SEND") := by
    by_contra hcmd
    rw [published_eq_none hread.decoded hcmd] at hpub
    cases hpub
  have hreg : s.connections.idToHandler.lookup c = some ⟨c⟩ := by
    cases hreg : s.connections.idToHandler.lookup c with
    | none =>
      rw [published_unregistered hreg] at hpub
      cases hpub
    | some h => rw [(hwf.handlers c h hreg).1]
  obtain ⟨t, ht⟩ : ∃ t, hd.get "destination" = some t := by
    refine Option.ne_none_iff_exists'.1 fun hnone => ?_
    simp [published, hread.decoded, Except.toOption, hnone] at hpub
  obtain ⟨body, hbody⟩ := Option.ne_none_iff_exists'.1 (orderMsgInHash_body hread.decoded)
  have hsend : hd.IsSend t body := ⟨hcmd, ht, hbody⟩
  obtain ⟨hreceipt, hreport⟩ := hread.send t body hsend
  rw [published_send hread.decoded hsend hreg] at hpub
  split_ifs at hpub with hent
  obtain rfl := Option.some.inj hpub
  have hrun := run_sendFrame (l := []) hreg hsend hent
  rw [← run_act_send c hcmd, hreceipt] at hrun
  have hexec := (handle_decoded hread.decoded c).trans (after_of_ok hrun)
  refine ⟨⟨hreg, rfl, rfl, hreport, hent, fun d => rfl⟩, congrArg Exec.connections hexec,
    fun d => ?_⟩
  obtain ⟨w, event, -, hnul, -, rfl, rfl⟩ := hreport
  rw [hexec]
  simp only [List.nil_append, receiptCalls, List.append_nil, sentTo_broadcastCalls]
  cases hentry : s.connections.entry (lit "/" ++ w.text) ⟨d⟩ with
  | none => simp [Publication.frameTo, hentry, received_nil]
  | some id =>
    obtain ⟨n, rfl⟩ := hids _ _ _ hentry
    have hdest : Plain (lit "/" ++ w.text) := w.plain.cons (by decide)
    rw [received_sendMessage hdest.nul (plain_natToString n).nul (hnul.body hu)]
    simp [Publication.frameTo, hentry]

/-- A report that is not published drops its client, if it was registered. -/
theorem dropped_of_send (hwf : s.WellFormed) {t body : Str} (hmsg : orderMsgInHash msg = .ok hd)
    (hsend : hd.IsSend t body) (hnone : s.published c msg = none) :
    (s.afterMessage c msg).connections.idToHandler.lookup c = none := by
  have heff := act_effect hwf.backed (c := c) (orderMsgInHash_body hmsg)
  rw [← handle_decoded hmsg] at heff
  have hcmd := hsend.command
  have hconn : (s.afterMessage c msg).connections = (s.handle (.message c msg)).connections := rfl
  rw [hconn]
  generalize s.handle (.message c msg) = e at heff
  cases heff with
  | ignored hother => exact absurd hcmd (hother "SEND" (by simp))
  | unregistered hreg => exact hreg
  | opened _ hsub => simp [hsub.command] at hcmd
  | rejected => simp [ConnectionsImp.drop]
  | connected _ hcon => simp [hcon.command] at hcmd
  | disconnected _ hdis => simp [hdis.command] at hcmd
  | anonymous _ hdis => simp [hdis.command] at hcmd
  | broadcast hreg hsend' hent =>
    obtain ⟨rfl, -⟩ := hwf.handlers _ _ hreg
    rw [published_send hmsg hsend' hreg, if_pos hent] at hnone
    cases hnone
  | subscribed _ hsub => simp [hsub.command] at hcmd
  | unsubscribed _ huns => simp [huns.command] at hcmd
  | unindexed _ huns => simp [huns.command] at hcmd

theorem answer_connected (d : ℕ) (h : ConnectionHandler) : ∀ frame ∈ received (sentTo ⟨d⟩
    [Call.send h (ConnectFrame.buildResponseFrame (some (lit "1.2")))]), Answer frame := by
  have htext : ConnectFrame.buildResponseFrame (some (lit "1.2")) =
      lit "CONNECTED\nversion: 1.2\n\n" ++ lit "\x00" := by decide
  have hframe : ∀ text ∈ [lit "CONNECTED\nversion: 1.2\n\n"], text ≠ [] ∧ '\x00' ∉ text := by
    simp [lit]
  have hreceived := received_map hframe
  rw [List.map_singleton, List.map_singleton, Utf8.bytesOf_of_ascii (by simp [lit]), ← htext]
    at hreceived
  by_cases hd : h = ⟨d⟩
  · have hsent : sentTo ⟨d⟩ [Call.send h (ConnectFrame.buildResponseFrame (some (lit "1.2")))] =
        [ConnectFrame.buildResponseFrame (some (lit "1.2"))] := by simp [sentTo, hd]
    rw [hsent, hreceived]
    exact List.forall_mem_singleton.2 .connected
  · have hsent : sentTo ⟨d⟩ [Call.send h (ConnectFrame.buildResponseFrame (some (lit "1.2")))] =
        [] := by simp [sentTo, hd]
    simp [hsent, received_nil]

/-- The receipt that a message asks for is an answer. -/
theorem answers_receiptCalls (hread : ReadFrom u msg hd)
    (hconnect : hd.get "COMMAND" ≠ some (lit "CONNECT"))
    (hsend : hd.get "COMMAND" ≠ some (lit "SEND")) (h : ConnectionHandler) :
    ∀ frame ∈ received (sentTo ⟨d⟩ (receiptCalls h (hd.get "receipt"))), Answer frame := by
  rw [sentTo_receiptCalls]
  split_ifs
  · cases hr : hd.get "receipt" with
    | none => simp [received_nil]
    | some r =>
      obtain ⟨k, rfl⟩ := hread.receipt hconnect hsend r hr
      have hk : Utf8.bytesOf (natToString k) = natToString k :=
        Utf8.bytesOf_of_ascii (ascii_natToString _)
      simp only [Option.map_some, Option.toList_some, received_receipt (plain_natToString k), hk]
      exact List.forall_mem_singleton.2 (.receipt k)
  · simp [received_nil]

/-- **What is not published** is answered, at most, and its sender only gets the answer. -/
theorem answers_of_not_published (hwf : s.WellFormed) (hread : ReadFrom u msg hd)
    (hnone : s.published c msg = none) :
    ∀ frame ∈ received (sentTo ⟨d⟩ (s.handle (.message c msg)).calls), Answer frame := by
  have heff := act_effect hwf.backed (c := c) (orderMsgInHash_body hread.decoded)
  rw [← handle_decoded hread.decoded] at heff
  generalize s.handle (.message c msg) = e at heff
  cases heff with
  | @rejected h s₁ pre errors hreg hrej =>
    obtain ⟨rfl, -⟩ := hwf.handlers _ _ hreg
    have hparsed : Parsed hd := ⟨msg, hread.delivered, hread.decoded⟩
    have herrors : ∀ error ∈ errors, IsErrorLine error := fun error hmem =>
      ⟨_, _, _, _, _, _, _, hparsed, hrej, hmem⟩
    by_cases hd' : (⟨d⟩ : ConnectionHandler) = ⟨c⟩
    · obtain ⟨errors', hd'', hsent⟩ := (rejectedBy_of_rejects hrej).1
      have hmem : ErrorFrame.toString errors' hd'' = ErrorFrame.toString errors hd :=
        (hrej.mem_calls (mem_sentTo.1 (hsent ▸ List.mem_singleton_self _))).2
      rw [hd', hsent, hmem, received_errorFrame hparsed herrors]
      exact List.forall_mem_singleton.2 (.error hparsed herrors)
    · have hnone : sentTo ⟨d⟩ (pre ++ rejectCalls c ⟨c⟩ errors hd) = [] :=
        List.eq_nil_iff_forall_not_mem.2 fun m hm => hd' (hrej.mem_calls (mem_sentTo.1 hm)).1
      simp [hnone, received_nil]
  | connected hreg hcon =>
    obtain ⟨-, rfl, hreceipt⟩ := hread.connect _ _ _ _ hcon
    rw [hreceipt, receiptCalls]
    exact answer_connected d _
  | @disconnected h r u' hreg hdis =>
    have hsent : sentTo ⟨d⟩ [.send h (ReceiptFrame.toString r), .disconnect c, .terminate h] =
        sentTo ⟨d⟩ (receiptCalls h (hd.get "receipt")) := by
      rw [hdis.receipt]
      rfl
    rw [hsent]
    exact answers_receiptCalls hread (by simp [hdis.command]) (by simp [hdis.command]) h
  | broadcast hreg hsend hent =>
    -- this one is published
    obtain ⟨rfl, -⟩ := hwf.handlers _ _ hreg
    rw [published_send hread.decoded hsend hreg, if_pos hent] at hnone
    cases hnone
  | @subscribed h t id hreg hsub =>
    have hsent : sentTo ⟨d⟩ (Call.subscribe t c id true :: receiptCalls h (hd.get "receipt")) =
        sentTo ⟨d⟩ (receiptCalls h (hd.get "receipt")) := rfl
    rw [hsent]
    exact answers_receiptCalls hread (by simp [hsub.command]) (by simp [hsub.command]) h
  | @unsubscribed h t id hreg huns =>
    have hsent : sentTo ⟨d⟩ (Call.unsubscribe c id true :: receiptCalls h (hd.get "receipt")) =
        sentTo ⟨d⟩ (receiptCalls h (hd.get "receipt")) := rfl
    rw [hsent]
    exact answers_receiptCalls hread (by simp [huns.command]) (by simp [huns.command]) h
  | _ => simp [sentTo, received_nil]

/-- Nobody but its sender gets anything for a message that is not published. -/
theorem silent_of_not_published (hwf : s.WellFormed) (hmsg : orderMsgInHash msg = .ok hd)
    (hnone : s.published c msg = none) (hd' : d ≠ c) :
    sentTo ⟨d⟩ (s.handle (.message c msg)).calls = [] := by
  have heff := act_effect hwf.backed (c := c) (orderMsgInHash_body hmsg)
  rw [← handle_decoded hmsg] at heff
  generalize s.handle (.message c msg) = e at heff
  have hne : ∀ {h}, s.connections.idToHandler.lookup c = some h →
      (⟨d⟩ : ConnectionHandler) ≠ h := by
    intro h hreg heq
    rw [(hwf.handlers c h hreg).1] at heq
    exact hd' (congrArg ConnectionHandler.serial heq)
  have hreceipts : ∀ {h}, s.connections.idToHandler.lookup c = some h → ∀ r,
      sentTo ⟨d⟩ (receiptCalls h r) = [] := fun hreg r => by
    rw [sentTo_receiptCalls, if_neg (hne hreg)]
  cases heff with
  | rejected hreg hrej =>
    obtain ⟨rfl, -⟩ := hwf.handlers _ _ hreg
    refine List.eq_nil_iff_forall_not_mem.2 fun m hm => hd' ?_
    exact congrArg ConnectionHandler.serial (hrej.mem_calls (mem_sentTo.1 hm)).1
  | connected hreg hcon =>
    have hother := hreceipts hreg (hd.get "receipt-id")
    simpa [sentTo, (hne hreg).symm] using hother
  | disconnected hreg hdis => simp [sentTo, (hne hreg).symm]
  | broadcast hreg hsend hent =>
    obtain ⟨rfl, -⟩ := hwf.handlers _ _ hreg
    rw [published_send hmsg hsend hreg, if_pos hent] at hnone
    cases hnone
  | subscribed hreg hsub => exact hreceipts hreg _
  | unsubscribed hreg huns => exact hreceipts hreg _
  | _ => simp [sentTo]

end Server

end WorldCupInformer
