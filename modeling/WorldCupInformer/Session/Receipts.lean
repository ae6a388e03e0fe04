import WorldCupInformer.Client.ReceivedMessages
import WorldCupInformer.Server.Subscribers
import WorldCupInformer.Session.Commands

/-!
# Receipt ids over many logins

The client may log in again after a session has ended.  Every login opens a new connection; what
the client has written on the old ones may still reach the server, and the frames on their way to
the old ones are discarded.  Commands are also typed without a connection, and a connection may
break, so that writing fails.  A command may be typed at any time, also while the keyboard thread
would still wait for the RECEIPT of a logout.

* `Sessions.step`: the steps of the client and the server;
* `Effect.answerTo`, `Effect.sentTo_other`: what the server sends for a frame that is not a SEND;
* `Sessions.Inv`: the receipts of the client, and the messages and frames on their way;
* `receipts_matched`: every RECEIPT the client handles names the request that carried its id.
-/

namespace WorldCupInformer

open Client (natToString CppException StompProtocol)

/-- The client with its current session, and what was before. -/
structure Sessions where
  session : Session
  /-- the connection of the last login -/
  connection : ℕ := 0
  /-- what has been written on the connections before it and the server has not worked off -/
  stale : ℕ → List Str := fun _ => []
  /-- the requests of the session: receipt id, and game name or `DISCONNECT` -/
  requests : List (Str × Str) := []

namespace Sessions

/-- The steps of the client and the server. -/
inductive Event
  /-- `connects`: whether the socket can be connected -/
  | login (hostPort username password : Word) (connects : Bool)
  | join (gameName : Word)
  | exit (gameName : Word)
  | logout
  /-- the connection breaks: from now on writing fails -/
  | broken
  /-- the server works off the oldest message of the session -/
  | serve
  /-- the server works off the oldest message of another connection -/
  | serveStale (c : ℕ)
  /-- the client handles its oldest frame -/
  | deliver

/-- The client when it has been started. -/
def start (server : Server) : Sessions where
  session := { client := .ok {}, link := { server } }

/-- The server accepts a new connection. -/
def accept (s : Sessions) : Sessions where
  session := { s.session with link := { server := s.session.link.server.step .accept } }
  connection := s.session.link.server.accepted
  stale := Function.update s.stale s.connection (s.stale s.connection ++ s.session.link.toServer)

/-- Running `login` connects the socket. -/
def opens (s : Sessions) (connects : Bool)
    (run : StompProtocol → Except CppException (StompProtocol × ℕ)) : Bool :=
  match s.session.client with
  | .error _ => false
  | .ok p => !p.sentLoginRequest && connects && (run p).isOk

/-- `login`. -/
def login (s : Sessions) (connects : Bool)
    (run : StompProtocol → Except CppException (StompProtocol × ℕ)) : Sessions :=
  let s := if s.opens connects run then s.accept else s
  { s with session := s.session.command run }

/-- A command, and the name of the request it makes; only a connected client has a session. -/
def request (s : Sessions)
    (run : StompProtocol → Except CppException (StompProtocol × ℕ))
    (name : StompProtocol → Option Str) : Sessions :=
  { s with
    session := s.session.command run
    requests := match s.session.client with
      | .error _ => s.requests
      | .ok p =>
        if p.handler.connected then s.requests ++ ((name p).map (p.getReceiptID, ·)).toList
        else s.requests }

/-- The server works off a message of a connection that is not the client's any more. -/
def serveStale (s : Sessions) (c : ℕ) : Sessions :=
  match s.stale c with
  | [] => s
  | msg :: msgs =>
    if c = s.connection then s
    else
      let link := s.session.link
      let calls := (link.server.handle (.message c msg)).calls
      { s with
        session := { s.session with link := { link with
          server := link.server.afterMessage c msg
          toClient := link.toClient ++ received (sentTo ⟨s.connection⟩ calls) } }
        stale := Function.update s.stale c msgs }

/-- One step. -/
def step (s : Sessions) : Event → Sessions
  | .login hostPort username password connects =>
    s.login connects
      (·.handleLoginRequest [lit "login", hostPort.typed, username.typed, password.typed] connects)
  | .join gameName =>
    s.request (·.handleJoinRequest [lit "join", gameName.typed]) fun _ => some gameName.typed
  | .exit gameName =>
    s.request (·.handleExitRequest [lit "exit", gameName.typed]) fun p =>
      if p.getSubByGame gameName.typed = "" then none else some gameName.typed
  | .logout => s.request (fun p => .ok p.handleLogoutRequest) fun _ => some "DISCONNECT"
  | .broken => { s with session := { s.session with client := s.session.client.map fun p =>
      { p with handler := { p.handler with writable := false } } } }
  | .serve => { s with session := s.session.step s.connection .serve }
  | .serveStale c => s.serveStale c
  | .deliver => { s with session := s.session.deliver }

end Sessions

/-! ### The server's answers -/

section Answers

variable {s : ConnectionsImp} {c : ℕ} {hd : HeaderTable} {e : Exec}

/-- What a frame that is not a SEND is answered with. -/
def AnswerTo (hd : HeaderTable) (texts : List Str) : Prop :=
  texts = [] ∨ (∃ errors hd', texts = [ErrorFrame.toString errors hd']) ∨
  (∃ v host u p, hd.IsConnect v host u p ∧ texts =
    ConnectFrame.buildResponseFrame (some v) ::
      ((hd.get "receipt-id").map ReceiptFrame.toString).toList) ∨
  hd.get "COMMAND" ≠ some (lit "CONNECT") ∧
    ∃ r, hd.get "receipt" = some r ∧ texts = [ReceiptFrame.toString r]

theorem sentTo_receiptCalls_self (r : Option Str) :
    sentTo ⟨c⟩ (receiptCalls ⟨c⟩ r) = (r.map ReceiptFrame.toString).toList := by
  rw [sentTo_receiptCalls, if_pos rfl]

/-- A RECEIPT answers the receipt header of a SUBSCRIBE or an UNSUBSCRIBE. -/
theorem answerTo_receipt (hcmd : hd.get "COMMAND" ≠ some (lit "CONNECT")) :
    AnswerTo hd (sentTo ⟨c⟩ (receiptCalls ⟨c⟩ (hd.get "receipt"))) := by
  rw [sentTo_receiptCalls_self]
  cases hr : hd.get "receipt" with
  | none => exact .inl rfl
  | some r => exact .inr (.inr (.inr ⟨hcmd, r, hr, rfl⟩))

/-- The sender of a frame that is not a SEND gets an answer. -/
theorem Effect.answerTo (he : Effect s c hd e) (hcmd : hd.get "COMMAND" ≠ some (lit "SEND"))
    (hregs : ∀ h, s.idToHandler.lookup c = some h → h = ⟨c⟩) :
    AnswerTo hd (sentTo ⟨c⟩ e.calls) := by
  cases he with
  | rejected hreg hrej =>
    obtain rfl := hregs _ hreg
    exact .inr (.inl (rejectedBy_of_rejects hrej).1)
  | connected hreg hcon =>
    obtain rfl := hregs _ hreg
    refine .inr (.inr (.inl ⟨_, _, _, _, hcon, ?_⟩))
    rw [← sentTo_receiptCalls_self (c := c)]
    simp [sentTo]
  | disconnected hreg hdis =>
    obtain rfl := hregs _ hreg
    exact .inr (.inr (.inr ⟨by simp [hdis.command], _, hdis.receipt, by simp [sentTo]⟩))
  | broadcast _ hsend => exact absurd hsend.command hcmd
  | subscribed hreg hsub =>
    obtain rfl := hregs _ hreg
    exact answerTo_receipt (by simp [hsub.command])
  | unsubscribed hreg huns =>
    obtain rfl := hregs _ hreg
    exact answerTo_receipt (by simp [huns.command])
  | _ => exact .inl rfl

/-- Nobody else gets one. -/
theorem Effect.sentTo_other (he : Effect s c hd e) (hcmd : hd.get "COMMAND" ≠ some (lit "SEND"))
    (hregs : ∀ h, s.idToHandler.lookup c = some h → h = ⟨c⟩) {d : ConnectionHandler}
    (hd' : d ≠ ⟨c⟩) : sentTo d e.calls = [] := by
  refine List.eq_nil_iff_forall_not_mem.2 fun m hm => ?_
  rw [mem_sentTo] at hm
  have hreceipt : ∀ h r, s.idToHandler.lookup c = some h → Call.send d m ∉ receiptCalls h r := by
    intro h r hreg hmem
    obtain rfl := hregs _ hreg
    have hnone := sentTo_receiptCalls (h := ⟨c⟩) (d := d) r
    rw [if_neg hd'] at hnone
    exact absurd (mem_sentTo.2 hmem) (by rw [hnone]; exact List.not_mem_nil)
  cases he with
  | rejected hreg hrej => exact hd' ((hrej.mem_calls hm).1.trans (hregs _ hreg))
  | connected hreg =>
    rcases List.mem_cons.1 hm with heq | hm
    · exact hd' ((Call.send.inj heq).1.trans (hregs _ hreg))
    · exact hreceipt _ _ hreg hm
  | disconnected hreg =>
    simp only [List.mem_cons, Call.send.injEq, reduceCtorEq, List.not_mem_nil, or_false] at hm
    exact hd' (hm.1.trans (hregs _ hreg))
  | broadcast _ hsend => exact hcmd hsend.command
  | subscribed hreg => exact hreceipt _ _ hreg (by simpa using hm)
  | unsubscribed hreg => exact hreceipt _ _ hreg (by simpa using hm)
  | _ => exact List.not_mem_nil hm

end Answers

/-- The frames are answers to requests with these receipt ids, up to an ERROR: the client handles
none after it. -/
def Foreseen (ids : List Str) : List Str → Prop
  | [] => True
  | frame :: frames => HasCommand "ERROR" frame ∨
      ((HasCommand "CONNECTED" frame ∨ ∃ k : ℕ, natToString k ∈ ids ∧
        frame = Client.receiptText (natToString k)) ∧ Foreseen ids frames)

section Foreseen

variable {ids ids' frames frames' : List Str}

theorem Foreseen.append (h : Foreseen ids frames) (h' : Foreseen ids frames') :
    Foreseen ids (frames ++ frames') := by
  induction frames with
  | nil => exact h'
  | cons frame frames ih =>
    rcases h with herror | ⟨hframe, hrest⟩
    · exact .inl herror
    · exact .inr ⟨hframe, ih hrest⟩

theorem Foreseen.mono (hids : ids ⊆ ids') (h : Foreseen ids frames) : Foreseen ids' frames := by
  induction frames with
  | nil => trivial
  | cons frame frames ih =>
    rcases h with herror | ⟨hconnected | ⟨k, hk, hframe⟩, hrest⟩
    · exact .inl herror
    · exact .inr ⟨.inl hconnected, ih hrest⟩
    · exact .inr ⟨.inr ⟨k, hids hk, hframe⟩, ih hrest⟩

end Foreseen

/-- What the server reads of it. -/
structure ReadAs (r : Option ℕ) (hd : HeaderTable) : Prop where
  notSend : hd.get "COMMAND" ≠ some (lit "SEND")
  connect : hd.get "COMMAND" = some (lit "CONNECT") →
    hd.get "accept - version" = some (lit "1.2") ∧ hd.get "receipt-id" = none
  receipt : hd.get "COMMAND" ≠ some (lit "CONNECT") → hd.get "receipt" = r.map natToString

theorem ClientMessage.decodes {r : Option ℕ} {msg : Str} (hmsg : ClientMessage r msg) :
    ∃ hd, orderMsgInHash msg = .ok hd ∧ ReadAs r hd := by
  cases hmsg with
  | connect hu hpw =>
    obtain ⟨hd, hmsg, hcon, hreceipt⟩ := decodes_connect hu hpw
    exact ⟨hd, hmsg, by simp [hcon.command], fun _ => ⟨hcon.version, hreceipt⟩,
      fun hcmd => absurd hcon.command hcmd⟩
  | subscribe hg hid k =>
    obtain ⟨hd, hmsg, hsub, hreceipt⟩ := decodes_subscribe hg hid (plain_natToString k)
    exact ⟨hd, hmsg, by simp [hsub.command], by simp [hsub.command], fun _ => hreceipt⟩
  | unsubscribe hid k =>
    obtain ⟨hd, hmsg, huns, hreceipt⟩ := decodes_unsubscribe hid (plain_natToString k)
    exact ⟨hd, hmsg, by simp [huns.command], by simp [huns.command], fun _ => hreceipt⟩
  | disconnect k =>
    obtain ⟨hd, hmsg, hdis⟩ := decodes_disconnect (plain_natToString k)
    exact ⟨hd, hmsg, by simp [hdis.command], by simp [hdis.command], fun _ => hdis.receipt⟩

section Reply

variable {server : Server} {c : ℕ} {msg : Str} {r : Option ℕ}

/-- A message of a connection other than `d` sends nothing to `d`. -/
theorem ClientMessage.sentTo_other (hmsg : ClientMessage r msg) (hwf : server.WellFormed) {d : ℕ}
    (hd : d ≠ c) : sentTo ⟨d⟩ (server.handle (.message c msg)).calls = [] := by
  obtain ⟨table, hdecoded, hread⟩ := hmsg.decodes
  have heff := act_effect hwf.backed (c := c) (orderMsgInHash_body hdecoded)
  rw [← Server.handle_decoded hdecoded] at heff
  exact heff.sentTo_other hread.notSend (fun h hreg => (hwf.handlers c h hreg).1)
    fun heq => hd (congrArg ConnectionHandler.serial heq)

/-- The sender gets the answer to its request. -/
theorem ClientMessage.foreseen (hmsg : ClientMessage r msg) (hwf : server.WellFormed)
    {ids : List Str}
    (hids : ∀ k ∈ r, natToString k ∈ ids) : Foreseen ids (server.answer c msg) := by
  obtain ⟨table, hdecoded, hread⟩ := hmsg.decodes
  have heff := act_effect hwf.backed (c := c) (orderMsgInHash_body hdecoded)
  rw [← Server.handle_decoded hdecoded] at heff
  have hanswer := heff.answerTo hread.notSend fun h hreg => (hwf.handlers c h hreg).1
  rw [Server.answer]
  rcases hanswer with hnone | ⟨errors, table', herror⟩ | ⟨v, host, u, p, hcon, hconnected⟩ |
    ⟨hcmd, r', hreceipt, hsent⟩
  · rw [hnone]
    trivial
  · obtain ⟨rest, hrest⟩ := hasCommand_errorFrame errors table'
    have hb : lit "ERROR" ++ ['\n'] ≠ [] ∧ '\x00' ∉ lit "ERROR" ++ ['\n'] := by simp [lit]
    obtain ⟨frame, frames, hframes, hstart⟩ := received_cons hb.1 hb.2 rest []
    rw [Utf8.bytesOf_of_ascii (by simp [lit])] at hstart
    rw [herror, ← hrest, hframes]
    exact .inl hstart
  · obtain ⟨hversion, hnone⟩ := hread.connect hcon.command
    obtain rfl : v = lit "1.2" := Option.some.inj (hcon.version.symm.trans hversion)
    have htext : ConnectFrame.buildResponseFrame (some (lit "1.2")) =
        lit "CONNECTED\nversion: 1.2\n\n" ++ lit "\x00" := by decide
    have hframe : ∀ text ∈ [lit "CONNECTED\nversion: 1.2\n\n"], text ≠ [] ∧ '\x00' ∉ text := by
      simp [lit]
    have hreceived := received_map hframe
    rw [List.map_singleton, List.map_singleton, Utf8.bytesOf_of_ascii (by simp [lit])] at hreceived
    rw [hconnected, hnone, htext]
    simp only [Option.map_none, Option.toList_none, hreceived]
    exact .inr ⟨.inl (by decide), trivial⟩
  · have hr := hread.receipt hcmd
    rw [hreceipt] at hr
    obtain ⟨k, rfl, rfl⟩ := Option.map_eq_some_iff.1 hr.symm
    have hk : Utf8.bytesOf (natToString k) = natToString k :=
      Utf8.bytesOf_of_ascii (ascii_natToString _)
    rw [hsent, Server.received_receipt (plain_natToString k), hk]
    exact .inr ⟨.inr ⟨k, hids k rfl, rfl⟩, trivial⟩

end Reply

/-! ### The steps -/

namespace Sessions

/-- The receipt ids of the session's requests. -/
def ids (s : Sessions) : List Str := s.requests.map Prod.fst

/-- What every step preserves. -/
structure Inv (s : Sessions) : Prop where
  wellFormed : s.session.link.server.WellFormed
  client : ∀ p, s.session.client = .ok p → AtRest p
  nodup : s.ids.Nodup
  known : ∀ p, s.session.client = .ok p → p.handler.connected = true →
    ∀ q ∈ s.requests, p.receiptToMsg.lookup q.1 = some q.2
  messages : ∀ msg ∈ s.session.link.toServer,
    ∃ r, ClientMessage r msg ∧ ∀ k ∈ r, natToString k ∈ s.ids
  stale : ∀ c, ∀ msg ∈ s.stale c, ∃ r, ClientMessage r msg
  frames : ∀ p, s.session.client = .ok p → p.handler.connected = true →
    Foreseen s.ids s.session.link.toClient

namespace Inv

variable {s : Sessions} {p p' : StompProtocol}

theorem start {server : Server} (hwf : server.WellFormed) : (Sessions.start server).Inv where
  wellFormed := hwf
  client p hp := by
    obtain rfl := Except.ok.inj hp
    exact .start
  nodup := List.nodup_nil
  known p _ _ q hq := by simp [Sessions.start] at hq
  messages msg hmsg := by simp [Sessions.start] at hmsg
  stale c msg hmsg := by simp [Sessions.start] at hmsg
  frames p _ _ := trivial

/-- The client dies. -/
theorem die (hs : s.Inv) (x : CppException) :
    Inv { s with session := { s.session with client := .error x } } where
  wellFormed := hs.wellFormed
  client p hp := by cases hp
  nodup := hs.nodup
  known p hp := by cases hp
  messages := hs.messages
  stale := hs.stale
  frames p hp := by cases hp

/-- The client changes, but neither its receipts nor, from closed to open, its connection. -/
theorem replace (hs : s.Inv) (hp : s.session.client = .ok p) (hrest : AtRest p')
    (hreceipts : p'.receiptToMsg = p.receiptToMsg)
    (hconnected : p'.handler.connected = true → p.handler.connected = true) :
    Inv { s with session := { s.session with client := .ok p' } } where
  wellFormed := hs.wellFormed
  client q hq := by
    obtain rfl := Except.ok.inj hq
    exact hrest
  nodup := hs.nodup
  known q hq hopen := by
    obtain rfl := Except.ok.inj hq
    rw [hreceipts]
    exact hs.known p hp (hconnected hopen)
  messages := hs.messages
  stale := hs.stale
  frames q hq hopen := by
    obtain rfl := Except.ok.inj hq
    exact hs.frames p hp (hconnected hopen)

/-- A new connection. -/
theorem accept (hs : s.Inv) : s.accept.Inv where
  wellFormed := hs.wellFormed.step .accept
  client := hs.client
  nodup := List.nodup_nil
  known p _ _ q hq := by simp [Sessions.accept] at hq
  messages msg hmsg := by simp [Sessions.accept] at hmsg
  stale c msg hmsg := by
    simp only [Sessions.accept, Function.update_apply] at hmsg
    split_ifs at hmsg with hc
    · rcases List.mem_append.1 hmsg with hmsg | hmsg
      · exact hs.stale _ msg hmsg
      · obtain ⟨r, hr, -⟩ := hs.messages msg hmsg
        exact ⟨r, hr⟩
    · exact hs.stale c msg hmsg
  frames p _ _ := trivial

end Inv

end Sessions

namespace Sessions.Inv

variable {s : Sessions} {p p' : StompProtocol}

/-- A command that makes a request. -/
theorem request (hs : s.Inv) (hp : s.session.client = .ok p) {name msg : Str} {n : ℕ}
    {run : StompProtocol → Except CppException (StompProtocol × ℕ)}
    {names : StompProtocol → Option Str} (hrun : run p = .ok (p', n)) (hasks : Asks p p' name msg)
    (hname : names p = some name) : (s.request run names).Inv := by
  have hrest := hs.client p hp
  have hnew := hrest.numbered.lookup_size
  -- the new id is not in the table yet
  have hfresh : p.handler.connected = true → p.getReceiptID ∉ s.ids := fun hopen hmem => by
    obtain ⟨q, hq, hid⟩ := List.mem_map.1 hmem
    have hknown := hs.known p hp hopen q hq
    rw [hid] at hknown
    exact absurd (hnew.symm.trans hknown) (by simp)
  have hrequests : (s.request run names).requests = if p.handler.connected then
      s.requests ++ [(p.getReceiptID, name)] else s.requests := by
    simp only [Sessions.request, hp, hname, Option.map_some, Option.toList_some]
  have hsession : (s.request run names).session =
      { client := .ok { p' with handler.written := [] }
        link := s.session.link.send (if p.handler.writable then [msg] else []) } := by
    exact Session.command_written hp hrun hasks.handler hasks.message
  have hids : s.ids ⊆ (s.request run names).ids := by
    rw [Sessions.ids, Sessions.ids, hrequests]
    split_ifs
    · simp
    · exact List.Subset.refl _
  refine
    { wellFormed := by rw [hsession]; exact hs.wellFormed
      client := fun q hq => ?_
      nodup := ?_
      known := fun q hq hopen => ?_
      messages := fun m hm => ?_
      stale := hs.stale
      frames := fun q hq hopen => ?_ }
  · rw [hsession] at hq
    obtain rfl := Except.ok.inj hq
    refine
      { numbered := by rw [hasks.receipts]; exact hrest.numbered.insert name
        entries := fun g subID hsub => ?_
        written := rfl
        connected := by rw [hasks.handler]; exact hrest.connected }
    rcases hasks.entries g subID hsub with hold | hentry
    · exact hrest.entries g subID hold
    · exact hentry
  · rw [Sessions.ids, hrequests]
    split_ifs with hopen
    · rw [List.map_append, List.map_singleton]
      exact List.concat_eq_append ▸ hs.nodup.concat (hfresh hopen)
    · exact hs.nodup
  · rw [hsession] at hq
    obtain rfl := Except.ok.inj hq
    have hopen : p.handler.connected = true := by rw [hasks.handler] at hopen; exact hopen
    rw [hrequests, if_pos hopen, hasks.receipts]
    intro asked hasked
    rw [Dict.lookup_insert]
    rcases List.mem_append.1 hasked with hasked | hasked
    · have hid : asked.1 ≠ p.getReceiptID := fun hid =>
        hfresh hopen (hid ▸ List.mem_map_of_mem hasked)
      rw [if_neg hid]
      exact hs.known p hp hopen asked hasked
    · obtain rfl := List.mem_singleton.1 hasked
      rw [if_pos rfl]
  · rw [hsession] at hm
    rcases List.mem_append.1 hm with hm | hm
    · obtain ⟨r, hr, hk⟩ := hs.messages m hm
      exact ⟨r, hr, fun k hk' => hids (hk k hk')⟩
    · split_ifs at hm with hwritable
      · obtain rfl := List.mem_singleton.1 hm
        refine ⟨_, hasks.message, fun k hk => ?_⟩
        obtain rfl := Option.some.inj hk
        rw [Sessions.ids, hrequests, if_pos (hrest.connected hwritable)]
        simp [StompProtocol.getReceiptID]
      · exact absurd hm List.not_mem_nil
  · rw [hsession] at hq ⊢
    obtain rfl := Except.ok.inj hq
    have hopen : p.handler.connected = true := by rw [hasks.handler] at hopen; exact hopen
    exact (hs.frames p hp hopen).mono hids

theorem request_dead {s : Sessions} {x : CppException} (hp : s.session.client = .error x)
    (run : StompProtocol → Except CppException (StompProtocol × ℕ))
    (names : StompProtocol → Option Str) : s.request run names = s := by
  simp only [Sessions.request, Session.command_dead hp, hp]

theorem join (hs : s.Inv) (w : Word) : (s.step (.join w)).Inv := by
  cases hp : s.session.client with
  | error x =>
    have hsame : s.step (.join w) = s := request_dead hp _ _
    rwa [hsame]
  | ok p =>
    obtain ⟨p', n, hrun, hasks⟩ := (hs.client p hp).asks_join w
    exact hs.request hp hrun hasks rfl

/-- An `exit` of a game without an entry makes no request. -/
theorem exit (hs : s.Inv) (w : Word) : (s.step (.exit w)).Inv := by
  cases hp : s.session.client with
  | error x =>
    have hsame : s.step (.exit w) = s := request_dead hp _ _
    rwa [hsame]
  | ok p =>
    have hrest := hs.client p hp
    by_cases hsub : p.getSubByGame w.typed = []
    · have hrun := (handleExitRequest_eq p w.typed).trans (if_pos hsub)
      have hsame : s.session.command (·.handleExitRequest [lit "exit", w.typed]) =
          { s.session with client := .ok p } :=
        Session.command_of_silent hp hrun hrest.written
      have hstep : s.step (.exit w) = { s with session := { s.session with client := .ok p } } := by
        have hempty : p.getSubByGame w.typed = lit "" := hsub
        simp only [Sessions.step, Sessions.request, hp, hempty, if_true, Option.map_none,
          Option.toList_none, List.append_nil, ite_self, hsame]
      rw [hstep]
      exact hs.replace hp hrest rfl id
    · obtain ⟨p', n, hrun, hasks⟩ := hrest.asks_exit w hsub
      exact hs.request hp hrun hasks (if_neg hsub)

theorem logout (hs : s.Inv) : (s.step .logout).Inv := by
  cases hp : s.session.client with
  | error x =>
    have hsame : s.step .logout = s := request_dead hp _ _
    rwa [hsame]
  | ok p =>
    obtain ⟨p', n, hrun, hasks⟩ := (hs.client p hp).asks_logout
    exact hs.request hp (congrArg Except.ok hrun) hasks rfl

theorem broken (hs : s.Inv) : (s.step .broken).Inv := by
  cases hp : s.session.client with
  | error x =>
    have hsame : s.step .broken = { s with session := { s.session with client := .error x } } := by
      simp only [Sessions.step, hp]
      rfl
    rw [hsame]
    exact hs.die x
  | ok p =>
    have hrest := hs.client p hp
    have hsame : s.step .broken = { s with session := { s.session with
        client := .ok { p with handler := { p.handler with writable := false } } } } := by
      simp only [Sessions.step, hp]
      rfl
    rw [hsame]
    exact hs.replace hp ⟨hrest.numbered, hrest.entries, hrest.written, nofun⟩ rfl id

/-- The server works off a message of the session. -/
theorem serve (hs : s.Inv) : (s.step .serve).Inv := by
  cases hq : s.session.link.toServer with
  | nil =>
    have hsame : s.step .serve = s := by
      simp only [Sessions.step, Session.step, Link.serve, hq]
    rwa [hsame]
  | cons msg msgs =>
    have hsession : (s.step .serve).session.link =
        ⟨s.session.link.server.afterMessage s.connection msg, msgs,
          s.session.link.toClient ++ s.session.link.server.answer s.connection msg⟩ := by
      simp only [Sessions.step, Session.step, Link.serve, hq]
    obtain ⟨r, hmsg, hids⟩ := hs.messages msg (hq ▸ List.mem_cons_self)
    exact
      { wellFormed := by rw [hsession]; exact hs.wellFormed.step _
        client := hs.client
        nodup := hs.nodup
        known := hs.known
        messages := fun m hm => by
          rw [hsession] at hm
          exact hs.messages m (hq ▸ List.mem_cons_of_mem _ hm)
        stale := hs.stale
        frames := fun p hp hopen => by
          rw [hsession]
          exact (hs.frames p hp hopen).append (hmsg.foreseen hs.wellFormed hids) }

/-- A message of an old connection is answered there only. -/
theorem serveStale (hs : s.Inv) (c : ℕ) : (s.step (.serveStale c)).Inv := by
  unfold Sessions.step Sessions.serveStale
  dsimp only
  split
  · exact hs
  rename_i msg msgs hstale
  split_ifs with hc
  · exact hs
  obtain ⟨r, hmsg⟩ := hs.stale c msg (hstale ▸ List.mem_cons_self)
  have hnone := hmsg.sentTo_other (c := c) hs.wellFormed (d := s.connection) (Ne.symm hc)
  have hreceived : received [] = [] := rfl
  refine
    { wellFormed := hs.wellFormed.step _
      client := hs.client
      nodup := hs.nodup
      known := hs.known
      messages := hs.messages
      stale := fun d m hm => ?_
      frames := fun p hp hopen => ?_ }
  · simp only [Function.update_apply] at hm
    split_ifs at hm with hd
    · exact hs.stale c m (hstale ▸ List.mem_cons_of_mem _ hm)
    · exact hs.stale d m hm
  · simp only [hnone, hreceived, List.append_nil]
    exact hs.frames p hp hopen

/-- What the client makes of a foreseen frame. -/
theorem processFrame (hs : s.Inv) (hp : s.session.client = .ok p)
    (hopen : p.handler.connected = true) {frame : Str} {frames : List Str}
    (hframes : Foreseen s.ids (frame :: frames)) (hp' : p.processFrame frame = .ok p') :
    AtRest p' ∧ (p'.handler.connected = true →
      p'.receiptToMsg = p.receiptToMsg ∧ Foreseen s.ids frames) := by
  have hrest := hs.client p hp
  have hhead : ∀ {cmd : String}, HasCommand cmd frame →
      ∃ rest, frame = lit cmd ++ '\n' :: rest := by
    rintro cmd ⟨rest, rfl⟩
    exact ⟨rest, List.append_assoc _ _ _⟩
  rcases hframes with herror | ⟨hconnected | ⟨k, hk, rfl⟩, hframes⟩
  · obtain ⟨rest, rfl⟩ := hhead herror
    obtain rfl := StompProtocol.processFrame_error hp'
    exact ⟨hrest.logout, nofun⟩
  · obtain ⟨rest, rfl⟩ := hhead hconnected
    obtain rfl := StompProtocol.processFrame_connected hp'
    exact ⟨hrest, fun _ => ⟨rfl, hframes⟩⟩
  · obtain ⟨asked, hasked, hid⟩ := List.mem_map.1 hk
    have hknown := hs.known p hp hopen asked hasked
    rw [hid] at hknown
    rw [StompProtocol.processFrame_receipt (plain_natToString k).newline hknown] at hp'
    obtain rfl := Except.ok.inj hp'
    refine ⟨hrest.receiptOf _, fun hopen' => ⟨?_, hframes⟩⟩
    rcases p.receiptOf_cases asked.2 with heq | ⟨subs, heq⟩
    · rw [heq] at hopen'
      cases hopen'
    · rw [heq]

/-- The client handles a frame. -/
theorem deliver (hs : s.Inv) : (s.step .deliver).Inv := by
  simp only [Sessions.step]
  rcases s.session.deliver_cases with hsame | ⟨p, frame, frames, hp, hopen, hframes, hsession⟩
  · rw [hsame]
    exact hs
  · have hforeseen := hframes ▸ hs.frames p hp hopen
    rw [hsession]
    exact
      { wellFormed := hs.wellFormed
        client := fun p' hp' => (hs.processFrame hp hopen hforeseen hp').1
        nodup := hs.nodup
        known := fun p' hp' hopen' => by
          rw [((hs.processFrame hp hopen hforeseen hp').2 hopen').1]
          exact hs.known p hp hopen
        messages := hs.messages
        stale := hs.stale
        frames := fun p' hp' hopen' => by
          have hrest := ((hs.processFrame hp hopen hforeseen hp').2 hopen').2
          simp only [Link.receive, hframes, List.tail_cons]
          exact hrest }

end Sessions.Inv

/-! ### Logging in -/

namespace Sessions

variable {s : Sessions} {p p' : StompProtocol}

/-- The CONNECT of a new connection. -/
theorem Inv.sendConnect (hs : s.Inv) (hrest : AtRest p') (hids : s.requests = [])
    (hframes : s.session.link.toClient = []) {u pw : Str} (hu : Plain u) (hpw : Plain pw) :
    Inv { s with session :=
      { client := .ok p', link := s.session.link.send [connectMessage u pw] } } where
  wellFormed := hs.wellFormed
  client q hq := by
    obtain rfl := Except.ok.inj hq
    exact hrest
  nodup := hs.nodup
  known q _ _ asked hasked := by simp [hids] at hasked
  messages msg hmsg := by
    rcases List.mem_append.1 hmsg with hmsg | hmsg
    · exact hs.messages msg hmsg
    · obtain rfl := List.mem_singleton.1 hmsg
      exact ⟨none, .connect hu hpw, nofun⟩
  stale := hs.stale
  frames q _ _ := by
    have hnone : (s.session.link.send [connectMessage u pw]).toClient = [] := hframes
    rw [hnone]
    trivial

theorem Inv.login (hs : s.Inv) (hostPort username password : Word) (connects : Bool) :
    (s.step (.login hostPort username password connects)).Inv := by
  simp only [Sessions.step]
  generalize hlogin : (fun p : StompProtocol => p.handleLoginRequest
    [lit "login", hostPort.typed, username.typed, password.typed] connects) = run
  unfold Sessions.login
  cases hp : s.session.client with
  | error x =>
    simpa only [Sessions.opens, Session.command, hp, Bool.false_eq_true, if_false] using hs
  | ok p =>
    have hrest := hs.client p hp
    cases hrun : run p with
    | error x =>
      -- the port is no number, and the socket is not touched
      simp only [Sessions.opens, hp, hrun, Except.isOk, Except.toBool, Bool.and_false,
        Bool.false_eq_true, if_false, Session.command]
      exact hs.die x
    | ok result =>
      obtain ⟨p', n⟩ := result
      obtain ⟨hreceipts, hgames, hhandler⟩ := handleLoginRequest_cases
        ((congrFun hlogin p).trans hrun)
      have hentries : ∀ g subID, p'.gameToSubID.lookup g = some subID → IsEntry subID := by
        rw [hgames]
        exact hrest.entries
      have hopens : s.opens connects run = true ↔ ¬ p.sentLoginRequest ∧ connects := by
        simp [Sessions.opens, hp, hrun, Except.isOk, Except.toBool]
      by_cases hnew : ¬ p.sentLoginRequest ∧ connects
      · rw [if_pos hnew] at hhandler
        obtain ⟨hconnected, hwritten⟩ := hhandler
        have hclient : s.accept.session.client = .ok p := hp
        have hdelivered : delivered p'.handler.written =
            [connectMessage username.text password.text] := by
          rw [hwritten, hrest.written, List.nil_append, Word.typed, Word.typed,
            buildConnectFrame_bytes]
          exact (ClientMessage.connect username.plain password.plain).delivered
        simp only [if_pos (hopens.2 hnew), Session.command, hclient, hrun, hdelivered]
        have hrest' : AtRest { p' with handler.written := [] } :=
          ⟨hreceipts ▸ hrest.numbered, hentries, rfl, fun _ => hconnected⟩
        exact hs.accept.sendConnect hrest' rfl rfl username.plain password.plain
      · rw [if_neg hnew] at hhandler
        obtain ⟨hconnected, hwritable, hwritten⟩ := hhandler
        have hwritten : p'.handler.written = [] := hwritten.trans hrest.written
        have hsame := Session.command_of_silent hp hrun hwritten
        simp only [if_neg (hopens.not.2 hnew), hsame]
        refine hs.replace hp ⟨hreceipts ▸ hrest.numbered, hentries, hwritten, ?_⟩ hreceipts
          fun hopen => hconnected ▸ hopen
        rw [hconnected, hwritable]
        exact hrest.connected

theorem Inv.step (hs : s.Inv) (e : Event) : (s.step e).Inv := by
  cases e with
  | login hostPort username password connects => exact hs.login hostPort username password connects
  | join w => exact hs.join w
  | exit w => exact hs.exit w
  | logout => exact hs.logout
  | broken => exact hs.broken
  | serve => exact hs.serve
  | serveStale c => exact hs.serveStale c
  | deliver => exact hs.deliver

/-! ### Every reachable state -/

/-- The receipts are matched to the requests. -/
structure Matched (s : Sessions) : Prop where
  /-- the keys are the decimal strings of the numbers below the size -/
  numbered : ∀ p, s.session.client = .ok p → Numbered p.receiptToMsg
  /-- no two requests of the session have the same id -/
  distinct : s.ids.Nodup
  /-- a RECEIPT names a request of the session, and is looked up under its game -/
  named : ∀ p frame frames header body, s.session.client = .ok p → p.handler.connected = true →
    s.session.link.toClient = frame :: frames →
    Client.splitFrame frame = .ok ⟨"RECEIPT", header, body⟩ →
    ∃ request ∈ s.requests, Client.receiptIdOf header = .ok request.1 ∧
      p.receiptToMsg.lookup request.1 = some request.2 ∧
      p.receiptToMsg.insertNew request.1 [] = p.receiptToMsg

theorem Inv.matched (hs : s.Inv) : s.Matched where
  numbered p hp := (hs.client p hp).numbered
  distinct := hs.nodup
  named p frame frames header body hp hopen hframes hsplit := by
    have hhead : ∀ {cmd : String}, '\n' ∉ lit cmd → HasCommand cmd frame →
        lit "RECEIPT" = lit cmd := by
      rintro cmd hcmd ⟨rest, rfl⟩
      rw [List.append_assoc] at hsplit
      exact Client.splitFrame_command hcmd hsplit
    have hforeseen := hframes ▸ hs.frames p hp hopen
    rcases hforeseen with herror | ⟨hconnected | ⟨k, hk, rfl⟩, -⟩
    · exact absurd (hhead (by decide) herror) (by decide)
    · exact absurd (hhead (by decide) hconnected) (by decide)
    · obtain ⟨request, hrequest, hid⟩ := List.mem_map.1 hk
      have hknown := hs.known p hp hopen request hrequest
      have hparts := (Client.splitFrame_receipt (plain_natToString k).newline).symm.trans hsplit
      obtain rfl : lit "receipt - id :" ++ natToString k = header :=
        congrArg Client.FrameParts.header (Except.ok.inj hparts)
      exact ⟨request, hrequest, hid ▸ StompProtocol.receiptId_eq _, hknown,
        Dict.insertNew_of_some hknown _⟩

/-- **Every RECEIPT the client handles names the request that carried its id**, in every reachable
state: over any interleaving of commands, frames, broken connections and logins, with a server of
any history. -/
theorem receipts_matched (history : List WorldCupInformer.Event) (es : List Event) :
    (Machine.run step (start (Server.atServer history)) es).Matched :=
  (Machine.run_invariant (I := Inv) (fun _ e hs => hs.step e)
    (.start (Server.wellFormed_atServer history)) es).matched

end Sessions

end WorldCupInformer
