import WorldCupInformer.Session.Network

/-!
# The clients of a network

What one client of a `Network` writes, and what it makes of the frames it gets.

* `UserClient`: what holds of a client between two steps;
* `UserClient.join`, `UserClient.exit`, `UserClient.report`, `UserClient.logout`: the messages a
  command makes (`Typed`);
* `UserClient.answer`: no answer of the server ends the client's process;
* `ReadFromAll.concat`: a publication is read into the entry of its game and user.
-/

namespace WorldCupInformer

open Client (natToString CppException StompProtocol)

/-! ### The clients -/

/-- What holds of a client between two steps, if it has logged in as `u`. -/
structure UserClient (u : Word) (p : StompProtocol) : Prop where
  keys : ∀ g subID, p.gameToSubID.lookup g = some subID → ∃ w : Word, g = w.typed
  entries : ∀ g subID, p.gameToSubID.lookup g = some subID → IsEntry subID
  written : p.handler.written = []
  connected : p.handler.writable = true → p.handler.connected = true
  username : p.handler.connected = true → p.username = u.typed
  tables : p.handler.connected = false → p.gameToEvents = ∅

/-- A client that has just been started. -/
theorem UserClient.start (u : Word) : UserClient u {} where
  keys g subID hg := by simp at hg
  entries g subID hg := by simp at hg
  written := rfl
  connected hw := by cases hw
  username hconnected := by cases hconnected
  tables _ := rfl

/-- A message of the client after its CONNECT. -/
def UserMessage (u : Word) (msg : Str) : Prop :=
  ∃ hd, ReadFrom u.text msg hd ∧ hd.get "COMMAND" ≠ some (lit "CONNECT")

/-- The destination and the body of a SEND. -/
def sendOf (msg : Str) : Option (Str × Str) := do
  let hd ← (orderMsgInHash msg).toOption
  if hd.get "COMMAND" = some (lit "SEND") then
    return (← hd.get "destination", ← hd.get "BODY")
  else none

section SendOf

variable {msg t body : Str} {hd : HeaderTable}

theorem sendOf_send (hmsg : orderMsgInHash msg = .ok hd) (hsend : hd.IsSend t body) :
    sendOf msg = some (t, body) := by
  simp [sendOf, hmsg, Except.toOption, hsend.command, hsend.destination, hsend.body]

theorem sendOf_eq_none (hmsg : orderMsgInHash msg = .ok hd)
    (hcmd : hd.get "COMMAND" ≠ some (lit "SEND")) : sendOf msg = none := by
  simp [sendOf, hmsg, Except.toOption, hcmd]

theorem isSend_of_sendOf (hmsg : orderMsgInHash msg = .ok hd)
    (hsend : sendOf msg = some (t, body)) : hd.IsSend t body := by
  by_cases hcmd : hd.get "COMMAND" = some (lit "SEND")
  · cases hdest : hd.get "destination" with
    | none => simp [sendOf, hmsg, Except.toOption, hcmd, hdest] at hsend
    | some t' =>
      cases hbody : hd.get "BODY" with
      | none => simp [sendOf, hmsg, Except.toOption, hcmd, hdest, hbody] at hsend
      | some body' =>
        simp only [sendOf_send hmsg ⟨hcmd, hdest, hbody⟩, Option.some.injEq, Prod.mk.injEq] at hsend
        obtain ⟨rfl, rfl⟩ := hsend
        exact ⟨hcmd, hdest, hbody⟩
  · rw [sendOf_eq_none hmsg hcmd] at hsend
    cases hsend

theorem sendOf_of_published {s : Server} {c : ℕ} {pub : Publication}
    (h : s.published c msg = some pub) : sendOf msg = some pub.content := by
  unfold Server.published at h
  obtain ⟨hd, hhd, h⟩ := Option.bind_eq_some_iff.1 h
  obtain ⟨t, ht, h⟩ := Option.bind_eq_some_iff.1 h
  obtain ⟨body, hbody, h⟩ := Option.bind_eq_some_iff.1 h
  obtain ⟨handler, -, h⟩ := Option.bind_eq_some_iff.1 h
  split_ifs at h with hcond
  obtain rfl := Option.some.inj h
  simp [sendOf, hhd, hcond.1, ht, hbody, Publication.content]

end SendOf

/-- What a command has done: its messages are on their way, and of the client only the
subscriptions and the receipts have changed; or the client has died. -/
structure Typed (u : Word) (p : StompProtocol) (reports : List (Str × Str)) (s s' : Session) :
    Prop where
  sends : ∃ msgs, s'.link = s.link.send msgs ∧ (∀ msg ∈ msgs, UserMessage u msg) ∧
    msgs.filterMap sendOf = reports ∧ (p.handler.writable = false → msgs = [])
  client : ∀ p', s'.client = .ok p' → UserClient u p' ∧ p'.handler = p.handler ∧
    p'.gameToEvents = p.gameToEvents ∧ p'.sentLoginRequest = p.sentLoginRequest

section Commands

variable {u : Word} {p p' : StompProtocol} {s : Session} {frame msg : Str} {r : Option ℕ}
  {run : StompProtocol → Except CppException (StompProtocol × ℕ)}

theorem sendFrameAscii_of_written {handler : Client.ConnectionHandler} (h : handler.written = []) :
    (handler.sendFrameAscii frame '\x00').1 =
      { handler with written := if handler.writable then frame ++ lit "\x00" else [] } := by
  rcases handler with ⟨host, port, connected, writable, written⟩
  obtain rfl : written = [] := h
  cases writable <;> rfl

/-- A command that sends a frame. -/
theorem UserClient.typed (h : UserClient u p) (hp : s.client = .ok p)
    (run : StompProtocol → Except CppException (StompProtocol × ℕ)) (p' : StompProtocol)
    {q : StompProtocol × ℕ} (hrun : run p = .ok q) (hq : q.1 = (p'.sendFrame frame).1)
    (hhandler : p'.handler = p.handler)
    (hframe : frame ++ lit "\x00" = Utf8.bytesOf msg) (hmsg : ClientMessage r msg)
    (hread : UserMessage u msg) (hsend : sendOf msg = none) (hclient : UserClient u p')
    (hgames : p'.gameToEvents = p.gameToEvents)
    (hlogin : p'.sentLoginRequest = p.sentLoginRequest) : Typed u p [] s (s.command run) := by
  have hsent : (p.handler.sendFrameAscii frame '\x00').1 =
      { p.handler with
        written := if p.handler.writable then frame ++ lit "\x00" else [] } :=
    sendFrameAscii_of_written h.written
  rw [← hhandler, hframe] at hsent
  have hwritten : q.1.handler =
      { p.handler with written := if p.handler.writable then Utf8.bytesOf msg else [] } := by
    rw [hq, ← hhandler]
    exact hsent
  rw [Session.command_written hp hrun hwritten hmsg]
  refine ⟨⟨_, rfl, ?_, ?_, ?_⟩, fun p'' hp'' => ?_⟩
  · split_ifs
    · exact List.forall_mem_singleton.2 hread
    · simp
  · split_ifs
    · simp [hsend]
    · rfl
  · intro hclosed
    simp [hclosed]
  · obtain rfl := Except.ok.inj hp''
    have hsame : ({ q.1 with handler.written := [] } : StompProtocol) = p' := by
      have hnone : p'.handler.written = [] := by rw [hhandler, h.written]
      rw [hq, StompProtocol.sendFrame, hsent, ← hnone]
    rw [hsame]
    exact ⟨hclient, hhandler, hgames, hlogin⟩

/-- A command that changes nothing. -/
theorem UserClient.typed_silent (h : UserClient u p) (hp : s.client = .ok p) {n : ℕ}
    (hrun : run p = .ok (p, n)) : Typed u p [] s (s.command run) := by
  rw [Session.command_of_silent hp hrun h.written]
  refine ⟨⟨[], by simp [Link.send], by simp, rfl, fun _ => rfl⟩, fun p' hp' => ?_⟩
  obtain rfl := Except.ok.inj hp'
  exact ⟨h, rfl, rfl, rfl⟩

/-- `join`. -/
theorem UserClient.join (h : UserClient u p) (hp : s.client = .ok p) (c : ℕ) (w : Word) :
    Typed u p [] s (s.step c (.join w)) := by
  obtain ⟨hd, hread, hcmd⟩ :=
    readFrom_subscribe u.text w p.subscriptionID (Dict.size p.receiptToMsg)
  have hsend := sendOf_eq_none hread.decoded (by simp [hcmd])
  refine h.typed hp (·.handleJoinRequest [lit "join", w.typed])
    ((p.addSubscription w.typed).addMsg w.typed) (handleJoinRequest_eq p w.typed) rfl rfl
    (buildSubscribeFrame_bytes p w.text) (clientMessage_join p w) ⟨hd, hread, by simp [hcmd]⟩ hsend
    ?_ rfl rfl
  refine ⟨fun g subID hg => ?_, fun g subID hg => ?_, h.written, h.connected, h.username, h.tables⟩
  · have hg : (p.gameToSubID.insertNew w.typed (lit "*" ++ natToString p.subscriptionID)).lookup g =
        some subID := hg
    cases hold : p.gameToSubID.lookup w.typed with
    | some sub =>
      rw [Dict.insertNew_of_some hold] at hg
      exact h.keys g subID hg
    | none =>
      rw [Dict.insertNew_of_none hold, Dict.lookup_insert] at hg
      split_ifs at hg with hnew
      · exact ⟨w, hnew⟩
      · exact h.keys g subID hg
  · exact (isEntry_of_addSubscription hg).elim (h.entries g subID) id

/-- `exit`. -/
theorem UserClient.exit (h : UserClient u p) (hp : s.client = .ok p) (c : ℕ) (w : Word) :
    Typed u p [] s (s.step c (.exit w)) := by
  by_cases hsub : p.getSubByGame w.typed = []
  · exact h.typed_silent hp ((handleExitRequest_eq p w.typed).trans (if_pos hsub))
  · have hentry : IsEntry (p.getSubByGame w.typed) := by
      cases hold : p.gameToSubID.lookup w.typed with
      | none => simp [StompProtocol.getSubByGame, hold] at hsub
      | some sub => simpa [StompProtocol.getSubByGame, hold] using h.entries _ sub hold
    obtain ⟨hd, hread, hcmd⟩ :=
      readFrom_unsubscribe u.text hentry.plain (Dict.size p.receiptToMsg)
    have hsend := sendOf_eq_none hread.decoded (by simp [hcmd])
    have hrun := (handleExitRequest_eq p w.typed).trans (if_neg hsub)
    exact h.typed hp (·.handleExitRequest [lit "exit", w.typed]) (p.addMsg w.typed) hrun rfl rfl
      (buildUnsubscribeFrame_bytes p hentry.ascii) (.unsubscribe hentry.plain _)
      ⟨hd, hread, by simp [hcmd]⟩ hsend
      ⟨h.keys, h.entries, h.written, h.connected, h.username, h.tables⟩ rfl rfl

/-- `logout`. -/
theorem UserClient.logout (h : UserClient u p) (hp : s.client = .ok p) :
    Typed u p [] s (s.command fun p => .ok p.handleLogoutRequest) := by
  obtain ⟨hd, hread, hcmd⟩ := readFrom_disconnect u.text (Dict.size p.receiptToMsg)
  have hsend := sendOf_eq_none hread.decoded (by simp [hcmd])
  have hframe := buildDisconnectFrame_bytes p
  have hmsg := ClientMessage.disconnect (Dict.size p.receiptToMsg)
  cases hwritable : p.handler.writable with
  | true =>
    have hrun : p.handleLogoutRequest =
        (((p.addMsg "DISCONNECT").setWaitingForDisconnect.sendFrame p.buildDisconnectFrame).1,
          0) := by
      simp [StompProtocol.handleLogoutRequest, StompProtocol.sendFrame, StompProtocol.addMsg,
        StompProtocol.setWaitingForDisconnect, Client.ConnectionHandler.sendFrameAscii, hwritable]
    exact h.typed hp (fun p => .ok p.handleLogoutRequest)
      (p.addMsg "DISCONNECT").setWaitingForDisconnect (congrArg Except.ok hrun) rfl rfl hframe hmsg
      ⟨hd, hread, by simp [hcmd]⟩ hsend
      ⟨h.keys, h.entries, h.written, h.connected, h.username, h.tables⟩ rfl rfl
  | false =>
    have hrun : p.handleLogoutRequest =
        (((p.addMsg "DISCONNECT").sendFrame p.buildDisconnectFrame).1, 1) := by
      simp [StompProtocol.handleLogoutRequest, StompProtocol.sendFrame, StompProtocol.addMsg,
        Client.ConnectionHandler.sendFrameAscii, hwritable]
    exact h.typed hp (fun p => .ok p.handleLogoutRequest) (p.addMsg "DISCONNECT")
      (congrArg Except.ok hrun) rfl rfl hframe hmsg ⟨hd, hread, by simp [hcmd]⟩ hsend
      ⟨h.keys, h.entries, h.written, h.connected, h.username, h.tables⟩ rfl rfl

/-- The strings of the events hold no NUL, and their names are one line each. -/
def Client.NamesAndEvents.Plain (infoForFrames : Client.NamesAndEvents) : Prop :=
  ∀ event ∈ infoForFrames.events, event.NulFree ∧ '\n' ∉ event.name

theorem buildSendFrames_of_checkSub {infoForFrames : Client.NamesAndEvents}
    (hsub : p.checkSub infoForFrames.gameName = true) : p.buildSendFrames infoForFrames =
      infoForFrames.events.map (p.buildSendFrame infoForFrames.gameName) := if_pos hsub

/-- Without events there is no last frame to look at. -/
theorem handleReportRequest_of_noEvents {infoForFrames : Client.NamesAndEvents}
    (hsub : p.checkSub infoForFrames.gameName = true) (hnil : infoForFrames.events = []) :
    p.handleReportRequest infoForFrames = .error .undefined := by
  rw [StompProtocol.handleReportRequest, buildSendFrames_of_checkSub hsub, hnil]
  rfl

/-- What a report runs to. -/
theorem handleReportRequest_cases (p : StompProtocol) (infoForFrames : Client.NamesAndEvents) :
    (p.checkSub infoForFrames.gameName = false ∧
      p.handleReportRequest infoForFrames = .ok (p, 0)) ∨
    (p.checkSub infoForFrames.gameName = true ∧ infoForFrames.events = [] ∧
      p.handleReportRequest infoForFrames = .error .undefined) ∨
    (p.checkSub infoForFrames.gameName = true ∧ p.handleReportRequest infoForFrames =
      .ok (p.sendFrames
        (infoForFrames.events.map (p.buildSendFrame infoForFrames.gameName)))) := by
  cases hsub : p.checkSub infoForFrames.gameName with
  | false =>
    have hframes : p.buildSendFrames infoForFrames = [lit "ERROR"] :=
      if_neg (by rw [← Client.NamesAndEvents.gameName, hsub]; simp)
    refine .inl ⟨rfl, ?_⟩
    rw [StompProtocol.handleReportRequest, hframes]
    rfl
  | true =>
    have hframes := buildSendFrames_of_checkSub hsub
    by_cases hnil : infoForFrames.events = []
    · exact .inr (.inl ⟨rfl, hnil, handleReportRequest_of_noEvents hsub hnil⟩)
    · refine .inr (.inr ⟨rfl, ?_⟩)
      obtain ⟨last, hlast⟩ :
          ∃ last, (p.buildSendFrames infoForFrames).getLast? = some last := by
        refine Option.isSome_iff_exists.1 (List.getLast?_isSome.2 ?_)
        simpa [hframes] using hnil
      have herror : last ≠ lit "ERROR" := by
        have hmem := List.mem_of_getLast? hlast
        rw [hframes] at hmem
        obtain ⟨event, -, rfl⟩ := List.mem_map.1 hmem
        simp [Client.buildSendFrame_eq, lit]
      simp only [StompProtocol.handleReportRequest, Client.vectorBack, hlast, ← hframes]
      simp [bind, Except.bind, pure, Except.pure, herror]

/-- A report of a client that has joined the game and can write: one message for each event. -/
theorem UserClient.report_sent (h : UserClient u p) (hp : s.client = .ok p) (c : ℕ)
    {infoForFrames : Client.NamesAndEvents} (hplain : infoForFrames.Plain)
    (hwritable : p.handler.writable = true)
    (hsub : p.checkSub infoForFrames.bytes.gameName = true)
    (hrun : p.handleReportRequest infoForFrames.bytes = .ok (p.sendFrames
      (infoForFrames.bytes.events.map (p.buildSendFrame infoForFrames.bytes.gameName)))) :
    Typed u p (infoForFrames.events.map fun event =>
      (lit "/" ++ infoForFrames.gameName, reportBody u.text event)) s
        (s.step c (.report infoForFrames)) := by
  -- the game has been joined, so that its name is a word
  obtain ⟨w, hw⟩ : ∃ w : Word, infoForFrames.gameName = w.text := by
    cases hlookup : p.gameToSubID.lookup infoForFrames.bytes.gameName with
    | none => simp [StompProtocol.checkSub, hlookup] at hsub
    | some sub =>
      obtain ⟨w, hw⟩ := h.keys _ sub hlookup
      rw [gameName_bytes] at hw
      exact ⟨w, Utf8.bytesOf_injective hw⟩
  have hteams : '_' ∈ w.text := by
    rw [← hw]
    simp [Client.NamesAndEvents.gameName, lit]
  have hu : p.username = Utf8.bytesOf u.text := h.username (h.connected hwritable)
  have hdelivered := delivered_sendFrames hu u.nul (hw ▸ w.nul)
    fun event hevent => (hplain event hevent).1
  have hsent := sendFrames_eq hwritable
    (infoForFrames.bytes.events.map (p.buildSendFrame infoForFrames.bytes.gameName))
  have hwritten := h.written
  rw [hwritten, List.nil_append] at hsent
  rw [hsent] at hrun
  have hevents : infoForFrames.bytes.events = infoForFrames.events.map Client.Event.bytes := rfl
  have hstep : s.step c (.report infoForFrames) =
      { client := .ok p
        link := s.link.send (infoForFrames.events.map fun event =>
          sendMessage infoForFrames.gameName (reportBody u.text event)) } := by
    have hsame : ({ p with handler.written := [] } : StompProtocol) = p := by rw [← hwritten]
    simp only [Session.step, Session.command, hp, hrun, hevents, gameName_bytes, hdelivered]
    rw [hsame]
  rw [hstep, hw]
  refine ⟨⟨_, rfl, ?_, ?_, fun hclosed => ?_⟩, fun p' hp' => ?_⟩
  · intro msg hmsg
    obtain ⟨event, hevent, rfl⟩ := List.mem_map.1 hmsg
    obtain ⟨hd, hread, hsend⟩ := readFrom_send u.nul w hteams (hplain event hevent).1
      (hplain event hevent).2
    exact ⟨hd, hread, by simp [hsend.command]⟩
  · rw [List.filterMap_map, ← List.filterMap_eq_map]
    refine List.filterMap_congr fun event hevent => ?_
    obtain ⟨hd, hread, hsend⟩ := readFrom_send u.nul w hteams (hplain event hevent).1
      (hplain event hevent).2
    exact sendOf_send hread.decoded hsend
  · rw [hclosed] at hwritable
    cases hwritable
  · obtain rfl := Except.ok.inj hp'
    exact ⟨h, rfl, rfl, rfl⟩

/-- `report`. -/
theorem UserClient.report (h : UserClient u p) (hp : s.client = .ok p) (c : ℕ)
    {infoForFrames : Client.NamesAndEvents} (hplain : infoForFrames.Plain) :
    Typed u p (if p.handler.writable ∧ p.checkSub (Utf8.bytesOf infoForFrames.gameName) then
        infoForFrames.events.map fun event =>
          (lit "/" ++ infoForFrames.gameName, reportBody (Utf8.textOf p.username) event)
      else []) s (s.step c (.report infoForFrames)) := by
  rw [← gameName_bytes]
  rcases handleReportRequest_cases p infoForFrames.bytes with ⟨hsub, hrun⟩ | ⟨hsub, hnil, hrun⟩ |
    ⟨hsub, hrun⟩
  · rw [hsub, if_neg (by simp)]
    exact h.typed_silent hp hrun
  · -- without events the process ends before it sends anything
    have hevents : infoForFrames.events = [] := List.map_eq_nil_iff.1 hnil
    have hstep : s.step c (.report infoForFrames) = { s with client := .error .undefined } := by
      simp only [Session.step, Session.command, hp, hrun]
    rw [hstep, hevents]
    refine ⟨⟨[], by simp [Link.send], by simp, by simp, fun _ => rfl⟩, fun p' hp' => ?_⟩
    cases hp'
  · cases hwritable : p.handler.writable with
    | false =>
      obtain ⟨text, hsent, hclosed⟩ := sendFrames_writes p
        (infoForFrames.bytes.events.map (p.buildSendFrame infoForFrames.bytes.gameName))
      rw [hclosed hwritable, List.append_nil] at hsent
      rw [if_neg (by simp)]
      have hsame : p.handleReportRequest infoForFrames.bytes = .ok (p, _) :=
        hrun.trans (congrArg Except.ok (Prod.ext hsent rfl))
      exact h.typed_silent hp hsame
    | true =>
      have hu : p.username = Utf8.bytesOf u.text := h.username (h.connected hwritable)
      rw [if_pos ⟨rfl, hsub⟩, hu, Utf8.textOf_bytesOf]
      exact h.report_sent hp c hplain hwritable hsub hrun

end Commands

/-- A client that is not logged in connects and sends its CONNECT. -/
theorem handleLoginRequest_of_connects {p : StompProtocol} (hlogin : p.sentLoginRequest = false)
    {command hostPort u pw : Str} {q : StompProtocol × ℕ}
    (hrun : p.handleLoginRequest [command, hostPort, u, pw] true = .ok q) :
    ∃ host port, q.1 = { p with
      handler :=
        { host, port, connected := true, writable := true
          written := p.handler.written ++ StompProtocol.buildConnectFrame u pw ++ lit "\x00" }
      sentLoginRequest := true
      username := u } := by
  unfold StompProtocol.handleLoginRequest at hrun
  simp only [hlogin, if_false, Bool.false_eq_true, Client.vectorAt, List.getElem?_cons_succ,
    List.getElem?_cons_zero, Client.ok_bind] at hrun
  obtain ⟨port, -, hrun⟩ := bind_eq_ok.1 hrun
  obtain rfl := Except.ok.inj hrun
  exact ⟨_, _, rfl⟩

/-- `login`. -/
theorem UserClient.login {u u' pw hostPort : Word} {p p' : StompProtocol} {s : Session}
    (h : UserClient u' p) (hp : s.client = .ok p) (hlogin : p.sentLoginRequest = false)
    (hclosed : p.handler.connected = false)
    (hp' : (s.command (·.handleLoginRequest
      [lit "login", hostPort.typed, u.typed, pw.typed] true)).client = .ok p') :
    UserClient u p' ∧ p'.handler.connected = true ∧ p'.gameToEvents = ∅ ∧
      (s.command (·.handleLoginRequest
        [lit "login", hostPort.typed, u.typed, pw.typed] true)).link =
          s.link.send [connectMessage u.text pw.text] := by
  cases hrun : p.handleLoginRequest [lit "login", hostPort.typed, u.typed, pw.typed] true with
  | error x =>
    simp only [Session.command, hp, hrun] at hp'
    cases hp'
  | ok q =>
    obtain ⟨host, port, hq⟩ := handleLoginRequest_of_connects hlogin hrun
    have hbytes := buildConnectFrame_bytes u.text pw.text
    have hwritten : q.1.handler.written = Utf8.bytesOf (connectMessage u.text pw.text) := by
      rw [hq, ← hbytes, h.written]
      rfl
    have hdelivered := (ClientMessage.connect u.plain pw.plain).delivered
    rw [← hwritten] at hdelivered
    simp only [Session.command, hp, hrun, hdelivered] at hp' ⊢
    obtain rfl := Except.ok.inj hp'
    rw [hq]
    refine ⟨?_, rfl, h.tables hclosed, trivial⟩
    exact
      { keys := h.keys
        entries := h.entries
        written := rfl
        connected := fun _ => rfl
        username := fun _ => rfl
        tables := fun hno => by cases hno }

/-! ### Frames -/

/-- A RECEIPT makes no entry for a new game. -/
theorem lookup_receiptOf_ne_none {p : StompProtocol} {command g : Str}
    (h : (p.receiptOf command).gameToSubID.lookup g ≠ none) : p.gameToSubID.lookup g ≠ none := by
  revert h
  unfold StompProtocol.receiptOf
  split_ifs with hdis
  · simp [StompProtocol.logout]
  dsimp only
  cases hsub : p.gameToSubID.lookup command with
  | none =>
    -- the empty entry that `[]` makes is removed again
    have hget : StompProtocol.getSubByGame
        { p with gameToSubID := p.gameToSubID.insertNew command [] } command = [] := by
      simp [StompProtocol.getSubByGame, Dict.insertNew_of_none hsub]
    rw [hget, if_neg (by simp)]
    simp only [StompProtocol.unsubscribe, Dict.insertNew_of_none hsub, Dict.lookup_erase,
      Dict.lookup_insert]
    split_ifs <;> simp_all
  | some sub =>
    rw [Dict.insertNew_of_some hsub]
    split_ifs
    · simp only [StompProtocol.confirmSub, Dict.lookup_insert]
      split_ifs with hg
      · intro
        rw [hg, hsub]
        simp
      · exact id
    · simp only [StompProtocol.unsubscribe, Dict.lookup_erase]
      split_ifs <;> simp_all

section Frames

variable {u : Word} {p p' : StompProtocol}

theorem UserClient.ended (h : UserClient u p) : UserClient u p.logout where
  keys g subID hg := by simp [StompProtocol.logout] at hg
  entries g subID hg := by simp [StompProtocol.logout] at hg
  written := h.written
  connected hw := by cases hw
  username hc := by cases hc
  tables _ := rfl

/-- The client has handled a frame that is no report: it has ended its session, or it knows of the
games what it knew. -/
structure AfterAnswer (u : Word) (p p' : StompProtocol) : Prop where
  client : UserClient u p'
  writable : p'.handler.writable = true → p.handler.writable = true
  opened : p'.handler.connected = true → p.handler.connected = true
  games : p'.handler.connected = true → p'.gameToEvents = p.gameToEvents

theorem UserClient.afterLogout (h : UserClient u p) : AfterAnswer u p p.logout where
  client := h.ended
  writable hw := by cases hw
  opened hc := by cases hc
  games hc := by cases hc

/-- **A client goes on after an answer.** -/
theorem UserClient.answer (h : UserClient u p) {frame : Str} (hframe : Answer frame) :
    ∃ p', p.processFrame frame = .ok p' ∧ AfterAnswer u p p' := by
  rcases hframe.processFrame p with hrun | hrun | ⟨receipts, command, hrun⟩
  · exact ⟨p, hrun, h, id, id, fun _ => rfl⟩
  · exact ⟨_, hrun, h.afterLogout⟩
  · refine ⟨_, hrun, ?_⟩
    set p₁ : StompProtocol := { p with receiptToMsg := receipts } with hp₁
    have hkeys : ∀ g subID, (p₁.receiptOf command).gameToSubID.lookup g = some subID →
        ∃ w : Word, g = w.typed := by
      intro g subID hg
      have hold : p.gameToSubID.lookup g ≠ none :=
        lookup_receiptOf_ne_none (p := p₁) (by rw [hg]; simp)
      obtain ⟨sub, hsub⟩ := Option.ne_none_iff_exists'.1 hold
      exact h.keys g sub hsub
    have hentries := isEntry_receiptOf (p := p₁) h.entries command
    rcases p₁.receiptOf_cases command with heq | ⟨subs, heq⟩
    · rw [heq]
      exact h.afterLogout
    · rw [heq] at hkeys hentries ⊢
      exact ⟨⟨hkeys, hentries, h.written, h.connected, h.username, h.tables⟩, id, id, fun _ => rfl⟩

end Frames

/-! ### What the clients know -/

/-- The bodies of what a user has published on a game, in bytes. -/
def reportsOn (g u : Str) (pubs : List Publication) : List Str :=
  (pubs.filter fun pub => Utf8.bytesOf pub.destination = lit "/" ++ g ∧
    pub.username.map Utf8.bytesOf = some u).map fun pub => Utf8.bytesOf pub.body

/-- The entry of every game and user is what their publications make of it, and of nothing else. -/
def ReadFromAll (games : Dict Str (Dict Str Client.Game)) (pubs : List Publication) : Prop :=
  ∀ g u, readEach g none (reportsOn g u pubs) = .ok (Dict.lookup₂ games g u)

/-- A publication of a user on a game; its subscription ids are numbers. -/
structure Publication.Authentic (pub : Publication) : Prop where
  report : ∃ u : Word, pub.username = some u.text ∧ IsReport u.text pub.destination pub.body
  ids : ∀ d id, pub.subscribers d = some id → ∃ n, id = natToString n

theorem readFromAll_nil : ReadFromAll ∅ [] := fun g u => by
  simp [reportsOn, readEach, pure, Except.pure]

theorem bytesOf_reportBody (u : Str) (event : Client.Event) :
    Utf8.bytesOf (reportBody u event) = reportBody (Utf8.bytesOf u) event.bytes := by
  have htime : Utf8.bytesOf (Client.intToString event.time) = Client.intToString event.time :=
    Utf8.bytesOf_of_ascii (ascii_intToString _)
  simp [reportBody, Client.Event.bytes, updatesToString_bytes, lit, Utf8.bytesOf_cons, htime]

/-- The MESSAGE frame of a publication is one of a report. -/
theorem Publication.Authentic.exists_reportMessage {pub : Publication} (h : pub.Authentic) {c : ℕ}
    {frame : Str} (hframe : pub.frameTo c = some frame) :
    ∃ m : ReportMessage, m.frame = frame ∧ Utf8.bytesOf pub.destination = lit "/" ++ m.game ∧
      pub.username.map Utf8.bytesOf = some m.user ∧ m.body = pub.body := by
  obtain ⟨u, husername, w, event, hteams, hnul, hname, hdest, hbody⟩ := h.report
  obtain ⟨id, hid, rfl⟩ := Option.map_eq_some_iff.1 hframe
  obtain ⟨k, rfl⟩ := h.ids c id hid
  have hline : '\n' ∉ Utf8.bytesOf u.text := fun h =>
    u.plain.newline ((Utf8.mem_bytesOf_iff (by decide)).1 h)
  have hevent : '\n' ∉ event.bytes.name := fun h =>
    hname ((Utf8.mem_bytesOf_iff (by decide)).1 h)
  refine ⟨{ messageId := pub.messageId
            subscriptionId := k
            gameName := w.text
            user := Utf8.bytesOf u.text
            event := event.bytes
            body := pub.body
            gameName_line := w.plain.newline
            gameName_teams := hteams
            user_line := hline
            name_line := hevent
            body_eq := by rw [hbody, bytesOf_reportBody] }, ?_, ?_, ?_, rfl⟩
  · have hnul : lit "\x00" = ['\x00'] := rfl
    rw [ReportMessage.frame, receivedMessage, Server.buildSendMessage_eq, hdest, hnul,
      List.dropLast_concat]
  · simp [hdest, ReportMessage.game, lit, Utf8.bytesOf_cons]
  · simp [husername]

theorem readEach_append (g : Str) (entry : Option Client.Game) (bodies bodies' : List Str) :
    readEach g entry (bodies ++ bodies') =
      (readEach g entry bodies) >>= fun entry => readEach g entry bodies' :=
  List.foldlM_append

theorem reportsOn_concat (g u : Str) (pubs : List Publication) (pub : Publication) :
    reportsOn g u (pubs ++ [pub]) = reportsOn g u pubs ++
      if Utf8.bytesOf pub.destination = lit "/" ++ g ∧ pub.username.map Utf8.bytesOf = some u then
        [Utf8.bytesOf pub.body] else [] := by
  unfold reportsOn
  rw [List.filter_append, List.map_append, List.filter_cons, List.filter_nil]
  simp only [decide_eq_true_eq]
  split_ifs <;> rfl

/-- **A publication is read into the entry of its game and its user.** -/
theorem ReadFromAll.concat {p : StompProtocol} {pubs : List Publication}
    (hgames : ReadFromAll p.gameToEvents pubs) {pub : Publication} (hpub : pub.Authentic) {c : ℕ}
    {frame : Str} (hframe : pub.frameTo c = some frame) :
    ∃ games, p.processFrame frame = .ok { p with gameToEvents := games } ∧
      ReadFromAll games (pubs ++ [pub]) := by
  obtain ⟨m, rfl, hdest, huser, hbody⟩ := hpub.exists_reportMessage hframe
  obtain ⟨current, hcurrent, hrun⟩ := processFrame_reportMessage p m
  refine ⟨_, hrun, fun g u => ?_⟩
  rw [reportsOn_concat, readEach_append, hgames g u, Client.ok_bind, Dict.lookup₂_put₂, hdest,
    huser, ← hbody]
  by_cases hkey : g = m.game ∧ u = m.user
  · obtain ⟨rfl, rfl⟩ := hkey
    rw [if_pos ⟨rfl, rfl⟩, if_pos ⟨rfl, rfl⟩, readEach, List.foldlM_cons, hcurrent]
    rfl
  · rw [if_neg hkey, if_neg fun h => hkey ⟨(List.append_right_inj _ |>.1 h.1).symm,
      (Option.some.inj h.2).symm⟩]
    rfl

end WorldCupInformer
