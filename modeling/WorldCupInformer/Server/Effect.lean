import WorldCupInformer.Server.Methods

/-!
# What one frame can do

`Effect s c hd e` lists everything that handling the header table `hd` of a frame from connection
`c` can do in state `s`: the registries and the calls left in `e`, with the conditions under which
each case is taken.

* `act_effect`: `act` has one of these effects, in every state whose client index is backed by the
  topic index (`Backed`);
* `act_handled`: and it returns, unless the frame `Aborts`;
* `Rejects`: the ways in which a frame of a registered connection is answered with ERROR.
-/

namespace WorldCupInformer

namespace HeaderTable

variable (hd : HeaderTable)

/-- A CONNECT with its four headers. -/
structure IsConnect (v host u p : Str) : Prop where
  command : hd.get "COMMAND" = some (lit "CONNECT")
  version : hd.get "accept - version" = some v
  host : hd.get "host" = some host
  login : hd.get "login" = some u
  passcode : hd.get "passcode" = some p

/-- A DISCONNECT with its receipt header. -/
structure IsDisconnect (r : Str) : Prop where
  command : hd.get "COMMAND" = some (lit "DISCONNECT")
  receipt : hd.get "receipt" = some r

/-- A SEND with a destination. -/
structure IsSend (t body : Str) : Prop where
  command : hd.get "COMMAND" = some (lit "SEND")
  destination : hd.get "destination" = some t
  body : hd.get "BODY" = some body

/-- A SUBSCRIBE without errors. -/
structure IsSubscribe (t id : Str) : Prop where
  command : hd.get "COMMAND" = some (lit "SUBSCRIBE")
  destination : hd.get "destination" = some t
  id : hd.get "id" = some id
  body : hd.get "BODY" = some []

/-- An UNSUBSCRIBE without errors. -/
structure IsUnsubscribe (id : Str) : Prop where
  command : hd.get "COMMAND" = some (lit "UNSUBSCRIBE")
  id : hd.get "id" = some id
  body : hd.get "BODY" = some []

end HeaderTable

namespace ConnectionsImp

/-- The topic index has every entry of the client index. -/
def Backed (s : ConnectionsImp) : Prop :=
  ∀ h id t, s.topicOf h id = some t → s.entry t h = some id

/-- The errors of a CONNECT with its four headers. -/
def connectErrors (s : ConnectionsImp) (h : ConnectionHandler) (u p : Str) : List Str :=
  (if s.clientToUsername.lookup h ≠ none then
    [lit "The client is already logged in, log out before trying again"] else []) ++
  (if u ∈ s.loggedInUsers then [lit "User already logged in."] else []) ++
  (if s.usernameToPass.lookup u ≠ none ∧ s.usernameToPass.lookup u ≠ some p then
    [lit "Wrong password"] else [])

/-- The registries after the password check, which registers an unknown user. -/
def checked (s : ConnectionsImp) (u p : Str) : ConnectionsImp :=
  if s.usernameToPass.lookup u = none then s.register u p else s

theorem connectErrors_eq_nil {s : ConnectionsImp} {h : ConnectionHandler} {u p : Str} :
    s.connectErrors h u p = [] ↔
      s.clientToUsername.lookup h = none ∧ u ∉ s.loggedInUsers ∧
        (s.usernameToPass.lookup u = none ∨ s.usernameToPass.lookup u = some p) := by
  unfold connectErrors
  split_ifs <;> simp_all; tauto

end ConnectionsImp

open ConnectionsImp

/-- `Rejects s c h hd s₁ pre errors`: a frame of the registered connection `c` is rejected with
`errors`; the checks left the registries `s₁` and noted the calls `pre`. -/
inductive Rejects (s : ConnectionsImp) (c : ℕ) (h : ConnectionHandler) (hd : HeaderTable) :
    ConnectionsImp → List Call → List Str → Prop
  | connectMalformed (hcmd : hd.get "COMMAND" = some (lit "CONNECT"))
      (hmiss : ¬ ∃ v host u p, hd.IsConnect v host u p) :
      Rejects s c h hd s [] (ConnectFrame.malformedErrors (hd.get "host")
        (hd.get "accept - version") (hd.get "login") (hd.get "passcode"))
  | connect {v host u p : Str} (hcon : hd.IsConnect v host u p)
      (herr : s.connectErrors h u p ≠ []) :
      Rejects s c h hd (s.checked u p) [] (s.connectErrors h u p)
  | disconnect (hcmd : hd.get "COMMAND" = some (lit "DISCONNECT"))
      (hmiss : hd.get "receipt" = none) :
      Rejects s c h hd s [] (DisconnectFrame.isLegalFrame none)
  | sendMalformed (hcmd : hd.get "COMMAND" = some (lit "SEND"))
      (hmiss : hd.get "destination" = none) :
      Rejects s c h hd s [] [lit "Message is malformed. Message should include password."]
  | send {t : Str} (hcmd : hd.get "COMMAND" = some (lit "SEND"))
      (hdest : hd.get "destination" = some t) (hent : s.entry t h = none) :
      Rejects s c h hd s [] [lit "User is not subscribed to: " ++ t]
  | subscribeMalformed (hcmd : hd.get "COMMAND" = some (lit "SUBSCRIBE"))
      (hill : SubscribeFrame.isLegalFrame hd ≠ []) :
      Rejects s c h hd s [] (SubscribeFrame.isLegalFrame hd)
  | subscribe {t id : Str} (hsub : hd.IsSubscribe t id) (hent : s.entry t h ≠ none) :
      Rejects s c h hd s [.subscribe t c id false]
        [lit "Cannot add subscription, already subscribed to topic"]
  | unsubscribeMalformed (hcmd : hd.get "COMMAND" = some (lit "UNSUBSCRIBE"))
      (hill : UnsubscribeFrame.isLegalFrame hd ≠ []) :
      Rejects s c h hd s [] (UnsubscribeFrame.isLegalFrame hd)
  | unsubscribe {id : Str} (huns : hd.IsUnsubscribe id) (htop : s.topicOf h id = none)
      (hent : s.entry [] h = none) :
      Rejects s c h hd s [.unsubscribe c id false]
        [lit "SubscriptionID does not represent a valid user subscription"]
  | unsubscribeEmpty {id : Str} (huns : hd.IsUnsubscribe id) (htop : s.topicOf h id = none)
      (hent : s.entry [] h ≠ none) (hidx : s.clientToTopics.lookup h ≠ none) :
      Rejects s c h hd (s.dropEntry [] h) [.unsubscribe c id false]
        [lit "SubscriptionID does not represent a valid user subscription"]

/-- What handling a frame leaves behind. -/
inductive Effect (s : ConnectionsImp) (c : ℕ) (hd : HeaderTable) : Exec → Prop
  /-- Another command. -/
  | ignored (hcmd : ∀ cmd ∈ ["CONNECT", "DISCONNECT", "SEND", "SUBSCRIBE", "UNSUBSCRIBE"],
      hd.get "COMMAND" ≠ some (lit cmd)) : Effect s c hd ⟨s, []⟩
  /-- The connection is not registered (any more); the frame ends with an exception. -/
  | unregistered (hreg : s.idToHandler.lookup c = none) : Effect s c hd ⟨s, []⟩
  /-- The same, but `Subscribe` made the map of its topic first. -/
  | opened {t id : Str} (hreg : s.idToHandler.lookup c = none) (hsub : hd.IsSubscribe t id)
      (ht : s.topicToClients.lookup t = none) : Effect s c hd ⟨s.openTopic t, []⟩
  | rejected {h : ConnectionHandler} {s₁ : ConnectionsImp} {pre : List Call} {errors : List Str}
      (hreg : s.idToHandler.lookup c = some h) (hrej : Rejects s c h hd s₁ pre errors) :
      Effect s c hd ⟨s₁.drop c h, pre ++ rejectCalls c h errors hd⟩
  | connected {h : ConnectionHandler} {v host u p : Str}
      (hreg : s.idToHandler.lookup c = some h) (hcon : hd.IsConnect v host u p)
      (herr : s.connectErrors h u p = []) :
      Effect s c hd ⟨s.login h u p, Call.send h (ConnectFrame.buildResponseFrame (some v)) ::
        receiptCalls h (hd.get "receipt-id")⟩
  | disconnected {h : ConnectionHandler} {r u : Str} (hreg : s.idToHandler.lookup c = some h)
      (hdis : hd.IsDisconnect r) (hu : s.clientToUsername.lookup h = some u) :
      Effect s c hd ⟨s.drop c h,
        [.send h (ReceiptFrame.toString r), .disconnect c, .terminate h]⟩
  /-- `logOutUser(null)`: DISCONNECT of a client that never logged in. -/
  | anonymous {h : ConnectionHandler} {r : Str} (hreg : s.idToHandler.lookup c = some h)
      (hdis : hd.IsDisconnect r) (hu : s.clientToUsername.lookup h = none) :
      Effect s c hd ⟨s, []⟩
  | broadcast {h : ConnectionHandler} {t body : Str} (hreg : s.idToHandler.lookup c = some h)
      (hsend : hd.IsSend t body) (hent : s.entry t h ≠ none) :
      Effect s c hd ⟨s, broadcastCalls s t body ++ receiptCalls h (hd.get "receipt-id")⟩
  | subscribed {h : ConnectionHandler} {t id : Str} (hreg : s.idToHandler.lookup c = some h)
      (hsub : hd.IsSubscribe t id) (hent : s.entry t h = none) :
      Effect s c hd ⟨s.addSubscription t h id,
        Call.subscribe t c id true :: receiptCalls h (hd.get "receipt")⟩
  | unsubscribed {h : ConnectionHandler} {t id : Str} (hreg : s.idToHandler.lookup c = some h)
      (huns : hd.IsUnsubscribe id) (htop : s.topicOf h id = some t) :
      Effect s c hd ⟨s.removeSubscription t h id,
        Call.unsubscribe c id true :: receiptCalls h (hd.get "receipt")⟩
  /-- `clientToTopics.get(handler)` is `null` though the client is in the map of the empty topic. -/
  | unindexed {h : ConnectionHandler} {id : Str} (hreg : s.idToHandler.lookup c = some h)
      (huns : hd.IsUnsubscribe id) (hent : s.entry [] h ≠ none)
      (hidx : s.clientToTopics.lookup h = none) : Effect s c hd ⟨s, []⟩

/-- The ways in which handling a frame ends with an exception. -/
inductive Aborts (s : ConnectionsImp) (c : ℕ) (hd : HeaderTable) : Prop
  | unregistered (hreg : s.idToHandler.lookup c = none)
  | anonymous {h : ConnectionHandler} {r : Str} (hreg : s.idToHandler.lookup c = some h)
      (hdis : hd.IsDisconnect r) (hu : s.clientToUsername.lookup h = none)
  | unindexed {h : ConnectionHandler} {id : Str} (hreg : s.idToHandler.lookup c = some h)
      (huns : hd.IsUnsubscribe id) (hent : s.entry [] h ≠ none)
      (hidx : s.clientToTopics.lookup h = none)
  /-- every decoded message has a command -/
  | noCommand (hcmd : hd.get "COMMAND" = none)

/-- What handling a frame leaves behind, and that it returns otherwise. -/
structure Handled (s : ConnectionsImp) (c : ℕ) (hd : HeaderTable) (m : Java Unit) : Prop where
  effect : Effect s c hd (after m s)
  returns : ¬ Aborts s c hd → raised m s = none

/-! ### The five frames have these effects -/

variable {s : ConnectionsImp} {c : ℕ} {h : ConnectionHandler} {hd : HeaderTable}

theorem ConnectionsImp.Backed.topicsExist (hs : s.Backed) : s.TopicsExist := fun h id t ht => by
  obtain ⟨m, hm, -⟩ := Option.bind_eq_some_iff.1 (hs h id t ht)
  exact Option.isSome_iff_exists.2 ⟨m, hm⟩

theorem ConnectionsImp.TopicsExist.dropEntry (hs : s.TopicsExist) (t : Str) :
    (s.dropEntry t h).TopicsExist := fun h' id t' ht' =>
  (Dict.lookup_remove₂_isSome s.topicToClients t t' h).trans (hs h' id t' ht')

theorem ConnectionsImp.TopicsExist.checked (hs : s.TopicsExist) (u p : Str) :
    (s.checked u p).TopicsExist := by
  unfold ConnectionsImp.checked
  split_ifs
  · exact hs
  · exact hs

theorem Effect.of_ok {m : Java Unit} {e : Exec} (he : Effect s c hd e)
    (hm : m.run ⟨s, []⟩ = .ok () e) : Handled s c hd m where
  effect := by simpa [after, hm] using he
  returns _ := by simp [raised, hm]

theorem Effect.of_error {m : Java Unit} {x : JavaException} {e : Exec} (he : Effect s c hd e)
    (habort : Aborts s c hd) (hm : m.run ⟨s, []⟩ = .error x e) : Handled s c hd m where
  effect := by simpa [after, hm] using he
  returns hno := absurd habort hno

theorem run_isLegalFrame_malformed (e : Exec) (hmiss : ¬ ∃ v host u p, hd.IsConnect v host u p)
    (hcmd : hd.get "COMMAND" = some (lit "CONNECT")) :
    (ConnectFrame.isLegalFrame c (hd.get "host") (hd.get "accept - version") (hd.get "login")
      (hd.get "passcode")).run e =
      .ok (ConnectFrame.malformedErrors (hd.get "host") (hd.get "accept - version")
        (hd.get "login") (hd.get "passcode")) e := by
  unfold ConnectFrame.isLegalFrame
  split
  · rename_i host v u p hhost hv hu hp
    exact absurd ⟨v, host, u, p, hcmd, hv, hhost, hu, hp⟩ hmiss
  · rfl

theorem run_isLegalFrame {l : List Call} (hreg : s.idToHandler.lookup c = some h)
    (host v u p : Str) :
    (ConnectFrame.isLegalFrame c (some host) (some v) (some u) (some p)).run ⟨s, l⟩ =
      .ok (s.connectErrors h u p) ⟨s.checked u p, l⟩ := by
  have hlogged : (isTheClientConnected (some h)).run ⟨s, l⟩ =
      .ok (decide (s.clientToUsername.lookup h ≠ none)) ⟨s, l⟩ := by
    cases hh : s.clientToUsername.lookup h <;> simp [isTheClientConnected, hh]
  have hcheck : (checkPasswordForUser u p).run ⟨s, l⟩ =
      .ok (decide (s.usernameToPass.lookup u = none ∨ s.usernameToPass.lookup u = some p))
        ⟨s.checked u p, l⟩ := by
    by_cases hu : s.usernameToPass.lookup u = none <;>
      simp [run_checkPasswordForUser, checked, hu]
  by_cases hh : s.clientToUsername.lookup h = none <;> by_cases hin : u ∈ s.loggedInUsers <;>
    by_cases hu : s.usernameToPass.lookup u = none ∨ s.usernameToPass.lookup u = some p <;>
    simp [ConnectFrame.isLegalFrame, convertIdToConnectionHandler, isloggedInUser, hlogged, hcheck,
      connectErrors, hreg, hh, hin, hu, ← not_or]

theorem ConnectionsImp.checked_login (s : ConnectionsImp) (h : ConnectionHandler) (u p : Str) :
    (s.checked u p).login h u p = s.login h u p := by
  unfold checked register login
  split_ifs
  · simp [AList.insert_insert]
  · rfl

/-- An accepted CONNECT. -/
theorem run_connectFrame {v host u p : Str} {l : List Call}
    (hreg : s.idToHandler.lookup c = some h) (hcon : hd.IsConnect v host u p)
    (herr : s.connectErrors h u p = []) :
    (ConnectFrame.act c hd).run ⟨s, l⟩ = .ok () ⟨s.login h u p,
      l ++ Call.send h (ConnectFrame.buildResponseFrame (some v)) ::
        receiptCalls h (hd.get "receipt-id")⟩ := by
  have hreg₁ : (s.checked u p).idToHandler.lookup c = some h := by
    unfold checked; split_ifs <;> exact hreg
  have hreg₂ : (s.login h u p).idToHandler.lookup c = some h := hreg
  simp [ConnectFrame.act, hcon.version, hcon.host, hcon.login, hcon.passcode,
    run_isLegalFrame hreg, herr, run_connect hreg₁, checked_login, run_send hreg₂,
    run_sendReceiptFrame hreg₂]

/-- A rejected CONNECT with its four headers. -/
theorem run_connectFrame_errors {v host u p : Str} {l : List Call} (hs : s.TopicsExist)
    (hreg : s.idToHandler.lookup c = some h) (hcon : hd.IsConnect v host u p)
    (herr : s.connectErrors h u p ≠ []) :
    (ConnectFrame.act c hd).run ⟨s, l⟩ = .ok () ⟨(s.checked u p).drop c h,
      l ++ rejectCalls c h (s.connectErrors h u p) hd⟩ := by
  have hreg₁ : (s.checked u p).idToHandler.lookup c = some h := by
    unfold checked; split_ifs <;> exact hreg
  have hpos : 0 < (s.connectErrors h u p).length := List.length_pos_iff.2 herr
  simp [ConnectFrame.act, hcon.version, hcon.host, hcon.login, hcon.passcode,
    run_isLegalFrame hreg, hpos, run_sendErrorFrame hreg₁ (hs.checked u p)]

/-- A CONNECT with its four headers from an unregistered connection. -/
theorem run_connectFrame_none {v host u p : Str} {l : List Call}
    (hreg : s.idToHandler.lookup c = none) (hcon : hd.IsConnect v host u p) :
    (ConnectFrame.act c hd).run ⟨s, l⟩ = .error .nullPointer ⟨s, l⟩ := by
  simp [ConnectFrame.act, ConnectFrame.isLegalFrame, hcon.version, hcon.host, hcon.login,
    hcon.passcode, convertIdToConnectionHandler, isTheClientConnected, hreg]

theorem connect_handled (hs : s.Backed) (hcmd : hd.get "COMMAND" = some (lit "CONNECT")) :
    Handled s c hd (ConnectFrame.act c hd) := by
  by_cases hcon : ∃ v host u p, hd.IsConnect v host u p
  · obtain ⟨v, host, u, p, hcon⟩ := hcon
    cases hreg : s.idToHandler.lookup c with
    | none =>
      exact (Effect.unregistered hreg).of_error (.unregistered hreg)
        (run_connectFrame_none hreg hcon)
    | some h =>
      by_cases herr : s.connectErrors h u p = []
      · exact (Effect.connected hreg hcon herr).of_ok (run_connectFrame hreg hcon herr)
      · exact (Effect.rejected hreg (.connect hcon herr)).of_ok
          (run_connectFrame_errors hs.topicsExist hreg hcon herr)
  · have hpos : ∀ a b d e, 0 < (ConnectFrame.malformedErrors a b d e).length := by
      simp [ConnectFrame.malformedErrors]
    cases hreg : s.idToHandler.lookup c with
    | none =>
      refine (Effect.unregistered hreg).of_error (.unregistered hreg) (x := .nullPointer) ?_
      simp [ConnectFrame.act, run_isLegalFrame_malformed _ hcon hcmd, hpos,
        run_sendErrorFrame_none hreg]
    | some h =>
      refine (Effect.rejected hreg (.connectMalformed hcmd hcon)).of_ok ?_
      simp [ConnectFrame.act, run_isLegalFrame_malformed _ hcon hcmd, hpos,
        run_sendErrorFrame hreg hs.topicsExist]

/-- DISCONNECT logs the user out twice; the second time changes nothing. -/
theorem ConnectionsImp.drop_logout {u : Str} (hu : s.clientToUsername.lookup h = some u) :
    ConnectionsImp.drop { s with loggedInUsers := s.loggedInUsers.erase u } c h = s.drop c h := by
  simp [ConnectionsImp.drop, topicsOf, hu]

/-- An accepted DISCONNECT of a client that has logged in. -/
theorem run_disconnectFrame {r u : Str} {l : List Call} (hs : s.Backed)
    (hreg : s.idToHandler.lookup c = some h) (hdis : hd.IsDisconnect r)
    (hu : s.clientToUsername.lookup h = some u) :
    (DisconnectFrame.act c hd).run ⟨s, l⟩ = .ok () ⟨s.drop c h,
      l ++ [.send h (ReceiptFrame.toString r), .disconnect c, .terminate h]⟩ := by
  have hreg' : ({ s with loggedInUsers := s.loggedInUsers.erase u } :
      ConnectionsImp).idToHandler.lookup c = some h := hreg
  simp [DisconnectFrame.act, DisconnectFrame.isLegalFrame, hdis.receipt, idToUsername, hreg, hu,
    logOutUser, run_send hreg', run_disconnect hreg' hs.topicsExist, drop_logout hu]

/-- DISCONNECT of a client that never logged in: `logOutUser(null)`. -/
theorem run_disconnectFrame_anonymous {r : Str} {l : List Call}
    (hreg : s.idToHandler.lookup c = some h) (hdis : hd.IsDisconnect r)
    (hu : s.clientToUsername.lookup h = none) :
    (DisconnectFrame.act c hd).run ⟨s, l⟩ = .error .nullPointer ⟨s, l⟩ := by
  simp [DisconnectFrame.act, DisconnectFrame.isLegalFrame, hdis.receipt, idToUsername, hreg, hu,
    logOutUser]

theorem disconnect_handled (hs : s.Backed) (hcmd : hd.get "COMMAND" = some (lit "DISCONNECT")) :
    Handled s c hd (DisconnectFrame.act c hd) := by
  cases hreg : s.idToHandler.lookup c with
  | none =>
    refine (Effect.unregistered hreg).of_error (.unregistered hreg) (x := .nullPointer) ?_
    cases hr : hd.get "receipt" with
    | none => simp [DisconnectFrame.act, DisconnectFrame.isLegalFrame, hr,
        run_sendErrorFrame_none hreg]
    | some r => simp [DisconnectFrame.act, DisconnectFrame.isLegalFrame, hr, idToUsername, hreg]
  | some h =>
    cases hr : hd.get "receipt" with
    | none =>
      refine (Effect.rejected hreg (.disconnect hcmd hr)).of_ok ?_
      simp [DisconnectFrame.act, DisconnectFrame.isLegalFrame, hr,
        run_sendErrorFrame hreg hs.topicsExist]
    | some r =>
      cases hu : s.clientToUsername.lookup h with
      | none =>
        have hdis : hd.IsDisconnect r := ⟨hcmd, hr⟩
        exact (Effect.anonymous hreg hdis hu).of_error (.anonymous hreg hdis hu)
          (run_disconnectFrame_anonymous hreg hdis hu)
      | some u =>
        have hdis : hd.IsDisconnect r := ⟨hcmd, hr⟩
        exact (Effect.disconnected hreg hdis hu).of_ok (run_disconnectFrame hs hreg hdis hu)

/-- An accepted SEND. -/
theorem run_sendFrame {t body : Str} {l : List Call} (hreg : s.idToHandler.lookup c = some h)
    (hsend : hd.IsSend t body) (hent : s.entry t h ≠ none) :
    (SendFrame.act c hd).run ⟨s, l⟩ =
      .ok () ⟨s, l ++ broadcastCalls s t body ++ receiptCalls h (hd.get "receipt-id")⟩ := by
  obtain ⟨id, hid⟩ := Option.ne_none_iff_exists'.1 hent
  obtain ⟨m, hm, -⟩ := Option.bind_eq_some_iff.1 hid
  have ht : (s.topicToClients.lookup t).isSome := Option.isSome_iff_exists.2 ⟨m, hm⟩
  simp [SendFrame.act, SendFrame.isLegalFrame, hsend.destination, convertIdToConnectionHandler,
    hreg, run_isUserSubscribedToChannel, hid, hsend.body, run_sendToChannel ht,
    run_sendReceiptFrame hreg]

theorem send_handled (hs : s.Backed) (hcmd : hd.get "COMMAND" = some (lit "SEND"))
    (hbody : hd.get "BODY" ≠ none) : Handled s c hd (SendFrame.act c hd) := by
  cases hreg : s.idToHandler.lookup c with
  | none =>
    refine (Effect.unregistered hreg).of_error (.unregistered hreg) (x := .nullPointer) ?_
    cases hdest : hd.get "destination" with
    | none => simp [SendFrame.act, SendFrame.isLegalFrame, hdest, run_sendErrorFrame_none hreg]
    | some t =>
      by_cases ht : s.topicToClients.lookup t = none <;>
        simp [SendFrame.act, SendFrame.isLegalFrame, hdest, convertIdToConnectionHandler, hreg,
          run_isUserSubscribedToChannel_none, ht, run_sendErrorFrame_none hreg]
  | some h =>
    cases hdest : hd.get "destination" with
    | none =>
      refine (Effect.rejected hreg (.sendMalformed hcmd hdest)).of_ok ?_
      simp [SendFrame.act, SendFrame.isLegalFrame, hdest, run_sendErrorFrame hreg hs.topicsExist]
    | some t =>
      by_cases hent : s.entry t h = none
      · refine (Effect.rejected hreg (.send hcmd hdest hent)).of_ok ?_
        simp [SendFrame.act, SendFrame.isLegalFrame, hdest, convertIdToConnectionHandler, hreg,
          run_isUserSubscribedToChannel, hent, run_sendErrorFrame hreg hs.topicsExist]
      · obtain ⟨body, hbody⟩ := Option.ne_none_iff_exists'.1 hbody
        have hsend : hd.IsSend t body := ⟨hcmd, hdest, hbody⟩
        exact (Effect.broadcast hreg hsend hent).of_ok (run_sendFrame hreg hsend hent)

theorem subscribe_legal_iff (hcmd : hd.get "COMMAND" = some (lit "SUBSCRIBE")) :
    SubscribeFrame.isLegalFrame hd = [] ↔ ∃ t id, hd.IsSubscribe t id := by
  constructor
  · intro hlegal
    simp only [SubscribeFrame.isLegalFrame, idErrors, bodyErrors, List.append_eq_nil_iff,
      ite_eq_right_iff, List.cons_ne_nil, imp_false, ne_eq, not_not] at hlegal
    obtain ⟨⟨hdest, hid⟩, hbody⟩ := hlegal
    obtain ⟨t, ht⟩ := Option.ne_none_iff_exists'.1 hdest
    obtain ⟨id, hid⟩ := Option.ne_none_iff_exists'.1 hid
    exact ⟨t, id, hcmd, ht, hid, hbody⟩
  · rintro ⟨t, id, hsub⟩
    simp [SubscribeFrame.isLegalFrame, idErrors, bodyErrors, hsub.destination, hsub.id, hsub.body]

theorem unsubscribe_legal_iff (hcmd : hd.get "COMMAND" = some (lit "UNSUBSCRIBE")) :
    UnsubscribeFrame.isLegalFrame hd = [] ↔ ∃ id, hd.IsUnsubscribe id := by
  constructor
  · intro hlegal
    simp only [UnsubscribeFrame.isLegalFrame, idErrors, bodyErrors, List.append_eq_nil_iff,
      ite_eq_right_iff, List.cons_ne_nil, imp_false, ne_eq, not_not] at hlegal
    obtain ⟨id, hid⟩ := Option.ne_none_iff_exists'.1 hlegal.1
    exact ⟨id, hcmd, hid, hlegal.2⟩
  · rintro ⟨id, huns⟩
    simp [UnsubscribeFrame.isLegalFrame, idErrors, bodyErrors, huns.id, huns.body]

/-- An accepted SUBSCRIBE. -/
theorem run_subscribeFrame {t id : Str} {l : List Call} (hreg : s.idToHandler.lookup c = some h)
    (hsub : hd.IsSubscribe t id) (hent : s.entry t h = none) :
    (SubscribeFrame.act c hd).run ⟨s, l⟩ = .ok () ⟨s.addSubscription t h id,
      l ++ Call.subscribe t c id true :: receiptCalls h (hd.get "receipt")⟩ := by
  have hreg' : (s.addSubscription t h id).idToHandler.lookup c = some h := hreg
  have hlegal := (subscribe_legal_iff hsub.command).2 ⟨t, id, hsub⟩
  simp [SubscribeFrame.act, hlegal, hsub.destination, hsub.id, run_subscribe_true hreg hent,
    run_sendReceiptFrame hreg']

/-- An accepted UNSUBSCRIBE. -/
theorem run_unsubscribeFrame {t id : Str} {l : List Call}
    (hreg : s.idToHandler.lookup c = some h) (huns : hd.IsUnsubscribe id)
    (htop : s.topicOf h id = some t) (hent : s.entry t h ≠ none) :
    (UnsubscribeFrame.act c hd).run ⟨s, l⟩ = .ok () ⟨s.removeSubscription t h id,
      l ++ Call.unsubscribe c id true :: receiptCalls h (hd.get "receipt")⟩ := by
  have hreg' : (s.removeSubscription t h id).idToHandler.lookup c = some h := hreg
  have hlegal := (unsubscribe_legal_iff huns.command).2 ⟨id, huns⟩
  simp [UnsubscribeFrame.act, hlegal, huns.id, run_unsubscribe_true hreg htop hent,
    run_sendReceiptFrame hreg']

theorem subscribe_handled (hs : s.Backed) (hcmd : hd.get "COMMAND" = some (lit "SUBSCRIBE")) :
    Handled s c hd (SubscribeFrame.act c hd) := by
  by_cases hlegal : SubscribeFrame.isLegalFrame hd = []
  · obtain ⟨t, id, hsub⟩ := (subscribe_legal_iff hcmd).1 hlegal
    cases hreg : s.idToHandler.lookup c with
    | none =>
      by_cases ht : s.topicToClients.lookup t = none
      · refine (Effect.opened hreg hsub ht).of_error (.unregistered hreg) (x := .nullPointer) ?_
        simp [SubscribeFrame.act, hlegal, hsub.destination, hsub.id, run_subscribe_none hreg, ht]
      · refine (Effect.unregistered hreg).of_error (.unregistered hreg) (x := .nullPointer) ?_
        simp [SubscribeFrame.act, hlegal, hsub.destination, hsub.id, run_subscribe_none hreg, ht]
    | some h =>
      by_cases hent : s.entry t h = none
      · exact (Effect.subscribed hreg hsub hent).of_ok (run_subscribeFrame hreg hsub hent)
      · refine (Effect.rejected hreg (.subscribe hsub hent)).of_ok ?_
        simp [SubscribeFrame.act, hlegal, hsub.destination, hsub.id,
          run_subscribe_false hreg hent, run_sendErrorFrame hreg hs.topicsExist]
  · cases hreg : s.idToHandler.lookup c with
    | none =>
      refine (Effect.unregistered hreg).of_error (.unregistered hreg) (x := .nullPointer) ?_
      simp [SubscribeFrame.act, hlegal, run_sendErrorFrame_none hreg]
    | some h =>
      refine (Effect.rejected hreg (.subscribeMalformed hcmd hlegal)).of_ok ?_
      simp [SubscribeFrame.act, hlegal, run_sendErrorFrame hreg hs.topicsExist]

/-- UNSUBSCRIBE of a client of the empty topic that has no subscription ids: `null.remove(...)`. -/
theorem run_unsubscribeFrame_unindexed {id : Str} {l : List Call}
    (hreg : s.idToHandler.lookup c = some h) (huns : hd.IsUnsubscribe id)
    (hent : s.entry [] h ≠ none) (hidx : s.clientToTopics.lookup h = none) :
    (UnsubscribeFrame.act c hd).run ⟨s, l⟩ = .error .nullPointer ⟨s, l⟩ := by
  have hlegal := (unsubscribe_legal_iff huns.command).2 ⟨id, huns⟩
  have htop : s.topicOf h id = none := by simp [topicOf, Dict.lookup₂, hidx]
  simp [UnsubscribeFrame.act, hlegal, huns.id, run_unsubscribe_false hreg htop, hent, hidx]

theorem unsubscribe_handled (hs : s.Backed)
    (hcmd : hd.get "COMMAND" = some (lit "UNSUBSCRIBE")) :
    Handled s c hd (UnsubscribeFrame.act c hd) := by
  by_cases hlegal : UnsubscribeFrame.isLegalFrame hd = []
  · obtain ⟨id, huns⟩ := (unsubscribe_legal_iff hcmd).1 hlegal
    cases hreg : s.idToHandler.lookup c with
    | none =>
      refine (Effect.unregistered hreg).of_error (.unregistered hreg) (x := .nullPointer) ?_
      simp [UnsubscribeFrame.act, hlegal, huns.id, run_unsubscribe_none hreg]
    | some h =>
      cases htop : s.topicOf h id with
      | some t =>
        have hent : s.entry t h ≠ none := by simp [hs h id t htop]
        exact (Effect.unsubscribed hreg huns htop).of_ok (run_unsubscribeFrame hreg huns htop hent)
      | none =>
        by_cases hent : s.entry [] h = none
        · refine (Effect.rejected hreg (.unsubscribe huns htop hent)).of_ok ?_
          simp [UnsubscribeFrame.act, hlegal, huns.id, run_unsubscribe_false hreg htop, hent,
            run_sendErrorFrame hreg hs.topicsExist]
        · by_cases hidx : s.clientToTopics.lookup h = none
          · exact (Effect.unindexed hreg huns hent hidx).of_error (.unindexed hreg huns hent hidx)
              (run_unsubscribeFrame_unindexed hreg huns hent hidx)
          · have hreg' : (s.dropEntry [] h).idToHandler.lookup c = some h := hreg
            refine (Effect.rejected hreg (.unsubscribeEmpty huns htop hent hidx)).of_ok ?_
            simp [UnsubscribeFrame.act, hlegal, huns.id, run_unsubscribe_false hreg htop, hent,
              hidx, run_sendErrorFrame hreg' (hs.topicsExist.dropEntry [])]
  · cases hreg : s.idToHandler.lookup c with
    | none =>
      refine (Effect.unregistered hreg).of_error (.unregistered hreg) (x := .nullPointer) ?_
      simp [UnsubscribeFrame.act, hlegal, run_sendErrorFrame_none hreg]
    | some h =>
      refine (Effect.rejected hreg (.unsubscribeMalformed hcmd hlegal)).of_ok ?_
      simp [UnsubscribeFrame.act, hlegal, run_sendErrorFrame hreg hs.topicsExist]

section Dispatch

variable (c) {e : Exec}

theorem run_act_connect (hcmd : hd.get "COMMAND" = some (lit "CONNECT")) :
    (act c hd).run e = (ConnectFrame.act c hd).run e := by
  simp [act, hcmd]

theorem run_act_disconnect (hcmd : hd.get "COMMAND" = some (lit "DISCONNECT")) :
    (act c hd).run e = (DisconnectFrame.act c hd).run e := by
  simp [act, hcmd]

theorem run_act_send (hcmd : hd.get "COMMAND" = some (lit "SEND")) :
    (act c hd).run e = (SendFrame.act c hd).run e := by
  simp [act, hcmd]

theorem run_act_subscribe (hcmd : hd.get "COMMAND" = some (lit "SUBSCRIBE")) :
    (act c hd).run e = (SubscribeFrame.act c hd).run e := by
  simp [act, hcmd]

theorem run_act_unsubscribe (hcmd : hd.get "COMMAND" = some (lit "UNSUBSCRIBE")) :
    (act c hd).run e = (UnsubscribeFrame.act c hd).run e := by
  simp [act, hcmd]

end Dispatch

theorem Handled.congr {m m' : Java Unit} (hm : m.run ⟨s, []⟩ = m'.run ⟨s, []⟩)
    (h : Handled s c hd m') : Handled s c hd m where
  effect := by
    have heff := h.effect
    simp only [after, hm] at heff ⊢
    exact heff
  returns hno := by
    have hreturns := h.returns hno
    simp only [raised, hm] at hreturns ⊢
    exact hreturns

theorem after_of_ok {m : Java Unit} {e : Exec} (hm : m.run ⟨s, []⟩ = .ok () e) :
    after m s = e := by
  simp only [after, hm]

/-- **Handling a frame.** -/
theorem act_handled (hs : s.Backed) (hbody : hd.get "BODY" ≠ none) : Handled s c hd (act c hd) := by
  by_cases hcmd : ∃ cmd ∈ ["CONNECT", "DISCONNECT", "SEND", "SUBSCRIBE", "UNSUBSCRIBE"],
      hd.get "COMMAND" = some (lit cmd)
  · obtain ⟨cmd, hmem, hcmd⟩ := hcmd
    simp only [List.mem_cons, List.not_mem_nil, or_false] at hmem
    rcases hmem with rfl | rfl | rfl | rfl | rfl
    · exact (connect_handled hs hcmd).congr (run_act_connect c hcmd)
    · exact (disconnect_handled hs hcmd).congr (run_act_disconnect c hcmd)
    · exact (send_handled hs hcmd hbody).congr (run_act_send c hcmd)
    · exact (subscribe_handled hs hcmd).congr (run_act_subscribe c hcmd)
    · exact (unsubscribe_handled hs hcmd).congr (run_act_unsubscribe c hcmd)
  · push Not at hcmd
    cases hget : hd.get "COMMAND" with
    | none =>
      refine (Effect.ignored hcmd).of_error (.noCommand hget) (x := .nullPointer) ?_
      simp [act, hget]
    | some cmd =>
      refine (Effect.ignored hcmd).of_ok ?_
      simp only [List.forall_mem_cons, hget, ne_eq, Option.some.injEq] at hcmd
      simp [act, hget, hcmd]

/-- **What handling a frame can do.** -/
theorem act_effect (hs : s.Backed) (hbody : hd.get "BODY" ≠ none) :
    Effect s c hd (after (act c hd) s) := (act_handled hs hbody).effect

/-! ### Which effect an answer tells of

The answers differ in their first letter. -/

/-- The texts sent to one handler, in order. -/
def sentTo (d : ConnectionHandler) (calls : List Call) : List Str :=
  calls.filterMap fun
    | .send d' m => if d' = d then some m else none
    | _ => none

theorem mem_sentTo {d : ConnectionHandler} {m : Str} {l : List Call} :
    m ∈ sentTo d l ↔ Call.send d m ∈ l := by
  simp only [sentTo, List.mem_filterMap]
  constructor
  · rintro ⟨x, hx, heq⟩
    split at heq
    · split_ifs at heq with hd
      cases heq
      rwa [← hd]
    · cases heq
  · exact fun hx => ⟨_, hx, if_pos rfl⟩

/-- The text is a frame of this command. -/
def HasCommand (cmd : String) (m : Str) : Prop := lit cmd ++ ['\n'] <+: m

instance (cmd : String) (m : Str) : Decidable (HasCommand cmd m) :=
  inferInstanceAs (Decidable (lit cmd ++ ['\n'] <+: m))

theorem hasCommand_errorFrame (errors : List Str) (hd : HeaderTable) :
    HasCommand "ERROR" (ErrorFrame.toString errors hd) := by
  unfold ErrorFrame.toString
  simp only [List.append_assoc]
  exact List.prefix_append (lit "ERROR\n") _

theorem hasCommand_connectedFrame (v : Option Str) :
    HasCommand "CONNECTED" (ConnectFrame.buildResponseFrame v) :=
  ⟨lit "version: " ++ stringOf v ++ lit "\n\n\x00", rfl⟩

@[simp] theorem head_errorFrame (errors : List Str) (hd : HeaderTable) :
    (ErrorFrame.toString errors hd).head? = some 'E' := rfl

@[simp] theorem head_receiptFrame (r : Str) : (ReceiptFrame.toString r).head? = some 'R' := rfl

@[simp] theorem head_connectedFrame (v : Option Str) :
    (ConnectFrame.buildResponseFrame v).head? = some 'C' := rfl

@[simp] theorem head_message (i : ℕ) (t : Str) (id : Option Str) (body : Str) :
    (buildSendMessage i t id body).head? = some 'M' := rfl

theorem head_eq_of_prefix {x : Char} {p m : Str} (hp : x :: p <+: m) : m.head? = some x := by
  obtain ⟨r, rfl⟩ := hp
  rfl

section Answers

variable {s₁ : ConnectionsImp} {pre : List Call} {errors : List Str} {e : Exec}
  {d : ConnectionHandler} {m : Str}

/-- The calls noted before a rejection neither send nor disconnect. -/
theorem Rejects.mem_pre (hrej : Rejects s c h hd s₁ pre errors) {x : Call} (hx : x ∈ pre) :
    (∃ t id, x = .subscribe t c id false) ∨ ∃ id, x = .unsubscribe c id false := by
  cases hrej <;> simp_all

theorem Rejects.mem_calls (hrej : Rejects s c h hd s₁ pre errors)
    (hm : Call.send d m ∈ pre ++ rejectCalls c h errors hd) :
    d = h ∧ m = ErrorFrame.toString errors hd := by
  rcases List.mem_append.1 hm with hm | hm
  · rcases hrej.mem_pre hm with ⟨t, id, heq⟩ | ⟨id, heq⟩ <;> cases heq
  · simpa [rejectCalls] using hm

theorem head_of_mem_receiptCalls {r : Option Str} (hm : Call.send d m ∈ receiptCalls h r) :
    m.head? = some 'R' := by
  cases r with
  | none => simp [receiptCalls] at hm
  | some r =>
    simp only [receiptCalls, List.mem_singleton, Call.send.injEq] at hm
    rw [hm.2, head_receiptFrame]

theorem head_of_mem_broadcastCalls {t body : Str} (hm : Call.send d m ∈ broadcastCalls s t body) :
    m.head? = some 'M' := by
  obtain ⟨d', -, heq⟩ := List.mem_map.1 hm
  cases heq
  rfl

/-- Every text that is sent tells by its first letter what happened. -/
theorem Effect.mem_calls (he : Effect s c hd e) (hm : Call.send d m ∈ e.calls) :
    (m.head? = some 'E' ∧ ∃ s₁ pre errors, s.idToHandler.lookup c = some d ∧
      Rejects s c d hd s₁ pre errors ∧
      e = ⟨s₁.drop c d, pre ++ rejectCalls c d errors hd⟩) ∨
    (m.head? = some 'C' ∧ ∃ v host u p, s.idToHandler.lookup c = some d ∧
      hd.IsConnect v host u p ∧ s.connectErrors d u p = [] ∧ e.connections = s.login d u p) ∨
    (m.head? = some 'M' ∧ ∃ h t body, s.idToHandler.lookup c = some h ∧
      hd.IsSend t body ∧ s.entry t h ≠ none ∧ Call.send d m ∈ broadcastCalls s t body) ∨
    m.head? = some 'R' := by
  cases he with
  | rejected hreg hrej =>
    obtain ⟨rfl, rfl⟩ := hrej.mem_calls hm
    exact .inl ⟨head_errorFrame _ _, _, _, _, hreg, hrej, rfl⟩
  | connected hreg hcon herr =>
    rcases List.mem_cons.1 hm with heq | hm
    · cases heq
      exact .inr (.inl ⟨head_connectedFrame _, _, _, _, _, hreg, hcon, herr, rfl⟩)
    · exact .inr (.inr (.inr (head_of_mem_receiptCalls hm)))
  | disconnected =>
    simp only [List.mem_cons, Call.send.injEq, reduceCtorEq, List.not_mem_nil, or_false] at hm
    exact .inr (.inr (.inr (by simp [hm.2])))
  | broadcast hreg hsend hent =>
    rcases List.mem_append.1 hm with hm | hm
    · exact .inr (.inr (.inl ⟨head_of_mem_broadcastCalls hm, _, _, _, hreg, hsend, hent, hm⟩))
    · exact .inr (.inr (.inr (head_of_mem_receiptCalls hm)))
  | subscribed => exact .inr (.inr (.inr (head_of_mem_receiptCalls (by simpa using hm))))
  | unsubscribed => exact .inr (.inr (.inr (head_of_mem_receiptCalls (by simpa using hm))))
  | _ => exact absurd hm List.not_mem_nil

theorem Effect.rejected_of_error (he : Effect s c hd e) (hm : Call.send d m ∈ e.calls)
    (hp : HasCommand "ERROR" m) : ∃ s₁ pre errors, s.idToHandler.lookup c = some d ∧
      Rejects s c d hd s₁ pre errors ∧
      e = ⟨s₁.drop c d, pre ++ rejectCalls c d errors hd⟩ := by
  have hhead : m.head? = some 'E' := head_eq_of_prefix hp
  simpa [hhead] using he.mem_calls hm

theorem Effect.connected_of_answer (he : Effect s c hd e) (hm : Call.send d m ∈ e.calls)
    (hp : HasCommand "CONNECTED" m) : ∃ v host u p, s.idToHandler.lookup c = some d ∧
      hd.IsConnect v host u p ∧ s.connectErrors d u p = [] ∧ e.connections = s.login d u p := by
  have hhead : m.head? = some 'C' := head_eq_of_prefix hp
  simpa [hhead] using he.mem_calls hm

theorem Effect.broadcast_of_message (he : Effect s c hd e) (hm : Call.send d m ∈ e.calls)
    (hp : HasCommand "MESSAGE" m) : ∃ h t body, s.idToHandler.lookup c = some h ∧
      hd.IsSend t body ∧ s.entry t h ≠ none ∧ Call.send d m ∈ broadcastCalls s t body := by
  have hhead : m.head? = some 'M' := head_eq_of_prefix hp
  simpa [hhead] using he.mem_calls hm

/-- A SEND that is not answered with ERROR comes from a client of its destination. -/
theorem Effect.send_accepted (he : Effect s c hd e) (hreg : s.idToHandler.lookup c = some h)
    (hcmd : hd.get "COMMAND" = some (lit "SEND"))
    (herr : ∀ m, Call.send h m ∈ e.calls → ¬ HasCommand "ERROR" m) :
    ∃ t, s.entry t h ≠ none := by
  cases he with
  | broadcast hreg' hsend hent =>
    cases hreg.symm.trans hreg'
    exact ⟨_, hent⟩
  | @rejected h' s₁ pre errors hreg' hrej =>
    cases hreg.symm.trans hreg'
    exact absurd (hasCommand_errorFrame errors hd) (herr _ (by simp [rejectCalls]))
  | ignored hother => exact absurd hcmd (hother "SEND" (by simp))
  | unregistered hreg' => simp [hreg] at hreg'
  | opened hreg' => simp [hreg] at hreg'
  | connected _ hcon => simp [hcon.command] at hcmd
  | disconnected _ hdis => simp [hdis.command] at hcmd
  | anonymous _ hdis => simp [hdis.command] at hcmd
  | subscribed _ hsub => simp [hsub.command] at hcmd
  | unsubscribed _ huns => simp [huns.command] at hcmd
  | unindexed _ huns => simp [huns.command] at hcmd

/-- The checks of a rejected frame touch neither the handlers nor the sessions. -/
theorem Rejects.same_sessions (hrej : Rejects s c h hd s₁ pre errors) :
    s₁.idToHandler = s.idToHandler ∧ s₁.clientToUsername = s.clientToUsername ∧
      s₁.loggedInUsers = s.loggedInUsers := by
  cases hrej with
  | connect => unfold checked; split_ifs <;> exact ⟨rfl, rfl, rfl⟩
  | _ => exact ⟨rfl, rfl, rfl⟩

/-- `disconnect` is called for the sender, by a rejection or for a DISCONNECT. -/
theorem Effect.ended_of_call (he : Effect s c hd e) {k : ℕ} (hk : Call.disconnect k ∈ e.calls) :
    k = c ∧ ∃ h, s.idToHandler.lookup c = some h ∧
      ((∃ s₁ pre errors, Rejects s c h hd s₁ pre errors ∧ e.connections = s₁.drop c h) ∨
        ∃ r, hd.IsDisconnect r ∧ e.connections = s.drop c h) := by
  have hreceipt : ∀ h r, Call.disconnect k ∉ receiptCalls h r := fun h r => by
    cases r <;> simp [receiptCalls]
  cases he with
  | @rejected h s₁ pre errors hreg hrej =>
    rcases List.mem_append.1 hk with hk | hk
    · rcases hrej.mem_pre hk with ⟨t, id, heq⟩ | ⟨id, heq⟩ <;> cases heq
    · exact ⟨by simpa [rejectCalls] using hk, h, hreg, .inl ⟨s₁, pre, errors, hrej, rfl⟩⟩
  | @disconnected h r u hreg hdis =>
    exact ⟨by simpa using hk, h, hreg, .inr ⟨r, hdis, rfl⟩⟩
  | broadcast => simp [broadcastCalls, hreceipt] at hk
  | connected => simp [hreceipt] at hk
  | subscribed => simp [hreceipt] at hk
  | unsubscribed => simp [hreceipt] at hk
  | _ => simp at hk

theorem Effect.dropped_of_call (he : Effect s c hd e) {k : ℕ} (hk : Call.disconnect k ∈ e.calls) :
    k = c ∧ ∃ (h : ConnectionHandler) (s₁ : ConnectionsImp), s.idToHandler.lookup c = some h ∧
      e.connections = s₁.drop c h ∧ s₁.idToHandler = s.idToHandler ∧
      s₁.clientToUsername = s.clientToUsername ∧ s₁.loggedInUsers = s.loggedInUsers := by
  obtain ⟨hkc, h, hreg, ⟨s₁, pre, errors, hrej, heq⟩ | ⟨r, -, heq⟩⟩ := he.ended_of_call hk
  · exact ⟨hkc, h, s₁, hreg, heq, hrej.same_sessions⟩
  · exact ⟨hkc, h, s, hreg, heq, rfl, rfl, rfl⟩

theorem Effect.unsubscribed_of_call (he : Effect s c hd e) {k : ℕ} {id : Str}
    (hk : Call.unsubscribe k id true ∈ e.calls) : k = c ∧ ∃ h t,
      s.idToHandler.lookup c = some h ∧ s.topicOf h id = some t ∧
      e.connections = s.removeSubscription t h id := by
  have hreceipt : ∀ h r, Call.unsubscribe k id true ∉ receiptCalls h r := fun h r => by
    cases r <;> simp [receiptCalls]
  cases he with
  | @unsubscribed h t id' hreg huns htop =>
    rcases List.mem_cons.1 hk with heq | hk
    · cases heq
      exact ⟨rfl, h, t, hreg, htop, rfl⟩
    · exact absurd hk (hreceipt _ _)
  | rejected hreg hrej =>
    rcases List.mem_append.1 hk with hk | hk
    · rcases hrej.mem_pre hk with ⟨t, id', heq⟩ | ⟨id', heq⟩ <;> cases heq
    · simp [rejectCalls] at hk
  | connected => simp [hreceipt] at hk
  | disconnected => simp at hk
  | broadcast => simp [broadcastCalls, hreceipt] at hk
  | subscribed => simp [hreceipt] at hk
  | _ => simp at hk

end Answers

end WorldCupInformer
