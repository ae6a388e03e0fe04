import WorldCupInformer.Server.Invariants

/-!
# Passwords, sessions and participation

* `passwords_stable`: a password, once set, is never changed, and CONNECTED is answered only to it;
* `single_session`: a user is logged in exactly when one registered connection carries its name,
  and can come back after the session has ended;
* `authenticated_iff`: the clients in the topic maps have logged in exactly as long as every
  SUBSCRIBE that is accepted comes from a client that has.
-/

namespace WorldCupInformer

open Server

/-! ### Passwords -/

/-- A frame changes no password. -/
theorem Effect.password_mono {s : ConnectionsImp} {c : ℕ} {hd : HeaderTable} {e : Exec}
    (he : Effect s c hd e) {u p : Str} (hp : s.usernameToPass.lookup u = some p) :
    e.connections.usernameToPass.lookup u = some p := by
  cases he with
  | @connected h v host u' p' hreg hcon herr =>
    obtain ⟨-, -, hknown⟩ := ConnectionsImp.connectErrors_eq_nil.1 herr
    simp only [ConnectionsImp.login, Dict.lookup_insert]
    split_ifs with hu
    · subst hu
      simpa [hp, eq_comm] using hknown
    · exact hp
  | rejected hreg hrej =>
    cases hrej with
    | @connect v host u' p' hcon herr =>
      unfold ConnectionsImp.checked
      split_ifs with hnew
      · have hu : u ≠ u' := fun heq => by
          rw [← heq, hp] at hnew
          cases hnew
        simpa [ConnectionsImp.drop, ConnectionsImp.register, Dict.lookup_insert, hu] using hp
      · exact hp
    | _ => exact hp
  | _ => exact hp

theorem Server.password_step {s : Server} (hs : s.WellFormed) {u p : Str}
    (hp : s.connections.usernameToPass.lookup u = some p) (e : Event) :
    (s.step e).connections.usernameToPass.lookup u = some p := by
  cases e with
  | accept => exact hp
  | message c msg =>
    exact step_message (P := fun conns => conns.usernameToPass.lookup u = some p) hs.backed hp
      fun hd e _ he => he.password_mono hp

theorem Server.password_run {s : Server} (hs : s.WellFormed) {u p : Str}
    (hp : s.connections.usernameToPass.lookup u = some p) (es : List Event) :
    (Machine.run Server.step s es).connections.usernameToPass.lookup u = some p :=
  (Machine.run_invariant (I := fun s : Server => s.WellFormed ∧
      s.connections.usernameToPass.lookup u = some p)
    (fun _ e hs => ⟨hs.1.step e, password_step hs.1 hs.2 e⟩) ⟨hs, hp⟩ es).2

/-- A message answered with CONNECTED is an accepted CONNECT of the answered client. -/
theorem Server.connected_of_answers {s : Server} (hs : s.WellFormed) {c : ℕ} {msg : Str}
    {d : ConnectionHandler} (hans : s.Answers (.message c msg) "CONNECTED" d) :
    ∃ hd v host u p, orderMsgInHash msg = .ok hd ∧ hd.IsConnect v host u p ∧
      s.connections.idToHandler.lookup c = some d ∧ s.connections.connectErrors d u p = [] ∧
      (s.step (.message c msg)).connections = s.connections.login d u p := by
  obtain ⟨m, hm, hp⟩ := hans
  rcases handle_message hs.backed c msg with ⟨hd, hmsg, he⟩ | heq
  · obtain ⟨v, host, u, p, hreg, hcon, herr, hconn⟩ := he.connected_of_answer (mem_sentTo.1 hm) hp
    exact ⟨hd, v, host, u, p, hmsg, hcon, hreg, herr, hconn⟩
  · rw [heq] at hm
    exact absurd hm List.not_mem_nil

/-- **Passwords are stable.**  Once a user has a password, every later state has the same, and
every later CONNECT for the user that is answered with CONNECTED carried it. -/
theorem passwords_stable (es es' : List Event) (u p : Str)
    (hp : (atServer es).connections.usernameToPass.lookup u = some p) :
    (atServer (es ++ es')).connections.usernameToPass.lookup u = some p ∧
    ∀ c msg d hd, orderMsgInHash msg = .ok hd → hd.get "login" = some u →
      (atServer (es ++ es')).Answers (.message c msg) "CONNECTED" d →
      hd.get "passcode" = some p := by
  have hlater : (atServer (es ++ es')).connections.usernameToPass.lookup u = some p := by
    rw [atServer, Machine.run_append]
    exact password_run (wellFormed_atServer es) hp es'
  refine ⟨hlater, fun c msg d hd hmsg hu hans => ?_⟩
  obtain ⟨hd', v, host, u', p', hmsg', hcon, -, herr, -⟩ :=
    connected_of_answers (wellFormed_atServer (es ++ es')) hans
  cases hmsg.symm.trans hmsg'
  cases hu.symm.trans hcon.login
  obtain ⟨-, -, hknown⟩ := ConnectionsImp.connectErrors_eq_nil.1 herr
  rw [hlater] at hknown
  rw [hcon.passcode]
  simpa [eq_comm] using hknown

/-- A first client logs in as `alice`. -/
def aliceRun : List Event :=
  [.accept, .message 0
    "CONNECT\naccept - version :1.2\nhost :h\nlogin :alice\npasscode :pw\n\n\x00"]

theorem aliceRun_password :
    (atServer (aliceRun ++ [.accept])).connections.usernameToPass.lookup (lit "alice") =
      some (lit "pw") :=
  (passwords_stable aliceRun [.accept] "alice" "pw" (by decide +kernel)).1

/-! ### Sessions -/

/-- The message ends the session of its connection: it is answered with ERROR, or it is a
DISCONNECT with its receipt header. -/
def Server.EndsSession (s : Server) (c : ℕ) (msg : Str) : Prop :=
  s.Answers (.message c msg) "ERROR" ⟨c⟩ ∨
    ∃ hd r, orderMsgInHash msg = .ok hd ∧ hd.IsDisconnect r

theorem Server.logged_out {s : Server} (hs : s.WellFormed) {c : ℕ} {msg u : Str}
    (hu : s.connections.SessionOf c u) (hend : s.EndsSession c msg) :
    u ∉ (s.step (.message c msg)).connections.loggedInUsers := by
  obtain ⟨h, hreg, hu⟩ := hu
  have hdrop : ∀ s₁ : ConnectionsImp, s₁.clientToUsername = s.connections.clientToUsername →
      u ∉ (s₁.drop c h).loggedInUsers := by
    intro s₁ heq hmem
    rw [ConnectionsImp.mem_loggedInUsers_drop, heq] at hmem
    exact hmem.1 hu
  unfold Server.step
  rcases hend with ⟨m, hm, hp⟩ | ⟨hd, r, hmsg, hdis⟩
  · rcases handle_message hs.backed c msg with ⟨hd, hmsg, he⟩ | heq
    · obtain ⟨s₁, pre, errors, hreg', hrej, hexec⟩ := he.rejected_of_error (mem_sentTo.1 hm) hp
      cases hreg.symm.trans hreg'
      rw [hexec]
      exact hdrop s₁ hrej.same_sessions.2.1
    · rw [heq] at hm
      exact absurd hm List.not_mem_nil
  · have hrun := run_disconnectFrame (l := []) hs.backed hreg hdis hu
    rw [← run_act_disconnect c hdis.command] at hrun
    rw [handle_decoded hmsg, after_of_ok hrun]
    exact hdrop s.connections rfl

/-- A CONNECT on a fresh connection for a user that is not logged in, with the password of the
user, is answered with CONNECTED. -/
theorem Server.answers_connected {s : Server} {c : ℕ} {h : ConnectionHandler} {msg : Str}
    {hd : HeaderTable} {v host u p : Str} (hmsg : orderMsgInHash msg = .ok hd)
    (hcon : hd.IsConnect v host u p) (hreg : s.connections.idToHandler.lookup c = some h)
    (hh : s.connections.clientToUsername.lookup h = none) (hu : u ∉ s.connections.loggedInUsers)
    (hp : s.connections.usernameToPass.lookup u = some p) :
    s.Answers (.message c msg) "CONNECTED" h := by
  have herr := ConnectionsImp.connectErrors_eq_nil.2 ⟨hh, hu, .inr hp⟩
  have hrun := run_connectFrame (l := []) hreg hcon herr
  rw [← run_act_connect c hcon.command] at hrun
  refine ⟨ConnectFrame.buildResponseFrame (some v), ?_, ?_⟩
  · rw [handle_decoded hmsg, after_of_ok hrun, mem_sentTo]
    simp
  · exact hasCommand_connectedFrame _

/-- During the run, connection `c` sent a CONNECT for `u` with passcode `p` that was answered with
CONNECTED. -/
def OpenedWith (es : List Event) (c : ℕ) (u p : Str) : Prop :=
  ∃ es₀ msg es₁ hd d, es = es₀ ++ .message c msg :: es₁ ∧ orderMsgInHash msg = .ok hd ∧
    hd.get "login" = some u ∧ hd.get "passcode" = some p ∧
    (atServer es₀).Answers (.message c msg) "CONNECTED" d

theorem OpenedWith.password {es : List Event} {c : ℕ} {u p : Str} (hopen : OpenedWith es c u p) :
    (atServer es).connections.usernameToPass.lookup u = some p := by
  obtain ⟨es₀, msg, es₁, hd, d, rfl, hmsg, hu, hp, hans⟩ := hopen
  have hwf := wellFormed_atServer es₀
  obtain ⟨hd', v, host, u', p', hmsg', hcon, -, -, hconn⟩ := connected_of_answers hwf hans
  cases hmsg.symm.trans hmsg'
  cases hu.symm.trans hcon.login
  cases hp.symm.trans hcon.passcode
  rw [atServer, Machine.run_append, Machine.run_cons]
  refine password_run (hwf.step _) ?_ es₁
  show ((atServer es₀).step (.message c msg)).connections.usernameToPass.lookup u = some p
  rw [hconn]
  simp [ConnectionsImp.login]

/-- **At most one session a user.**  In every reachable state a user is in `loggedInUsers` exactly
when one registered connection carries its name.  After its session was ended by DISCONNECT or
ERROR it is not, and as long as it is not, a CONNECT from a fresh connection with the password
that opened the session is answered with CONNECTED. -/
theorem single_session (es : List Event) :
    (∀ u, u ∈ (atServer es).connections.loggedInUsers ↔
      ∃! i, (atServer es).connections.SessionOf i u) ∧
    (∀ u i j, (atServer es).connections.SessionOf i u → (atServer es).connections.SessionOf j u →
      i = j) ∧
    ∀ c u p msg, (atServer es).connections.SessionOf c u → OpenedWith es c u p →
      (atServer es).EndsSession c msg →
      u ∉ (atServer (es ++ [.message c msg])).connections.loggedInUsers ∧
      ∀ es' s', s' = atServer (es ++ .message c msg :: es') → u ∉ s'.connections.loggedInUsers →
        ∀ k h msg' hd v host, s'.connections.idToHandler.lookup k = some h →
          s'.connections.clientToUsername.lookup h = none → orderMsgInHash msg' = .ok hd →
          hd.IsConnect v host u p → s'.Answers (.message k msg') "CONNECTED" h := by
  have hwf := wellFormed_atServer es
  have hunique := fun u i j => hwf.unique i j u
  refine ⟨fun u => ?_, hunique, ?_⟩
  · rw [hwf.logged]
    constructor
    · rintro ⟨i, hi⟩
      exact ⟨i, hi, fun j hj => hunique u j i hj hi⟩
    · exact ExistsUnique.exists
  · intro c u p msg hsession hopen hend
    constructor
    · have hout := logged_out hwf hsession hend
      simpa [atServer] using hout
    · rintro es' s' rfl hu k h msg' hd v host hreg hh hmsg' hcon
      refine answers_connected hmsg' hcon hreg hh hu ?_
      rw [atServer, Machine.run_append]
      exact password_run hwf hopen.password _

/-- `alice` leaves, and her name is free again. -/
theorem aliceRun_logged_out :
    lit "alice" ∉ (atServer (aliceRun ++ [.message 0
      "DISCONNECT\nreceipt :7\n\n\x00"])).connections.loggedInUsers := by
  obtain ⟨hd, hmsg, hu, hp⟩ : Decodes
      "CONNECT\naccept - version :1.2\nhost :h\nlogin :alice\npasscode :pw\n\n\x00"
      (fun hd => hd.get "login" = some (lit "alice") ∧ hd.get "passcode" = some (lit "pw")) := by
    decide +kernel
  obtain ⟨hd', hmsg', hcmd, hr⟩ : Decodes "DISCONNECT\nreceipt :7\n\n\x00"
      (fun hd => hd.get "COMMAND" = some (lit "DISCONNECT") ∧
        hd.get "receipt" = some (lit "7")) := by
    decide +kernel
  have hopen : OpenedWith aliceRun 0 "alice" "pw" :=
    ⟨[.accept], _, [], hd, ⟨0⟩, rfl, hmsg, hu, hp, by decide +kernel⟩
  exact ((single_session aliceRun).2.2 0 "alice" "pw" _
    ⟨⟨0⟩, by decide +kernel, by decide +kernel⟩ hopen (.inr ⟨hd', _, hmsg', hcmd, hr⟩)).1

/-! ### Participation -/

/-- The client has a username: its connection has had a CONNECT answered with CONNECTED. -/
def LoggedIn (es : List Event) (h : ConnectionHandler) : Prop :=
  ∃ u p, (atServer es).connections.clientToUsername.lookup h = some u ∧ OpenedWith es h.serial u p

/-- The clients in the topic maps have usernames. -/
def ConnectionsImp.Authenticated (s : ConnectionsImp) : Prop :=
  ∀ t h, s.entry t h ≠ none → s.clientToUsername.lookup h ≠ none

/-- After the events, only clients that have logged in take part: those in the topic maps, those
whose SEND is accepted, those who receive a MESSAGE. -/
structure OnlyLoggedIn (es : List Event) : Prop where
  entered : ∀ t h, (atServer es).connections.entry t h ≠ none → LoggedIn es h
  sender : ∀ c h msg hd, (atServer es).connections.idToHandler.lookup c = some h →
    orderMsgInHash msg = .ok hd → hd.get "COMMAND" = some (lit "SEND") →
    ¬ (atServer es).Answers (.message c msg) "ERROR" h → LoggedIn es h
  recipient : ∀ c msg d, (atServer es).Answers (.message c msg) "MESSAGE" d → LoggedIn es d

/-- The event is not a SUBSCRIBE of a registered connection that has not logged in. -/
def Server.NotAnonymous (s : Server) : Event → Prop
  | .accept => True
  | .message c msg => ∀ hd h t id, orderMsgInHash msg = .ok hd → hd.IsSubscribe t id →
      s.connections.idToHandler.lookup c = some h → s.connections.clientToUsername.lookup h ≠ none

theorem OpenedWith.append {es : List Event} {c : ℕ} {u p : Str} (hopen : OpenedWith es c u p)
    (es' : List Event) : OpenedWith (es ++ es') c u p := by
  obtain ⟨es₀, msg, es₁, hd, d, rfl, hrest⟩ := hopen
  exact ⟨es₀, msg, es₁ ++ es', hd, d, by simp, hrest⟩

/-- A new username comes from an accepted CONNECT. -/
theorem Effect.username_new {s : ConnectionsImp} {c : ℕ} {hd : HeaderTable} {e : Exec}
    (he : Effect s c hd e) {h : ConnectionHandler} {u : Str}
    (hu : e.connections.clientToUsername.lookup h = some u) :
    s.clientToUsername.lookup h = some u ∨ ∃ v host p, s.idToHandler.lookup c = some h ∧
      hd.IsConnect v host u p ∧
      Call.send h (ConnectFrame.buildResponseFrame (some v)) ∈ e.calls := by
  cases he with
  | connected hreg hcon herr =>
    simp only [ConnectionsImp.login, Dict.lookup_insert] at hu
    split_ifs at hu with hh
    · cases hu
      rw [hh]
      exact .inr ⟨_, _, _, hreg, hcon, List.mem_cons_self⟩
    · exact .inl hu
  | rejected hreg hrej =>
    left
    rw [← hrej.same_sessions.2.1]
    exact hu
  | _ => exact .inl hu

theorem loggedIn_iff (es : List Event) (h : ConnectionHandler) :
    LoggedIn es h ↔ (atServer es).connections.clientToUsername.lookup h ≠ none := by
  constructor
  · rintro ⟨u, p, hu, -⟩
    simp [hu]
  · intro hne
    obtain ⟨u, hu⟩ := Option.ne_none_iff_exists'.1 hne
    suffices hopen : ∃ p, OpenedWith es h.serial u p from ⟨u, hopen.choose, hu, hopen.choose_spec⟩
    clear hne
    induction es using List.reverseRecOn with
    | nil => simp [atServer] at hu
    | append_singleton es e ih =>
      have hlast : atServer (es ++ [e]) = (atServer es).step e := by simp [atServer]
      rw [hlast] at hu
      have hold : (atServer es).connections.clientToUsername.lookup h = some u →
          ∃ p, OpenedWith (es ++ [e]) h.serial u p := fun hu => by
        obtain ⟨p, hp⟩ := ih hu
        exact ⟨p, hp.append [e]⟩
      have hwf := wellFormed_atServer es
      cases e with
      | accept => exact hold hu
      | message c msg =>
        rcases handle_message hwf.backed c msg with ⟨hd, hmsg, he⟩ | heq
        · rcases he.username_new hu with hu | ⟨v, host, p, hreg, hcon, hcall⟩
          · exact hold hu
          · rw [← hwf.eq_serial hreg]
            exact ⟨p, es, msg, [], hd, h, rfl, hmsg, hcon.login, hcon.passcode, _,
              mem_sentTo.2 hcall, hasCommand_connectedFrame _⟩
        · unfold Server.step at hu
          rw [heq] at hu
          exact hold hu

namespace ConnectionsImp.Authenticated

variable {s : ConnectionsImp} {c : ℕ} {hd : HeaderTable} {e : Exec}

/-- Dropping a client adds no entry. -/
theorem of_entry_drop {s₁ : ConnectionsImp} {h h' : ConnectionHandler} {t : Str}
    (hent : (s₁.drop c h).entry t h' ≠ none) : s₁.entry t h' ≠ none := by
  rw [entry_drop] at hent
  split_ifs at hent
  · exact absurd rfl hent
  · exact hent

theorem of_entry_rejects {s₁ : ConnectionsImp} {h h' : ConnectionHandler} {pre : List Call}
    {errors : List Str} (hrej : Rejects s c h hd s₁ pre errors) {t : Str}
    (hent : s₁.entry t h' ≠ none) : s.entry t h' ≠ none := by
  cases hrej with
  | connect =>
    unfold checked at hent
    split_ifs at hent <;> exact hent
  | unsubscribeEmpty =>
    rw [entry_dropEntry] at hent
    split_ifs at hent
    · exact absurd rfl hent
    · exact hent
  | _ => exact hent

theorem effect (hs : s.Authenticated) (he : Effect s c hd e)
    (hok : ∀ h t id, hd.IsSubscribe t id → s.idToHandler.lookup c = some h →
      s.clientToUsername.lookup h ≠ none) : e.connections.Authenticated := by
  cases he with
  | opened hreg hsub ht =>
    intro t' h' hent
    rw [entry_openTopic h' t' ht] at hent
    exact hs t' h' hent
  | rejected hreg hrej =>
    intro t' h' hent
    have hname := hs t' h' (of_entry_rejects hrej (of_entry_drop hent))
    rwa [← hrej.same_sessions.2.1] at hname
  | disconnected =>
    intro t' h' hent
    exact hs t' h' (of_entry_drop hent)
  | connected hreg hcon herr =>
    intro t' h' hent
    simp only [login, Dict.lookup_insert]
    split_ifs
    · simp
    · exact hs t' h' hent
  | subscribed hreg hsub =>
    intro t' h' hent
    rw [entry_addSubscription] at hent
    split_ifs at hent with hnew
    · rw [hnew.2]
      exact hok _ _ _ hsub hreg
    · exact hs t' h' hent
  | unsubscribed =>
    intro t' h' hent
    rw [entry_removeSubscription] at hent
    split_ifs at hent
    · exact absurd rfl hent
    · exact hs t' h' hent
  | _ => exact hs

theorem step {s : Server} (hwf : s.WellFormed) (hs : s.connections.Authenticated) {e : Event}
    (he : s.NotAnonymous e) : (s.step e).connections.Authenticated := by
  cases e with
  | accept => exact hs
  | message c msg =>
    exact Server.step_message hwf.backed hs fun hd e hmsg heff =>
      hs.effect heff fun h t id hsub hreg => he hd h t id hmsg hsub hreg

theorem notAnonymous {s : Server} (hs : s.connections.Authenticated) {e : Event}
    (he : (s.step e).connections.Authenticated) : s.NotAnonymous e := by
  cases e with
  | accept => trivial
  | message c msg =>
    intro hd h t id hmsg hsub hreg hname
    have hent : s.connections.entry t h = none := by
      by_contra hent
      exact hs t h hent hname
    rw [Server.step_subscribed hmsg hreg hsub hent] at he
    exact he t h (by simp [entry_addSubscription]) hname

end ConnectionsImp.Authenticated

theorem onlyLoggedIn_iff (es : List Event) :
    OnlyLoggedIn es ↔ (atServer es).connections.Authenticated := by
  have hwf := wellFormed_atServer es
  constructor
  · intro h t d hent
    exact (loggedIn_iff es d).1 (h.entered t d hent)
  · intro hauth
    have hentered : ∀ t h, (atServer es).connections.entry t h ≠ none → LoggedIn es h :=
      fun t h hent => (loggedIn_iff es h).2 (hauth t h hent)
    refine ⟨hentered, ?_, ?_⟩
    · intro c h msg hd hreg hmsg hcmd herr
      have herr' : ∀ m, Call.send h m ∈ ((atServer es).handle (.message c msg)).calls →
          ¬ HasCommand "ERROR" m := fun m hm hp => herr ⟨m, mem_sentTo.2 hm, hp⟩
      rw [handle_decoded hmsg] at herr'
      have he := act_effect hwf.backed (c := c) (orderMsgInHash_body hmsg)
      obtain ⟨t, hent⟩ := he.send_accepted hreg hcmd herr'
      exact hentered t h hent
    · rintro c msg d ⟨m, hm, hp⟩
      rcases handle_message hwf.backed c msg with ⟨hd, -, he⟩ | heq
      · obtain ⟨h, t, body, -, -, -, hcall⟩ := he.broadcast_of_message (mem_sentTo.1 hm) hp
        obtain ⟨d', hd', heq⟩ := List.mem_map.1 hcall
        cases heq
        exact hentered t d (ConnectionsImp.mem_clientsOf.1 hd')
      · rw [heq] at hm
        exact absurd hm List.not_mem_nil

/-- **Only clients that have logged in take part, in every state of a run, exactly when no
SUBSCRIBE of the run comes from a registered connection that has not logged in.** -/
theorem authenticated_iff (es : List Event) :
    (∀ pre, pre <+: es → OnlyLoggedIn pre) ↔
      Machine.Along Server.step Server.NotAnonymous {} es := by
  have hinit : ({} : Server).connections.Authenticated := fun t h hent => by
    simp [ConnectionsImp.entry] at hent
  simp only [onlyLoggedIn_iff]
  exact (Machine.along_iff_forall_prefix (J := Server.WellFormed)
    (I := fun s => s.connections.Authenticated) (fun _ e hwf => hwf.step e)
    (fun _ _ hwf hs he => hs.step hwf he) (fun _ _ _ hs he => hs.notAnonymous he)
    wellFormed_init hinit es).symm

/-- A client subscribes without having logged in. -/
def anonymousRun : List Event :=
  [.accept, .message 0 "SUBSCRIBE\ndestination :/a\nid :1\n\n\x00"]

theorem not_forall_onlyLoggedIn : ¬ ∀ es, OnlyLoggedIn es := by
  intro hall
  have hent : (atServer anonymousRun).connections.entry "/a" ⟨0⟩ = some (lit "1") := by
    decide +kernel
  have hname : (atServer anonymousRun).connections.clientToUsername.lookup ⟨0⟩ = none := by
    decide +kernel
  have hlogged := (hall anonymousRun).entered "/a" ⟨0⟩ (by simp [hent])
  exact (loggedIn_iff _ _).1 hlogged hname

end WorldCupInformer
