import WorldCupInformer.Session.Handshake

/-!
# Sessions with outstanding requests

While a session is on track, the frames still to come to the client answer its outstanding requests
in their order, with MESSAGEs between them, and the two sides agree up to these requests.  A request
that the server refuses dooms the session: the client closes it when it has handled the ERROR.

* `Coming`: the frames still to come;
* `OnTrack`: the session is open and on track;
* `steady_step`, `doomed_step`: what any step leaves of the connection, and of the doom;
* `OnTrack.join`, `OnTrack.exit`, `OnTrack.deliver`, `OnTrack.serve`: the steps of a session on
  track.
-/

namespace WorldCupInformer

open Client (natToString CppException StompProtocol)

/-- The frames answer the outstanding requests, oldest first; the others are MESSAGEs. -/
inductive Coming : List Request → List Str → Prop
  | nil : Coming [] []
  | receipt {qs : List Request} {frames : List Str} (q : Request) (h : Coming qs frames) :
      Coming (q :: qs) (q.answer :: frames)
  | message {qs : List Request} {frame : Str} {frames : List Str}
      (hframe : HasCommand "MESSAGE" frame)
      (h : Coming qs frames) : Coming qs (frame :: frames)

namespace Coming

variable {q : Request} {qs : List Request} {frames frames' : List Str}

theorem append_receipt (h : Coming qs frames) (q : Request) :
    Coming (qs ++ [q]) (frames ++ [q.answer]) := by
  induction h with
  | nil => exact .receipt q .nil
  | receipt q' _ ih => exact .receipt q' ih
  | message hframe _ ih => exact .message hframe ih

theorem append_messages (h : Coming qs frames)
    (hframes : ∀ frame ∈ frames', HasCommand "MESSAGE" frame) : Coming qs (frames ++ frames') := by
  induction h with
  | nil =>
    induction frames' with
    | nil => exact .nil
    | cons frame frames' ih =>
      obtain ⟨hframe, hframes⟩ := List.forall_mem_cons.1 hframes
      exact .message hframe (ih hframes)
  | receipt q _ ih => exact .receipt q ih
  | message hframe _ ih => exact .message hframe ih

/-- The RECEIPT of every outstanding request is still to come. -/
theorem answer_mem (h : Coming qs frames) (hq : q ∈ qs) : q.answer ∈ frames := by
  induction h with
  | nil => cases hq
  | receipt q' _ ih =>
    rcases List.mem_cons.1 hq with rfl | hq
    · exact List.mem_cons_self
    · exact List.mem_cons_of_mem _ (ih hq)
  | message _ _ ih => exact List.mem_cons_of_mem _ (ih hq)

theorem eq_nil (h : Coming qs []) : qs = [] := by
  cases h
  rfl

/-- No ERROR is to come. -/
theorem no_error (h : Coming qs frames) : ¬ ∃ frame ∈ frames, HasCommand "ERROR" frame := by
  induction h with
  | nil => simp
  | receipt q _ ih =>
    have hanswer : ¬ HasCommand "ERROR" q.answer := by
      simp [HasCommand, Request.answer, Client.receiptText, lit]
    simpa [hanswer] using ih
  | message hframe _ ih =>
    obtain ⟨rest, rfl⟩ := hframe
    have hmessage : ¬ HasCommand "ERROR" (lit "MESSAGE" ++ ['\n'] ++ rest) := by
      simp [HasCommand, lit]
    rintro ⟨frame, hmem, herror⟩
    rcases List.mem_cons.1 hmem with rfl | hmem
    · exact hmessage herror
    · exact ih ⟨frame, hmem, herror⟩

end Coming

/-! ### Any step -/

/-- A socket between two steps: a closed one cannot be written. -/
structure Client.ConnectionHandler.Steady (handler : Client.ConnectionHandler) : Prop where
  written : handler.written = []
  connected : handler.writable = true → handler.connected = true

/-- A client that has just logged in has no outstanding requests. -/
theorem Tracks.start {c : ℕ} {p : StompProtocol} {s : Session} (h : s.LoggedIn c p) :
    Tracks c p s.link.server [] where
  rest :=
    { numbered := h.receipts ▸ numbered_empty
      entries := fun g sub hsub => by simp [h.subscriptions] at hsub
      written := h.written
      connected := fun _ => h.connected }
  connected := h.connected
  writable := h.writable
  username := by
    obtain ⟨u, hu, hnul, -⟩ := h.username
    exact ⟨u, hu, hnul⟩
  serves :=
    { wellFormed := by
        obtain ⟨es, hes⟩ := h.reachable
        rw [hes]
        exact Server.wellFormed_atServer es
      registered := h.registered
      indexed := fun t id hent => by simp [h.fresh t] at hent
      numbered := fun t id hent => by simp [h.fresh t] at hent
      topics := fun t id hent => by simp [h.fresh t] at hent }
  keys key sub hsub := by simp [h.subscriptions] at hsub
  distinct := List.nodup_nil
  noted q hq := by cases hq
  pending q hq := by cases hq
  answered q hq := by cases hq
  left q hq := by cases hq
  settled g _ := by rw [h.subscriptions, Server.gameEntry, h.fresh]; rfl

namespace Session

variable {c : ℕ} {s : Session} {p p' : StompProtocol}

/-- The server after all messages on their way to it. -/
def settled (c : ℕ) (s : Session) : Server := s.link.settled (Server.afterMessage c)

/-- The frames on their way to the client, and those the server will still send. -/
def coming (c : ℕ) (s : Session) : List Str :=
  s.link.coming (Server.afterMessage c) (Server.answer c)

/-- An ERROR is to come. -/
def Doomed (c : ℕ) (s : Session) : Prop := ∃ frame ∈ s.coming c, HasCommand "ERROR" frame

/-- The client's socket between two steps. -/
def Steady (s : Session) : Prop := ∀ p, s.client = .ok p → p.handler.Steady

/-- A command of the client: what it can change. -/
theorem command_frame {run : StompProtocol → Except CppException (StompProtocol × ℕ)}
    (hrun : Writes run) (hp : s.client = .ok p) (hsteady : p.handler.Steady) :
    ∃ msgs, (s.command run).link = s.link.send msgs ∧ (p.handler.writable = false → msgs = []) ∧
      ∀ p', (s.command run).client = .ok p' → p'.handler = p.handler := by
  cases hres : run p with
  | error x =>
    refine ⟨[], by simp [command, hp, hres, Link.send], fun _ => rfl, fun p' hp' => ?_⟩
    simp [command, hp, hres] at hp'
  | ok r =>
    obtain ⟨p₁, n⟩ := r
    obtain ⟨text, hhandler, hclosed⟩ := hrun p p₁ n hres
    have hwritten : p₁.handler.written = text := by rw [hhandler]; simp [hsteady.written]
    refine ⟨delivered text, ?_, fun hw => by rw [hclosed hw]; rfl, fun p' hp' => ?_⟩
    · simp only [command, hp, hres, hwritten]
    · simp only [command, hp, hres] at hp'
      obtain rfl := Except.ok.inj hp'
      dsimp only
      rw [hhandler, ← hsteady.written]

/-- The steps are commands, but for two. -/
theorem step_cases (c : ℕ) (e : Event) :
    (∃ run, Writes run ∧ ∀ s : Session, s.step c e = s.command run) ∨
      e = .serve ∨ e = .deliver := by
  cases e with
  | join w => exact .inl ⟨_, writes_join w.typed, fun _ => rfl⟩
  | exit w => exact .inl ⟨_, writes_exit w.typed, fun _ => rfl⟩
  | report infoForFrames => exact .inl ⟨_, writes_report infoForFrames.bytes, fun _ => rfl⟩
  | serve => exact .inr (.inl rfl)
  | deliver => exact .inr (.inr rfl)

/-- A step leaves the connection as it is, or closes it. -/
theorem handler_step (hs : s.Steady) {e : Event} (hp' : (s.step c e).client = .ok p') :
    ∃ p, s.client = .ok p ∧ (p'.handler = p.handler ∨ p'.handler = p.handler.close.reset) := by
  rcases step_cases c e with ⟨run, hrun, hstep⟩ | rfl | rfl
  · rw [hstep] at hp'
    cases hp : s.client with
    | error x =>
      rw [command_dead hp, hp] at hp'
      cases hp'
    | ok p =>
      obtain ⟨msgs, -, -, hhandler⟩ := command_frame hrun hp (hs p hp)
      exact ⟨p, rfl, .inl (hhandler p' hp')⟩
  · exact ⟨p', hp', .inl rfl⟩
  · have hdeliver : s.deliver.client = .ok p' := hp'
    rcases s.deliver_cases with heq | ⟨p, frame, frames, hp, -, -, heq⟩
    · exact ⟨p', heq ▸ hdeliver, .inl rfl⟩
    · rw [heq] at hdeliver
      exact ⟨p, hp, StompProtocol.handler_processFrame hdeliver⟩

/-- The socket stays steady, and a closed one stays closed. -/
theorem steady_step (hs : s.Steady) (e : Event) : (s.step c e).Steady := by
  intro p' hp'
  obtain ⟨p, hp, heq | heq⟩ := handler_step hs hp'
  · rw [heq]
    exact hs p hp
  · rw [heq]
    exact ⟨(hs p hp).written, fun hw => by cases hw⟩

theorem open_of_step (hs : s.Steady) {e : Event} (hp' : (s.step c e).client = .ok p')
    (hopen : p'.handler.connected = true) : ∃ p, s.client = .ok p ∧ p.handler.connected = true := by
  obtain ⟨p, hp, heq | heq⟩ := handler_step hs hp'
  · exact ⟨p, hp, heq ▸ hopen⟩
  · rw [heq] at hopen
    cases hopen

/-- What is coming after the client has taken a frame. -/
theorem coming_eq_cons {frame : Str} {frames : List Str}
    (hframes : s.link.toClient = frame :: frames)
    (client : Except CppException StompProtocol) :
    s.coming c = frame :: coming c { client, link := s.link.receive } :=
  Link.coming_receive _ _ _ hframes

/-- An open session stays doomed. -/
theorem doomed_step (hs : s.Steady) (hdoomed : s.Doomed c) {e : Event}
    (hp' : (s.step c e).client = .ok p') (hopen : p'.handler.connected = true) :
    (s.step c e).Doomed c := by
  obtain ⟨error, hmem, herror⟩ := hdoomed
  rcases step_cases c e with ⟨run, hrun, hstep⟩ | rfl | rfl
  · rw [hstep] at hp' ⊢
    cases hp : s.client with
    | error x =>
      rw [command_dead hp]
      exact ⟨error, hmem, herror⟩
    | ok p =>
      obtain ⟨msgs, hlink, -, -⟩ := command_frame hrun hp (hs p hp)
      refine ⟨error, ?_, herror⟩
      rw [coming, hlink, Link.coming_send]
      exact List.mem_append_left _ hmem
  · refine ⟨error, ?_, herror⟩
    have hserve : (s.step c .serve).coming c = s.coming c := Link.coming_serve _ _ _
    rwa [hserve]
  · have hdeliver : s.deliver.client = .ok p' := hp'
    have hgoal : s.deliver.Doomed c := by
      rcases s.deliver_cases with heq | ⟨p, frame, frames, hp, -, hframes, heq⟩
      · rw [heq]
        exact ⟨error, hmem, herror⟩
      · rw [heq] at hdeliver ⊢
        rw [coming_eq_cons hframes (p.processFrame frame)] at hmem
        rcases List.mem_cons.1 hmem with rfl | hmem
        · -- the client closes the session
          obtain ⟨rest, rfl⟩ := herror
          have herror : p.processFrame (lit "ERROR" ++ '\n' :: rest) = .ok p' := by
            simpa [lit] using hdeliver
          rw [StompProtocol.processFrame_error herror] at hopen
          cases hopen
        · exact ⟨error, hmem, herror⟩
    exact hgoal

/-- Nothing more comes of a closed session. -/
theorem coming_step_of_closed (hs : s.Steady)
    (hclosed : ∀ p, s.client = .ok p → p.handler.connected = false) (e : Event) :
    (s.step c e).coming c = s.coming c := by
  rcases step_cases c e with ⟨run, hrun, hstep⟩ | rfl | rfl
  · rw [hstep]
    cases hp : s.client with
    | error x => rw [command_dead hp]
    | ok p =>
      obtain ⟨msgs, hlink, hmsgs, -⟩ := command_frame hrun hp (hs p hp)
      have hwritable : p.handler.writable = false := by
        by_contra hne
        have hopen := (hs p hp).connected (by simpa using hne)
        rw [hclosed p hp] at hopen
        cases hopen
      rw [coming, hlink, hmsgs hwritable, Link.send, List.append_nil, coming]
  · exact Link.coming_serve _ _ _
  · have hdeliver : s.deliver = s := by
      rcases s.deliver_cases with heq | ⟨p, frame, frames, hp, hopen, -, -⟩
      · exact heq
      · rw [hclosed p hp] at hopen
        cases hopen
    exact congrArg (coming c) hdeliver

/-! ### Steps on track -/

/-- The session is open and on track: the requests `qs` are outstanding. -/
structure OnTrack (c : ℕ) (s : Session) (p : StompProtocol) (qs : List Request) : Prop where
  running : s.client = .ok p
  tracks : Tracks c p (s.settled c) qs
  coming : Coming qs (s.coming c)

/-- A RECEIPT about the game is to come. -/
def ReceiptToCome (c : ℕ) (s : Session) (p : StompProtocol) (gameName : Str) : Prop :=
  ∃ r, p.receiptToMsg.lookup r = some gameName ∧ Client.receiptText r ∈ s.coming c

theorem Quiet.not_receiptToCome (h : s.Quiet) {gameName : Str} :
    ¬ s.ReceiptToCome c p gameName := by
  rintro ⟨r, -, hmem⟩
  rw [coming, Link.coming_of_quiet _ _ _ h.1 h.2] at hmem
  cases hmem

namespace OnTrack

variable {qs : List Request} {q : Request}

/-- A session on track is not doomed. -/
theorem not_doomed (h : s.OnTrack c p qs) : ¬ s.Doomed c := h.coming.no_error

theorem steady (h : s.OnTrack c p qs) : s.Steady := by
  intro p' hp'
  obtain rfl := Except.ok.inj (h.running.symm.trans hp')
  exact ⟨h.tracks.rest.written, h.tracks.rest.connected⟩

/-- The RECEIPT of an outstanding request is to come. -/
theorem receiptToCome (h : s.OnTrack c p qs) {q : Request} (hq : q ∈ qs) :
    s.ReceiptToCome c p (Utf8.bytesOf q.gameName) :=
  ⟨_, h.tracks.noted q hq, h.coming.answer_mem hq⟩

section Requests

variable (run : StompProtocol → Except CppException (StompProtocol × ℕ)) {frame msg : Str}
  {r : Option ℕ}

/-- A request that the server fulfils is outstanding. -/
theorem fulfilled (h : s.OnTrack c p qs) (hrun : run p = .ok (p'.sendFrame frame))
    (hhandler : p'.handler = p.handler) (hframe : frame ++ lit "\x00" = Utf8.bytesOf msg)
    (hmsg : ClientMessage r msg) (hq : Fulfills c (s.settled c) qs p' msg q) :
    (s.command run).OnTrack c p' (qs ++ [q]) ∧
      ∀ g, ((s.command run).settled c).gameEntry c g =
        if g = q.gameName then q.after else (s.settled c).gameEntry c g := by
  have hcommand := command_sendFrame h.running h.tracks.rest h.tracks.writable hrun hhandler hframe
    hmsg
  have hsettled : (s.command run).settled c = (s.settled c).afterMessage c msg := by
    rw [hcommand]
    exact Link.settled_send _ _ _
  have hcoming : (s.command run).coming c = s.coming c ++ [q.answer] := by
    rw [hcommand, ← hq.answer]
    refine (Link.coming_send _ _ _ _).trans ?_
    exact congrArg _ (List.append_nil _)
  refine ⟨⟨by rw [hcommand], ?_, ?_⟩, ?_⟩
  · rw [hsettled]
    exact hq.tracks
  · rw [hcoming]
    exact h.coming.append_receipt q
  · rw [hsettled]
    exact hq.gameEntry

/-- A request that the server refuses dooms the session. -/
theorem refused (h : s.OnTrack c p qs) (hrun : run p = .ok (p'.sendFrame frame))
    (hhandler : p'.handler = p.handler) (hframe : frame ++ lit "\x00" = Utf8.bytesOf msg)
    (hmsg : ClientMessage r msg) (href : (s.settled c).Refuses c msg) :
    (s.command run).Doomed c := by
  obtain ⟨⟨error, hmem, herror⟩, -⟩ := href
  refine ⟨error, ?_, herror⟩
  rw [command_sendFrame h.running h.tracks.rest h.tracks.writable hrun hhandler hframe hmsg,
    Session.coming, Link.coming_send]
  exact List.mem_append_right _ (List.mem_append_left _ hmem)

end Requests

/-- A join of a game without an entry. -/
theorem join (h : s.OnTrack c p qs) (w : Word) (hnone : p.gameToSubID.lookup w.typed = none) :
    ∃ q p', q.gameName = w.text ∧ q.after ≠ none ∧ (s.step c (.join w)).OnTrack c p' (qs ++ [q]) ∧
      ∀ g, ((s.step c (.join w)).settled c).gameEntry c g =
        if g = w.text then q.after else (s.settled c).gameEntry c g := by
  obtain ⟨q, hname, hafter, hq⟩ := h.tracks.subscribe w hnone
  refine ⟨q, (p.addSubscription w.typed).addMsg w.typed, hname, hafter, ?_⟩
  rw [← hname]
  exact h.fulfilled (·.handleJoinRequest [lit "join", w.typed]) (handleJoinRequest_eq p w.typed) rfl
    (buildSubscribeFrame_bytes p w.text) (clientMessage_join p w) hq

/-- A join of a game that the server knows. -/
theorem join_refused (h : s.OnTrack c p qs) (w : Word)
    (hgame : (s.settled c).gameEntry c w.text ≠ none) : (s.step c (.join w)).Doomed c :=
  h.refused (·.handleJoinRequest [lit "join", w.typed]) (handleJoinRequest_eq p w.typed) rfl
    (buildSubscribeFrame_bytes p w.text) (clientMessage_join p w)
    (h.tracks.refuses_subscribe w hgame)

/-- An exit of a game without an entry does nothing. -/
theorem exit_none (h : s.OnTrack c p qs) (w : Word) (hnone : p.gameToSubID.lookup w.typed = none) :
    s.step c (.exit w) = s := by
  have hempty : p.getSubByGame w.typed = [] := by simp [StompProtocol.getSubByGame, hnone]
  have hrun := (handleExitRequest_eq p w.typed).trans (if_pos hempty)
  have hsame : s.step c (.exit w) = { s with client := .ok p } :=
    command_of_silent h.running hrun h.tracks.rest.written
  rw [hsame, ← h.running]

/-- Any other exit sends a frame. -/
theorem exit_run (h : s.OnTrack c p qs) (w : Word) {sub : Str}
    (hsub : p.gameToSubID.lookup w.typed = some sub) :
    p.handleExitRequest [lit "exit", w.typed] =
        .ok ((p.addMsg w.typed).sendFrame (p.buildUnsubscribeFrame w.typed)) ∧
      p.buildUnsubscribeFrame w.typed ++ lit "\x00" =
        Utf8.bytesOf (unsubscribeMessage sub p.getReceiptID) ∧
      ClientMessage (some (Dict.size p.receiptToMsg)) (unsubscribeMessage sub p.getReceiptID) := by
  have hget : p.getSubByGame w.typed = sub := by simp [StompProtocol.getSubByGame, hsub]
  have hne : p.getSubByGame w.typed ≠ [] := by
    rw [hget]
    exact (h.tracks.rest.entries _ sub hsub).plain.nonempty
  have hframe := h.tracks.rest.exit_frame hne
  rw [hget] at hframe
  exact ⟨(handleExitRequest_eq p w.typed).trans (if_neg hne), hframe⟩

/-- An exit of a game about which nothing is outstanding. -/
theorem exit (h : s.OnTrack c p qs) (w : Word) {sub : Str}
    (hsub : p.gameToSubID.lookup w.typed = some sub) (hfree : ∀ q ∈ qs, q.gameName ≠ w.text) :
    ∃ q p', q.gameName = w.text ∧ q.after = none ∧ (s.step c (.exit w)).OnTrack c p' (qs ++ [q]) ∧
      ∀ g, ((s.step c (.exit w)).settled c).gameEntry c g =
        if g = w.text then q.after else (s.settled c).gameEntry c g := by
  obtain ⟨q, hname, hafter, hq⟩ := h.tracks.unsubscribe w hsub hfree
  obtain ⟨hrun, hframe, hmsg⟩ := h.exit_run w hsub
  refine ⟨q, p.addMsg w.typed, hname, hafter, ?_⟩
  rw [← hname]
  exact h.fulfilled (·.handleExitRequest [lit "exit", w.typed]) hrun rfl hframe hmsg hq

/-- An exit of a game about which a request is outstanding. -/
theorem exit_refused (h : s.OnTrack c p qs) (w : Word) (hq : q ∈ qs) (hname : q.gameName = w.text) :
    (s.step c (.exit w)).Doomed c := by
  have hsub : p.gameToSubID.lookup w.typed = some q.entry := by
    rw [Word.typed, ← hname]
    exact h.tracks.pending q hq
  obtain ⟨hrun, hframe, hmsg⟩ := h.exit_run w hsub
  exact h.refused (·.handleExitRequest [lit "exit", w.typed]) hrun rfl hframe hmsg
    (h.tracks.refuses_unsubscribe hq)

/-- The server works off a message. -/
theorem serve (h : s.OnTrack c p qs) : (s.step c .serve).OnTrack c p qs ∧
    (s.step c .serve).settled c = s.settled c := by
  have hsettled : (s.step c .serve).settled c = s.settled c := Link.settled_serve _ _ _
  have hcoming : (s.step c .serve).coming c = s.coming c := Link.coming_serve _ _ _
  exact ⟨⟨h.running, by rw [hsettled]; exact h.tracks, by rw [hcoming]; exact h.coming⟩, hsettled⟩

/-- **The client handles a frame**: it dies, closes the session, or stays on track. -/
theorem deliver (h : s.OnTrack c p qs) (hp' : (s.step c .deliver).client = .ok p')
    (hopen : p'.handler.connected = true) : ∃ qs', (s.step c .deliver).OnTrack c p' qs' ∧
      (s.step c .deliver).settled c = s.settled c := by
  have hdeliver : s.deliver.client = .ok p' := hp'
  have hgoal : ∃ qs', s.deliver.OnTrack c p' qs' ∧ s.deliver.settled c = s.settled c := by
    rcases s.deliver_cases with heq | ⟨p₁, frame, frames, hp₁, -, hframes, heq⟩
    · obtain rfl := Except.ok.inj (h.running.symm.trans (heq ▸ hdeliver))
      rw [heq]
      exact ⟨qs, h, rfl⟩
    · obtain rfl := Except.ok.inj (h.running.symm.trans hp₁)
      rw [heq] at hdeliver ⊢
      have hcoming := h.coming
      rw [coming_eq_cons hframes (p.processFrame frame)] at hcoming
      refine (exists_congr fun qs' => and_iff_left ?_).2 ?_
      · exact Link.settled_receive _ _
      · generalize hframes' :
          Session.coming c { client := p.processFrame frame, link := s.link.receive } =
          frames' at hcoming
        cases hcoming with
        | @receipt qs' _ q hrest =>
          obtain ⟨hreceipt, htracks⟩ := h.tracks.receipt
          obtain rfl := Except.ok.inj (hreceipt.symm.trans hdeliver)
          exact ⟨qs', hdeliver, htracks hopen, hframes' ▸ hrest⟩
        | message hframe hrest =>
          obtain ⟨rest, rfl⟩ := hframe
          have hmessage : p.processFrame (lit "MESSAGE" ++ '\n' :: rest) = .ok p' := by
            simpa [lit] using hdeliver
          obtain ⟨games, rfl⟩ := StompProtocol.processFrame_message hmessage
          exact ⟨qs, hdeliver, h.tracks.message games, hframes' ▸ hrest⟩
  exact hgoal

end OnTrack

theorem LoggedIn.onTrack (h : s.LoggedIn c p) : s.OnTrack c p [] where
  running := h.running
  tracks := by
    rw [settled, Link.settled_of_quiet _ _ h.quiet.1]
    exact .start h
  coming := by
    rw [coming, Link.coming_of_quiet _ _ _ h.quiet.1 h.quiet.2]
    exact .nil

end Session

end WorldCupInformer
