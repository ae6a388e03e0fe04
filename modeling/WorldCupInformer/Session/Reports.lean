import WorldCupInformer.Session.Outstanding

/-!
# Reports of a session on track

* `delivered_sendFrames`: the server gets a message for each event of a report;
* `Tracks.reports`: for a game that it knows, it answers them with MESSAGEs only;
* `OnTrack.report`: a report leaves the session on track, or dooms it.
-/

namespace WorldCupInformer

open Client (CppException StompProtocol)

/-- The name of the game that is reported. -/
def Client.NamesAndEvents.gameName (infoForFrames : Client.NamesAndEvents) : Str :=
  infoForFrames.team_a_name ++ "_" ++ infoForFrames.team_b_name

theorem gameName_bytes (infoForFrames : Client.NamesAndEvents) :
    infoForFrames.bytes.gameName = Utf8.bytesOf infoForFrames.gameName := by
  simp [Client.NamesAndEvents.gameName, Client.NamesAndEvents.bytes, lit, Utf8.bytesOf_cons]

/-- No string of the event that a report sends holds a NUL. -/
def Client.Event.NulFree (event : Client.Event) : Prop := '\x00' ∉ reportBody [] event

theorem Client.Event.NulFree.body {event : Client.Event} (h : event.NulFree) {u : Str}
    (hu : '\x00' ∉ u) : '\x00' ∉ reportBody u event := by
  simp only [NulFree, reportBody, List.mem_append, not_or] at h ⊢
  simp_all

/-! ### The client -/

theorem sendMessage_eq (g body : Str) :
    sendMessage g body = lit "SEND\ndestination :/" ++ g ++ lit "\n\n" ++ body ++ lit "\x00" := by
  simp [sendMessage, frameText, headerLine, lit]

/-- Messages written one after the other are read as such. -/
theorem delivered_flatMap_bytesOf {texts : List Str} (h : ∀ text ∈ texts, '\x00' ∉ text) :
    delivered (texts.flatMap fun text => Utf8.bytesOf (text ++ lit "\x00")) =
      texts.map (· ++ lit "\x00") := by
  have hfree : ∀ bytes ∈ texts.map Utf8.bytesOf, '\x00' ∉ bytes := by
    simpa [nul_mem_bytesOf] using h
  have hall := delivered_flatMap hfree
  have hbytes : ∀ text : Str, Utf8.bytesOf text ++ lit "\x00" = Utf8.bytesOf (text ++ lit "\x00") :=
    fun text => by rw [Utf8.bytesOf_append text, bytesOf_nul]
  simpa only [List.flatMap_map, List.map_map, Function.comp_def, hbytes, Utf8.textOf_bytesOf]
    using hall

/-- A writable socket takes all frames. -/
theorem sendFrames_eq {p : StompProtocol} (hwritable : p.handler.writable = true)
    (frames : List Str) : p.sendFrames frames =
      ({ p with handler.written := p.handler.written ++ frames.flatMap (· ++ lit "\x00") }, 0) := by
  induction frames generalizing p with
  | nil => simp [StompProtocol.sendFrames]
  | cons frame frames ih =>
    have hsent : p.sendFrame frame =
        ({ p with handler.written := p.handler.written ++ frame ++ lit "\x00" }, 0) := by
      rw [StompProtocol.sendFrame, Client.ConnectionHandler.sendFrameAscii, if_pos hwritable]
      rfl
    rw [StompProtocol.sendFrames, hsent]
    have hrest := ih (p := { p with handler.written := p.handler.written ++ frame ++ lit "\x00" })
      hwritable
    simpa using hrest

variable {c : ℕ} {p p' : StompProtocol} {s s' : Server} {qs : List Request}

/-- What the server gets of a report. -/
theorem delivered_sendFrames {u g : Str} {events : List Client.Event}
    (hu : p.username = Utf8.bytesOf u) (hunul : '\x00' ∉ u) (hg : '\x00' ∉ g)
    (hnul : ∀ event ∈ events, event.NulFree) :
    delivered (((events.map Client.Event.bytes).map (p.buildSendFrame (Utf8.bytesOf g))).flatMap
        (· ++ lit "\x00")) =
      events.map fun event => sendMessage g (reportBody u event) := by
  have htexts : ∀ text ∈ events.map fun event =>
      lit "SEND\ndestination :/" ++ g ++ lit "\n\n" ++ reportBody u event, '\x00' ∉ text := by
    intro text htext
    obtain ⟨event, hevent, rfl⟩ := List.mem_map.1 htext
    simp [lit, hg, (hnul event hevent).body hunul]
  have hall := delivered_flatMap_bytesOf htexts
  simp only [List.flatMap_map, List.map_map, Function.comp_def, ← sendMessage_eq,
    buildSendFrame_bytes hu] at hall ⊢
  exact hall

/-! ### The server -/

theorem Serves.congr {bound : ℕ} (hs : Serves c s bound) (hwf : s'.WellFormed)
    (hconn : s'.connections = s.connections) : Serves c s' bound where
  wellFormed := hwf
  registered := by rw [hconn]; exact hs.registered
  indexed := by rw [hconn]; exact hs.indexed
  numbered := by rw [hconn]; exact hs.numbered
  topics := by rw [hconn]; exact hs.topics

namespace Tracks

/-- What matters of the server are its registries. -/
theorem congr (h : Tracks c p s qs) (hwf : s'.WellFormed) (hconn : s'.connections = s.connections) :
    Tracks c p s' qs where
  rest := h.rest
  connected := h.connected
  writable := h.writable
  username := h.username
  serves := h.serves.congr hwf hconn
  keys := h.keys
  distinct := h.distinct
  noted := h.noted
  pending := h.pending
  answered := by simpa only [Server.gameEntry, hconn] using h.answered
  left := by simpa only [hconn] using h.left
  settled := by simpa only [Server.gameEntry, hconn] using h.settled

/-- The server answers the reports of a game that it knows with MESSAGEs. -/
theorem reports (h : Tracks c p s qs) {w : Word} (hgame : s.gameEntry c w.text ≠ none)
    {bodies : List Str} (hbodies : ∀ body ∈ bodies, '\x00' ∉ body) :
    Tracks c p (Machine.run (Server.afterMessage c) s (bodies.map (sendMessage w.text))) qs ∧
      ∀ frame ∈ Link.replies (Server.afterMessage c) (Server.answer c) s
        (bodies.map (sendMessage w.text)), HasCommand "MESSAGE" frame := by
  induction bodies generalizing s with
  | nil => exact ⟨h, by simp [Link.replies]⟩
  | cons body bodies ih =>
    obtain ⟨hbody, hbodies⟩ := List.forall_mem_cons.1 hbodies
    have hid : ∀ id, s.connections.entry ("/" ++ w.text) ⟨c⟩ = some id → '\x00' ∉ id := by
      intro id hent
      obtain ⟨n, -, rfl⟩ := h.serves.numbered _ id hent
      exact (plain_natToString n).nul
    obtain ⟨hconn, hframes⟩ := Server.answer_send h.serves.registered w.plain hbody hgame hid
    have hwf := h.serves.wellFormed.step (.message c (sendMessage w.text body))
    have hgame' : (s.afterMessage c (sendMessage w.text body)).gameEntry c w.text ≠ none := by
      rw [Server.gameEntry, hconn]
      exact hgame
    obtain ⟨htracks, hrest⟩ := ih (h.congr hwf hconn) hgame' hbodies
    refine ⟨htracks, fun frame hframe => ?_⟩
    rcases List.mem_append.1 hframe with hframe | hframe
    · exact hframes frame hframe
    · exact hrest frame hframe

/-- It refuses the reports of any other game. -/
theorem refuses_report (h : Tracks c p s qs) {w : Word} (hgame : s.gameEntry c w.text = none)
    {body : Str} (hbody : '\x00' ∉ body) : s.Refuses c (sendMessage w.text body) :=
  Server.refuses_send h.serves.registered h.serves.wellFormed w.plain hbody hgame

end Tracks

/-! ### The session -/

namespace Session.OnTrack

variable {s : Session} {infoForFrames : Client.NamesAndEvents}

/-- A report of a game the client is not subscribed to does nothing. -/
theorem report_none (h : s.OnTrack c p qs)
    (hsub : p.checkSub (Utf8.bytesOf infoForFrames.gameName) = false) :
    s.step c (.report infoForFrames) = s := by
  rw [← gameName_bytes] at hsub
  have hframes : p.buildSendFrames infoForFrames.bytes = [lit "ERROR"] :=
    if_neg (by rw [← Client.NamesAndEvents.gameName, hsub]; simp)
  have hrun : p.handleReportRequest infoForFrames.bytes = .ok (p, 0) := by
    rw [StompProtocol.handleReportRequest, hframes]
    rfl
  have hsame : s.step c (.report infoForFrames) = { s with client := .ok p } :=
    command_of_silent h.running hrun h.tracks.rest.written
  rw [hsame, ← h.running]

/-- Any other report sends a frame for each event; without events the client dies. -/
theorem report_run (h : s.OnTrack c p qs) {u : Str} (hu : p.username = Utf8.bytesOf u)
    (hunul : '\x00' ∉ u) (hsub : p.checkSub (Utf8.bytesOf infoForFrames.gameName) = true)
    (hname : '\x00' ∉ infoForFrames.gameName) (hnul : ∀ event ∈ infoForFrames.events, event.NulFree)
    (hp' : (s.step c (.report infoForFrames)).client = .ok p') :
    infoForFrames.events ≠ [] ∧ s.step c (.report infoForFrames) =
      { client := .ok p
        link := s.link.send ((infoForFrames.events.map (reportBody u)).map
          (sendMessage infoForFrames.gameName)) } := by
  have hframes : p.buildSendFrames infoForFrames.bytes =
      (infoForFrames.events.map Client.Event.bytes).map
        (p.buildSendFrame (Utf8.bytesOf infoForFrames.gameName)) := by
    rw [← gameName_bytes] at hsub ⊢
    exact if_pos hsub
  have hwritten := h.tracks.rest.written
  have hne : infoForFrames.events ≠ [] := by
    rintro hnil
    have hrun : p.handleReportRequest infoForFrames.bytes = .error .undefined := by
      rw [StompProtocol.handleReportRequest, hframes, hnil]
      rfl
    have hstep : s.step c (.report infoForFrames) = { s with client := .error .undefined } := by
      simp only [step, command, h.running, hrun]
    rw [hstep] at hp'
    cases hp'
  refine ⟨hne, ?_⟩
  have hrun : p.handleReportRequest infoForFrames.bytes =
      .ok (p.sendFrames (p.buildSendFrames infoForFrames.bytes)) := by
    obtain ⟨last, hlast⟩ :
        ∃ last, (p.buildSendFrames infoForFrames.bytes).getLast? = some last := by
      refine Option.isSome_iff_exists.1 (List.getLast?_isSome.2 ?_)
      rw [hframes]
      simpa using hne
    have herror : last ≠ lit "ERROR" := by
      have hmem := List.mem_of_getLast? hlast
      rw [hframes] at hmem
      obtain ⟨event, -, rfl⟩ := List.mem_map.1 hmem
      simp [Client.buildSendFrame_eq, lit]
    simp only [StompProtocol.handleReportRequest, Client.vectorBack, hlast]
    simp [bind, Except.bind, pure, Except.pure, herror]
  have hsent := sendFrames_eq h.tracks.writable (p.buildSendFrames infoForFrames.bytes)
  rw [hwritten, List.nil_append] at hsent
  have hdelivered := delivered_sendFrames hu hunul hname hnul
  rw [← hframes] at hdelivered
  simp only [step, command, h.running, hrun, hsent, hdelivered]
  rw [← hwritten, List.map_map]
  rfl

/-- **A report** leaves a session on track as it is, or dooms it. -/
theorem report (h : s.OnTrack c p qs)
    (hnul : p.checkSub (Utf8.bytesOf infoForFrames.gameName) = true →
      ∀ event ∈ infoForFrames.events, event.NulFree)
    (hp' : (s.step c (.report infoForFrames)).client = .ok p') :
    (s.step c (.report infoForFrames)).Doomed c ∨
      (s.step c (.report infoForFrames)).OnTrack c p' qs := by
  by_cases hsub : p.checkSub (Utf8.bytesOf infoForFrames.gameName) = true
  · obtain ⟨w, hw⟩ : ∃ w : Word, infoForFrames.gameName = w.text := by
      cases hlookup : p.gameToSubID.lookup (Utf8.bytesOf infoForFrames.gameName) with
      | none => simp [StompProtocol.checkSub, hlookup] at hsub
      | some sub =>
        obtain ⟨w, hw⟩ := h.tracks.keys _ sub hlookup
        exact ⟨w, Utf8.bytesOf_injective hw⟩
    obtain ⟨u, hu, hunul⟩ := h.tracks.username
    obtain ⟨hne, hstep⟩ := h.report_run hu hunul hsub (hw ▸ w.nul) (hnul hsub) hp'
    have hbodies : ∀ body ∈ infoForFrames.events.map (reportBody u), '\x00' ∉ body := by
      intro body hbody
      obtain ⟨event, hevent, rfl⟩ := List.mem_map.1 hbody
      exact (hnul hsub event hevent).body hunul
    rw [hstep] at hp' ⊢
    obtain rfl := Except.ok.inj hp'
    rw [hw]
    cases hgame : (s.settled c).gameEntry c w.text with
    | none =>
      obtain ⟨body, bodies, hcons⟩ := List.exists_cons_of_ne_nil
        (mt List.map_eq_nil_iff.1 hne : infoForFrames.events.map (reportBody u) ≠ [])
      rw [hcons] at hbodies ⊢
      obtain ⟨⟨error, hmem, herror⟩, -⟩ := h.tracks.refuses_report hgame
        (hbodies body List.mem_cons_self)
      refine .inl ⟨error, ?_, herror⟩
      rw [Session.coming, Link.coming_send]
      exact List.mem_append_right _ (List.mem_append_left _ hmem)
    | some sub =>
      obtain ⟨htracks, hmessages⟩ := h.tracks.reports (by rw [hgame]; simp) hbodies
      refine .inr ⟨rfl, ?_, ?_⟩
      · rw [Session.settled, Link.settled_send]
        exact htracks
      · rw [Session.coming, Link.coming_send]
        exact h.coming.append_messages hmessages
  · rw [h.report_none (by simpa using hsub)] at hp' ⊢
    obtain rfl := Except.ok.inj (h.running.symm.trans hp')
    exact .inr h

end Session.OnTrack

end WorldCupInformer
