import WorldCupInformer.Session.Reports

/-!
# Client and server agree on subscriptions

The client's `addSubscription` keeps an old entry, and `handleReceiptFrame` goes by the mark of the
entry.  A join that is typed while the RECEIPT of an exit of the same game is to come finds an entry
without a mark; its RECEIPT then removes an entry instead of confirming it.

* `Agrees`: the two sides have the same subscriptions, and none is pending;
* `Allowed`: no game is joined while an exit of it is under way;
* `agrees_of_allowed`: what the runs of such steps reach.
-/

namespace WorldCupInformer

open Client (natToString StompProtocol)

namespace Session

variable {c : ℕ} {s : Session} {p p' : StompProtocol} {qs : List Request}

/-- The confirmed subscriptions of the client are those the server has for connection `c`, and no
subscription is pending. -/
def Agrees (c : ℕ) (s : Session) : Prop := ∃ p, s.client = .ok p ∧
  (∀ key sub, (p.gameToSubID.lookup key = some sub ∧ sub.head? ≠ some '*') ↔
    ∃ g id, key = Utf8.bytesOf g ∧ sub = Utf8.bytesOf id ∧
      s.link.server.connections.topicOf ⟨c⟩ id = some ("/" ++ g)) ∧
  ∀ key sub, p.gameToSubID.lookup key = some sub → sub.head? ≠ some '*'

/-- Without outstanding requests the two sides agree. -/
theorem OnTrack.agrees (h : s.OnTrack c p qs) (hquiet : s.Quiet) : s.Agrees c := by
  have hcoming := h.coming
  have htracks := h.tracks
  rw [Session.coming, Link.coming_of_quiet _ _ _ hquiet.1 hquiet.2] at hcoming
  obtain rfl := hcoming.eq_nil
  rw [Session.settled, Link.settled_of_quiet _ _ hquiet.1] at htracks
  have hentry : ∀ g, p.gameToSubID.lookup (Utf8.bytesOf g) = s.link.server.gameEntry c g :=
    fun g => htracks.settled g fun q hq => by cases hq
  have hnumber : ∀ {g sub}, s.link.server.gameEntry c g = some sub → ∃ n, sub = natToString n :=
    fun hsub => (htracks.serves.numbered _ _ hsub).imp fun n hn => hn.2
  have hconfirmed : ∀ key sub, p.gameToSubID.lookup key = some sub →
      (∃ g, key = Utf8.bytesOf g ∧ s.link.server.gameEntry c g = some sub) ∧
        sub.head? ≠ some '*' := by
    intro key sub hsub
    obtain ⟨w, rfl⟩ := htracks.keys key sub hsub
    have hgame := (hentry w.text).symm.trans hsub
    obtain ⟨n, rfl⟩ := hnumber hgame
    exact ⟨⟨w.text, rfl, hgame⟩, Request.head_entry_of_unsubscribe (q := .unsubscribe [] n 0) rfl⟩
  refine ⟨p, h.running, fun key sub => ⟨?_, ?_⟩, fun key sub hsub => (hconfirmed key sub hsub).2⟩
  · rintro ⟨hsub, -⟩
    obtain ⟨⟨g, rfl, hgame⟩, -⟩ := hconfirmed key sub hsub
    obtain ⟨n, rfl⟩ := hnumber hgame
    exact ⟨g, natToString n, rfl, (Utf8.bytesOf_of_ascii (ascii_natToString n)).symm,
      htracks.serves.indexed _ _ hgame⟩
  · rintro ⟨g, id, rfl, rfl, htopic⟩
    have hgame : s.link.server.gameEntry c g = some id :=
      htracks.serves.wellFormed.backed ⟨c⟩ id _ htopic
    obtain ⟨n, rfl⟩ := hnumber hgame
    rw [Utf8.bytesOf_of_ascii (ascii_natToString n)]
    have hsub := (hentry g).trans hgame
    exact ⟨hsub, (hconfirmed _ _ hsub).2⟩

/-! ### Runs -/

/-- When a game is joined, no RECEIPT about it is to come to a client with a confirmed entry for it,
as it is between an exit and its RECEIPT, unless an ERROR is to come as well; a report that is sent
holds no NUL. -/
def Allowed (c : ℕ) (s : Session) : Event → Prop
  | .join w => ∀ p, s.client = .ok p → p.handler.connected = true → p.checkSub w.typed = true →
      s.ReceiptToCome c p w.typed → s.Doomed c
  | .report infoForFrames => ∀ p, s.client = .ok p → p.handler.connected = true →
      p.checkSub (Utf8.bytesOf infoForFrames.gameName) = true →
      ∀ event ∈ infoForFrames.events, event.NulFree
  | _ => True

/-- What the steps of such runs preserve: an open session is on track, or doomed. -/
structure Sound (c : ℕ) (s : Session) : Prop where
  steady : s.Steady
  onTrack : ∀ p, s.client = .ok p → p.handler.connected = true →
    s.Doomed c ∨ ∃ qs, s.OnTrack c p qs

/-- A join on track is refused, or outstanding. -/
theorem OnTrack.join_allowed (h : s.OnTrack c p qs) {w : Word} (hok : Allowed c s (.join w)) :
    (s.step c (.join w)).Doomed c ∨ ∃ p' qs', (s.step c (.join w)).OnTrack c p' qs' := by
  cases hsub : p.gameToSubID.lookup w.typed with
  | none =>
    obtain ⟨q, p', -, -, htrack, -⟩ := h.join w hsub
    exact .inr ⟨p', _, htrack⟩
  | some sub =>
    refine .inl (h.join_refused w ?_)
    rcases h.tracks.entry_cases hsub with ⟨q, hq, hname, rfl⟩ | ⟨-, hgame⟩
    · rw [← hname, h.tracks.answered q hq]
      intro hafter
      -- an exit of the game is under way
      have hcheck : p.checkSub w.typed = true := by
        simp only [StompProtocol.checkSub, hsub]
        exact decide_eq_true (Request.head_entry_of_unsubscribe hafter)
      have hcome := h.receiptToCome hq
      rw [hname] at hcome
      exact h.not_doomed (hok p h.running h.tracks.connected hcheck hcome)
    · rw [hgame]
      exact Option.some_ne_none sub

/-- An exit on track does nothing, is refused, or is outstanding. -/
theorem OnTrack.exit_cases (h : s.OnTrack c p qs) (w : Word) :
    (s.step c (.exit w)).Doomed c ∨ ∃ p' qs', (s.step c (.exit w)).OnTrack c p' qs' := by
  cases hsub : p.gameToSubID.lookup w.typed with
  | none =>
    rw [h.exit_none w hsub]
    exact .inr ⟨p, qs, h⟩
  | some sub =>
    rcases h.tracks.entry_cases hsub with ⟨q, hq, hname, -⟩ | ⟨hfree, -⟩
    · exact .inl (h.exit_refused w hq hname)
    · obtain ⟨q, p', -, -, htrack, -⟩ := h.exit w hsub hfree
      exact .inr ⟨p', _, htrack⟩

theorem Sound.step (hs : s.Sound c) {e : Event} (hok : Allowed c s e) : (s.step c e).Sound c := by
  refine ⟨steady_step hs.steady e, fun p' hp' hopen => ?_⟩
  obtain ⟨p, hp, hopen₀⟩ := open_of_step hs.steady hp' hopen
  have hsame : ∀ {s' : Session}, s'.client = .ok p' → (∃ p qs, s'.OnTrack c p qs) →
      ∃ qs, s'.OnTrack c p' qs := by
    rintro s' hclient ⟨p₁, qs, htrack⟩
    obtain rfl := Except.ok.inj (htrack.running.symm.trans hclient)
    exact ⟨qs, htrack⟩
  rcases hs.onTrack p hp hopen₀ with hdoomed | ⟨qs, h⟩
  · exact .inl (doomed_step hs.steady hdoomed hp' hopen)
  · cases e with
    | join w => exact (h.join_allowed hok).imp_right (hsame hp')
    | exit w => exact (h.exit_cases w).imp_right (hsame hp')
    | report infoForFrames => exact (h.report (hok p hp hopen₀) hp').imp_right fun h' => ⟨qs, h'⟩
    | serve => exact .inr (hsame hp' ⟨p, qs, h.serve.1⟩)
    | deliver =>
      obtain ⟨qs', htrack, -⟩ := h.deliver hp' hopen
      exact .inr ⟨qs', htrack⟩

theorem Sound.run (hs : s.Sound c) {es : List Event}
    (hes : Machine.Along (Session.step c) (Allowed c) s es) :
    (Machine.run (Session.step c) s es).Sound c :=
  Machine.Along.invariant (I := Sound c) (fun _ _ hs hok => hs.step hok) hs hes

/-- **Client and server agree** whenever nothing is on its way and the session is open, in the runs
in which no game is joined while an exit of it is under way. -/
theorem agrees_of_allowed (h : s.LoggedIn c p) {es : List Event}
    (hes : Machine.Along (step c) (Allowed c) s es)
    (hquiet : (Machine.run (step c) s es).Quiet) (hopen : (Machine.run (step c) s es).Open) :
    (Machine.run (step c) s es).Agrees c := by
  have hstart : s.Sound c := by
    refine ⟨h.onTrack.steady, fun p' hp' _ => .inr ⟨[], ?_⟩⟩
    obtain rfl := Except.ok.inj (h.running.symm.trans hp')
    exact h.onTrack
  obtain ⟨p', hp', hconnected⟩ := hopen
  rcases (hstart.run hes).onTrack p' hp' hconnected with ⟨error, hmem, -⟩ | ⟨qs, htrack⟩
  · rw [coming, Link.coming_of_quiet _ _ _ hquiet.1 hquiet.2] at hmem
    cases hmem
  · exact htrack.agrees hquiet

/-- Bob joins a game. -/
def joined : List Event := [.join game, .serve, .deliver]

theorem joined_agrees : (Machine.run (step 0) bobSession joined).Agrees 0 := by
  refine agrees_of_allowed bobSession_loggedIn
    ⟨fun p hp _ hsub => ?_, trivial, trivial, trivial⟩ ?_ ?_
  · obtain rfl := Except.ok.inj hp
    cases hsub
  · constructor <;> decide +kernel
  · exact exists_client (f := (·.handler.connected)) (by decide +kernel)

/-- Bob joins a game, leaves it, and joins it again before the RECEIPT of the exit has come. -/
def rejoined : List Event :=
  joined ++ [.exit game, .join game, .serve, .serve, .deliver, .deliver]

theorem not_forall_agrees : ¬ ∀ (c : ℕ) (s : Session) (p : StompProtocol), s.LoggedIn c p →
    ∀ es, (Machine.run (step c) s es).Quiet → (Machine.run (step c) s es).Open →
      (Machine.run (step c) s es).Agrees c := by
  intro hall
  have hquiet : (Machine.run (step 0) bobSession rejoined).Quiet := by
    constructor <;> decide +kernel
  have hclient : (Machine.run (step 0) bobSession rejoined).client.toOption.map
      (fun p => (p.handler.connected, p.gameToSubID.lookup (Utf8.bytesOf "a_b"))) =
        some (true, none) := by
    decide +kernel
  have htopic : (Machine.run (step 0) bobSession rejoined).link.server.connections.topicOf ⟨0⟩ "1" =
      some (lit "/" ++ lit "a_b") := by
    decide +kernel
  obtain ⟨p, hp, hfinal⟩ := exists_client hclient
  obtain ⟨hopen, hnone⟩ := Prod.mk.inj hfinal
  obtain ⟨p', hp', hagree, -⟩ :=
    hall 0 bobSession bob bobSession_loggedIn rejoined hquiet ⟨p, hp, hopen⟩
  obtain rfl := Except.ok.inj (hp.symm.trans hp')
  have hsub := ((hagree _ _).2 ⟨"a_b", "1", rfl, rfl, htopic⟩).1
  rw [hnone] at hsub
  cases hsub

end Session

end WorldCupInformer
