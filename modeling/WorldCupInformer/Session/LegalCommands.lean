import WorldCupInformer.Session.Outstanding

/-!
# Legal commands

A user who joins only games he has not joined, and leaves only games he has joined, may still be
refused: an exit that is typed before the RECEIPT of the join names the entry with its mark, and a
join that is typed before the RECEIPT of the exit makes the client lose its entry.

* `Legal`: the joins and exits follow each other as they should, by what has been typed;
* `Patient`: a game is joined or left when no RECEIPT about it is to come;
* `legal_not_refused`: the runs of such steps get no ERROR.
-/

namespace WorldCupInformer

open Client (StompProtocol)

namespace Session

variable {c : ℕ} {s : Session} {p p' : StompProtocol} {qs : List Request} {joined : Finset Str}

/-- Only joins of games that have not been joined and exits of games that have, judged by the
commands; the games in `joined` have been joined before. -/
def Legal : Finset Str → List Event → Prop
  | _, [] => True
  | joined, .join w :: es => w.text ∉ joined ∧ Legal (insert w.text joined) es
  | joined, .exit w :: es => w.text ∈ joined ∧ Legal (joined.erase w.text) es
  | _, .report _ :: _ => False
  | joined, .serve :: es | joined, .deliver :: es => Legal joined es

/-- A game is joined or left when no RECEIPT about it is to come to the client. -/
def Patient (c : ℕ) (s : Session) : Event → Prop
  | .join w | .exit w => ∀ p, s.client = .ok p → p.handler.connected = true →
      ¬ s.ReceiptToCome c p w.typed
  | _ => True

/-- What the steps of such runs preserve: no ERROR is to come, and the server will know the joined
games of an open session. -/
structure Unharmed (c : ℕ) (s : Session) (joined : Finset Str) : Prop where
  steady : s.Steady
  not_doomed : ¬ s.Doomed c
  onTrack : ∀ p, s.client = .ok p → p.handler.connected = true → ∃ qs, s.OnTrack c p qs ∧
    ∀ g, g ∈ joined ↔ (s.settled c).gameEntry c g ≠ none

theorem OnTrack.unharmed (h : s.OnTrack c p qs)
    (hjoined : ∀ g, g ∈ joined ↔ (s.settled c).gameEntry c g ≠ none) : s.Unharmed c joined where
  steady := h.steady
  not_doomed := h.not_doomed
  onTrack p' hp' _ := by
    obtain rfl := Except.ok.inj (h.running.symm.trans hp')
    exact ⟨qs, h, hjoined⟩

namespace Unharmed

/-- A closed session stays unharmed. -/
theorem step_of_closed (hs : s.Unharmed c joined)
    (hclosed : ¬ ∃ p, s.client = .ok p ∧ p.handler.connected = true) (e : Event)
    (joined' : Finset Str) : (s.step c e).Unharmed c joined' where
  steady := steady_step hs.steady e
  not_doomed := by
    have hnone : ∀ p, s.client = .ok p → p.handler.connected = false := fun p hp => by
      by_contra hne
      exact hclosed ⟨p, hp, by simpa using hne⟩
    rw [Doomed, coming_step_of_closed hs.steady hnone]
    exact hs.not_doomed
  onTrack p' hp' hopen := absurd (open_of_step hs.steady hp' hopen) hclosed

/-- A session is on track, or stays unharmed whatever happens. -/
theorem onTrack_or (hs : s.Unharmed c joined) :
    (∃ p qs, s.client = .ok p ∧ p.handler.connected = true ∧ s.OnTrack c p qs ∧
      ∀ g, g ∈ joined ↔ (s.settled c).gameEntry c g ≠ none) ∨
    ∀ e joined', (s.step c e).Unharmed c joined' := by
  by_cases hopen : ∃ p, s.client = .ok p ∧ p.handler.connected = true
  · obtain ⟨p, hp, hconnected⟩ := hopen
    obtain ⟨qs, h, hjoined⟩ := hs.onTrack p hp hconnected
    exact .inl ⟨p, qs, hp, hconnected, h, hjoined⟩
  · exact .inr (hs.step_of_closed hopen)

/-- The games the server will know after a request. -/
theorem joined_request {s' : Session} {g : Str} {sub : Option Str}
    (hentry : ∀ g', (s'.settled c).gameEntry c g' =
      if g' = g then sub else (s.settled c).gameEntry c g')
    (hjoined : ∀ g, g ∈ joined ↔ (s.settled c).gameEntry c g ≠ none) (g' : Str) :
    (s'.settled c).gameEntry c g' ≠ none ↔ if g' = g then sub ≠ none else g' ∈ joined := by
  rw [hentry]
  split_ifs
  · rfl
  · exact (hjoined g').symm

theorem join (hs : s.Unharmed c joined) {w : Word} (hlegal : w.text ∉ joined)
    (hok : Patient c s (.join w)) : (s.step c (.join w)).Unharmed c (insert w.text joined) := by
  rcases hs.onTrack_or with ⟨p, qs, hp, hconnected, h, hjoined⟩ | hclosed
  · have hgame : (s.settled c).gameEntry c w.text = none :=
      not_not.1 fun hne => hlegal ((hjoined w.text).2 hne)
    have hnone : p.gameToSubID.lookup w.typed = none := by
      cases hsub : p.gameToSubID.lookup w.typed with
      | none => rfl
      | some sub =>
        rcases h.tracks.entry_cases hsub with ⟨q, hq, hname, -⟩ | ⟨-, hknown⟩
        · have hcome := h.receiptToCome hq
          rw [hname] at hcome
          exact absurd hcome (hok p hp hconnected)
        · rw [hgame] at hknown
          cases hknown
    obtain ⟨q, p', -, hafter, htrack, hentry⟩ := h.join w hnone
    refine htrack.unharmed fun g => ?_
    rw [joined_request hentry hjoined, Finset.mem_insert]
    split_ifs with hg
    · simp [hg, hafter]
    · simp [hg]
  · exact hclosed _ _

theorem exit (hs : s.Unharmed c joined) {w : Word} (hlegal : w.text ∈ joined)
    (hok : Patient c s (.exit w)) : (s.step c (.exit w)).Unharmed c (joined.erase w.text) := by
  rcases hs.onTrack_or with ⟨p, qs, hp, hconnected, h, hjoined⟩ | hclosed
  · cases hsub : p.gameToSubID.lookup w.typed with
    | none => exact absurd (h.tracks.entry_none hsub).2 ((hjoined w.text).1 hlegal)
    | some sub =>
      have hfree : ∀ q ∈ qs, q.gameName ≠ w.text := fun q hq hname => by
        have hcome := h.receiptToCome hq
        rw [hname] at hcome
        exact hok p hp hconnected hcome
      obtain ⟨q, p', -, hafter, htrack, hentry⟩ := h.exit w hsub hfree
      refine htrack.unharmed fun g => ?_
      rw [joined_request hentry hjoined, Finset.mem_erase]
      split_ifs with hg
      · simp [hg, hafter]
      · simp [hg]
  · exact hclosed _ _

theorem serve (hs : s.Unharmed c joined) : (s.step c .serve).Unharmed c joined := by
  rcases hs.onTrack_or with ⟨p, qs, -, -, h, hjoined⟩ | hclosed
  · obtain ⟨htrack, hsettled⟩ := h.serve
    exact htrack.unharmed (by rw [hsettled]; exact hjoined)
  · exact hclosed _ _

/-- A RECEIPT may also close the session: a game can have the name `DISCONNECT`. -/
theorem deliver (hs : s.Unharmed c joined) : (s.step c .deliver).Unharmed c joined where
  steady := steady_step hs.steady .deliver
  not_doomed := by
    have hgoal : ¬ s.deliver.Doomed c := by
      rcases s.deliver_cases with heq | ⟨p, frame, frames, -, -, hframes, heq⟩
      · rw [heq]
        exact hs.not_doomed
      · rw [heq]
        rintro ⟨error, hmem, herror⟩
        refine hs.not_doomed ⟨error, ?_, herror⟩
        rw [coming_eq_cons hframes (p.processFrame frame)]
        exact List.mem_cons_of_mem _ hmem
    exact hgoal
  onTrack p' hp' hopen := by
    obtain ⟨p, hp, hconnected⟩ := open_of_step hs.steady hp' hopen
    obtain ⟨qs, h, hjoined⟩ := hs.onTrack p hp hconnected
    obtain ⟨qs', htrack, hsettled⟩ := h.deliver hp' hopen
    exact ⟨qs', htrack, by rw [hsettled]; exact hjoined⟩

/-- What one step preserves, a run preserves. -/
theorem run (hs : s.Unharmed c joined) {es : List Event} (hlegal : Legal joined es)
    (hes : Machine.Along (Session.step c) (Patient c) s es) :
    ∃ joined', (Machine.run (Session.step c) s es).Unharmed c joined' := by
  induction es generalizing s joined with
  | nil => exact ⟨joined, hs⟩
  | cons e es ih =>
    cases e with
    | join w => exact ih (hs.join hlegal.1 hes.1) hlegal.2 hes.2
    | exit w => exact ih (hs.exit hlegal.1 hes.1) hlegal.2 hes.2
    | report => exact hlegal.elim
    | serve => exact ih hs.serve hlegal hes.2
    | deliver => exact ih hs.deliver hlegal hes.2

/-- No message on its way is answered with ERROR. -/
theorem not_answers (hs : s.Unharmed c joined) {msg : Str} {msgs : List Str}
    (hmsg : s.link.toServer = msg :: msgs) :
    ¬ s.link.server.Answers (.message c msg) "ERROR" ⟨c⟩ := by
  rintro ⟨m, hm, herror⟩
  obtain ⟨frame, hframe, hhead⟩ := exists_received_of_mem (by simp [lit]) (by decide) hm herror
  refine hs.not_doomed ⟨frame, ?_, hhead⟩
  rw [coming, Link.coming, hmsg]
  exact List.mem_append_right _ (List.mem_append_left _ hframe)

end Unharmed

/-- **Legal commands are not refused**, in the runs in which a game is joined or left only when no
RECEIPT about it is to come. -/
theorem legal_not_refused (h : s.LoggedIn c p) {es : List Event} (hlegal : Legal ∅ es)
    (hes : Machine.Along (step c) (Patient c) s es) {msg : Str} {msgs : List Str}
    (hmsg : (Machine.run (step c) s es).link.toServer = msg :: msgs) :
    ¬ (Machine.run (step c) s es).link.server.Answers (.message c msg) "ERROR" ⟨c⟩ := by
  have hnone : ∀ g, (s.settled c).gameEntry c g = none := fun g => by
    rw [settled, Link.settled_of_quiet _ _ h.quiet.1]
    exact h.fresh (lit "/" ++ g)
  have hstart : s.Unharmed c ∅ := h.onTrack.unharmed fun g => by simp [hnone g]
  obtain ⟨joined, hrun⟩ := hstart.run hlegal hes
  exact hrun.not_answers hmsg

/-- Bob joins a game, and leaves it when the RECEIPT of the join has come. -/
def leftLater : List Event := [.join game, .serve, .deliver, .exit game]

theorem leftLater_not_refused :
    ¬ (Machine.run (step 0) bobSession leftLater).link.server.Answers
      (.message 0 "UNSUBSCRIBE\nid :0\nreceipt :1\n\n\x00") "ERROR" ⟨0⟩ := by
  have hlegal : Legal ∅ leftLater :=
    ⟨Finset.notMem_empty _, Finset.mem_insert_self _ _, trivial⟩
  have hquiet : (((bobSession.step 0 (.join game)).step 0 .serve).step 0 .deliver).Quiet := by
    constructor <;> decide +kernel
  have hpatient : Machine.Along (step 0) (Patient 0) bobSession leftLater :=
    ⟨fun _ _ _ => bobSession_loggedIn.quiet.not_receiptToCome, trivial, trivial,
      fun _ _ _ => hquiet.not_receiptToCome, trivial⟩
  have hmsg : (Machine.run (step 0) bobSession leftLater).link.toServer =
      [lit "UNSUBSCRIBE\nid :0\nreceipt :1\n\n\x00"] := by
    decide +kernel
  exact legal_not_refused bobSession_loggedIn hlegal hpatient hmsg

/-- Bob joins a game and leaves it at once. -/
def leftAtOnce : List Event := [.join game, .exit game, .serve]

theorem not_forall_legal_not_refused : ¬ ∀ (c : ℕ) (s : Session) (p : StompProtocol),
    s.LoggedIn c p → ∀ es, Legal ∅ es → ∀ msg msgs,
    (Machine.run (step c) s es).link.toServer = msg :: msgs →
    ¬ (Machine.run (step c) s es).link.server.Answers (.message c msg) "ERROR" ⟨c⟩ := by
  intro hall
  have hlegal : Legal ∅ leftAtOnce :=
    ⟨Finset.notMem_empty _, Finset.mem_insert_self _ _, trivial⟩
  have hmsg : (Machine.run (step 0) bobSession leftAtOnce).link.toServer =
      ["UNSUBSCRIBE\nid :*0\nreceipt :1\n\n\x00"] := by
    decide +kernel
  refine hall 0 bobSession bob bobSession_loggedIn leftAtOnce hlegal _ _ hmsg ?_
  decide +kernel

end Session

end WorldCupInformer
