import WorldCupInformer.Session.Session

/-!
# Logging out, step by step

`handleLogoutRequest` adds the message, sends the DISCONNECT and then says that it is waiting
(`setWaitingForDisconnect`); the keyboard thread polls until it is not.  The receiving thread may
handle frames between any two of these steps, and handles the answering RECEIPT with `logout()`.

* `handleLogoutRequest_eq`: without the other thread, the steps are those of `handleLogoutRequest`;
* `never_hangs`: the client is never left waiting after `logout()`, if no frame ends the session
  between the sending and `setWaitingForDisconnect` (`EndsTooEarly`).
-/

namespace WorldCupInformer

open Client

/-- Where the keyboard thread is. -/
inductive LogoutPc
  /-- at `buildDisconnectFrame` -/
  | build
  | addMsg (disconnectFrame : Str)
  | sendFrame (disconnectFrame : Str)
  | setWaitingForDisconnect
  /-- at `isWaitingForDisconnect`, in the loop of `run` -/
  | poll
  /-- at the next command -/
  | done

/-- A session whose keyboard thread runs `logout`. -/
structure LoggingOut where
  session : Session
  keyboard : LogoutPc

namespace LoggingOut

/-- A step of one of the parties. -/
inductive Event
  | keyboard
  /-- the server works off its oldest message -/
  | serve
  /-- the receiving thread handles its oldest frame -/
  | deliver
  deriving DecidableEq

/-- The next step of the keyboard thread. -/
def keyboardStep (k : LoggingOut) : LoggingOut :=
  match k.session.client with
  | .error _ => k
  | .ok p =>
    match k.keyboard with
    | .build => { k with keyboard := .addMsg p.buildDisconnectFrame }
    | .addMsg disconnectFrame =>
      { session := k.session.command fun p => .ok (p.addMsg "DISCONNECT", 0)
        keyboard := .sendFrame disconnectFrame }
    | .sendFrame disconnectFrame =>
      { session := k.session.command fun p => .ok (p.sendFrame disconnectFrame)
        keyboard :=
          if (p.sendFrame disconnectFrame).2 = 1 then .poll else .setWaitingForDisconnect }
    | .setWaitingForDisconnect =>
      { session := k.session.command fun p => .ok (p.setWaitingForDisconnect, 0)
        keyboard := .poll }
    | .poll => if p.waitingForDisconnect then k else { k with keyboard := .done }
    | .done => k

/-- One step. -/
def step (c : ℕ) (k : LoggingOut) : Event → LoggingOut
  | .keyboard => k.keyboardStep
  | .serve => { k with session := k.session.step c .serve }
  | .deliver => { k with session := k.session.step c .deliver }

/-- The session has been reset by `logout()`, nothing is in flight, and the keyboard thread is told
to wait. -/
def Hung (k : LoggingOut) : Prop :=
  match k.session.client with
  | .ok p => p.sentLoginRequest = false ∧ p.waitingForDisconnect = true ∧
      k.session.link.toServer = [] ∧ k.session.link.toClient = []
  | .error _ => False

instance (k : LoggingOut) : Decidable k.Hung :=
  match h : k.session.client with
  | .ok p => decidable_of_iff (p.sentLoginRequest = false ∧ p.waitingForDisconnect = true ∧
      k.session.link.toServer = [] ∧ k.session.link.toClient = []) (by simp [Hung, h])
  | .error _ => isFalse (by simp [Hung, h])

/-- Handling the frame ends the session. -/
def EndsSession (p : StompProtocol) (frame : Str) : Prop :=
  match p.processFrame frame with
  | .ok p => p.sentLoginRequest = false
  | .error _ => False

instance (p : StompProtocol) (frame : Str) : Decidable (EndsSession p frame) :=
  match h : p.processFrame frame with
  | .ok p => decidable_of_iff (p.sentLoginRequest = false) (by simp [EndsSession, h])
  | .error _ => isFalse (by simp [EndsSession, h])

/-- The receiving thread handles a frame that ends the session while the keyboard thread stands
between the sending and `setWaitingForDisconnect`. -/
def EndsTooEarly (k : LoggingOut) : Event → Prop
  | .deliver =>
    match k.keyboard, k.session.client, k.session.link.toClient with
    | .setWaitingForDisconnect, .ok p, frame :: _ => EndsSession p frame
    | _, _, _ => False
  | _ => False

instance (k : LoggingOut) : DecidablePred k.EndsTooEarly
  | .deliver =>
    match hkeyboard : k.keyboard, hclient : k.session.client, hframes : k.session.link.toClient with
    | .setWaitingForDisconnect, .ok p, frame :: _ =>
      decidable_of_iff (EndsSession p frame) (by simp [EndsTooEarly, hkeyboard, hclient, hframes])
    | .build, _, _ | .addMsg _, _, _ | .sendFrame _, _, _ | .poll, _, _ | .done, _, _ =>
      isFalse (by simp [EndsTooEarly, hkeyboard])
    | .setWaitingForDisconnect, .error _, _ =>
      isFalse (by simp [EndsTooEarly, hkeyboard, hclient])
    | .setWaitingForDisconnect, .ok _, [] =>
      isFalse (by simp [EndsTooEarly, hkeyboard, hclient, hframes])
  | .keyboard | .serve => isFalse id

/-! ### The steps of one thread -/

/-- **Without the other thread, the steps of the keyboard thread are `handleLogoutRequest`.** -/
theorem handleLogoutRequest_eq (c : ℕ) {s : Session} {p : StompProtocol} (hp : s.client = .ok p)
    (hwritten : p.handler.written = []) (hwritable : p.handler.writable = true) :
    Machine.run (step c) ⟨s, .build⟩ (List.replicate 4 .keyboard) =
      ⟨s.command fun p => .ok p.handleLogoutRequest, .poll⟩ := by
  set p₁ := p.addMsg "DISCONNECT" with hp₁
  set p₂ := (p₁.sendFrame p.buildDisconnectFrame).1 with hp₂
  have hadd : (s.command fun p => .ok (p.addMsg "DISCONNECT", 0)) = { s with client := .ok p₁ } :=
    Session.command_of_silent hp rfl hwritten
  have hresult : (p₁.sendFrame p.buildDisconnectFrame).2 = 0 := by
    simp [hp₁, StompProtocol.sendFrame, StompProtocol.addMsg, ConnectionHandler.sendFrameAscii,
      hwritable]
  have hpair : p₁.sendFrame p.buildDisconnectFrame = (p₂, 0) := Prod.ext rfl hresult
  have hsend : (Session.command { s with client := .ok p₁ } fun p₁ =>
      .ok (p₁.sendFrame p.buildDisconnectFrame)) =
        { client := .ok { p₂ with handler.written := [] }
          link := s.link.send (delivered p₂.handler.written) } := by
    simp only [Session.command, hpair]
  have hset : Session.command { client := .ok { p₂ with handler.written := [] }
                                link := s.link.send (delivered p₂.handler.written) }
      (fun p => .ok (p.setWaitingForDisconnect, 0)) =
        { client := .ok { p₂.setWaitingForDisconnect with handler.written := [] }
          link := s.link.send (delivered p₂.handler.written) } :=
    Session.command_of_silent rfl rfl rfl
  have hwhole : (s.command fun p => .ok p.handleLogoutRequest) =
      { client := .ok { p₂.setWaitingForDisconnect with handler.written := [] }
        link := s.link.send (delivered p₂.handler.written) } := by
    have hlogout : p.handleLogoutRequest = (p₂.setWaitingForDisconnect, 0) := by
      simp only [StompProtocol.handleLogoutRequest, ← hp₁, hpair]
    simp only [Session.command, hp, hlogout]
    rfl
  have hne : (0 : ℕ) ≠ 1 := by norm_num
  simp only [List.replicate, Machine.run_cons, Machine.run_nil, step, keyboardStep, hp, hadd,
    hsend, hresult, if_neg hne, hset, hwhole]

/-! ### What a frame does to the session -/

/-- A frame leaves what the login has set, or ends the session. -/
def LoginKept (p p' : StompProtocol) : Prop :=
  (p'.sentLoginRequest = p.sentLoginRequest ∧
    p'.waitingForDisconnect = p.waitingForDisconnect ∧
    p'.handler.writable = p.handler.writable) ∨
  (p'.sentLoginRequest = false ∧ p'.waitingForDisconnect = false ∧ p'.handler.writable = false)

theorem loginKept_receiptOf (p : StompProtocol) (command : Str) :
    LoginKept p (p.receiptOf command) := by
  rcases p.receiptOf_cases command with heq | ⟨subs, heq⟩ <;> rw [heq]
  · exact .inr ⟨rfl, rfl, rfl⟩
  · exact .inl ⟨rfl, rfl, rfl⟩

theorem loginKept_processFrame {p p' : StompProtocol} {frame : Str}
    (h : p.processFrame frame = .ok p') : LoginKept p p' := by
  rcases StompProtocol.processFrame_cases h with rfl | rfl | ⟨receipts, command, rfl⟩ |
    ⟨games, -, rfl⟩
  · exact .inl ⟨rfl, rfl, rfl⟩
  · exact .inr ⟨rfl, rfl, rfl⟩
  · exact loginKept_receiptOf { p with receiptToMsg := receipts } command
  · exact .inl ⟨rfl, rfl, rfl⟩

/-! ### The run -/

/-- What holds as long as no frame ends the session too early. -/
structure Waits (p : StompProtocol) (keyboard : LogoutPc) : Prop where
  writable : p.handler.writable = true → p.sentLoginRequest = true
  waiting : p.waitingForDisconnect = true → p.sentLoginRequest = true
  sent : keyboard = .setWaitingForDisconnect → p.sentLoginRequest = true

/-- The client waits only for a session that goes on, if its process has not ended. -/
def WaitsInTime (k : LoggingOut) : Prop := ∀ p, k.session.client = .ok p → Waits p k.keyboard

variable {k : LoggingOut} {p : StompProtocol}

theorem waitsInTime_command {result : StompProtocol × ℕ} {keyboard : LogoutPc}
    {run : StompProtocol → Except CppException (StompProtocol × ℕ)}
    (hp : k.session.client = .ok p) (hrun : run p = .ok result)
    (hnew : Waits { result.1 with handler.written := [] } keyboard) :
    WaitsInTime ⟨k.session.command run, keyboard⟩ := by
  intro q hq
  simp only [Session.command, hp, hrun] at hq
  obtain rfl := Except.ok.inj hq
  exact hnew

theorem WaitsInTime.keyboard (hk : k.WaitsInTime) : k.keyboardStep.WaitsInTime := by
  unfold keyboardStep
  split
  · exact hk
  · rename_i p hp
    obtain ⟨hwritable, hwaiting, hsent⟩ := hk p hp
    split
    · exact fun q hq => ⟨(hk q hq).writable, (hk q hq).waiting, nofun⟩
    · exact waitsInTime_command hp rfl ⟨hwritable, hwaiting, nofun⟩
    · rename_i frame hkeyboard
      refine waitsInTime_command hp rfl ?_
      by_cases hw : p.handler.writable = true
      · have hlogin := hwritable hw
        simp only [StompProtocol.sendFrame, ConnectionHandler.sendFrameAscii, hw, if_true]
        exact ⟨fun _ => hlogin, fun _ => hlogin, fun _ => hlogin⟩
      · simp only [StompProtocol.sendFrame, ConnectionHandler.sendFrameAscii, hw, if_false,
          Bool.false_eq_true, if_true]
        exact ⟨nofun, hwaiting, nofun⟩
    · rename_i hkeyboard
      exact waitsInTime_command hp rfl
        ⟨hwritable, fun _ => hsent hkeyboard, nofun⟩
    · split_ifs
      · exact hk
      · exact fun q hq => ⟨(hk q hq).writable, (hk q hq).waiting, nofun⟩
    · exact hk

theorem WaitsInTime.deliver (hk : k.WaitsInTime) (c : ℕ) (hearly : ¬ k.EndsTooEarly .deliver) :
    (k.step c .deliver).WaitsInTime := by
  intro q hq
  have hdeliver : k.session.deliver.client = .ok q := hq
  rcases k.session.deliver_cases with hsame | ⟨p, frame, frames, hp, -, hframes, hsession⟩
  · rw [hsame] at hdeliver
    exact hk q hdeliver
  · rw [hsession] at hdeliver
    obtain ⟨hwritable, hwaiting, hsent⟩ := hk p hp
    rcases loginKept_processFrame hdeliver with ⟨hlogin, hwait, hwrite⟩ | ⟨hlogin, hwait, hwrite⟩
    · rw [← hlogin] at hwritable hwaiting hsent
      exact ⟨hwrite ▸ hwritable, hwait ▸ hwaiting, hsent⟩
    · refine ⟨by simp [hwrite], by simp [hwait], fun hkeyboard => absurd ?_ hearly⟩
      -- the session would have ended too early
      have hkeyboard : k.keyboard = .setWaitingForDisconnect := hkeyboard
      have hq : p.processFrame frame = .ok q := hdeliver
      simp [EndsTooEarly, hkeyboard, hp, hframes, EndsSession, hq, hlogin]

theorem WaitsInTime.step (hk : k.WaitsInTime) (c : ℕ) {e : Event} (hearly : ¬ k.EndsTooEarly e) :
    (k.step c e).WaitsInTime := by
  cases e with
  | keyboard => exact hk.keyboard
  | serve => exact hk
  | deliver => exact hk.deliver c hearly

/-- **Logout never hangs the keyboard** in a run in which no frame ends the session between the
sending of DISCONNECT and `setWaitingForDisconnect`, whatever else is in flight at the beginning. -/
theorem never_hangs (c : ℕ) (s : Session) (p : StompProtocol) (hp : s.client = .ok p)
    (hlogin : p.sentLoginRequest = true) (es : List Event)
    (hes : Machine.Along (step c) (fun k e => ¬ k.EndsTooEarly e) ⟨s, .build⟩ es) :
    ¬ (Machine.run (step c) ⟨s, .build⟩ es).Hung := by
  have hinit : WaitsInTime ⟨s, .build⟩ := fun q hq => by
    obtain rfl := Except.ok.inj (hp.symm.trans hq)
    exact ⟨fun _ => hlogin, fun _ => hlogin, nofun⟩
  have hrun : (Machine.run (step c) ⟨s, .build⟩ es).WaitsInTime :=
    Machine.Along.invariant (I := WaitsInTime) (fun k e hk hearly => hk.step c hearly) hinit hes
  intro hhung
  unfold Hung at hhung
  split at hhung
  · rename_i q hq
    have hwaiting := (hrun q hq).waiting hhung.2.1
    rw [hhung.1] at hwaiting
    cases hwaiting
  · exact hhung

/-- The RECEIPT is handled before the keyboard thread goes on. -/
def receiptFirst : List Event := [.keyboard, .keyboard, .keyboard, .serve, .deliver, .keyboard]

theorem not_forall_never_hangs : ¬ ∀ (c : ℕ) (s : Session) (p : StompProtocol), s.LoggedIn c p →
    p.sentLoginRequest = true → p.waitingForDisconnect = false → ∀ es,
    ¬ (Machine.run (step c) ⟨s, .build⟩ es).Hung := by
  intro hall
  refine hall 0 Session.bobSession Session.bob Session.bobSession_loggedIn rfl rfl receiptFirst ?_
  decide +kernel

/-- The keyboard thread waits before the RECEIPT is handled. -/
def receiptAwaited : List Event := [.keyboard, .keyboard, .keyboard, .keyboard, .serve, .deliver]

theorem receiptAwaited_not_hung :
    ¬ (Machine.run (step 0) ⟨Session.bobSession, .build⟩ receiptAwaited).Hung :=
  never_hangs 0 Session.bobSession Session.bob rfl rfl receiptAwaited (by decide +kernel)

end LoggingOut

end WorldCupInformer
