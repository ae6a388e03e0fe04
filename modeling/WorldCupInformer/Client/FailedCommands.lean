import WorldCupInformer.Client.Login
import WorldCupInformer.Client.ReceivedMessages

/-!
# Commands whose frame cannot be sent

`join`, `exit`, `logout` and `login` change the tables and flags of the session before they send
their frame, and do not change them back when `sendFrame` fails.

* `SendFails`: the command has returned 1 because `sendFrame` failed;
* `session_kept_iff`: the session is then as it was exactly when the command is `exit` or `logout`
  and the number of its receipt is taken.
-/

namespace WorldCupInformer.Client.StompProtocol

/-- A command that sends one frame, with its words. -/
inductive Command
  | login (parameters : List Str)
  | join (parameters : List Str)
  | exit (parameters : List Str)
  | logout

/-- The command runs up to `sendFrame`, which fails, and returns 1 with the object in this state.
`login` gets there when it connects, and `exit` when the game has an entry. -/
inductive SendFails (p : StompProtocol) : Command → StompProtocol → Prop
  | login {parameters : List Str} {p' : StompProtocol} (writes : Bool)
      (hnew : p.sentLoginRequest = false)
      (hrun : p.handleLoginRequest parameters true writes = .ok (p', 1)) :
      SendFails p (.login parameters) p'
  | join {parameters : List Str} {p' : StompProtocol}
      (hrun : p.handleJoinRequest parameters = .ok (p', 1)) : SendFails p (.join parameters) p'
  | exit {parameters : List Str} {gameName : Str} {p' : StompProtocol}
      (hgame : parameters[1]? = some gameName) (hsub : p.getSubByGame gameName ≠ [])
      (hrun : p.handleExitRequest parameters = .ok (p', 1)) : SendFails p (.exit parameters) p'
  | logout {p' : StompProtocol} (hrun : p.handleLogoutRequest = (p', 1)) :
      SendFails p .logout p'

/-- What the object knows of its session. -/
structure SameSession (p p' : StompProtocol) : Prop where
  gameToSubID : p'.gameToSubID = p.gameToSubID
  receiptToMsg : p'.receiptToMsg = p.receiptToMsg
  subscriptionID : p'.subscriptionID = p.subscriptionID
  sentLoginRequest : p'.sentLoginRequest = p.sentLoginRequest
  waitingForDisconnect : p'.waitingForDisconnect = p.waitingForDisconnect
  username : p'.username = p.username

/-- The number of the next receipt has an entry already, so that `addMsg` adds none. -/
def ReceiptTaken (p : StompProtocol) : Prop := p.receiptToMsg.lookup p.getReceiptID ≠ none

instance (p : StompProtocol) : Decidable p.ReceiptTaken := inferInstanceAs (Decidable (_ ≠ _))

variable {p p' : StompProtocol}

/-- A message is added exactly when its number is free. -/
theorem addMsg_eq_iff (p : StompProtocol) (msg : Str) :
    (p.addMsg msg).receiptToMsg = p.receiptToMsg ↔ p.ReceiptTaken := by
  have hadd : (p.addMsg msg).receiptToMsg = p.receiptToMsg.insertNew p.getReceiptID msg := rfl
  rw [hadd, ReceiptTaken]
  cases htaken : p.receiptToMsg.lookup p.getReceiptID with
  | some old => simp [Dict.insertNew_of_some htaken]
  | none =>
    rw [Dict.insertNew_of_none htaken]
    refine iff_of_false (fun heq => ?_) (by simp)
    have hlookup := congrArg (AList.lookup p.getReceiptID) heq
    simp [htaken] at hlookup

/-- Sending a frame after a message has been added. -/
theorem sameSession_addMsg_iff {msg frame : Str} (h : p' = ((p.addMsg msg).sendFrame frame).1) :
    SameSession p p' ↔ p.ReceiptTaken := by
  subst h
  rw [← addMsg_eq_iff p msg]
  exact ⟨fun hsame => hsame.receiptToMsg, fun heq => ⟨rfl, heq, rfl, rfl, rfl, rfl⟩⟩

/-- A `login` that connects has set its flag. -/
theorem sentLoginRequest_login {parameters : List Str} {writes : Bool}
    (hnew : p.sentLoginRequest = false)
    (hrun : p.handleLoginRequest parameters true writes = .ok (p', 1)) :
    p'.sentLoginRequest = true := by
  unfold handleLoginRequest at hrun
  simp only [hnew, Bool.false_eq_true, if_false] at hrun
  obtain ⟨hostPort, -, hrun⟩ := bind_eq_ok.1 hrun
  obtain ⟨thisUsername, -, hrun⟩ := bind_eq_ok.1 hrun
  obtain ⟨password, -, hrun⟩ := bind_eq_ok.1 hrun
  obtain ⟨port, -, hrun⟩ := bind_eq_ok.1 hrun
  simp only [connectToServer, if_true] at hrun
  split at hrun
  · rename_i p₁ heq
    obtain rfl := congrArg Prod.fst (Except.ok.inj hrun)
    obtain rfl := congrArg Prod.fst heq
    rfl
  · cases hrun

/-- **A failed command leaves the session as it was** only if it has added no message: never a
`login` or a `join`, and an `exit` or a `logout` when the number of its receipt is taken. -/
theorem session_kept_iff (p p' : StompProtocol) (command : Command)
    (hfails : SendFails p command p') : SameSession p p' ↔
      ((∃ parameters, command = .exit parameters) ∨ command = .logout) ∧ p.ReceiptTaken := by
  cases hfails with
  | @login parameters _ writes hnew hrun =>
    have hset := sentLoginRequest_login hnew hrun
    refine iff_of_false (fun hsame => ?_) (by simp)
    simp [hsame.sentLoginRequest, hnew] at hset
  | @join parameters _ hrun =>
    unfold handleJoinRequest at hrun
    obtain ⟨gameName, -, hrun⟩ := bind_eq_ok.1 hrun
    obtain rfl := congrArg Prod.fst (Except.ok.inj hrun)
    refine iff_of_false (fun hsame => ?_) (by simp)
    have hcount : p.subscriptionID + 1 = p.subscriptionID := hsame.subscriptionID
    omega
  | @exit parameters gameName _ hgame hsub hrun =>
    have hgame : vectorAt parameters 1 = .ok gameName := by simp [vectorAt, hgame]
    have hsub : ¬ p.getSubByGame gameName = lit "" := hsub
    unfold handleExitRequest at hrun
    simp only [hgame, ok_bind, if_neg hsub] at hrun
    have hsent := sameSession_addMsg_iff (congrArg Prod.fst (Except.ok.inj hrun)).symm
    simp [hsent]
  | logout hrun =>
    unfold handleLogoutRequest at hrun
    dsimp only at hrun
    split at hrun
    · rename_i p₁ heq
      obtain rfl := congrArg Prod.fst hrun
      have hsent := sameSession_addMsg_iff (congrArg Prod.fst heq).symm
      simp [hsent]
    · cases hrun

/-- A client that has logged out, or not logged in yet. -/
theorem join_fails : SendFails {} (.join [lit "join", lit "a_b"])
    (({} : StompProtocol).addSubscription "a_b" |>.addMsg "a_b") := .join rfl

/-- `join` before `login` counts its subscription. -/
theorem not_forall_session_kept : ¬ ∀ (p p' : StompProtocol) (command : Command),
    SendFails p command p' → SameSession p p' := by
  intro hall
  have hcount : (1 : ℕ) = 0 := (hall _ _ _ join_fails).subscriptionID
  cases hcount

/-- `logout` without a connection, with receipts numbered from one. -/
theorem logout_keeps_session : SameSession { receiptToMsg := Dict.insertNew ∅ "1" "a_b" }
    (handleLogoutRequest { receiptToMsg := Dict.insertNew ∅ "1" "a_b" }).1 :=
  (session_kept_iff _ _ .logout (.logout rfl)).2 ⟨.inr rfl, by decide +kernel⟩

end WorldCupInformer.Client.StompProtocol
