import WorldCupInformer.Session.Requests

/-!
# What the commands do to the client

* `Numbered`, `IsEntry`: the receipt ids of the client, and its entries for the games;
* `ClientMessage`: the messages a command can make, but for the reports;
* `AtRest`: what holds of the client between two steps;
* `Asks`: a command has made a request;
* `Writes`: what any command leaves of the socket.
-/

namespace WorldCupInformer

open Client (natToString CppException StompProtocol)

/-! ### Receipt ids and entries -/

/-- The keys are the decimal strings of the numbers below the size. -/
def Numbered (receiptToMsg : Dict Str Str) : Prop :=
  ∀ key, key ∈ receiptToMsg.keys ↔ ∃ i < Dict.size receiptToMsg, key = natToString i

theorem numbered_empty : Numbered ∅ := fun key => by simp [Dict.size]

theorem Numbered.lookup_size {d : Dict Str Str} (hd : Numbered d) :
    d.lookup (natToString (Dict.size d)) = none := by
  refine AList.lookup_eq_none.2 fun hmem => ?_
  obtain ⟨i, hi, heq⟩ := (hd _).1 hmem
  exact hi.ne' (Client.natToString_injective heq)

/-- `addMsg` takes the next number. -/
theorem Numbered.insert {d : Dict Str Str} (hd : Numbered d) (msg : Str) :
    Numbered (d.insert (natToString (Dict.size d)) msg) := by
  intro key
  have hmem : key ∈ (d.insert (natToString (Dict.size d)) msg).keys ↔
      key = natToString (Dict.size d) ∨ key ∈ d.keys := AList.mem_insert d
  rw [hmem, hd key, Dict.size_insert_of_none hd.lookup_size]
  constructor
  · rintro (rfl | ⟨i, hi, rfl⟩)
    · exact ⟨_, Nat.lt_succ_self _, rfl⟩
    · exact ⟨i, hi.trans (Nat.lt_succ_self _), rfl⟩
  · rintro ⟨i, hi, rfl⟩
    rcases Nat.lt_succ_iff_lt_or_eq.1 hi with hi | rfl
    · exact .inr ⟨i, hi, rfl⟩
    · exact .inl rfl

/-- The form of the client's entries for its games. -/
def IsEntry (subID : Str) : Prop := ∃ n, subID = natToString n ∨ subID = '*' :: natToString n

theorem IsEntry.plain {subID : Str} (h : IsEntry subID) : Plain subID := by
  obtain ⟨n, rfl | rfl⟩ := h
  · exact plain_natToString n
  · exact (plain_natToString n).cons (by decide)

theorem IsEntry.ascii {subID : Str} (h : IsEntry subID) : Utf8.Ascii subID := by
  obtain ⟨n, rfl | rfl⟩ := h
  · exact ascii_natToString n
  · exact Utf8.ascii_cons.2 ⟨by decide, ascii_natToString n⟩

/-- A RECEIPT only takes off the mark of an entry, or the entry. -/
theorem isEntry_receiptOf {p : StompProtocol}
    (hp : ∀ g subID, p.gameToSubID.lookup g = some subID → IsEntry subID) (command : Str) :
    ∀ g subID, (p.receiptOf command).gameToSubID.lookup g = some subID → IsEntry subID := by
  intro g subID
  unfold StompProtocol.receiptOf
  split_ifs with hdis
  · intro h
    simp [StompProtocol.logout] at h
  dsimp only
  cases hsub : p.gameToSubID.lookup command with
  | none =>
    -- the empty entry that `[]` makes is removed again
    have hget : StompProtocol.getSubByGame
        { p with gameToSubID := p.gameToSubID.insertNew command [] } command = [] := by
      simp [StompProtocol.getSubByGame, Dict.insertNew_of_none hsub]
    rw [hget, if_neg (by simp)]
    intro h
    simp only [StompProtocol.unsubscribe, Dict.insertNew_of_none hsub, Dict.lookup_erase,
      Dict.lookup_insert] at h
    split_ifs at h
    exact hp g subID h
  | some sub =>
    have hget : p.getSubByGame command = sub := by simp [StompProtocol.getSubByGame, hsub]
    rw [Dict.insertNew_of_some hsub, hget]
    split_ifs with hmark
    · intro h
      simp only [StompProtocol.confirmSub, hsub, Option.getD_some, Dict.lookup_insert] at h
      split_ifs at h
      · obtain rfl := Option.some.inj h
        obtain ⟨n, rfl | rfl⟩ := hp command sub hsub
        · -- a number has no mark
          have hstar : '*' ∈ natToString n := List.mem_of_mem_head? (by simp [hmark])
          exact absurd hstar (Client.notMem_natToString (by decide))
        · exact ⟨n, .inl rfl⟩
      · exact hp g subID h
    · intro h
      simp only [StompProtocol.unsubscribe, Dict.lookup_erase] at h
      split_ifs at h
      exact hp g subID h

/-! ### Messages -/

/-- A message of the client that is not a SEND, with the number of its receipt. -/
inductive ClientMessage : Option ℕ → Str → Prop
  | connect {u pw : Str} (hu : Plain u) (hpw : Plain pw) : ClientMessage none (connectMessage u pw)
  | subscribe {g id : Str} (hg : Plain g) (hid : Plain id) (k : ℕ) :
      ClientMessage (some k) (subscribeMessage g id (natToString k))
  | unsubscribe {id : Str} (hid : Plain id) (k : ℕ) :
      ClientMessage (some k) (unsubscribeMessage id (natToString k))
  | disconnect (k : ℕ) : ClientMessage (some k) (disconnectMessage (natToString k))

theorem ClientMessage.delivered {r : Option ℕ} {msg : Str} (hmsg : ClientMessage r msg) :
    delivered (Utf8.bytesOf msg) = [msg] := by
  have hplain := plain_natToString
  cases hmsg with
  | connect hu hpw =>
    exact delivered_frameText ⟨by decide, by decide, by decide⟩ (isLine_connect hu hpw)
      List.not_mem_nil
  | subscribe hg hid k =>
    refine delivered_frameText ⟨by decide, by decide, by decide⟩ ?_ List.not_mem_nil
    simp only [List.forall_mem_cons]
    exact ⟨isLine_headerLine plain_destination (hg.cons (by decide)),
      isLine_headerLine plain_id hid, isLine_headerLine plain_receipt (hplain k),
      List.forall_mem_nil _⟩
  | unsubscribe hid k =>
    refine delivered_frameText ⟨by decide, by decide, by decide⟩ ?_ List.not_mem_nil
    simp only [List.forall_mem_cons]
    exact ⟨isLine_headerLine plain_id hid, isLine_headerLine plain_receipt (hplain k),
      List.forall_mem_nil _⟩
  | disconnect k =>
    refine delivered_frameText ⟨by decide, by decide, by decide⟩ ?_ List.not_mem_nil
    simp only [List.forall_mem_cons]
    exact ⟨isLine_headerLine plain_receipt (hplain k), List.forall_mem_nil _⟩

/-! ### The client between two steps -/

/-- What holds of the client between two steps. -/
structure AtRest (p : StompProtocol) : Prop where
  numbered : Numbered p.receiptToMsg
  entries : ∀ g subID, p.gameToSubID.lookup g = some subID → IsEntry subID
  written : p.handler.written = []
  connected : p.handler.writable = true → p.handler.connected = true

namespace AtRest

variable {p p' : StompProtocol}

theorem start : AtRest {} where
  numbered := numbered_empty
  entries g subID h := by simp at h
  written := rfl
  connected h := by cases h

theorem logout (hp : AtRest p) : AtRest p.logout where
  numbered := numbered_empty
  entries g subID h := by simp [StompProtocol.logout] at h
  written := hp.written
  connected h := by cases h

/-- A RECEIPT takes off the mark of a game or its entry, or ends the session. -/
theorem receiptOf (hp : AtRest p) (command : Str) : AtRest (p.receiptOf command) := by
  have hentries := isEntry_receiptOf hp.entries command
  unfold StompProtocol.receiptOf at hentries ⊢
  dsimp only at hentries ⊢
  split_ifs at hentries ⊢
  · exact hp.logout
  · exact ⟨hp.numbered, hentries, hp.written, hp.connected⟩
  · exact ⟨hp.numbered, hentries, hp.written, hp.connected⟩

end AtRest

/-- The client has run a command that makes a request about `name`: it has noted it under the next
receipt id, and has written the frame `msg` unless writing fails. -/
structure Asks (p p' : StompProtocol) (name msg : Str) : Prop where
  receipts : p'.receiptToMsg = p.receiptToMsg.insert p.getReceiptID name
  entries : ∀ g subID, p'.gameToSubID.lookup g = some subID →
    p.gameToSubID.lookup g = some subID ∨ IsEntry subID
  handler : p'.handler =
    { p.handler with written := if p.handler.writable then Utf8.bytesOf msg else [] }
  message : ClientMessage (some (Dict.size p.receiptToMsg)) msg

section Commands

variable {p p' : StompProtocol}

theorem AtRest.addMsg (hp : AtRest p) (name : Str) :
    (p.addMsg name).receiptToMsg = p.receiptToMsg.insert p.getReceiptID name :=
  Dict.insertNew_of_none hp.numbered.lookup_size name

/-- `sendFrame` writes the frame with its NUL, or nothing. -/
theorem AtRest.sendFrame (hp : AtRest p) {frame msg : Str}
    (hframe : frame ++ lit "\x00" = Utf8.bytesOf msg) : (p.handler.sendFrameAscii frame '\x00').1 =
      { p.handler with written := if p.handler.writable then Utf8.bytesOf msg else [] } := by
  have hwritten := hp.written
  rcases h : p.handler with ⟨host, port, connected, writable, written⟩
  rw [h] at hwritten
  obtain rfl : written = [] := hwritten
  cases writable with
  | false => rfl
  | true =>
    rw [← hframe]
    rfl

/-- `addSubscription` makes an entry at most. -/
theorem isEntry_of_addSubscription {gameName g subID : Str}
    (h : (p.addSubscription gameName).gameToSubID.lookup g = some subID) :
    p.gameToSubID.lookup g = some subID ∨ IsEntry subID := by
  have h : (p.gameToSubID.insertNew gameName (lit "*" ++ natToString p.subscriptionID)).lookup g =
      some subID := h
  cases hold : p.gameToSubID.lookup gameName with
  | some sub =>
    rw [Dict.insertNew_of_some hold] at h
    exact .inl h
  | none =>
    rw [Dict.insertNew_of_none hold, Dict.lookup_insert] at h
    split_ifs at h
    · exact .inr ⟨p.subscriptionID, .inr (Option.some.inj h).symm⟩
    · exact .inl h

/-- A join always sends a frame. -/
theorem handleJoinRequest_eq (p : StompProtocol) (gameName : Str) :
    p.handleJoinRequest [lit "join", gameName] = .ok
      (((p.addSubscription gameName).addMsg gameName).sendFrame (p.buildSubscribeFrame gameName)) :=
  rfl

/-- An exit of a game without an entry does nothing. -/
theorem handleExitRequest_eq (p : StompProtocol) (gameName : Str) :
    p.handleExitRequest [lit "exit", gameName] =
      if p.getSubByGame gameName = [] then .ok (p, 1)
      else .ok ((p.addMsg gameName).sendFrame (p.buildUnsubscribeFrame gameName)) := rfl

theorem clientMessage_join (p : StompProtocol) (w : Word) :
    ClientMessage (some (Dict.size p.receiptToMsg))
      (subscribeMessage w.text p.getSubId p.getReceiptID) :=
  .subscribe w.plain (plain_natToString _) _

/-- What an exit sends. -/
theorem AtRest.exit_frame (hp : AtRest p) {gameName : Str} (hsub : p.getSubByGame gameName ≠ []) :
    p.buildUnsubscribeFrame gameName ++ lit "\x00" =
        Utf8.bytesOf (unsubscribeMessage (p.getSubByGame gameName) p.getReceiptID) ∧
      ClientMessage (some (Dict.size p.receiptToMsg))
        (unsubscribeMessage (p.getSubByGame gameName) p.getReceiptID) := by
  have hentry : IsEntry (p.getSubByGame gameName) := by
    cases hold : p.gameToSubID.lookup gameName with
    | none => simp [StompProtocol.getSubByGame, hold] at hsub
    | some sub => simpa [StompProtocol.getSubByGame, hold] using hp.entries _ sub hold
  exact ⟨buildUnsubscribeFrame_bytes p hentry.ascii, .unsubscribe hentry.plain _⟩

theorem AtRest.asks_join (hp : AtRest p) (w : Word) : ∃ p' n, p.handleJoinRequest
    [lit "join", w.typed] = .ok (p', n) ∧
      Asks p p' w.typed (subscribeMessage w.text p.getSubId p.getReceiptID) := by
  refine ⟨_, _, handleJoinRequest_eq p w.typed, ?_⟩
  exact
    { receipts := hp.addMsg w.typed
      entries := fun g subID h => isEntry_of_addSubscription h
      handler := hp.sendFrame (buildSubscribeFrame_bytes p w.text)
      message := clientMessage_join p w }

theorem AtRest.asks_exit (hp : AtRest p) (w : Word) (hsub : p.getSubByGame w.typed ≠ []) :
    ∃ p' n, p.handleExitRequest [lit "exit", w.typed] = .ok (p', n) ∧
      Asks p p' w.typed (unsubscribeMessage (p.getSubByGame w.typed) p.getReceiptID) := by
  obtain ⟨hframe, hmsg⟩ := hp.exit_frame hsub
  refine ⟨_, _, (handleExitRequest_eq p w.typed).trans (if_neg hsub), ?_⟩
  exact
    { receipts := hp.addMsg w.typed
      entries := fun g subID h => .inl h
      handler := hp.sendFrame hframe
      message := hmsg }

theorem AtRest.asks_logout (hp : AtRest p) : ∃ p' n, p.handleLogoutRequest = (p', n) ∧
    Asks p p' "DISCONNECT" (disconnectMessage p.getReceiptID) := by
  have hframe := hp.sendFrame (buildDisconnectFrame_bytes p)
  have hreceipts := hp.addMsg "DISCONNECT"
  unfold StompProtocol.handleLogoutRequest
  dsimp only
  split
  · rename_i p' heq
    refine ⟨p', 1, rfl, ?_⟩
    obtain rfl := congrArg Prod.fst heq
    exact ⟨hreceipts, fun g subID h => .inl h, hframe, .disconnect _⟩
  · rename_i p' n hne heq
    refine ⟨p'.setWaitingForDisconnect, 0, rfl, ?_⟩
    obtain rfl := congrArg Prod.fst heq
    exact ⟨hreceipts, fun g subID h => .inl h, hframe, .disconnect _⟩

end Commands

section Login

variable {p p' : StompProtocol} {u pw : Str} {n : ℕ} {connects : Bool} {command hostPort : Str}

/-- What `handleLoginRequest` changes. -/
theorem handleLoginRequest_cases
    (hrun : p.handleLoginRequest [command, hostPort, u, pw] connects = .ok (p', n)) :
    p'.receiptToMsg = p.receiptToMsg ∧ p'.gameToSubID = p.gameToSubID ∧
      if ¬ p.sentLoginRequest ∧ connects then
        p'.handler.connected = true ∧
          p'.handler.written = p.handler.written ++ StompProtocol.buildConnectFrame u pw ++
            lit "\x00"
      else p'.handler.connected = p.handler.connected ∧
        p'.handler.writable = p.handler.writable ∧ p'.handler.written = p.handler.written := by
  unfold StompProtocol.handleLoginRequest at hrun
  by_cases hlogin : p.sentLoginRequest = true
  · simp only [hlogin, if_true] at hrun
    obtain ⟨rfl, -⟩ := Prod.mk.inj (Except.ok.inj hrun)
    simp [hlogin]
  · simp only [hlogin, if_false, Bool.false_eq_true, Client.vectorAt, List.getElem?_cons_succ,
      List.getElem?_cons_zero, Client.ok_bind] at hrun
    obtain ⟨port, -, hrun⟩ := bind_eq_ok.1 hrun
    cases connects with
    | false =>
      obtain ⟨rfl, -⟩ := Prod.mk.inj (Except.ok.inj hrun)
      simp [StompProtocol.setHandler]
    | true =>
      obtain ⟨rfl, -⟩ := Prod.mk.inj (Except.ok.inj hrun)
      rw [if_pos ⟨hlogin, rfl⟩]
      exact ⟨rfl, rfl, rfl, rfl⟩

end Login

/-! ### The socket -/

/-- A command changes nothing of the connection but what has been written, and a closed socket
cannot be written. -/
def Writes (run : StompProtocol → Except CppException (StompProtocol × ℕ)) : Prop :=
  ∀ p p' n, run p = .ok (p', n) → ∃ text,
    p'.handler = { p.handler with written := p.handler.written ++ text } ∧
      (p.handler.writable = false → text = [])

theorem sendFrame_writes (p : StompProtocol) (frame : Str) : ∃ text,
    (p.sendFrame frame).1 = { p with handler.written := p.handler.written ++ text } ∧
      (p.handler.writable = false → text = []) := by
  simp only [StompProtocol.sendFrame, Client.ConnectionHandler.sendFrameAscii]
  split_ifs with hwritable
  · exact ⟨frame ++ ['\x00'], by rw [List.append_assoc],
      fun hclosed => by simp [hclosed] at hwritable⟩
  · exact ⟨[], by rw [List.append_nil], fun _ => rfl⟩

theorem sendFrames_writes (p : StompProtocol) (frames : List Str) : ∃ text,
    (p.sendFrames frames).1 = { p with handler.written := p.handler.written ++ text } ∧
      (p.handler.writable = false → text = []) := by
  induction frames generalizing p with
  | nil => exact ⟨[], by rw [List.append_nil]; rfl, fun _ => rfl⟩
  | cons frame frames ih =>
    obtain ⟨text, hsent, hclosed⟩ := sendFrame_writes p frame
    unfold StompProtocol.sendFrames
    split
    · rename_i p' heq
      obtain rfl := congrArg Prod.fst heq
      exact ⟨text, hsent, hclosed⟩
    · rename_i p' n hne heq
      obtain rfl := congrArg Prod.fst heq
      obtain ⟨rest, hrest, hclosed'⟩ := ih (p.sendFrame frame).1
      refine ⟨text ++ rest, ?_, fun hp => ?_⟩
      · rw [hrest, hsent, List.append_assoc]
      · rw [hclosed hp, hclosed' (by rw [hsent]; exact hp), List.append_nil]

theorem writes_join (gameName : Str) : Writes (·.handleJoinRequest [lit "join", gameName]) := by
  intro p p' n hrun
  obtain ⟨text, hsent, hclosed⟩ := sendFrame_writes ((p.addSubscription gameName).addMsg gameName)
    (p.buildSubscribeFrame gameName)
  obtain rfl := congrArg Prod.fst (Except.ok.inj hrun)
  exact ⟨text, by rw [hsent]; rfl, hclosed⟩

theorem writes_exit (gameName : Str) : Writes (·.handleExitRequest [lit "exit", gameName]) := by
  intro p p' n hrun
  simp only [handleExitRequest_eq] at hrun
  split_ifs at hrun
  · obtain rfl := congrArg Prod.fst (Except.ok.inj hrun)
    exact ⟨[], by rw [List.append_nil], fun _ => rfl⟩
  · obtain ⟨text, hsent, hclosed⟩ := sendFrame_writes (p.addMsg gameName)
      (p.buildUnsubscribeFrame gameName)
    obtain rfl := congrArg Prod.fst (Except.ok.inj hrun)
    exact ⟨text, by rw [hsent]; rfl, hclosed⟩

theorem writes_report (infoForFrames : Client.NamesAndEvents) :
    Writes (·.handleReportRequest infoForFrames) := by
  intro p p' n hrun
  simp only [StompProtocol.handleReportRequest, bind_eq_ok] at hrun
  obtain ⟨last, -, hrun⟩ := hrun
  split_ifs at hrun
  · obtain rfl := congrArg Prod.fst (Except.ok.inj hrun)
    exact ⟨[], by rw [List.append_nil], fun _ => rfl⟩
  · obtain ⟨text, hsent, hclosed⟩ := sendFrames_writes p (p.buildSendFrames infoForFrames)
    obtain rfl := congrArg Prod.fst (Except.ok.inj hrun)
    exact ⟨text, by rw [hsent], hclosed⟩

namespace Session

variable {s : Session} {p p' : StompProtocol} {msg : Str} {r : Option ℕ}
  {run : StompProtocol → Except CppException (StompProtocol × ℕ)}

/-- A command that has written a message, unless the socket is closed. -/
theorem command_written {result : ℕ} (hp : s.client = .ok p) (hrun : run p = .ok (p', result))
    (hhandler : p'.handler =
      { p.handler with written := if p.handler.writable then Utf8.bytesOf msg else [] })
    (hmsg : ClientMessage r msg) :
    s.command run = { client := .ok { p' with handler.written := [] }
                      link := s.link.send (if p.handler.writable then [msg] else []) } := by
  have hdelivered : delivered p'.handler.written = if p.handler.writable then [msg] else [] := by
    rw [hhandler]
    dsimp only
    split_ifs
    · exact hmsg.delivered
    · rfl
  simp only [command, hp, hrun, hdelivered]

/-- A command that sends a frame. -/
theorem command_sendFrame {frame : Str} (hp : s.client = .ok p) (hrest : AtRest p)
    (hwritable : p.handler.writable = true) (hrun : run p = .ok (p'.sendFrame frame))
    (hhandler : p'.handler = p.handler) (hframe : frame ++ lit "\x00" = Utf8.bytesOf msg)
    (hmsg : ClientMessage r msg) :
    s.command run = { client := .ok p', link := s.link.send [msg] } := by
  have hsent := hrest.sendFrame hframe
  rw [← hhandler] at hsent
  have hclient : ({ (p'.sendFrame frame).1 with handler.written := [] } : StompProtocol) = p' := by
    have hwritten : p'.handler.written = [] := by rw [hhandler]; exact hrest.written
    rw [StompProtocol.sendFrame, hsent, ← hwritten]
  have hcommand := command_written hp hrun (hhandler ▸ hsent) hmsg
  rw [if_pos hwritable] at hcommand
  exact hcommand.trans
    (congrArg (fun p => { client := .ok p, link := s.link.send [msg] : Session }) hclient)

end Session

end WorldCupInformer
