import WorldCupInformer.Client.Login
import WorldCupInformer.Client.ReportBodies
import WorldCupInformer.Server.FrameText
import WorldCupInformer.Server.Invariants
import WorldCupInformer.Session.Session

/-!
# The client's requests and the server's answers

* `connectMessage`, `subscribeMessage`, `unsubscribeMessage`, `sendMessage`, `disconnectMessage`:
  the client's frames as the server gets them, and what they decode to;
* `answer_subscribe`, `answer_unsubscribe`, `answer_send`: the server fulfils a request of a
  registered client and answers as expected, or it refuses it (`Refuses`): it answers with an ERROR
  frame and forgets the connection.
-/

namespace WorldCupInformer

open ConnectionsImp

theorem Word.plain (w : Word) : Plain w.text where
  nonempty := w.nonempty
  newline h := by simpa [Client.isSpace] using w.space _ h
  nul := w.nul
  space h := by simpa [Client.isSpace] using w.space _ h

theorem plain_natToString (n : ℕ) : Plain (Client.natToString n) where
  nonempty := Client.natToString_ne_nil n
  newline := Client.notMem_natToString (by decide)
  nul := Client.notMem_natToString (by decide)
  space := Client.notMem_natToString (by decide)

theorem Plain.cons {v : Str} (hv : Plain v) {ch : Char} (hch : ch ∉ ['\n', '\x00', ' ']) :
    Plain (ch :: v) := by
  simp only [List.mem_cons, List.not_mem_nil, or_false, not_or] at hch
  exact
    { nonempty := by simp
      newline := by simp [hv.newline, Ne.symm hch.1]
      nul := by simp [hv.nul, Ne.symm hch.2.1]
      space := by simp [hv.space, Ne.symm hch.2.2] }

/-! ### Messages -/

/-- A message made of lines is read off the bytes of its text. -/
theorem delivered_frameText {command body : Str} {headerLines : List Str} (hcmd : IsLine command)
    (hls : ∀ l ∈ headerLines, IsLine l) (hbody : '\x00' ∉ body) :
    delivered (Utf8.bytesOf (frameText command headerLines body)) =
      [frameText command headerLines body] := by
  set text : Str := (lit "\n").intercalate (command :: headerLines) ++ lit "\n\n" ++ body with htext
  have hmsg : frameText command headerLines body = text ++ lit "\x00" := rfl
  have hall : ∀ l ∈ command :: headerLines, '\x00' ∉ l :=
    List.forall_mem_cons.2 ⟨hcmd.nul, fun l hl => (hls l hl).nul⟩
  have hnul : '\x00' ∉ text := by
    have hlines := notMem_intercalate (by decide) hall
    have hblank : '\x00' ∉ lit "\n\n" := by decide
    simp only [htext, List.mem_append, not_or]
    exact ⟨⟨hlines, hblank⟩, hbody⟩
  have hframe : ∀ frame ∈ [Utf8.bytesOf text], '\x00' ∉ frame := by
    simpa [nul_mem_bytesOf] using hnul
  have hstream := delivered_flatMap hframe
  have hbytes : Utf8.bytesOf text ++ lit "\x00" = Utf8.bytesOf (text ++ lit "\x00") := by
    rw [Utf8.bytesOf_append text, bytesOf_nul]
  simp only [List.flatMap_cons, List.flatMap_nil, List.append_nil, List.map_cons, List.map_nil,
    hbytes, Utf8.textOf_bytesOf] at hstream
  rwa [hmsg]

/-- A SUBSCRIBE of the client. -/
def subscribeMessage (gameName subID receiptID : Str) : Str :=
  frameText "SUBSCRIBE" [headerLine "destination" ("/" ++ gameName), headerLine "id" subID,
    headerLine "receipt" receiptID] []

/-- An UNSUBSCRIBE of the client. -/
def unsubscribeMessage (subID receiptID : Str) : Str :=
  frameText "UNSUBSCRIBE" [headerLine "id" subID, headerLine "receipt" receiptID] []

/-- A SEND of the client. -/
def sendMessage (gameName body : Str) : Str :=
  frameText "SEND" [headerLine "destination" ("/" ++ gameName)] body

/-- A DISCONNECT of the client. -/
def disconnectMessage (receiptID : Str) : Str :=
  frameText "DISCONNECT" [headerLine "receipt" receiptID] []

/-- The CONNECT of the client. -/
def connectMessage (userName passcode : Str) : Str :=
  frameText "CONNECT" [headerLine "accept - version" "1.2",
    headerLine "host" " stomp . cs . bgu . ac . il", headerLine "login" userName,
    headerLine "passcode" passcode] []

variable {g id r body : Str}

theorem plain_destination : Plain "destination" := ⟨⟨by decide, by decide, by decide⟩, by decide⟩

theorem plain_id : Plain "id" := ⟨⟨by decide, by decide, by decide⟩, by decide⟩

theorem plain_receipt : Plain "receipt" := ⟨⟨by decide, by decide, by decide⟩, by decide⟩

theorem decodes_subscribe (hg : Plain g) (hid : Plain id) (hr : Plain r) :
    ∃ hd, orderMsgInHash (subscribeMessage g id r) = .ok hd ∧
      hd.IsSubscribe ("/" ++ g) id ∧ hd.get "receipt" = some r := by
  have hdest : Plain (lit "/" ++ g) := hg.cons (by decide)
  have hplain : ∀ x ∈ [(lit "destination", lit "/" ++ g), (lit "id", id), (lit "receipt", r)],
      Plain x.1 ∧ Plain x.2 := by
    simp [plain_destination, plain_id, plain_receipt, hdest, hid, hr]
  have hcmd : IsLine "SUBSCRIBE" := ⟨by decide, by decide, by decide⟩
  have htable := orderMsgInHash_plain hcmd (by simp) hplain (List.not_mem_nil)
  refine ⟨_, htable, ⟨?_, ?_, ?_, ?_⟩, ?_⟩ <;>
    simp

theorem decodes_unsubscribe (hid : Plain id) (hr : Plain r) :
    ∃ hd, orderMsgInHash (unsubscribeMessage id r) = .ok hd ∧
      hd.IsUnsubscribe id ∧ hd.get "receipt" = some r := by
  have hplain : ∀ x ∈ [(lit "id", id), (lit "receipt", r)], Plain x.1 ∧ Plain x.2 := by
    simp [plain_id, plain_receipt, hid, hr]
  have hcmd : IsLine "UNSUBSCRIBE" := ⟨by decide, by decide, by decide⟩
  have htable := orderMsgInHash_plain hcmd (by simp) hplain (List.not_mem_nil)
  refine ⟨_, htable, ⟨?_, ?_, ?_⟩, ?_⟩ <;>
    simp

theorem decodes_send (hg : Plain g) (hbody : '\x00' ∉ body) :
    ∃ hd, orderMsgInHash (sendMessage g body) = .ok hd ∧
      hd.IsSend ("/" ++ g) body ∧ hd.get "receipt-id" = none := by
  have hdest : Plain (lit "/" ++ g) := hg.cons (by decide)
  have hplain : ∀ x ∈ [(lit "destination", lit "/" ++ g)], Plain x.1 ∧ Plain x.2 := by
    simp [plain_destination, hdest]
  have hcmd : IsLine "SEND" := ⟨by decide, by decide, by decide⟩
  have htable := orderMsgInHash_plain hcmd (by simp) hplain hbody
  refine ⟨_, htable, ⟨?_, ?_, ?_⟩, ?_⟩ <;>
    simp

theorem decodes_disconnect (hr : Plain r) :
    ∃ hd, orderMsgInHash (disconnectMessage r) = .ok hd ∧ hd.IsDisconnect r := by
  have hplain : ∀ x ∈ [(lit "receipt", r)], Plain x.1 ∧ Plain x.2 := by
    simp [plain_receipt, hr]
  have hcmd : IsLine "DISCONNECT" := ⟨by decide, by decide, by decide⟩
  have htable := orderMsgInHash_plain hcmd (by simp) hplain (List.not_mem_nil)
  refine ⟨_, htable, ⟨?_, ?_⟩⟩ <;>
    simp

theorem plain_login : Plain "login" := ⟨⟨by decide, by decide, by decide⟩, by decide⟩

theorem plain_passcode : Plain "passcode" := ⟨⟨by decide, by decide, by decide⟩, by decide⟩

theorem split_version :
    split (headerLine "accept - version" "1.2") " :" = [lit "accept - version", lit "1.2"] := by
  decide +kernel

theorem split_host : split (headerLine "host" " stomp . cs . bgu . ac . il") " :" =
    [lit "host", lit " stomp . cs . bgu . ac . il"] := by
  decide +kernel

theorem isLine_connect {u pw : Str} (hu : Plain u) (hpw : Plain pw) :
    ∀ l ∈ [headerLine "accept - version" "1.2", headerLine "host" " stomp . cs . bgu . ac . il",
      headerLine "login" u, headerLine "passcode" pw], IsLine l := by
  have hversion : IsLine (headerLine "accept - version" "1.2") := by
    refine ⟨?_, ?_, ?_⟩ <;> decide +kernel
  have hhost : IsLine (headerLine "host" " stomp . cs . bgu . ac . il") := by
    refine ⟨?_, ?_, ?_⟩ <;> decide +kernel
  simp only [List.forall_mem_cons]
  exact ⟨hversion, hhost, isLine_headerLine plain_login hu, isLine_headerLine plain_passcode hpw,
    List.forall_mem_nil _⟩

theorem decodes_connect {u pw : Str} (hu : Plain u) (hpw : Plain pw) :
    ∃ hd, orderMsgInHash (connectMessage u pw) = .ok hd ∧
      hd.IsConnect "1.2" " stomp . cs . bgu . ac . il" u pw ∧ hd.get "receipt-id" = none := by
  have hcmd : IsLine "CONNECT" := ⟨by decide, by decide, by decide⟩
  have htable := orderMsgInHash_frameText hcmd (by simp) (isLine_connect hu hpw)
    (List.not_mem_nil (a := '\x00'))
  simp only [List.foldlM_cons, List.foldlM_nil, putHeaderLine_of_split _ split_version,
    putHeaderLine_of_split _ split_host, putHeaderLine_eq _ plain_login hu,
    putHeaderLine_eq _ plain_passcode hpw,
    bind, Except.bind, pure, Except.pure, Except.map] at htable
  refine ⟨_, htable, ⟨?_, ?_, ?_, ?_, ?_⟩, ?_⟩ <;>
    simp

/-! ### The frames the client builds -/

theorem ascii_natToString (n : ℕ) : Utf8.Ascii (Client.natToString n) := fun ch hch => by
  have hdigit := Client.isDigit_of_mem_natToString hch
  simp only [Char.isDigit, Bool.and_eq_true, decide_eq_true_eq] at hdigit
  have hle : ch.toNat ≤ 57 := hdigit.2
  omega

section Built

variable (p : Client.StompProtocol)

theorem buildSubscribeFrame_bytes (g : Str) :
    p.buildSubscribeFrame (Utf8.bytesOf g) ++ lit "\x00" =
      Utf8.bytesOf (subscribeMessage g p.getSubId p.getReceiptID) := by
  have hid : Utf8.bytesOf p.getSubId = p.getSubId := Utf8.bytesOf_of_ascii (ascii_natToString _)
  have hr : Utf8.bytesOf p.getReceiptID = p.getReceiptID :=
    Utf8.bytesOf_of_ascii (ascii_natToString _)
  simp [Client.StompProtocol.buildSubscribeFrame, subscribeMessage, frameText, headerLine,
    List.intercalate_cons_cons, lit, Utf8.bytesOf_cons, hid, hr]

theorem buildUnsubscribeFrame_bytes {key : Str} (hsub : Utf8.Ascii (p.getSubByGame key)) :
    p.buildUnsubscribeFrame key ++ lit "\x00" =
      Utf8.bytesOf (unsubscribeMessage (p.getSubByGame key) p.getReceiptID) := by
  have hid := Utf8.bytesOf_of_ascii hsub
  have hr : Utf8.bytesOf p.getReceiptID = p.getReceiptID :=
    Utf8.bytesOf_of_ascii (ascii_natToString _)
  simp [Client.StompProtocol.buildUnsubscribeFrame, unsubscribeMessage, frameText, headerLine,
    List.intercalate_cons_cons, lit, Utf8.bytesOf_cons, hid, hr]

theorem buildDisconnectFrame_bytes :
    p.buildDisconnectFrame ++ lit "\x00" = Utf8.bytesOf (disconnectMessage p.getReceiptID) := by
  have hr : Utf8.bytesOf p.getReceiptID = p.getReceiptID :=
    Utf8.bytesOf_of_ascii (ascii_natToString _)
  simp [Client.StompProtocol.buildDisconnectFrame, disconnectMessage, frameText, headerLine,
    List.intercalate_cons_cons, lit, Utf8.bytesOf_cons, hr]

theorem buildConnectFrame_bytes (u pw : Str) :
    Client.StompProtocol.buildConnectFrame (Utf8.bytesOf u) (Utf8.bytesOf pw) ++ lit "\x00" =
      Utf8.bytesOf (connectMessage u pw) := by
  simp [Client.StompProtocol.buildConnectFrame, connectMessage, frameText, headerLine,
    List.intercalate_cons_cons, lit, Utf8.bytesOf_cons]

theorem updatesToString_bytes (updates : List (Str × Str)) :
    Client.StompProtocol.updatesToString (updates.map (Prod.map Utf8.bytesOf Utf8.bytesOf)) =
      Utf8.bytesOf (Client.StompProtocol.updatesToString updates) := by
  induction updates with
  | nil => rfl
  | cons update updates ih =>
    simp only [Client.StompProtocol.updatesToString, List.map_cons, List.flatMap_cons,
      Utf8.bytesOf_append] at ih ⊢
    rw [ih]
    simp [lit, Utf8.bytesOf_cons]

theorem ascii_intToString (z : ℤ) : Utf8.Ascii (Client.intToString z) := by
  cases z with
  | ofNat n => exact ascii_natToString n
  | negSucc n => simpa [Client.intToString] using ascii_natToString (n + 1)

theorem buildSendFrame_bytes {p : Client.StompProtocol} {u : Str}
    (hu : p.username = Utf8.bytesOf u) (g : Str) (event : Client.Event) :
    p.buildSendFrame (Utf8.bytesOf g) event.bytes ++ lit "\x00" =
      Utf8.bytesOf (sendMessage g (reportBody u event)) := by
  have htime : Utf8.bytesOf (Client.intToString event.time) = Client.intToString event.time :=
    Utf8.bytesOf_of_ascii (ascii_intToString _)
  simp [Client.StompProtocol.buildSendFrame, Client.Event.bytes, hu, updatesToString_bytes,
    sendMessage, reportBody, frameText, headerLine, List.intercalate_cons_cons, lit,
    Utf8.bytesOf_cons, htime]

end Built

/-! ### Answers -/

variable {s : ConnectionsImp} {c : ℕ} {h : ConnectionHandler} {hd : HeaderTable} {e : Exec}
  {t : Str}

/-- The frame is rejected: its sender gets an ERROR frame and is forgotten. -/
def RejectedBy (h : ConnectionHandler) (c : ℕ) (e : Exec) : Prop :=
  (∃ errors hd, sentTo h e.calls = [ErrorFrame.toString errors hd]) ∧
    e.connections.idToHandler.lookup c = none

theorem rejectedBy_of_rejects {s₁ : ConnectionsImp} {pre : List Call} {errors : List Str}
    (hrej : Rejects s c h hd s₁ pre errors) :
    RejectedBy h c ⟨s₁.drop c h, pre ++ rejectCalls c h errors hd⟩ := by
  refine ⟨⟨errors, hd, ?_⟩, by simp [ConnectionsImp.drop]⟩
  have hpre : sentTo h pre = [] := by
    refine List.eq_nil_iff_forall_not_mem.2 fun m hm => ?_
    rcases hrej.mem_pre (mem_sentTo.1 hm) with ⟨t, id, heq⟩ | ⟨id, heq⟩ <;> cases heq
  have happend : sentTo h (pre ++ rejectCalls c h errors hd) =
      sentTo h pre ++ sentTo h (rejectCalls c h errors hd) := List.filterMap_append
  rw [happend, hpre]
  simp [sentTo, rejectCalls]

/-- A SUBSCRIBE, UNSUBSCRIBE or SEND that cannot be fulfilled is rejected. -/
theorem Effect.rejectedBy (he : Effect s c hd e) (hreg : s.idToHandler.lookup c = some h)
    (hcmd : ∃ cmd ∈ ["SUBSCRIBE", "UNSUBSCRIBE", "SEND"], hd.get "COMMAND" = some (lit cmd))
    (hsub : ∀ t id, hd.IsSubscribe t id → s.entry t h ≠ none)
    (huns : ∀ id, hd.IsUnsubscribe id → s.topicOf h id = none ∧ s.entry [] h = none)
    (hsend : ∀ t body, hd.IsSend t body → s.entry t h = none) : RejectedBy h c e := by
  obtain ⟨cmd, hmem, hcmd⟩ := hcmd
  simp only [List.mem_cons, List.not_mem_nil, or_false] at hmem
  cases he with
  | rejected hreg' hrej =>
    cases hreg.symm.trans hreg'
    exact rejectedBy_of_rejects hrej
  | ignored hother => exact absurd hcmd (hother cmd (by simp; tauto))
  | unregistered hreg' => simp [hreg] at hreg'
  | opened hreg' => simp [hreg] at hreg'
  | connected _ hcon => rcases hmem with rfl | rfl | rfl <;> simp [hcon.command] at hcmd
  | disconnected _ hdis => rcases hmem with rfl | rfl | rfl <;> simp [hdis.command] at hcmd
  | anonymous _ hdis => rcases hmem with rfl | rfl | rfl <;> simp [hdis.command] at hcmd
  | subscribed hreg' hsub' hent =>
    cases hreg.symm.trans hreg'
    exact absurd hent (hsub _ _ hsub')
  | unsubscribed hreg' huns' htop =>
    cases hreg.symm.trans hreg'
    simp [(huns _ huns').1] at htop
  | unindexed hreg' huns' hent =>
    cases hreg.symm.trans hreg'
    exact absurd (huns _ huns').2 hent
  | broadcast hreg' hsend' hent =>
    cases hreg.symm.trans hreg'
    exact absurd (hsend _ _ hsend') hent

theorem hasCommand_bytesOf {cmd : String} {text : Str} (hcmd : Utf8.Ascii (lit cmd))
    (h : HasCommand cmd text) : HasCommand cmd (Utf8.bytesOf text) := by
  obtain ⟨rest, rfl⟩ := h
  rw [HasCommand, Utf8.bytesOf_append, Utf8.bytesOf_append, Utf8.bytesOf_of_ascii hcmd,
    Utf8.bytesOf_of_ascii (s := ['\n']) (by simp)]
  exact List.prefix_append _ _

/-- A frame of a command arrives as one, whatever stands around it. -/
theorem exists_received_of_mem {cmd : String} (hcmd : Utf8.Ascii (lit cmd))
    (hnul : '\x00' ∉ lit cmd) {m : Str} {texts : List Str} (hm : m ∈ texts)
    (hhead : HasCommand cmd m) : ∃ frame ∈ received texts, HasCommand cmd frame := by
  induction texts with
  | nil => cases hm
  | cons text texts ih =>
    rcases List.mem_cons.1 hm with rfl | hm
    · obtain ⟨rest, rfl⟩ := hhead
      have hb : '\x00' ∉ lit cmd ++ ['\n'] := by simp [hnul]
      obtain ⟨frame, frames, hframes, hstart⟩ := received_cons (by simp) hb rest texts
      rw [Utf8.bytesOf_of_ascii (hcmd.append (by simp))] at hstart
      exact ⟨frame, hframes ▸ List.mem_cons_self, hstart⟩
    · obtain ⟨frame, hframe, hstart⟩ := ih hm
      rw [received_cons_eq]
      exact ⟨frame, List.mem_append_right _ hframe, hstart⟩

namespace Server

variable {s : Server} {msg : Str}

/-- The message of connection `c` is refused: the answer ends the client's session, and the
connection is forgotten. -/
def Refuses (c : ℕ) (s : Server) (msg : Str) : Prop :=
  (∃ frame ∈ s.answer c msg, HasCommand "ERROR" frame) ∧
    (s.afterMessage c msg).connections.idToHandler.lookup c = none

theorem refuses_of_rejectedBy (hrej : RejectedBy ⟨c⟩ c (s.handle (.message c msg))) :
    s.Refuses c msg := by
  obtain ⟨⟨errors, hd, hsent⟩, hreg⟩ := hrej
  refine ⟨?_, hreg⟩
  rw [answer, hsent]
  exact exists_received_of_mem (by simp [lit]) (by decide) (List.mem_singleton_self _)
    (hasCommand_errorFrame errors hd)

/-- A RECEIPT arrives as one frame. -/
theorem received_receipt (hr : Plain r) :
    received [ReceiptFrame.toString r] = [Client.receiptText (Utf8.bytesOf r)] := by
  have htext : ReceiptFrame.toString r = Client.receiptText r ++ lit "\x00" := by
    simp [ReceiptFrame.toString, Client.receiptText, lit]
  have hframe : ∀ text ∈ [Client.receiptText r], text ≠ [] ∧ '\x00' ∉ text := by
    simp [Client.receiptText, lit, hr.nul]
  have hbytes : Utf8.bytesOf (Client.receiptText r) = Client.receiptText (Utf8.bytesOf r) := by
    simp only [Client.receiptText, Utf8.bytesOf_append]
    rw [Utf8.bytesOf_of_ascii (s := lit "RECEIPT\nreceipt - id :") (by simp [lit]),
      Utf8.bytesOf_of_ascii (s := lit "\n\n") (by simp [lit])]
  rw [htext, ← hbytes]
  exact received_map hframe

/-- The message of a MESSAGE frame without its NUL. -/
def messageText (messageId : ℕ) (channel : Str) (subscriptionId : Option Str) (body : Str) : Str :=
  "MESSAGE\nsubscription :" ++ stringOf subscriptionId ++ "\nmessage - id :" ++
    Client.natToString messageId ++ "\ndestination :" ++ channel ++ "\n\n" ++ body

/-- MESSAGE frames arrive one by one. -/
theorem received_broadcast {t body : Str} (ht : '\x00' ∉ t) (hbody : '\x00' ∉ body)
    (hid : ∀ id, s.connections.entry t ⟨c⟩ = some id → '\x00' ∉ id) :
    ∀ frame ∈ received (sentTo ⟨c⟩ (broadcastCalls s.connections t body)),
      HasCommand "MESSAGE" frame := by
  set text := messageText s.connections.messageId t (s.connections.entry t ⟨c⟩) body with htext
  have hsent : sentTo ⟨c⟩ (broadcastCalls s.connections t body) =
      (((s.connections.clientsOf t).filter (· = ⟨c⟩)).map fun _ => text).map (· ++ lit "\x00") := by
    rw [sentTo, broadcastCalls, List.filterMap_map, List.map_map, ← List.filterMap_eq_map,
      List.filterMap_filter]
    refine List.filterMap_congr fun d _ => ?_
    by_cases hd : d = ⟨c⟩
    · subst hd
      simp [htext, messageText, buildSendMessage, Client.natToString, lit]
    · simp [hd]
  have hsub : '\x00' ∉ stringOf (s.connections.entry t ⟨c⟩) := by
    cases hent : s.connections.entry t ⟨c⟩ with
    | none => decide
    | some id => exact hid id hent
  have hnum : '\x00' ∉ Client.natToString s.connections.messageId :=
    Client.notMem_natToString (by decide)
  have hfree : '\x00' ∉ text := by simp [htext, messageText, lit, hsub, ht, hbody, hnum]
  have hhead : HasCommand "MESSAGE" text := by
    simp only [htext, messageText, List.append_assoc]
    exact List.prefix_append (lit "MESSAGE\n") _
  have htexts : ∀ text' ∈ ((s.connections.clientsOf t).filter (· = ⟨c⟩)).map fun _ => text,
      text' = text := by simp
  rw [hsent, received_map fun text' h =>
    htexts text' h ▸ ⟨by simp [htext, messageText, lit], hfree⟩]
  intro frame hframe
  obtain ⟨text', htext', rfl⟩ := List.mem_map.1 hframe
  exact htexts text' htext' ▸ hasCommand_bytesOf (by simp [lit]) hhead

section Registered

variable (hreg : s.connections.idToHandler.lookup c = some ⟨c⟩)
include hreg

theorem answer_subscribe (hg : Plain g) (hid : Plain id) (hr : Plain r)
    (hent : s.connections.entry ("/" ++ g) ⟨c⟩ = none) :
    (s.afterMessage c (subscribeMessage g id r)).connections =
        s.connections.addSubscription ("/" ++ g) ⟨c⟩ id ∧
      s.answer c (subscribeMessage g id r) = [Client.receiptText (Utf8.bytesOf r)] := by
  obtain ⟨hd, hmsg, hsub, hreceipt⟩ := decodes_subscribe hg hid hr
  have hrun := run_subscribeFrame (l := []) hreg hsub hent
  rw [← run_act_subscribe c hsub.command, hreceipt] at hrun
  have hexec := (handle_decoded hmsg c).trans (after_of_ok hrun)
  refine ⟨congrArg Exec.connections hexec, ?_⟩
  rw [answer, hexec, ← received_receipt hr]
  simp [sentTo, receiptCalls]

theorem answer_send (hg : Plain g) (hbody : '\x00' ∉ body)
    (hent : s.connections.entry ("/" ++ g) ⟨c⟩ ≠ none)
    (hid : ∀ id, s.connections.entry ("/" ++ g) ⟨c⟩ = some id → '\x00' ∉ id) :
    (s.afterMessage c (sendMessage g body)).connections = s.connections ∧
      ∀ frame ∈ s.answer c (sendMessage g body), HasCommand "MESSAGE" frame := by
  obtain ⟨hd, hmsg, hsend, hreceipt⟩ := decodes_send hg hbody
  have hrun := run_sendFrame (l := []) hreg hsend hent
  rw [← run_act_send c hsend.command, hreceipt] at hrun
  have hexec := (handle_decoded hmsg c).trans (after_of_ok hrun)
  refine ⟨congrArg Exec.connections hexec, ?_⟩
  rw [answer, hexec]
  have hdest : Plain (lit "/" ++ g) := hg.cons (by decide)
  simpa [receiptCalls] using received_broadcast hdest.nul hbody hid

variable (hwf : s.WellFormed)
include hwf

theorem answer_unsubscribe {t : Str} (hid : Plain id) (hr : Plain r)
    (htop : s.connections.topicOf ⟨c⟩ id = some t) :
    (s.afterMessage c (unsubscribeMessage id r)).connections =
        s.connections.removeSubscription t ⟨c⟩ id ∧
      s.answer c (unsubscribeMessage id r) = [Client.receiptText (Utf8.bytesOf r)] := by
  obtain ⟨hd, hmsg, huns, hreceipt⟩ := decodes_unsubscribe hid hr
  have hent : s.connections.entry t ⟨c⟩ ≠ none := by simp [hwf.backed ⟨c⟩ id t htop]
  have hrun := run_unsubscribeFrame (l := []) hreg huns htop hent
  rw [← run_act_unsubscribe c huns.command, hreceipt] at hrun
  have hexec := (handle_decoded hmsg c).trans (after_of_ok hrun)
  refine ⟨congrArg Exec.connections hexec, ?_⟩
  rw [answer, hexec, ← received_receipt hr]
  simp [sentTo, receiptCalls]

theorem refuses_subscribe (hg : Plain g) (hid : Plain id) (hr : Plain r)
    (hent : s.connections.entry ("/" ++ g) ⟨c⟩ ≠ none) : s.Refuses c (subscribeMessage g id r) := by
  obtain ⟨hd, hmsg, hsub, -⟩ := decodes_subscribe hg hid hr
  have heff := act_effect hwf.backed (c := c) (orderMsgInHash_body hmsg)
  rw [← handle_decoded hmsg] at heff
  refine refuses_of_rejectedBy (heff.rejectedBy hreg ⟨_, by simp, hsub.command⟩ ?_ ?_ ?_)
  · intro t id' hsub'
    cases hsub.destination.symm.trans hsub'.destination
    exact hent
  · exact fun id' huns => absurd (hsub.command.symm.trans huns.command) (by simp)
  · exact fun t body hsend => absurd (hsub.command.symm.trans hsend.command) (by simp)

theorem refuses_unsubscribe (hid : Plain id) (hr : Plain r)
    (htop : s.connections.topicOf ⟨c⟩ id = none) (hempty : s.connections.entry [] ⟨c⟩ = none) :
    s.Refuses c (unsubscribeMessage id r) := by
  obtain ⟨hd, hmsg, huns, -⟩ := decodes_unsubscribe hid hr
  have heff := act_effect hwf.backed (c := c) (orderMsgInHash_body hmsg)
  rw [← handle_decoded hmsg] at heff
  refine refuses_of_rejectedBy (heff.rejectedBy hreg ⟨_, by simp, huns.command⟩ ?_ ?_ ?_)
  · exact fun t id' hsub => absurd (huns.command.symm.trans hsub.command) (by simp)
  · intro id' huns'
    cases huns.id.symm.trans huns'.id
    exact ⟨htop, hempty⟩
  · exact fun t body hsend => absurd (huns.command.symm.trans hsend.command) (by simp)

theorem refuses_send (hg : Plain g) (hbody : '\x00' ∉ body)
    (hent : s.connections.entry ("/" ++ g) ⟨c⟩ = none) : s.Refuses c (sendMessage g body) := by
  obtain ⟨hd, hmsg, hsend, -⟩ := decodes_send hg hbody
  have heff := act_effect hwf.backed (c := c) (orderMsgInHash_body hmsg)
  rw [← handle_decoded hmsg] at heff
  refine refuses_of_rejectedBy (heff.rejectedBy hreg ⟨_, by simp, hsend.command⟩ ?_ ?_ ?_)
  · exact fun t id' hsub => absurd (hsend.command.symm.trans hsub.command) (by simp)
  · exact fun id' huns => absurd (hsend.command.symm.trans huns.command) (by simp)
  · intro t body' hsend'
    cases hsend.destination.symm.trans hsend'.destination
    exact hent

end Registered

end Server

end WorldCupInformer
