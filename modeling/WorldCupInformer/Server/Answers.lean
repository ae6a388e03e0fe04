import WorldCupInformer.Server.Exceptions
import WorldCupInformer.Server.Subscribers

/-!
# How a frame is answered

A frame of a registered connection is rejected, accepted, or ends with an exception.

* `handled_cases`: the three ways, with the RECEIPT frames its sender gets;
* `receipts_honoured_iff`: the receipt a frame asks for is given exactly when its handler is not one
  of the two that look for another header;
* `connects_legally_iff`: CONNECT is accepted exactly when it is legal, except that a wrong version
  and a wrong host are accepted from a frame that lacks no header.
-/

namespace WorldCupInformer

open ConnectionsImp

/-! ### RECEIPT frames -/

/-- The RECEIPT frames among what is sent to the handler. -/
def receiptsTo (d : ConnectionHandler) (calls : List Call) : List Str :=
  (sentTo d calls).filter (HasCommand "RECEIPT" ·)

section Receipts

variable {d h : ConnectionHandler} {s : ConnectionsImp} {c : ℕ} {hd : HeaderTable}

theorem not_hasCommand_of_head (cmd : String) {x : Char} {m : Str} (hm : m.head? ≠ some x)
    (hcmd : (lit cmd).head? = some x) : ¬ HasCommand cmd m := by
  rintro ⟨rest, rfl⟩
  cases hlit : lit cmd with
  | nil => simp [hlit] at hcmd
  | cons y l => simp_all

theorem hasCommand_receiptFrame (r : Str) : HasCommand "RECEIPT" (ReceiptFrame.toString r) := by
  unfold ReceiptFrame.toString
  simp only [List.append_assoc]
  exact List.prefix_append (lit "RECEIPT\n") _

@[simp] theorem receiptsTo_append (l l' : List Call) :
    receiptsTo d (l ++ l') = receiptsTo d l ++ receiptsTo d l' := by
  simp [receiptsTo, sentTo_append]

theorem receiptsTo_receiptCalls (r : Option Str) :
    receiptsTo h (receiptCalls h r) = (r.map ReceiptFrame.toString).toList := by
  rw [receiptsTo, sentTo_receiptCalls, if_pos rfl, List.filter_eq_self]
  intro m hm
  obtain ⟨r', -, rfl⟩ := Option.map_eq_some_iff.1 (Option.mem_toList.1 hm)
  exact decide_eq_true (hasCommand_receiptFrame r')

/-- No other frame is a RECEIPT. -/
theorem receiptsTo_eq_nil {l : List Call} (hl : ∀ m, Call.send d m ∈ l → m.head? ≠ some 'R') :
    receiptsTo d l = [] := by
  rw [receiptsTo, List.filter_eq_nil_iff]
  intro m hm
  have hreceipt := not_hasCommand_of_head "RECEIPT" (hl m (mem_sentTo.1 hm)) rfl
  simpa using hreceipt

theorem receiptsTo_broadcastCalls (t body : Str) : receiptsTo d (broadcastCalls s t body) = [] :=
  receiptsTo_eq_nil fun m hm => by simp [head_of_mem_broadcastCalls hm]

theorem receiptsTo_rejects {s₁ : ConnectionsImp} {pre : List Call} {errors : List Str}
    (hrej : Rejects s c h hd s₁ pre errors) :
    receiptsTo d (pre ++ rejectCalls c h errors hd) = [] :=
  receiptsTo_eq_nil fun m hm => by simp [(hrej.mem_calls hm).2]

end Receipts

/-! ### The ways a frame is handled -/

/-- The handler that accepts the frame looks for a header `receipt-id`: it is a CONNECT that logs
in, or a SEND to a topic of the client. -/
inductive LooksForReceiptId (s : ConnectionsImp) (h : ConnectionHandler) (hd : HeaderTable) : Prop
  | connect {v host u p : Str} (hcon : hd.IsConnect v host u p) (herr : s.connectErrors h u p = [])
  | send {t body : Str} (hsend : hd.IsSend t body) (hent : s.entry t h ≠ none)

theorem Rejects.not_looksForReceiptId {s s₁ : ConnectionsImp} {c : ℕ} {h : ConnectionHandler}
    {hd : HeaderTable} {pre : List Call} {errors : List Str}
    (hrej : Rejects s c h hd s₁ pre errors) : ¬ LooksForReceiptId s h hd := by
  rintro (@⟨v, host, u, p, hcon, herr⟩ | @⟨t, body, hsend, hent⟩)
  · have hcmd := hcon.command
    cases hrej with
    | connectMalformed _ hmiss => exact hmiss ⟨v, host, u, p, hcon⟩
    | connect hcon' herr' =>
      cases hcon.login.symm.trans hcon'.login
      cases hcon.passcode.symm.trans hcon'.passcode
      exact herr' herr
    | subscribe hsub => simp [hsub.command] at hcmd
    | unsubscribe huns => simp [huns.command] at hcmd
    | unsubscribeEmpty huns => simp [huns.command] at hcmd
    | _ => simp_all
  · have hcmd := hsend.command
    cases hrej with
    | sendMalformed _ hmiss => simp [hsend.destination] at hmiss
    | send _ hdest hent' =>
      cases hsend.destination.symm.trans hdest
      exact hent hent'
    | connect hcon => simp [hcon.command] at hcmd
    | subscribe hsub => simp [hsub.command] at hcmd
    | unsubscribe huns => simp [huns.command] at hcmd
    | unsubscribeEmpty huns => simp [huns.command] at hcmd
    | _ => simp_all

/-- No other command looks for it. -/
theorem not_looksForReceiptId_of_command {s : ConnectionsImp} {h : ConnectionHandler}
    {hd : HeaderTable} {cmd : String} (hcmd : hd.get "COMMAND" = some (lit cmd))
    (hconnect : cmd ≠ "CONNECT") (hsend : cmd ≠ "SEND") : ¬ LooksForReceiptId s h hd := by
  rintro (⟨hcon, -⟩ | ⟨hsend', -⟩)
  · exact hconnect (lit_inj.1 (Option.some.inj (hcmd.symm.trans hcon.command)))
  · exact hsend (lit_inj.1 (Option.some.inj (hcmd.symm.trans hsend'.command)))

namespace Server

/-- The RECEIPT frames the client gets in answer to its message. -/
def receipts (s : Server) (c : ℕ) (h : ConnectionHandler) (msg : Str) : List Str :=
  receiptsTo h (s.handle (.message c msg)).calls

/-- The message is handled to its end, and not answered with ERROR. -/
def Accepts (s : Server) (c : ℕ) (h : ConnectionHandler) (msg : Str) : Prop :=
  raised (process c msg) s.connections = none ∧ ¬ s.Answers (.message c msg) "ERROR" h

variable {s : Server} {c : ℕ} {h : ConnectionHandler} {hd : HeaderTable} {msg : Str}

/-- The frame has one of the five commands. -/
def HasKnownCommand (hd : HeaderTable) : Prop :=
  ∃ cmd ∈ ["CONNECT", "DISCONNECT", "SEND", "SUBSCRIBE", "UNSUBSCRIBE"],
    hd.get "COMMAND" = some (lit cmd)

/-- Only a rejected frame is answered with ERROR. -/
theorem not_answers_error {calls : List Call} (hcalls : (s.handle (.message c msg)).calls = calls)
    (hl : ∀ m, Call.send h m ∈ calls → m.head? ≠ some 'E') :
    ¬ s.Answers (.message c msg) "ERROR" h := by
  rintro ⟨m, hm, hp⟩
  rw [hcalls] at hm
  exact not_hasCommand_of_head "ERROR" (hl m (mem_sentTo.1 hm)) rfl hp

/-- CONNECT, SEND and SUBSCRIBE end without an exception. -/
theorem raised_eq_none_of_command (hs : s.WellFormed)
    (hreg : s.connections.idToHandler.lookup c = some h) (hmsg : orderMsgInHash msg = .ok hd)
    (cmd : String) (hcmd : hd.get "COMMAND" = some (lit cmd)) (hdis : cmd ≠ "DISCONNECT")
    (huns : cmd ≠ "UNSUBSCRIBE") : raised (process c msg) s.connections = none := by
  refine (raised_eq_none_iff hs hreg hmsg).2 ⟨?_, ?_⟩
  · rintro ⟨⟨r, hdisconnect⟩, -⟩
    exact hdis (lit_inj.1 (Option.some.inj (hcmd.symm.trans hdisconnect.command)))
  · rintro ⟨⟨id, hunsubscribe⟩, -⟩
    exact huns (lit_inj.1 (Option.some.inj (hcmd.symm.trans hunsubscribe.command)))

/-- **How a frame of a registered connection is handled**: it is rejected; it is accepted by a
handler that looks for `receipt-id`, or by one that looks for `receipt`; or it ends with an
exception.  The receipts are those of the header. -/
theorem handled_cases (hs : s.WellFormed) (hreg : s.connections.idToHandler.lookup c = some h)
    (hmsg : orderMsgInHash msg = .ok hd) (hknown : HasKnownCommand hd) :
    (s.Answers (.message c msg) "ERROR" h ∧ s.receipts c h msg = [] ∧
      ¬ LooksForReceiptId s.connections h hd) ∨
    (s.Accepts c h msg ∧ LooksForReceiptId s.connections h hd ∧
      s.receipts c h msg = ((hd.get "receipt-id").map ReceiptFrame.toString).toList) ∨
    (s.Accepts c h msg ∧ ¬ LooksForReceiptId s.connections h hd ∧
      s.receipts c h msg = ((hd.get "receipt").map ReceiptFrame.toString).toList) ∨
    (raised (process c msg) s.connections ≠ none ∧ ¬ s.Answers (.message c msg) "ERROR" h ∧
      ¬ LooksForReceiptId s.connections h hd) := by
  have he : Effect s.connections c hd (s.handle (.message c msg)) := by
    rw [handle_decoded hmsg]
    exact act_effect hs.backed (orderMsgInHash_body hmsg)
  have hraised := raised_eq_none_iff hs hreg hmsg
  have hreturns := raised_eq_none_of_command hs hreg hmsg
  unfold Accepts receipts
  generalize hexec : s.handle (.message c msg) = e at he
  have hcalls : (s.handle (.message c msg)).calls = e.calls := congrArg Exec.calls hexec
  cases he with
  | ignored hother =>
    obtain ⟨cmd, hcmd, heq⟩ := hknown
    exact absurd heq (hother cmd hcmd)
  | unregistered hreg' => simp [hreg] at hreg'
  | opened hreg' => simp [hreg] at hreg'
  | @rejected h' s₁ pre errors hreg' hrej =>
    cases hreg.symm.trans hreg'
    refine .inl ⟨⟨ErrorFrame.toString errors hd, ?_, hasCommand_errorFrame errors hd⟩,
      receiptsTo_rejects hrej, hrej.not_looksForReceiptId⟩
    rw [hcalls, mem_sentTo]
    simp [rejectCalls]
  | @connected h' v host u p hreg' hcon herr =>
    cases hreg.symm.trans hreg'
    refine .inr (.inl ⟨⟨hreturns _ hcon.command (by decide) (by decide),
      not_answers_error hcalls fun m hm => ?_⟩, .connect hcon herr, ?_⟩)
    · rcases List.mem_cons.1 hm with heq | hm
      · cases heq
        simp
      · simp [head_of_mem_receiptCalls hm]
    · have hfirst : receiptsTo h [Call.send h (ConnectFrame.buildResponseFrame (some v))] = [] :=
        receiptsTo_eq_nil fun m hm => by
          simp only [List.mem_singleton, Call.send.injEq, true_and] at hm
          simp [hm]
      rw [← List.singleton_append, receiptsTo_append, hfirst, receiptsTo_receiptCalls,
        List.nil_append]
  | @broadcast h' t body hreg' hsend hent =>
    cases hreg.symm.trans hreg'
    refine .inr (.inl ⟨⟨hreturns _ hsend.command (by decide) (by decide),
      not_answers_error hcalls fun m hm => ?_⟩, .send hsend hent, ?_⟩)
    · rcases List.mem_append.1 hm with hm | hm
      · simp [head_of_mem_broadcastCalls hm]
      · simp [head_of_mem_receiptCalls hm]
    · rw [receiptsTo_append, receiptsTo_broadcastCalls, receiptsTo_receiptCalls, List.nil_append]
  | @disconnected h' r u hreg' hdis hu =>
    cases hreg.symm.trans hreg'
    have hcmd := hdis.command
    refine .inr (.inr (.inl ⟨⟨hraised.2 ⟨?_, ?_⟩, not_answers_error hcalls fun m hm => ?_⟩,
      not_looksForReceiptId_of_command hcmd (by decide) (by decide), ?_⟩))
    · rintro ⟨-, hnone⟩
      simp [hu] at hnone
    · rintro ⟨⟨id, huns⟩, -⟩
      simp [huns.command] at hcmd
    · simp only [List.mem_cons, Call.send.injEq, reduceCtorEq, List.not_mem_nil, or_false] at hm
      simp [hm.2]
    · have hfirst := receiptsTo_receiptCalls (h := h) (some r)
      have hrest : receiptsTo h [.disconnect c, .terminate h] = [] :=
        receiptsTo_eq_nil fun m hm => by simp at hm
      rw [← List.singleton_append, receiptsTo_append, hrest, List.append_nil, hdis.receipt]
      exact hfirst
  | @anonymous h' r hreg' hdis hu =>
    cases hreg.symm.trans hreg'
    have hcmd := hdis.command
    refine .inr (.inr (.inr ⟨fun hnone => (hraised.1 hnone).1 ⟨⟨r, hdis⟩, hu⟩,
      not_answers_error hcalls fun m hm => by simp at hm,
      not_looksForReceiptId_of_command hcmd (by decide) (by decide)⟩))
  | @subscribed h' t id hreg' hsub hent =>
    cases hreg.symm.trans hreg'
    have hcmd := hsub.command
    refine .inr (.inr (.inl ⟨⟨hreturns _ hsub.command (by decide) (by decide),
      not_answers_error hcalls fun m hm => ?_⟩,
      not_looksForReceiptId_of_command hcmd (by decide) (by decide), ?_⟩))
    · have hm : Call.send h m ∈ receiptCalls h (hd.get "receipt") := by simpa using hm
      simp [head_of_mem_receiptCalls hm]
    · exact receiptsTo_receiptCalls (hd.get "receipt")
  | @unsubscribed h' t id hreg' huns htop =>
    cases hreg.symm.trans hreg'
    have hcmd := huns.command
    refine .inr (.inr (.inl ⟨⟨hraised.2 ⟨?_, ?_⟩, not_answers_error hcalls fun m hm => ?_⟩,
      not_looksForReceiptId_of_command hcmd (by decide) (by decide), ?_⟩))
    · rintro ⟨⟨r, hdis⟩, -⟩
      simp [hdis.command] at hcmd
    · rintro ⟨-, -, hnone⟩
      simp [topicOf, Dict.lookup₂, hnone] at htop
    · have hm : Call.send h m ∈ receiptCalls h (hd.get "receipt") := by simpa using hm
      simp [head_of_mem_receiptCalls hm]
    · exact receiptsTo_receiptCalls (hd.get "receipt")
  | @unindexed h' id hreg' huns hent hidx =>
    cases hreg.symm.trans hreg'
    have hcmd := huns.command
    refine .inr (.inr (.inr ⟨fun hnone => (hraised.1 hnone).2 ⟨⟨id, huns⟩, hent, hidx⟩,
      not_answers_error hcalls fun m hm => by simp at hm,
      not_looksForReceiptId_of_command hcmd (by decide) (by decide)⟩))

/-! ### Receipts -/

/-- An accepted frame is answered with the RECEIPT it asks for and with no other, a rejected frame
with none. -/
structure HonoursReceipt (s : Server) (c : ℕ) (h : ConnectionHandler) (msg r : Str) : Prop where
  accepted : s.Accepts c h msg → s.receipts c h msg = [ReceiptFrame.toString r]
  rejected : s.Answers (.message c msg) "ERROR" h → s.receipts c h msg = []

theorem toString_receiptFrame_injective : Function.Injective ReceiptFrame.toString := by
  intro r r' heq
  unfold ReceiptFrame.toString at heq
  exact List.append_cancel_left (List.append_cancel_right heq)

/-- **Receipts are honoured** exactly where the header `receipt` is looked for: CONNECT and SEND
look for `receipt-id` instead. -/
theorem receipts_honoured_iff (es : List Event) (c : ℕ) (h : ConnectionHandler) (msg r : Str)
    (hd : HeaderTable) (hreg : (atServer es).connections.idToHandler.lookup c = some h)
    (hmsg : orderMsgInHash msg = .ok hd) (hknown : HasKnownCommand hd)
    (hr : hd.get "receipt" = some r) :
    (atServer es).HonoursReceipt c h msg r ↔
      (LooksForReceiptId (atServer es).connections h hd → hd.get "receipt-id" = some r) := by
  rcases handled_cases (wellFormed_atServer es) hreg hmsg hknown with
    ⟨herr, hnone, hother⟩ | ⟨haccept, hlooks, hreceipts⟩ | ⟨haccept, hother, hreceipts⟩ |
    ⟨hraised, herr, hother⟩
  · exact iff_of_true ⟨fun haccept => absurd herr haccept.2, fun _ => hnone⟩ fun hlooks =>
      absurd hlooks hother
  · constructor
    · intro hhonours _
      have hsame := hreceipts.symm.trans (hhonours.accepted haccept)
      cases hid : hd.get "receipt-id" with
      | none => simp [hid] at hsame
      | some r' =>
        rw [hid] at hsame
        exact congrArg some (toString_receiptFrame_injective (List.cons.inj hsame).1)
    · intro hid
      refine ⟨fun _ => ?_, fun herr => absurd herr haccept.2⟩
      rw [hreceipts, hid hlooks]
      rfl
  · refine iff_of_true ⟨fun _ => ?_, fun herr => absurd herr haccept.2⟩ fun hlooks =>
      absurd hlooks hother
    rw [hreceipts, hr]
    rfl
  · exact iff_of_true ⟨fun haccept => absurd haccept.1 hraised, fun h => absurd h herr⟩
      fun hlooks => absurd hlooks hother

/-- A client has logged in and subscribed to `/g`. -/
def subscribedRun : List Event :=
  loggedInRun ++ [.message 0 "SUBSCRIBE\ndestination :/g\nid :0\nreceipt :0\n\n\x00"]

/-- A report with a receipt. -/
def reportText : Str := "SEND\ndestination :/g\nreceipt :7\n\ngoal!\n\x00"

/-- The report is accepted without a receipt. -/
theorem not_forall_receipts_honoured : ¬ ∀ (es : List Event) (c : ℕ) (h : ConnectionHandler)
    (msg r : Str) (hd : HeaderTable), (atServer es).connections.idToHandler.lookup c = some h →
    orderMsgInHash msg = .ok hd → HasKnownCommand hd → hd.get "receipt" = some r →
    (atServer es).HonoursReceipt c h msg r := by
  intro hall
  obtain ⟨hd, hmsg, hcmd, hr⟩ : Decodes reportText fun hd =>
      hd.get "COMMAND" = some (lit "SEND") ∧ hd.get "receipt" = some "7" := by decide +kernel
  have hhonours := hall subscribedRun 0 ⟨0⟩ reportText "7" hd (by decide +kernel) hmsg
    ⟨"SEND", by decide, hcmd⟩ hr
  have haccept : (atServer subscribedRun).Accepts 0 ⟨0⟩ reportText :=
    ⟨by decide +kernel, by decide +kernel⟩
  have hreceipts := hhonours.accepted haccept
  revert hreceipts
  decide +kernel

/-- A SUBSCRIBE gets its receipt. -/
theorem subscribe_receipt_honoured : (atServer loggedInRun).HonoursReceipt 0 ⟨0⟩
    "SUBSCRIBE\ndestination :/g\nid :0\nreceipt :0\n\n\x00" "0" := by
  obtain ⟨hd, hmsg, hcmd, hr⟩ : Decodes "SUBSCRIBE\ndestination :/g\nid :0\nreceipt :0\n\n\x00"
      fun hd => hd.get "COMMAND" = some (lit "SUBSCRIBE") ∧ hd.get "receipt" = some "0" := by
    decide +kernel
  refine (receipts_honoured_iff loggedInRun 0 ⟨0⟩ _ "0" hd (by decide +kernel) hmsg
    ⟨"SUBSCRIBE", by decide, hcmd⟩ hr).2 fun hlooks => ?_
  exact absurd hlooks (not_looksForReceiptId_of_command hcmd (by decide) (by decide))

/-! ### CONNECT -/

/-- A CONNECT that ought to be accepted. -/
structure LegalConnect (s : ConnectionsImp) (c : ℕ) (hd : HeaderTable) (u p : Str) : Prop where
  version : hd.get "accept - version" = some (lit "1.2")
  host : hd.get "host" = some (lit " stomp . cs . bgu . ac . il")
  login : hd.get "login" = some u
  passcode : hd.get "passcode" = some p
  fresh : ∀ u', ¬ s.SessionOf c u'
  elsewhere : ∀ i, i ≠ c → ¬ s.SessionOf i u
  password : s.usernameToPass.lookup u = some p ∨ s.usernameToPass.lookup u = none

/-- CONNECTED is the answer to a legal CONNECT, and to any other ERROR and `disconnect`. -/
structure ConnectsLegally (s : Server) (c : ℕ) (h : ConnectionHandler) (msg : Str)
    (hd : HeaderTable) : Prop where
  accepted : s.Answers (.message c msg) "CONNECTED" h ↔ ∃ u p, LegalConnect s.connections c hd u p
  rejected : (¬ ∃ u p, LegalConnect s.connections c hd u p) →
    s.Answers (.message c msg) "ERROR" h ∧ Call.disconnect c ∈ (s.handle (.message c msg)).calls ∧
      (s.step (.message c msg)).connections.idToHandler.lookup c = none

/-- The check of a CONNECT with its four headers passes exactly when its user may log in here. -/
theorem connectErrors_eq_nil_iff (hs : s.WellFormed)
    (hreg : s.connections.idToHandler.lookup c = some h) (u p : Str) :
    s.connections.connectErrors h u p = [] ↔
      (∀ u', ¬ s.connections.SessionOf c u') ∧ (∀ i, i ≠ c → ¬ s.connections.SessionOf i u) ∧
        (s.connections.usernameToPass.lookup u = some p ∨
          s.connections.usernameToPass.lookup u = none) := by
  have hfresh : s.connections.clientToUsername.lookup h = none ↔
      ∀ u', ¬ s.connections.SessionOf c u' := by
    simp only [WellFormed.sessionOf_iff hreg]
    cases s.connections.clientToUsername.lookup h <;> simp
  rw [connectErrors_eq_nil, hfresh, hs.logged, or_comm]
  constructor
  · rintro ⟨hhere, hout, hpass⟩
    exact ⟨hhere, fun i _ hi => hout ⟨i, hi⟩, hpass⟩
  · rintro ⟨hhere, hout, hpass⟩
    refine ⟨hhere, ?_, hpass⟩
    rintro ⟨i, hi⟩
    by_cases hic : i = c
    · exact hhere u (hic ▸ hi)
    · exact hout i hic hi

/-- A CONNECT that is not accepted is rejected. -/
theorem connect_rejected {s : ConnectionsImp} {e : Exec} (he : Effect s c hd e)
    (hreg : s.idToHandler.lookup c = some h) (hcmd : hd.get "COMMAND" = some (lit "CONNECT"))
    (hcon : ¬ ∃ v host u p, hd.IsConnect v host u p ∧ s.connectErrors h u p = []) :
    ∃ s₁ pre errors, Rejects s c h hd s₁ pre errors ∧
      e = ⟨s₁.drop c h, pre ++ rejectCalls c h errors hd⟩ := by
  cases he with
  | @rejected h' s₁ pre errors hreg' hrej =>
    cases hreg.symm.trans hreg'
    exact ⟨s₁, pre, errors, hrej, rfl⟩
  | @connected h' v host u p hreg' hcon' herr =>
    cases hreg.symm.trans hreg'
    exact absurd ⟨v, host, u, p, hcon', herr⟩ hcon
  | ignored hother => exact absurd hcmd (hother "CONNECT" (by simp))
  | unregistered hreg' => simp [hreg] at hreg'
  | opened hreg' => simp [hreg] at hreg'
  | disconnected _ hdis => simp [hdis.command] at hcmd
  | anonymous _ hdis => simp [hdis.command] at hcmd
  | broadcast _ hsend => simp [hsend.command] at hcmd
  | subscribed _ hsub => simp [hsub.command] at hcmd
  | unsubscribed _ huns => simp [huns.command] at hcmd
  | unindexed _ huns => simp [huns.command] at hcmd

/-- A CONNECT is rejected, or it is accepted with its four headers and without an error. -/
theorem connect_cases (hs : s.WellFormed) (hreg : s.connections.idToHandler.lookup c = some h)
    (hmsg : orderMsgInHash msg = .ok hd) (hcmd : hd.get "COMMAND" = some (lit "CONNECT")) :
    (s.Answers (.message c msg) "ERROR" h ∧ ¬ s.Answers (.message c msg) "CONNECTED" h ∧
      Call.disconnect c ∈ (s.handle (.message c msg)).calls ∧
      (s.step (.message c msg)).connections.idToHandler.lookup c = none ∧
      ¬ ∃ v host u p, hd.IsConnect v host u p ∧ s.connections.connectErrors h u p = []) ∨
    (s.Answers (.message c msg) "CONNECTED" h ∧ ¬ s.Answers (.message c msg) "ERROR" h ∧
      ∃ v host u p, hd.IsConnect v host u p ∧ s.connections.connectErrors h u p = []) := by
  by_cases hcon : ∃ v host u p, hd.IsConnect v host u p ∧ s.connections.connectErrors h u p = []
  · obtain ⟨v, host, u, p, hcon, herr⟩ := hcon
    have hrun := run_connectFrame (l := []) hreg hcon herr
    rw [← run_act_connect c hcmd] at hrun
    have hcalls := congrArg Exec.calls ((handle_decoded hmsg c).trans (after_of_ok hrun))
    refine .inr ⟨⟨_, ?_, hasCommand_connectedFrame (some v)⟩,
      not_answers_error hcalls fun m hm => ?_, v, host, u, p, hcon, herr⟩
    · rw [hcalls, mem_sentTo]
      exact List.mem_cons_self
    · rcases List.mem_cons.1 hm with heq | hm
      · cases heq
        simp
      · simp [head_of_mem_receiptCalls hm]
  · refine .inl ?_
    have he : Effect s.connections c hd (s.handle (.message c msg)) := by
      rw [handle_decoded hmsg]
      exact act_effect hs.backed (orderMsgInHash_body hmsg)
    obtain ⟨s₁, pre, errors, hrej, hexec⟩ := connect_rejected he hreg hcmd hcon
    have hdrop : (s.step (.message c msg)).connections = s₁.drop c h :=
      congrArg Exec.connections hexec
    refine ⟨⟨ErrorFrame.toString errors hd, ?_, hasCommand_errorFrame errors hd⟩, ?_, ?_, ?_, hcon⟩
    · rw [hexec, mem_sentTo]
      simp [rejectCalls]
    · rintro ⟨m, hm, hp⟩
      obtain ⟨v, host, u, p, -, hcon', herr, -⟩ := he.connected_of_answer (mem_sentTo.1 hm) hp
      exact hcon ⟨v, host, u, p, hcon', herr⟩
    · rw [hexec]
      simp [rejectCalls]
    · rw [hdrop]
      simp [ConnectionsImp.drop]

/-- **CONNECT is accepted exactly when it is legal**, unless a frame with its four headers passes
the checks of session and password with another version or host. -/
theorem connects_legally_iff (es : List Event) (c : ℕ) (h : ConnectionHandler) (msg : Str)
    (hd : HeaderTable) (hreg : (atServer es).connections.idToHandler.lookup c = some h)
    (hmsg : orderMsgInHash msg = .ok hd) (hcmd : hd.get "COMMAND" = some (lit "CONNECT")) :
    (atServer es).ConnectsLegally c h msg hd ↔ ∀ v host u p, hd.IsConnect v host u p →
      (atServer es).connections.connectErrors h u p = [] →
      v = "1.2" ∧ host = " stomp . cs . bgu . ac . il" := by
  have hs := wellFormed_atServer es
  have hlegal : ∀ u p, LegalConnect (atServer es).connections c hd u p →
      hd.IsConnect "1.2" " stomp . cs . bgu . ac . il" u p ∧
        (atServer es).connections.connectErrors h u p = [] := fun u p hl =>
    ⟨⟨hcmd, hl.version, hl.host, hl.login, hl.passcode⟩,
      (connectErrors_eq_nil_iff hs hreg u p).2 ⟨hl.fresh, hl.elsewhere, hl.password⟩⟩
  rcases connect_cases hs hreg hmsg hcmd with ⟨herror, hnot, hdisconnect, hgone, hnone⟩ |
    ⟨hconnected, herror, v, host, u, p, hcon, herr⟩
  · refine iff_of_true ⟨iff_of_false hnot ?_, fun _ => ⟨herror, hdisconnect, hgone⟩⟩
      fun v host u p hcon herr => absurd ⟨v, host, u, p, hcon, herr⟩ hnone
    rintro ⟨u, p, hl⟩
    obtain ⟨hcon, herr⟩ := hlegal u p hl
    exact hnone ⟨_, _, u, p, hcon, herr⟩
  · constructor
    · intro hlegally v' host' u' p' hcon' _
      obtain ⟨u'', p'', hl⟩ := hlegally.accepted.1 hconnected
      exact ⟨Option.some.inj (hcon'.version.symm.trans hl.version),
        Option.some.inj (hcon'.host.symm.trans hl.host)⟩
    · intro hright
      obtain ⟨rfl, rfl⟩ := hright v host u p hcon herr
      obtain ⟨hfresh, helsewhere, hpass⟩ := (connectErrors_eq_nil_iff hs hreg u p).1 herr
      have hl : ∃ u p, LegalConnect (atServer es).connections c hd u p :=
        ⟨u, p, hcon.version, hcon.host, hcon.login, hcon.passcode, hfresh, helsewhere, hpass⟩
      exact ⟨iff_of_true hconnected hl, fun hno => absurd hl hno⟩

/-- The CONNECT of a client that speaks version 1.1. -/
def oldVersionText : Str :=
  "CONNECT\naccept - version :1.1\nhost : stomp . cs . bgu . ac . il\n" ++
    "login :bob\npasscode :pw\n\n\x00"

/-- Version 1.1 is accepted. -/
theorem not_forall_connects_legally : ¬ ∀ (es : List Event) (c : ℕ) (h : ConnectionHandler)
    (msg : Str) (hd : HeaderTable), (atServer es).connections.idToHandler.lookup c = some h →
    orderMsgInHash msg = .ok hd → hd.get "COMMAND" = some (lit "CONNECT") →
    (atServer es).ConnectsLegally c h msg hd := by
  intro hall
  obtain ⟨hd, hmsg, hcmd, hversion⟩ : Decodes oldVersionText fun hd =>
      hd.get "COMMAND" = some (lit "CONNECT") ∧ hd.get "accept - version" = some (lit "1.1") := by
    decide +kernel
  have hlegally := hall [.accept] 0 ⟨0⟩ oldVersionText hd (by decide +kernel) hmsg hcmd
  have hconnected : (atServer [.accept]).Answers (.message 0 oldVersionText) "CONNECTED" ⟨0⟩ := by
    decide +kernel
  obtain ⟨u, p, hl⟩ := hlegally.accepted.1 hconnected
  exact absurd (hversion.symm.trans hl.version) (by decide)

/-- A CONNECT without a passcode is rejected. -/
theorem connect_without_passcode : ∃ hd, (atServer [.accept]).ConnectsLegally 0 ⟨0⟩
    "CONNECT\naccept - version :1.2\nhost : stomp . cs . bgu . ac . il\nlogin :bob\n\n\x00" hd := by
  obtain ⟨hd, hmsg, hcmd, hpass⟩ : Decodes
      "CONNECT\naccept - version :1.2\nhost : stomp . cs . bgu . ac . il\nlogin :bob\n\n\x00"
      fun hd => hd.get "COMMAND" = some (lit "CONNECT") ∧ hd.get "passcode" = none := by
    decide +kernel
  refine ⟨hd, (connects_legally_iff [.accept] 0 ⟨0⟩ _ hd (by decide +kernel) hmsg hcmd).2
    fun v host u p hcon _ => ?_⟩
  have hpassed := hcon.passcode
  simp [hpass] at hpassed

end Server

end WorldCupInformer
