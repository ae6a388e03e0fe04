import WorldCupInformer.Client.ReceivedMessages
import WorldCupInformer.Session.Requests

/-!
# Published text, from one client to another

A client publishes a body with a SEND frame; the server makes a MESSAGE frame of it for every
subscriber.

* `published_text_unchanged`: the text passes both parsers unchanged, for a destination that is a
  word;
* `publishedMessage_noThrow_iff`: whether the frame makes a subscriber throw depends on the body
  only.
-/

namespace WorldCupInformer

open Client Utf8

/-- A MESSAGE frame as a client with a numbered subscription reads it: the bytes before the NUL. -/
def receivedMessage (messageId : ℕ) (channel : Str) (subscriptionId : ℕ) (message : Str) : Str :=
  bytesOf (buildSendMessage messageId channel (some (natToString subscriptionId)) message).dropLast

/-- The header of that frame. -/
def messageHeader (messageId : ℕ) (g : Str) (subscriptionId : ℕ) : Str :=
  "subscription :" ++ natToString subscriptionId ++ "\nmessage - id :" ++ natToString messageId ++
    "\ndestination :/" ++ bytesOf g

variable {messageId subscriptionId : ℕ} {g message : Str}

theorem receivedMessage_eq : receivedMessage messageId (lit "/" ++ g) subscriptionId message =
    lit "MESSAGE" ++ '\n' :: (messageHeader messageId g subscriptionId ++ lit "\n\n" ++
      bytesOf message) := by
  have hid : bytesOf (natToString subscriptionId) = natToString subscriptionId :=
    bytesOf_of_ascii (ascii_natToString _)
  have hmid : bytesOf (Nat.toDigits 10 messageId) = natToString messageId :=
    bytesOf_of_ascii (ascii_natToString _)
  have hnul : lit "\x00" = ['\x00'] := rfl
  rw [receivedMessage, buildSendMessage, hnul, List.dropLast_concat]
  simp [messageHeader, stringOf, lit, bytesOf_cons, hid, hmid]

/-- The lines of the header. -/
theorem messageHeader_eq (messageId subscriptionId : ℕ) (g : Str) :
    messageHeader messageId g subscriptionId = (lit "\n").intercalate
      [lit "subscription :" ++ natToString subscriptionId,
        lit "message - id :" ++ natToString messageId, lit "destination :/" ++ bytesOf g] := by
  simp [messageHeader, lit, List.intercalate_cons_cons]

theorem newline_notMem_natToString (n : ℕ) : '\n' ∉ natToString n := notMem_natToString (by decide)

/-- **The frame is cut into its command, its header and its body**, whatever the body is. -/
theorem splitFrame_receivedMessage (hg : '\n' ∉ g) :
    splitFrame (receivedMessage messageId (lit "/" ++ g) subscriptionId message) =
      .ok ⟨"MESSAGE", messageHeader messageId g subscriptionId, bytesOf message⟩ := by
  have hg' : '\n' ∉ bytesOf g := fun h => hg ((mem_bytesOf_iff (by decide)).1 h)
  rw [receivedMessage_eq, messageHeader_eq]
  refine splitFrame_lines (by decide) (by simp) (fun l hl => ?_) (bytesOf message)
  fin_cases hl <;> simp [lit, newline_notMem_natToString, hg']

theorem find_destination (messageId subscriptionId : ℕ) (g : Str) :
    find (messageHeader messageId g subscriptionId) "destination :/" =
      (lit "subscription :" ++ natToString subscriptionId ++ lit "\nmessage - id :" ++
        natToString messageId ++ lit "\n").length := by
  have hfree : ∀ n, 'd' ∉ natToString n := fun n => notMem_natToString (by decide)
  set before : Str := lit "subscription :" ++ natToString subscriptionId ++ lit "\nmessage - i"
  set between : Str := lit " :" ++ natToString messageId ++ lit "\n"
  set rest : Str := lit "destination :/" ++ bytesOf g with hrest
  have hheader : messageHeader messageId g subscriptionId = before ++ 'd' :: (between ++ rest) := by
    simp [messageHeader, before, between, rest, lit]
  have hbefore : 'd' ∉ before := by simp [before, lit, hfree]
  have hbetween : 'd' ∉ between := by simp [between, lit, hfree]
  have hpattern : lit "destination :/" = 'd' :: lit "estination :/" := rfl
  have hhere : Text.find? ('d' :: lit "estination :/") rest = some 0 :=
    Text.find?_of_prefix (List.prefix_append _ _)
  have hid : Text.find? ('d' :: lit "estination :/") ('d' :: (between ++ rest)) =
      some (between.length + 1) := by
    -- the `d` of `id` is not followed by an `e`
    have hnot : ¬ 'd' :: lit "estination :/" <+: 'd' :: (between ++ rest) := by
      simp [between, lit, List.cons_prefix_cons]
    rw [Text.find?_cons_of_not_prefix hnot, Text.find?_append hbetween, hhere]
    rfl
  have hfind : Text.find? (lit "destination :/") (before ++ 'd' :: (between ++ rest)) =
      some (before.length + (between.length + 1)) := by
    rw [hpattern, Text.find?_append hbefore, hid]
    rfl
  rw [hheader, find_eq hfind]
  simp [before, between, lit]
  ring

/-- **The destination is cut out of the header.** -/
theorem destinationOf_messageHeader (hg : '\n' ∉ g) :
    destinationOf (messageHeader messageId g subscriptionId) = .ok (bytesOf g) := by
  have hg' : '\n' ∉ bytesOf g := fun h => hg ((mem_bytesOf_iff (by decide)).1 h)
  have hcut : substr (messageHeader messageId g subscriptionId)
      (find (messageHeader messageId g subscriptionId) "destination :/" + 14) npos =
        .ok (bytesOf g) := by
    have hheader : messageHeader messageId g subscriptionId =
        (lit "subscription :" ++ natToString subscriptionId ++ lit "\nmessage - id :" ++
          natToString messageId ++ lit "\n") ++ lit "destination :/" ++ bytesOf g := by
      simp [messageHeader, lit]
    rw [find_destination, hheader]
    exact substr_append (by simp [lit]; ring)
  have hline : find (bytesOf g) "\n" = npos := find_eq_npos (Text.find?_eq_none hg')
  unfold destinationOf
  rw [hcut, ok_bind, hline]
  simp [substr, npos]

/-- **Published text arrives unchanged.**  The server reads a client's SEND frame as it was meant,
and a client reads the MESSAGE frame the server makes of it as it was meant. -/
theorem published_text_unchanged (w : Word) (body : Str) (hbody : '\x00' ∉ body)
    (messageId subscriptionId : ℕ) :
    (∃ hd, orderMsgInHash ("SEND\ndestination :/" ++ w.text ++ "\n\n" ++ body ++ "\x00") = .ok hd ∧
      hd.get "COMMAND" = some (lit "SEND") ∧ hd.get "destination" = some (lit "/" ++ w.text) ∧
      hd.get "BODY" = some body) ∧
    ∃ header,
      splitFrame (receivedMessage messageId (lit "/" ++ w.text) subscriptionId body) =
        .ok ⟨"MESSAGE", header, bytesOf body⟩ ∧
      destinationOf header = .ok (bytesOf w.text) ∧
      ∀ p : StompProtocol,
        p.processFrame (receivedMessage messageId (lit "/" ++ w.text) subscriptionId body) =
          p.handleMessageFrame header (bytesOf body) := by
  have hg : '\n' ∉ w.text := w.plain.newline
  constructor
  · obtain ⟨hd, hdecode, hsend, -⟩ := decodes_send w.plain hbody
    refine ⟨hd, ?_, hsend.command, hsend.destination, hsend.body⟩
    rw [← hdecode]
    simp [sendMessage, frameText, headerLine, lit]
  · refine ⟨messageHeader messageId w.text subscriptionId, splitFrame_receivedMessage hg,
      destinationOf_messageHeader hg, fun p => ?_⟩
    exact StompProtocol.processFrame_of_splitFrame (splitFrame_receivedMessage hg)

theorem published_text_example :
    (∃ hd, orderMsgInHash ("SEND\ndestination :/" ++ lit "a_b" ++ "\n\n" ++
        lit "\n\nid :1\n" ++ "\x00") = .ok hd ∧
      hd.get "COMMAND" = some (lit "SEND") ∧ hd.get "destination" = some (lit "/" ++ lit "a_b") ∧
      hd.get "BODY" = some (lit "\n\nid :1\n")) ∧
    ∃ header,
      splitFrame (receivedMessage 0 (lit "/" ++ lit "a_b") 0 "\n\nid :1\n") =
        .ok ⟨"MESSAGE", header, bytesOf "\n\nid :1\n"⟩ ∧
      destinationOf header = .ok (bytesOf "a_b") ∧
      ∀ p : StompProtocol,
        p.processFrame (receivedMessage 0 (lit "/" ++ lit "a_b") 0 "\n\nid :1\n") =
          p.handleMessageFrame header (bytesOf "\n\nid :1\n") :=
  published_text_unchanged ⟨"a_b", by decide, by simp [lit, isSpace], by decide⟩ "\n\nid :1\n"
    (by decide) 0 0

/-- A body that a client can read: it has five bytes, and no line before the first heading is the
bare `event name:`. -/
def ReadableBody (body : Str) : Prop :=
  5 ≤ (bytesOf body).length ∧ Client.Game.NamesEvents (lines (bytesOf body))

/-- **Whether published text makes a subscriber throw** depends on the body only: it does not
exactly when the body is readable. -/
theorem publishedMessage_noThrow_iff {msg : Str} {hd : HeaderTable}
    (hmsg : orderMsgInHash msg = .ok hd) (hdest : hd.get "destination" = some (lit "/" ++ g))
    (message : Str) (messageId subscriptionId : ℕ) (p : StompProtocol) :
    NoThrow (p.processFrame (receivedMessage messageId (lit "/" ++ g) subscriptionId message)) ↔
      ReadableBody message := by
  have hg : '\n' ∉ g := fun h =>
    notMem_of_orderMsgInHash hmsg (by simp) (by simp) hdest (List.mem_cons_of_mem _ h)
  rw [StompProtocol.processFrame_of_splitFrame (splitFrame_receivedMessage hg)]
  exact StompProtocol.handleMessageFrame_noThrow_iff (destinationOf_messageHeader hg)

theorem plain_ab : Plain "a_b" := ⟨⟨by decide, by decide, by decide⟩, by decide⟩

theorem not_forall_publishedMessage_noThrow : ¬ ∀ (msg : Str) (hd : HeaderTable) (g message : Str),
    orderMsgInHash msg = .ok hd → hd.get "destination" = some (lit "/" ++ g) →
    hd.get "BODY" = some message → ∀ (messageId subscriptionId : ℕ) (p : StompProtocol),
    NoThrow (p.processFrame (receivedMessage messageId (lit "/" ++ g) subscriptionId message)) := by
  intro hall
  have hnul : '\x00' ∉ ([] : Str) := List.not_mem_nil
  obtain ⟨hd, hdecode, hsend, -⟩ := decodes_send (g := "a_b") plain_ab hnul
  have hreturns := hall _ hd "a_b" [] hdecode hsend.destination hsend.body 0 0 {}
  rw [StompProtocol.processFrame_of_splitFrame (splitFrame_receivedMessage plain_ab.newline),
    StompProtocol.handleMessageFrame_noThrow_iff
      (destinationOf_messageHeader plain_ab.newline)] at hreturns
  exact absurd hreturns.1 (by decide)

/-- A client reads a body of one line. -/
theorem publishedMessage_noThrow :
    NoThrow (StompProtocol.processFrame {}
      (receivedMessage 0 (lit "/" ++ lit "a_b") 0 "user: x\n")) := by
  have hnul : '\x00' ∉ lit "user: x\n" := by decide
  obtain ⟨hd, hdecode, hsend, -⟩ := decodes_send (g := "a_b") plain_ab hnul
  refine (publishedMessage_noThrow_iff hdecode hsend.destination "user: x\n" 0 0 {}).2
    ⟨by decide, fun before after hlines => ?_⟩
  have hmem : lit "event name:" ∈ lines (bytesOf "user: x\n") := by simp [hlines]
  exact absurd hmem (by decide +kernel)

end WorldCupInformer
