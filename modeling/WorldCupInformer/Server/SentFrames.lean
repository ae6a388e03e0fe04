import WorldCupInformer.Server.Exceptions
import WorldCupInformer.Server.Invariants
import WorldCupInformer.Server.ReadTasks

/-!
# The frames the server sends

A message that the decoder delivers ends with its only NUL.  The header table, the subscription ids
in the registries and the errors hold none, and so every frame that is sent, with all that it
repeats of messages, ends with its only NUL again.

* `decodeBytes_init`: the decoder cuts the stream behind every zero byte;
* `nulFree_of_orderMsgInHash`: a message brings no NUL into its table;
* `Effect.nulEnded`: one message;
* `Server.nulEnded_of_sends`: every run.
-/

namespace WorldCupInformer

open ConnectionsImp

/-! ### Messages -/

namespace LineMessageEncoderDecoder

/-- The array has room, or can grow. -/
structure Sound (d : LineMessageEncoderDecoder) : Prop where
  len_le : d.len ≤ d.bytes.length
  pos : 0 < d.bytes.length

variable {d : LineMessageEncoderDecoder}

theorem sound_init : ({} : LineMessageEncoderDecoder).Sound where
  len_le := Nat.zero_le _
  pos := by
    rw [initialBytes, List.length_replicate]
    decide

/-- `pushByte` puts a byte behind those that count. -/
theorem Sound.pushByte (hd : d.Sound) (b : UInt8) : (d.pushByte b).Sound ∧
    (d.pushByte b).bytes.take (d.pushByte b).len = d.bytes.take d.len ++ [b] := by
  obtain ⟨hle, hpos⟩ := hd
  obtain ⟨bytes, hbytes, hlt, htake⟩ : ∃ bytes : List UInt8,
      d.pushByte b = ⟨bytes.set d.len b, d.len + 1⟩ ∧
      d.len < bytes.length ∧ bytes.take d.len = d.bytes.take d.len := by
    by_cases hfull : d.bytes.length ≤ d.len
    · have hcopy : d.pushByte b = ⟨(copyOf d.bytes (d.len * 2)).set d.len b, d.len + 1⟩ := by
        unfold LineMessageEncoderDecoder.pushByte
        rw [if_pos hfull]
      refine ⟨copyOf d.bytes (d.len * 2), hcopy, ?_, ?_⟩
      · simp only [copyOf, List.length_append, List.length_take, List.length_replicate]
        omega
      · have hshort : d.len = d.bytes.length := le_antisymm hle hfull
        rw [copyOf, List.take_of_length_le (by omega : d.bytes.length ≤ d.len * 2), hshort]
        simp
    · have hsame : d.pushByte b = ⟨d.bytes.set d.len b, d.len + 1⟩ := by
        unfold LineMessageEncoderDecoder.pushByte
        rw [if_neg hfull]
      exact ⟨d.bytes, hsame, by omega, rfl⟩
  rw [hbytes]
  refine ⟨⟨by simpa using hlt, by simp; omega⟩, ?_⟩
  dsimp only
  rw [List.take_add_one, List.take_set_of_le le_rfl, List.getElem?_set_self hlt, htake]
  rfl

/-- **The messages of a stream**: what stands before each zero byte, with that byte. -/
theorem Sound.decodeBytes (hd : d.Sound) (hfree : 0 ∉ d.bytes.take d.len) (bytes : List UInt8) :
    (d.decodeBytes bytes).2 =
      (Text.ended 0 (d.bytes.take d.len ++ bytes)).map fun bs => Utf8.decode (bs ++ [0]) := by
  induction bytes generalizing d with
  | nil => simp [Text.ended_of_notMem hfree]
  | cons b bytes ih =>
    obtain ⟨hpush, htake⟩ := hd.pushByte b
    rw [LineMessageEncoderDecoder.decodeBytes]
    unfold decodeNextByte
    by_cases hb : b = 0
    · subst hb
      have hpopped : (d.pushByte 0).popString =
          ({ d.pushByte 0 with len := 0 }, Utf8.decode (d.bytes.take d.len ++ [0])) := by
        rw [popString, htake]
      have hsound : ({ d.pushByte 0 with len := 0 } : LineMessageEncoderDecoder).Sound :=
        ⟨Nat.zero_le _, hpush.pos⟩
      have hrest := ih hsound (by simp)
      simp only [if_true, hpopped, hrest, Text.ended_append_cons hfree]
      simp
    · have hfree' : 0 ∉ (d.pushByte b).bytes.take (d.pushByte b).len := by
        rw [htake]
        simpa [hfree] using Ne.symm hb
      have hrest := ih hpush hfree'
      rw [htake] at hrest
      simp only [if_neg hb, hrest]
      simp

theorem decodeBytes_init (bytes : List UInt8) : (({} : LineMessageEncoderDecoder).decodeBytes
    bytes).2 = (Text.ended 0 bytes).map fun bs => Utf8.decode (bs ++ [0]) :=
  sound_init.decodeBytes List.not_mem_nil bytes

end LineMessageEncoderDecoder

/-- The decoder of a connection delivers the message for some bytes. -/
def Delivered (msg : Str) : Prop :=
  ∃ bytes, msg ∈ (({} : LineMessageEncoderDecoder).decodeBytes bytes).2

/-- **A delivered message** ends with its only NUL. -/
theorem Delivered.exists_text {msg : Str} (h : Delivered msg) :
    ∃ t, '\x00' ∉ t ∧ msg = t ++ lit "\x00" := by
  obtain ⟨bytes, hmsg⟩ := h
  rw [LineMessageEncoderDecoder.decodeBytes_init] at hmsg
  obtain ⟨bs, hbs, rfl⟩ := List.mem_map.1 hmsg
  have hfree : 0 ∉ bs := Text.notMem_of_mem_pieces (List.mem_of_mem_dropLast hbs)
  exact ⟨Utf8.decode bs, Utf8.nul_notMem_decode hfree, Utf8.decode_concat_zero bs⟩

theorem zero_notMem_encode {t : Str} (ht : '\x00' ∉ t) : 0 ∉ Utf8.encode t := by
  intro hmem
  have hbytes : '\x00' ∈ Utf8.bytesOf t := List.mem_map.2 ⟨0, hmem, rfl⟩
  exact ht ((Utf8.mem_bytesOf_iff (by decide)).1 hbytes)

/-- Every text with a NUL at its end, the only one, can be delivered. -/
theorem delivered_concat {t : Str} (ht : '\x00' ∉ t) : Delivered (t ++ lit "\x00") := by
  refine ⟨Utf8.encode t ++ [0], ?_⟩
  rw [LineMessageEncoderDecoder.decodeBytes_init,
    Text.ended_append_cons (zero_notMem_encode ht), List.map_cons]
  refine List.mem_cons.2 (.inl ?_)
  rw [Utf8.decode_concat_zero, Utf8.decode_encode]
  rfl

/-- No key and no value of the table has a NUL. -/
def HeaderTable.NulFree (hd : HeaderTable) : Prop :=
  ∀ key value, hd.get key = some value → '\x00' ∉ key ∧ '\x00' ∉ value

/-- A part of a message that ends before the NUL. -/
theorem nul_notMem_substring {t r : Str} {b e : ℤ} (ht : '\x00' ∉ t) (he : e ≤ t.length)
    (h : substring (t ++ lit "\x00") b e = .ok r) : '\x00' ∉ r := by
  obtain ⟨hb, hbe, hlen⟩ := substring_ok_iff.1 ⟨r, h⟩
  lift b to ℕ using hb
  lift e to ℕ using by omega
  rw [substring_of_le (by omega) (by omega)] at h
  obtain rfl := Except.ok.inj h
  intro hmem
  rw [← List.drop_take, List.take_append_of_le_length (by omega)] at hmem
  exact ht (List.mem_of_mem_take (List.mem_of_mem_drop hmem))

/-- What has been found ends in the text. -/
theorem indexOf_le {t p : Str} (hp : p ≠ []) : indexOf (t ++ lit "\x00") p ≤ t.length := by
  have hpos := List.length_pos_iff.2 hp
  cases hfind : Text.find? p (t ++ lit "\x00") with
  | none => simp [indexOf_eq_neg_one hfind]
  | some n =>
    have hlen := (Text.find?_spec hfind).2
    rw [indexOf_eq hfind]
    simp only [List.length_append, lit] at hlen
    simp at hlen
    omega

/-- **A message with one NUL brings none into its table.** -/
theorem nulFree_of_orderMsgInHash {t : Str} {hd : HeaderTable} (ht : '\x00' ∉ t)
    (h : orderMsgInHash (t ++ lit "\x00") = .ok hd) : hd.NulFree := by
  unfold orderMsgInHash at h
  simp only [bind_eq_ok] at h
  obtain ⟨cmd, hcmd, bodyMsg, hbody, headersMsg, hheaders, table, htable, hput⟩ := h
  obtain rfl := Except.ok.inj hput
  have hcmd := nul_notMem_substring ht (indexOf_le (by simp [lit])) hcmd
  have hbody := nul_notMem_substring ht (indexOf_le (by simp [lit])) hbody
  have hheaders := nul_notMem_substring ht (indexOf_le (by simp [lit])) hheaders
  have hlines : ∀ l ∈ split headersMsg "\n", ∀ part ∈ split l " :", '\x00' ∉ part := by
    intro l hl part hpart hnul
    have hinLine := Text.subset_of_mem_pieces (mem_pieces_of_mem_split hpart) hnul
    exact hheaders (Text.subset_of_mem_pieces (mem_pieces_of_mem_split hl) hinLine)
  have hfold := forall_get_of_putHeaderLines
    (P := fun key value => '\x00' ∉ key ∧ '\x00' ∉ value)
    (fun l hl header hheader value hvalue => ⟨hlines l hl header hheader, hlines l hl value hvalue⟩)
    (fun key value hget => ?_) htable
  · intro key value hget
    rw [HeaderTable.get_put] at hget
    split_ifs at hget with hkey
    · obtain rfl := Option.some.inj hget
      exact ⟨by rw [hkey]; decide, hbody⟩
    · exact hfold key value hget
  · rw [HeaderTable.get_put] at hget
    split_ifs at hget with hkey
    · obtain rfl := Option.some.inj hget
      exact ⟨by rw [hkey]; decide, hcmd⟩
    · simp at hget

/-! ### Frames -/

/-- A text and a NUL at its end, the only one. -/
def NulEnded (m : Str) : Prop := ∃ t, t ≠ [] ∧ '\x00' ∉ t ∧ m = t ++ lit "\x00"

section Frames

variable {hd : HeaderTable}

theorem HeaderTable.NulFree.stringOf (hhd : hd.NulFree) (key : Str) :
    '\x00' ∉ stringOf (hd.get key) := by
  cases hget : hd.get key with
  | none => decide
  | some value => exact (hhd key value hget).2

theorem HeaderTable.NulFree.headerLine (hhd : hd.NulFree) {key : Str} (hkey : key ∈ hd.map.keys) :
    '\x00' ∉ ErrorFrame.headerLine hd key := by
  obtain ⟨value, hget⟩ := Dict.lookup_isSome_of_mem_keys hkey
  have hname := (hhd key value hget).1
  have hvalue := hhd.stringOf key
  unfold ErrorFrame.headerLine
  split_ifs
  · simp [lit, hname, hvalue]
  · exact List.not_mem_nil

theorem HeaderTable.NulFree.receiptLine (hhd : hd.NulFree) (key : Str) :
    '\x00' ∉ ErrorFrame.receiptLine (hd.get key) := by
  cases hget : hd.get key with
  | none => exact List.not_mem_nil
  | some value =>
    have hvalue := (hhd key value hget).2
    simp [ErrorFrame.receiptLine, lit, hvalue]

/-- **An ERROR frame** repeats the whole message, but not its NUL. -/
theorem nulEnded_errorFrame (hhd : hd.NulFree) {errors : List Str}
    (herrors : ∀ error ∈ errors, '\x00' ∉ error) : NulEnded (ErrorFrame.toString errors hd) := by
  refine ⟨"ERROR\n" ++ ErrorFrame.receiptLine (hd.get "receipt") ++
    "message :invalid frame recevied\n\n" ++ "The Message: \n----- \n" ++
    stringOf (hd.get "COMMAND") ++ "\n" ++ hd.map.keys.flatMap (ErrorFrame.headerLine hd) ++
    "\n" ++ stringOf (hd.get "BODY") ++ "\n----- \n" ++
    errors.flatMap (fun error => error ++ lit "\n"), by simp [lit], ?_, rfl⟩
  have hlines : ∀ key ∈ hd.map.keys, '\x00' ∉ ErrorFrame.headerLine hd key :=
    fun key hkey => hhd.headerLine hkey
  simpa [lit] using And.intro (hhd.receiptLine "receipt") <|
    And.intro (hhd.stringOf "COMMAND") <| And.intro hlines <|
      And.intro (hhd.stringOf "BODY") herrors

theorem nulEnded_receiptFrame {r : Str} (hr : '\x00' ∉ r) : NulEnded (ReceiptFrame.toString r) :=
  ⟨"RECEIPT\n" ++ "receipt - id :" ++ r ++ "\n\n", by simp [lit], by simp [lit, hr], by
    simp [ReceiptFrame.toString, lit]⟩

theorem nulEnded_connectedFrame {v : Str} (hv : '\x00' ∉ v) :
    NulEnded (ConnectFrame.buildResponseFrame (some v)) :=
  ⟨"CONNECTED\nversion: " ++ v ++ "\n\n", by simp [lit], by simp [lit, hv], by
    simp [ConnectFrame.buildResponseFrame, stringOf, lit]⟩

theorem nulEnded_message {messageId : ℕ} {channel id body : Str} (hchannel : '\x00' ∉ channel)
    (hid : '\x00' ∉ id) (hbody : '\x00' ∉ body) :
    NulEnded (buildSendMessage messageId channel (some id) body) := by
  have hdigits : '\x00' ∉ Nat.toDigits 10 messageId := by
    intro hmem
    have hdigit := Nat.isDigit_of_mem_toDigits (by norm_num) (by norm_num) hmem
    simp at hdigit
  exact ⟨"MESSAGE\nsubscription :" ++ id ++ "\nmessage - id :" ++ Nat.toDigits 10 messageId ++
    "\ndestination :" ++ channel ++ "\n\n" ++ body, by simp [lit], by
      simp [lit, hchannel, hid, hbody, hdigits], rfl⟩

end Frames

/-! ### Every frame of every run -/

namespace ConnectionsImp

/-- No subscription id in the topic index has a NUL. -/
def NulFree (s : ConnectionsImp) : Prop := ∀ t h id, s.entry t h = some id → '\x00' ∉ id

variable {s s' : ConnectionsImp}

theorem NulFree.of_entry (hs : s.NulFree)
    (h : ∀ t d, s'.entry t d = none ∨ s'.entry t d = s.entry t d) : s'.NulFree := by
  intro t d id hid
  rcases h t d with hnone | hsame
  · rw [hnone] at hid
    cases hid
  · exact hs t d id (hsame ▸ hid)

theorem NulFree.drop (hs : s.NulFree) (c : ℕ) (h : ConnectionHandler) : (s.drop c h).NulFree := by
  refine hs.of_entry fun t d => ?_
  rw [entry_drop]
  split_ifs <;> simp

theorem NulFree.dropEntry (hs : s.NulFree) (t : Str) (h : ConnectionHandler) :
    (s.dropEntry t h).NulFree := by
  refine hs.of_entry fun t' d => ?_
  rw [entry_dropEntry]
  split_ifs <;> simp

end ConnectionsImp

section Effect

variable {s : ConnectionsImp} {c : ℕ} {hd : HeaderTable} {e : Exec}

theorem Rejects.nulFree {h : ConnectionHandler} {s₁ : ConnectionsImp} {pre : List Call}
    {errors : List Str} (hrej : Rejects s c h hd s₁ pre errors) (hs : s.NulFree) : s₁.NulFree := by
  cases hrej with
  | connect hcon herr =>
    refine hs.of_entry fun t d => .inr ?_
    unfold ConnectionsImp.checked
    split_ifs <;> rfl
  | unsubscribeEmpty => exact hs.dropEntry [] h
  | _ => exact hs

/-- The errors whose text does not depend on the message. -/
def errorTexts : List Str :=
  [lit "Malformed message arrived.", lit "Message should include version header set as 1.2",
    lit "Message should include host header as stomp.cs.bgu.ac.il",
    lit "Message should include username", lit "Message should include password",
    lit "The client is already logged in, log out before trying again",
    lit "User already logged in.", lit "Wrong password",
    lit "Message is malformed. Disconnect message should include receipt id.",
    lit "Message is malformed. Message should include password.",
    lit "Message should contain a destination", lit "Message should contain subscription id",
    lit "Message body should be empty",
    lit "Cannot add subscription, already subscribed to topic",
    lit "SubscriptionID does not represent a valid user subscription"]

theorem ite_subset_errorTexts {p : Prop} [Decidable p] {errors : List Str}
    (h : errors ⊆ errorTexts) : (if p then errors else []) ⊆ errorTexts := by
  split_ifs
  · exact h
  · exact List.nil_subset _

theorem mem_errorTexts {text error : Str} (htext : text ∈ errorTexts) (h : error ∈ [text]) :
    error ∈ errorTexts :=
  List.mem_singleton.1 h ▸ htext

theorem malformedErrors_subset (host accept_version userName passcode : Option Str) :
    ConnectFrame.malformedErrors host accept_version userName passcode ⊆ errorTexts := by
  simp only [ConnectFrame.malformedErrors, List.append_subset]
  refine ⟨⟨⟨⟨by simp [errorTexts], ?_⟩, ?_⟩, ?_⟩, ?_⟩
  all_goals exact ite_subset_errorTexts (by simp [errorTexts])

theorem connectErrors_subset (s : ConnectionsImp) (h : ConnectionHandler) (u p : Str) :
    s.connectErrors h u p ⊆ errorTexts := by
  simp only [ConnectionsImp.connectErrors, List.append_subset]
  refine ⟨⟨?_, ?_⟩, ?_⟩
  all_goals exact ite_subset_errorTexts (by simp [errorTexts])

theorem idErrors_subset (id : Option Str) : idErrors id ⊆ errorTexts :=
  ite_subset_errorTexts (by simp [errorTexts])

theorem bodyErrors_subset (body : Option Str) : bodyErrors body ⊆ errorTexts :=
  ite_subset_errorTexts (by simp [errorTexts])

/-- **The errors of a rejection**: one of them names the destination of the message. -/
theorem Rejects.mem_errors {h : ConnectionHandler} {s₁ : ConnectionsImp} {pre : List Call}
    {errors : List Str} (hrej : Rejects s c h hd s₁ pre errors) {error : Str}
    (herror : error ∈ errors) : error ∈ errorTexts ∨
      ∃ t, hd.get "destination" = some t ∧ error = lit "User is not subscribed to: " ++ t := by
  cases hrej with
  | send hcmd hdest hent => exact .inr ⟨_, hdest, List.mem_singleton.1 herror⟩
  | connectMalformed => exact .inl (malformedErrors_subset _ _ _ _ herror)
  | connect => exact .inl (connectErrors_subset s h _ _ herror)
  | subscribeMalformed =>
    have hsub : SubscribeFrame.isLegalFrame hd ⊆ errorTexts :=
      List.append_subset.2 ⟨List.append_subset.2
        ⟨ite_subset_errorTexts (by simp [errorTexts]), idErrors_subset _⟩, bodyErrors_subset _⟩
    exact .inl (hsub herror)
  | unsubscribeMalformed =>
    have hsub : UnsubscribeFrame.isLegalFrame hd ⊆ errorTexts :=
      List.append_subset.2 ⟨idErrors_subset _, bodyErrors_subset _⟩
    exact .inl (hsub herror)
  | disconnect => exact .inl (ite_subset_errorTexts (by simp [errorTexts]) herror)
  | sendMalformed => exact .inl (mem_errorTexts (by simp [errorTexts]) herror)
  | subscribe => exact .inl (mem_errorTexts (by simp [errorTexts]) herror)
  | unsubscribe => exact .inl (mem_errorTexts (by simp [errorTexts]) herror)
  | unsubscribeEmpty => exact .inl (mem_errorTexts (by simp [errorTexts]) herror)

theorem Rejects.nul_notMem_errors {h : ConnectionHandler} {s₁ : ConnectionsImp} {pre : List Call}
    {errors : List Str} (hrej : Rejects s c h hd s₁ pre errors) (hhd : hd.NulFree) :
    ∀ error ∈ errors, '\x00' ∉ error := by
  intro error herror
  rcases hrej.mem_errors herror with htext | ⟨t, ht, rfl⟩
  · have htexts : ∀ error ∈ errorTexts, '\x00' ∉ error := by decide
    exact htexts error htext
  · have hfree := (hhd _ _ ht).2
    simpa [lit] using hfree

theorem NulEnded.of_mem_receiptCalls {d h : ConnectionHandler} {m : Str} {r : Option Str}
    (hr : ∀ r' ∈ r, '\x00' ∉ r') (hm : Call.send d m ∈ receiptCalls h r) : NulEnded m := by
  cases r with
  | none => simp [receiptCalls] at hm
  | some r =>
    simp only [receiptCalls, List.mem_singleton, Call.send.injEq] at hm
    rw [hm.2]
    exact nulEnded_receiptFrame (hr r rfl)

theorem NulEnded.of_mem_broadcastCalls {d : ConnectionHandler} {m t body : Str} (hs : s.NulFree)
    (ht : '\x00' ∉ t) (hbody : '\x00' ∉ body) (hm : Call.send d m ∈ broadcastCalls s t body) :
    NulEnded m := by
  obtain ⟨d', hd', heq⟩ := List.mem_map.1 hm
  obtain ⟨id, hid⟩ := Option.ne_none_iff_exists'.1 (ConnectionsImp.mem_clientsOf.1 hd')
  cases heq
  rw [hid]
  exact nulEnded_message ht (hs t _ id hid) hbody

/-- **Every frame that is sent** ends with its only NUL. -/
theorem Effect.nulEnded (he : Effect s c hd e) (hs : s.NulFree) (hhd : hd.NulFree)
    {d : ConnectionHandler} {m : Str} (hm : Call.send d m ∈ e.calls) : NulEnded m := by
  have hvalue : ∀ key, ∀ value ∈ hd.get key, '\x00' ∉ value :=
    fun key value h => (hhd key value h).2
  cases he with
  | rejected hreg hrej =>
    obtain ⟨rfl, rfl⟩ := hrej.mem_calls hm
    exact nulEnded_errorFrame hhd (hrej.nul_notMem_errors hhd)
  | connected hreg hcon herr =>
    rcases List.mem_cons.1 hm with heq | hm
    · cases heq
      exact nulEnded_connectedFrame (hvalue _ _ hcon.version)
    · exact .of_mem_receiptCalls (hvalue "receipt-id") hm
  | disconnected hreg hdis hu =>
    simp only [List.mem_cons, Call.send.injEq, reduceCtorEq, List.not_mem_nil, or_false] at hm
    rw [hm.2]
    exact nulEnded_receiptFrame (hvalue _ _ hdis.receipt)
  | broadcast hreg hsend hent =>
    rcases List.mem_append.1 hm with hm | hm
    · exact .of_mem_broadcastCalls hs (hvalue _ _ hsend.destination) (hvalue _ _ hsend.body) hm
    · exact .of_mem_receiptCalls (hvalue "receipt-id") hm
  | subscribed => exact .of_mem_receiptCalls (hvalue "receipt") (by simpa using hm)
  | unsubscribed => exact .of_mem_receiptCalls (hvalue "receipt") (by simpa using hm)
  | _ => exact absurd hm List.not_mem_nil

theorem Effect.nulFree (he : Effect s c hd e) (hs : s.NulFree) (hhd : hd.NulFree) :
    e.connections.NulFree := by
  cases he with
  | opened hreg hsub ht => exact hs.of_entry fun t d => .inr (entry_openTopic d t ht)
  | rejected hreg hrej => exact (hrej.nulFree hs).drop _ _
  | disconnected => exact hs.drop _ _
  | subscribed hreg hsub hent =>
    intro t d id hid
    rw [entry_addSubscription] at hid
    split_ifs at hid
    · obtain rfl := Option.some.inj hid
      exact (hhd _ _ hsub.id).2
    · exact hs t d id hid
  | unsubscribed =>
    refine hs.of_entry fun t d => ?_
    rw [entry_removeSubscription]
    split_ifs <;> simp
  | connected => exact hs
  | ignored => exact hs
  | unregistered => exact hs
  | anonymous => exact hs
  | broadcast => exact hs
  | unindexed => exact hs

end Effect

namespace Server

/-- Every message of the run has been delivered by a decoder. -/
def AllDelivered (es : List Event) : Prop := ∀ c msg, Event.message c msg ∈ es → Delivered msg

theorem allDelivered_append {es es' : List Event} :
    AllDelivered (es ++ es') ↔ AllDelivered es ∧ AllDelivered es' := by
  simp only [AllDelivered, List.mem_append, or_imp, forall_and]

theorem allDelivered_message {c : ℕ} {msg : Str} :
    AllDelivered [.message c msg] ↔ Delivered msg := by
  simp [AllDelivered]

theorem handle_nulFree {s : Server} (hs : s.WellFormed) (hfree : s.connections.NulFree) {e : Event}
    (he : AllDelivered [e]) : (s.step e).connections.NulFree ∧
      ∀ d m, m ∈ sentTo d (s.handle e).calls → NulEnded m := by
  cases e with
  | accept =>
    refine ⟨hfree.of_entry fun t d => .inr rfl, fun d m hm => ?_⟩
    simp [handle, addConnection, after, sentTo] at hm
  | message c msg =>
    obtain ⟨t, ht, rfl⟩ := (allDelivered_message.1 he).exists_text
    rcases handle_message hs.backed c (t ++ lit "\x00") with ⟨hd, hmsg, heffect⟩ | heq
    · have hhd := nulFree_of_orderMsgInHash ht hmsg
      exact ⟨heffect.nulFree hfree hhd, fun d m hm => heffect.nulEnded hfree hhd (mem_sentTo.1 hm)⟩
    · refine ⟨?_, fun d m hm => ?_⟩
      · unfold Server.step
        rw [heq]
        exact hfree
      · rw [heq] at hm
        simp [sentTo] at hm

/-- In every run the subscription ids are without NUL. -/
theorem nulFree_atServer {es : List Event} (hes : AllDelivered es) :
    (atServer es).connections.NulFree := by
  induction es using List.reverseRecOn with
  | nil => exact fun t h id hid => by simp [atServer, Machine.run, entry] at hid
  | append_singleton es e ih =>
    obtain ⟨hrun, hlast⟩ := allDelivered_append.1 hes
    rw [atServer_concat]
    exact (handle_nulFree (wellFormed_atServer es) (ih hrun) hlast).1

/-- The server sends the frame to the handler, in answer to some message after some run. -/
def Sends (d : ConnectionHandler) (m : Str) : Prop :=
  ∃ es e, AllDelivered (es ++ [e]) ∧ m ∈ sentTo d ((atServer es).handle e).calls

/-- **Every frame the server sends** ends with its only NUL. -/
theorem nulEnded_of_sends {d : ConnectionHandler} {m : Str} (h : Sends d m) : NulEnded m := by
  obtain ⟨es, e, hall, hm⟩ := h
  obtain ⟨hrun, hlast⟩ := allDelivered_append.1 hall
  exact (handle_nulFree (wellFormed_atServer es) (nulFree_atServer hrun) hlast).2 d m hm

/-- The frames a run sends to the handler, in order. -/
def framesTo (d : ConnectionHandler) (s : Server) : List Event → List Str
  | [] => []
  | e :: es => sentTo d (s.handle e).calls ++ framesTo d (s.step e) es

end Server

end WorldCupInformer
