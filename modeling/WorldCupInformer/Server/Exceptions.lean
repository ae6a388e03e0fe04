import WorldCupInformer.Server.FrameText
import WorldCupInformer.Server.Invariants

/-!
# Exceptions of `process`

* `orderMsgInHash_ok_iff`: which messages are parsed;
* `parsedOrReported_iff`: an unparsed message is not reported to its sender, whose thread gets an
  exception instead;
* `returnsSafely_iff`: which parsed frames end with an exception: DISCONNECT before the login, and
  UNSUBSCRIBE of a client of the empty topic without subscription ids.
-/

namespace WorldCupInformer

/-! ### Parsing -/

/-- The lines between the first line end and the first blank line, if there is any. -/
def headerLines (msg : Str) : Option (List Str) :=
  match Text.find? (lit "\n") msg, Text.find? (lit "\n\n") msg with
  | some headerBegin, some bodyBegin =>
    if headerBegin < bodyBegin then
      some (split ((msg.drop (headerBegin + 1)).take (bodyBegin - (headerBegin + 1))) "\n")
    else none
  | _, _ => none

/-- The line is split into a name and a value. -/
def IsHeaderLine (line : Str) : Prop := 2 ≤ (split line " :").length

/-- The message has header lines, and each of them is split into a name and a value. -/
def Parses (msg : Str) : Prop := ∃ ls ∈ headerLines msg, ∀ l ∈ ls, IsHeaderLine l

/-- There is no line end after the command, no blank line after the headers, or a header line
without ` :`. -/
def Malformed (msg : Str) : Prop :=
  Text.find? (lit "\n") msg = none ∨ Text.find? (lit "\n\n") msg = none ∨
    ∃ ls ∈ headerLines msg, ∃ l ∈ ls, Text.find? (lit " :") l = none

theorem bind_eq_error {ε α β : Type} {x : Except ε α} {f : α → Except ε β} {e : ε} :
    (x >>= f) = .error e ↔ x = .error e ∨ ∃ a, x = .ok a ∧ f a = .error e := by
  cases x with
  | error e' => simp [bind, Except.bind]
  | ok a => simp [bind, Except.bind]

theorem substring_ok_iff {s : Str} {b e : ℤ} :
    (∃ t, substring s b e = .ok t) ↔ 0 ≤ b ∧ b ≤ e ∧ e ≤ s.length := by
  unfold substring
  split_ifs with h <;> simp [h]

theorem substring_of_le {s : Str} {b e : ℕ} (hb : b ≤ e) (he : e ≤ s.length) :
    substring s b e = .ok ((s.drop b).take (e - b)) := by
  have hbounds : (0 : ℤ) ≤ b ∧ (b : ℤ) ≤ e ∧ (e : ℤ) ≤ s.length := by omega
  rw [substring, if_pos hbounds, ← Int.ofNat_sub hb]
  rfl

theorem substring_error {s : Str} {b e : ℤ} {x : JavaException}
    (h : substring s b e = .error x) : x = .indexOutOfBounds := by
  unfold substring at h
  split_ifs at h
  exact (Except.error.inj h).symm

theorem arrayGet_error {α : Type} {a : List α} {i : ℕ} {x : JavaException}
    (h : arrayGet a i = .error x) : x = .indexOutOfBounds := by
  unfold arrayGet at h
  split at h
  · cases h
  · exact (Except.error.inj h).symm

theorem arrayGet_ok_iff {α : Type} {a : List α} {i : ℕ} :
    (∃ v, arrayGet a i = .ok v) ↔ i < a.length := by
  unfold arrayGet
  split
  · rename_i v hv
    simpa using (List.getElem?_eq_some_iff.1 hv).1
  · rename_i hv
    simpa using hv

theorem putHeaderLine_ok_iff (headersToValue : HeaderTable) {line : Str} :
    (∃ hd, putHeaderLine headersToValue line = .ok hd) ↔ IsHeaderLine line := by
  unfold putHeaderLine IsHeaderLine
  constructor
  · rintro ⟨hd, hput⟩
    simp only [bind_eq_ok] at hput
    obtain ⟨header, -, value, hvalue, -⟩ := hput
    exact arrayGet_ok_iff.1 ⟨value, hvalue⟩
  · intro hlen
    obtain ⟨header, hheader⟩ := arrayGet_ok_iff.2 (show 0 < (split line " :").length by omega)
    obtain ⟨value, hvalue⟩ := arrayGet_ok_iff.2 (show 1 < (split line " :").length by omega)
    exact ⟨_, by simp only [hheader, hvalue]; rfl⟩

theorem putHeaderLine_error {headersToValue : HeaderTable} {line : Str} {x : JavaException}
    (h : putHeaderLine headersToValue line = .error x) : x = .indexOutOfBounds := by
  unfold putHeaderLine at h
  simp only [bind_eq_error] at h
  rcases h with h | ⟨header, -, h | ⟨value, -, h⟩⟩
  · exact arrayGet_error h
  · exact arrayGet_error h
  · cases h

/-- The loop over the header lines. -/
theorem putHeaderLines_ok_iff (ls : List Str) : ∀ headersToValue : HeaderTable,
    (∃ hd, ls.foldlM putHeaderLine headersToValue = .ok hd) ↔ ∀ l ∈ ls, IsHeaderLine l := by
  induction ls with
  | nil => simp [pure, Except.pure]
  | cons l ls ih =>
    intro headersToValue
    simp only [List.foldlM_cons, bind_eq_ok, List.forall_mem_cons]
    constructor
    · rintro ⟨hd, hd', hput, hrest⟩
      exact ⟨(putHeaderLine_ok_iff headersToValue).1 ⟨hd', hput⟩, (ih hd').1 ⟨hd, hrest⟩⟩
    · rintro ⟨hline, hlines⟩
      obtain ⟨hd', hput⟩ := (putHeaderLine_ok_iff headersToValue).2 hline
      obtain ⟨hd, hrest⟩ := (ih hd').2 hlines
      exact ⟨hd, hd', hput, hrest⟩

theorem putHeaderLines_error {ls : List Str} {x : JavaException} : ∀ {headersToValue : HeaderTable},
    ls.foldlM putHeaderLine headersToValue = .error x → x = .indexOutOfBounds := by
  induction ls with
  | nil => exact nofun
  | cons l ls ih =>
    intro headersToValue h
    rw [List.foldlM_cons, bind_eq_error] at h
    rcases h with h | ⟨hd, -, h⟩
    · exact putHeaderLine_error h
    · exact ih h

/-- `orderMsgInHash` throws no other exception. -/
theorem orderMsgInHash_error {msg : Str} {x : JavaException} (h : orderMsgInHash msg = .error x) :
    x = .indexOutOfBounds := by
  unfold orderMsgInHash at h
  simp only [bind_eq_error] at h
  rcases h with h | ⟨value, -, h | ⟨bodyMsg, -, h | ⟨headersMsg, -, h | ⟨hd, -, h⟩⟩⟩⟩
  · exact substring_error h
  · exact substring_error h
  · exact substring_error h
  · exact putHeaderLines_error h
  · cases h

section Nul

variable {t : Str} (ht : '\x00' ∉ t)
include ht

theorem indexOf_nul : indexOf (t ++ lit "\x00") "\x00" = t.length := by
  refine indexOf_eq ?_
  have hhere : Text.find? ['\x00'] ['\x00'] = some 0 := Text.find?_of_prefix (by simp)
  have hskip := Text.find?_append (q := []) (s := ['\x00']) ht
  rwa [hhere] at hskip

omit ht in
/-- A blank line ends before the NUL. -/
theorem blankLine_le {k : ℕ} (h : Text.find? (lit "\n\n") (t ++ lit "\x00") = some k) :
    k + 2 ≤ t.length := by
  obtain ⟨hocc, hlen⟩ := Text.find?_spec h
  have hpattern : (lit "\n\n").length = 2 := rfl
  have hlength : (t ++ lit "\x00").length = t.length + 1 := by simp [lit]
  by_contra hlt
  -- the occurrence would end with the NUL
  have hdrop : lit "\n\n" = (t ++ lit "\x00").drop k := by
    refine hocc.eq_of_length ?_
    rw [List.length_drop]
    omega
  have hk : k ≤ t.length := by omega
  rw [List.drop_append_of_le_length hk] at hdrop
  have hnul : '\x00' ∈ lit "\n\n" := hdrop ▸ List.mem_append_right _ (by decide)
  exact absurd hnul (by decide)

/-- **Which messages are parsed.** -/
theorem orderMsgInHash_ok_iff :
    (∃ hd, orderMsgInHash (t ++ lit "\x00") = .ok hd) ↔ Parses (t ++ lit "\x00") := by
  have hnul := indexOf_nul ht
  have hlength : (t ++ lit "\x00").length = t.length + 1 := by simp [lit]
  set msg := t ++ lit "\x00" with hmsg
  unfold orderMsgInHash Parses headerLines
  simp only [bind_eq_ok, hnul]
  cases hbegin : Text.find? (lit "\n") msg with
  | none =>
    have hneg : indexOf msg "\n" = -1 := indexOf_eq_neg_one hbegin
    have hthrows : ¬ ∃ value, substring msg 0 (-1) = .ok value := by
      rw [substring_ok_iff]
      omega
    rw [hneg]
    refine iff_of_false ?_ (by simp)
    rintro ⟨_, value, hvalue, _⟩
    exact hthrows ⟨value, hvalue⟩
  | some headerBegin =>
    have hbeginIndex : indexOf msg "\n" = headerBegin := indexOf_eq hbegin
    have hbeginLe := (Text.find?_spec hbegin).2
    cases hblank : Text.find? (lit "\n\n") msg with
    | none =>
      have hneg : indexOf msg "\n\n" = -1 := indexOf_eq_neg_one hblank
      have hthrows : ¬ ∃ headersMsg, substring msg (headerBegin + 1) (-1) = .ok headersMsg := by
        rw [substring_ok_iff]
        omega
      rw [hneg, hbeginIndex]
      refine iff_of_false ?_ (by simp)
      rintro ⟨_, _, _, _, _, headersMsg, hheaders, _⟩
      exact hthrows ⟨headersMsg, hheaders⟩
    | some bodyBegin =>
      have hblankIndex : indexOf msg "\n\n" = bodyBegin := indexOf_eq hblank
      have hblankLe := blankLine_le hblank
      have hvalue := substring_of_le (s := msg) (Nat.zero_le headerBegin) (by omega)
      have hbody := substring_of_le (s := msg) hblankLe (by omega)
      rw [hbeginIndex, hblankIndex]
      by_cases hlt : headerBegin < bodyBegin
      · have hheaders := substring_of_le (s := msg) hlt (by omega)
        have hlines := putHeaderLines_ok_iff
          (split ((msg.drop (headerBegin + 1)).take (bodyBegin - (headerBegin + 1))) "\n")
          (HeaderTable.put {} "COMMAND" ((msg.drop 0).take (headerBegin - 0)))
        push_cast at hvalue hbody hheaders
        simp only [Nat.succ_eq_add_one, hvalue, hbody, hheaders, Except.ok.injEq, exists_eq_left',
          if_pos hlt, Option.mem_def, Option.some.injEq, ← hlines]
        constructor
        · rintro ⟨_, table, htable, _⟩
          exact ⟨table, htable⟩
        · rintro ⟨table, htable⟩
          exact ⟨_, table, htable, rfl⟩
      · have hthrows : ¬ ∃ headersMsg,
            substring msg (headerBegin + 1) bodyBegin = .ok headersMsg := by
          rw [substring_ok_iff]
          omega
        simp only [if_neg hlt]
        refine iff_of_false ?_ (by simp)
        rintro ⟨_, _, _, _, _, headersMsg, hheaders, _⟩
        exact hthrows ⟨headersMsg, hheaders⟩

end Nul

instance (line : Str) : Decidable (IsHeaderLine line) := inferInstanceAs (Decidable (_ ≤ _))

instance (msg : Str) : Decidable (Parses msg) :=
  inferInstanceAs (Decidable (∃ ls ∈ headerLines msg, ∀ l ∈ ls, IsHeaderLine l))

/-- A header line takes no key out of the table. -/
theorem putHeaderLines_get {key : Str} {hd : HeaderTable} {ls : List Str} :
    ∀ {headersToValue : HeaderTable}, ls.foldlM putHeaderLine headersToValue = .ok hd →
    headersToValue.get key ≠ none → hd.get key ≠ none := by
  induction ls with
  | nil =>
    intro headersToValue h hkey
    obtain rfl := Except.ok.inj h
    exact hkey
  | cons l ls ih =>
    intro headersToValue h hkey
    rw [List.foldlM_cons] at h
    obtain ⟨hd', hput, hrest⟩ := bind_eq_ok.1 h
    refine ih hrest ?_
    unfold putHeaderLine at hput
    simp only [bind_eq_ok] at hput
    obtain ⟨header, -, value, -, hput⟩ := hput
    obtain rfl := Except.ok.inj hput
    have hget := HeaderTable.get_put headersToValue header key value
    refine ne_of_eq_of_ne hget ?_
    split_ifs
    · simp
    · exact hkey

/-- A parsed message has a command. -/
theorem orderMsgInHash_command {msg : Str} {hd : HeaderTable} (hmsg : orderMsgInHash msg = .ok hd) :
    hd.get "COMMAND" ≠ none := by
  unfold orderMsgInHash at hmsg
  simp only [bind_eq_ok] at hmsg
  obtain ⟨value, -, bodyMsg, -, headersMsg, -, headers, hheaders, hput⟩ := hmsg
  obtain rfl := Except.ok.inj hput
  have hstart : (HeaderTable.put {} "COMMAND" value).get "COMMAND" ≠ none := by simp
  simpa using putHeaderLines_get hheaders hstart

/-- A parsed message is not malformed. -/
theorem Parses.not_malformed {msg : Str} (h : Parses msg) : ¬ Malformed msg := by
  obtain ⟨ls, hls, hlines⟩ := h
  rintro (hbegin | hblank | ⟨ls', hls', l, hl, hnone⟩)
  · simp [headerLines, hbegin] at hls
  · simp [headerLines, hblank] at hls
  · obtain rfl := Option.mem_unique hls hls'
    have hpieces := Text.pieces_of_find?_none hnone
    have hline := hlines l hl
    simp [IsHeaderLine, split, hpieces] at hline

namespace Server

/-- The parser does not fail with an index exception, and a malformed message is reported to its
sender, who is disconnected. -/
structure ParsedOrReported (s : Server) (c : ℕ) (h : ConnectionHandler) (msg : Str) : Prop where
  parsed : orderMsgInHash msg ≠ .error .indexOutOfBounds
  reported : Malformed msg → s.Answers (.message c msg) "ERROR" h ∧
    (s.step (.message c msg)).connections.idToHandler.lookup c = none

theorem ParsedOrReported.parses {s : Server} {c : ℕ} {h : ConnectionHandler} {t : Str}
    (hs : s.ParsedOrReported c h (t ++ lit "\x00")) (ht : '\x00' ∉ t) :
    Parses (t ++ lit "\x00") := by
  refine (orderMsgInHash_ok_iff ht).1 ?_
  cases hmsg : orderMsgInHash (t ++ lit "\x00") with
  | ok hd => exact ⟨hd, rfl⟩
  | error x => exact absurd (orderMsgInHash_error hmsg ▸ hmsg) hs.parsed

/-- **Only a message whose header lines can all be split is parsed or reported**, in any state. -/
theorem parsedOrReported_iff (s : Server) (c : ℕ) (h : ConnectionHandler) (t : Str)
    (ht : '\x00' ∉ t) :
    s.ParsedOrReported c h (t ++ lit "\x00") ↔ Parses (t ++ lit "\x00") := by
  constructor
  · exact fun hs => hs.parses ht
  · intro hparses
    obtain ⟨hd, hmsg⟩ := (orderMsgInHash_ok_iff ht).2 hparses
    exact ⟨by simp [hmsg], fun hmal => absurd hmal hparses.not_malformed⟩

/-- A SEND from a new connection. -/
theorem send_parsedOrReported : (atServer [.accept]).ParsedOrReported 0 ⟨0⟩
    (lit "SEND\ndestination :/germany_japan\n\ngoal!\n" ++ lit "\x00") :=
  (parsedOrReported_iff _ 0 ⟨0⟩ _ (by decide)).2 (by decide +kernel)

/-- A new client sends an empty message. -/
theorem not_forall_parsedOrReported :
    ¬ ∀ (es : List Event) (c : ℕ) (h : ConnectionHandler) (t : Str),
    (atServer es).connections.idToHandler.lookup c = some h → '\x00' ∉ t →
    (atServer es).ParsedOrReported c h (t ++ lit "\x00") := by
  intro hall
  have hempty := hall [.accept] 0 ⟨0⟩ [] (by decide +kernel) List.not_mem_nil
  exact absurd (hempty.parses List.not_mem_nil) (by decide +kernel)

/-! ### Handling -/

/-- `process` returns, and a DISCONNECT with a receipt header is answered with its RECEIPT and
removes the connection. -/
structure ReturnsSafely (s : Server) (c : ℕ) (h : ConnectionHandler) (msg : Str)
    (hd : HeaderTable) : Prop where
  returns : raised (process c msg) s.connections = none
  disconnects : ∀ r, hd.IsDisconnect r →
    ReceiptFrame.toString r ∈ sentTo h (s.handle (.message c msg)).calls ∧
      (s.step (.message c msg)).connections.idToHandler.lookup c = none

variable {s : Server} {c : ℕ} {h : ConnectionHandler} {hd : HeaderTable} {msg : Str}

theorem raised_process (hmsg : orderMsgInHash msg = .ok hd) (s : ConnectionsImp) (c : ℕ) :
    raised (process c msg) s = raised (act c hd) s := by
  simp [raised, process, hmsg]

/-- Which parsed frames of a registered connection end without an exception. -/
theorem raised_eq_none_iff (hs : s.WellFormed)
    (hreg : s.connections.idToHandler.lookup c = some h) (hmsg : orderMsgInHash msg = .ok hd) :
    raised (process c msg) s.connections = none ↔
      ¬ ((∃ r, hd.IsDisconnect r) ∧ s.connections.clientToUsername.lookup h = none) ∧
      ¬ ((∃ id, hd.IsUnsubscribe id) ∧ s.connections.entry [] h ≠ none ∧
        s.connections.clientToTopics.lookup h = none) := by
  rw [raised_process hmsg]
  constructor
  · intro hreturns
    constructor
    · rintro ⟨⟨r, hdis⟩, hu⟩
      have hrun := run_disconnectFrame_anonymous (l := []) hreg hdis hu
      rw [← run_act_disconnect c hdis.command] at hrun
      simp [raised, hrun] at hreturns
    · rintro ⟨⟨id, huns⟩, hent, hidx⟩
      have hrun := run_unsubscribeFrame_unindexed (l := []) hreg huns hent hidx
      rw [← run_act_unsubscribe c huns.command] at hrun
      simp [raised, hrun] at hreturns
  · rintro ⟨hlogged, hindexed⟩
    refine (act_handled hs.backed (orderMsgInHash_body hmsg)).returns fun habort => ?_
    cases habort with
    | unregistered hnone => simp [hreg] at hnone
    | anonymous hreg' hdis hu =>
      cases hreg.symm.trans hreg'
      exact hlogged ⟨⟨_, hdis⟩, hu⟩
    | unindexed hreg' huns hent hidx =>
      cases hreg.symm.trans hreg'
      exact hindexed ⟨⟨_, huns⟩, hent, hidx⟩
    | noCommand hcmd => exact orderMsgInHash_command hmsg hcmd

theorem returnsSafely_iff_of_wellFormed (hs : s.WellFormed)
    (hreg : s.connections.idToHandler.lookup c = some h) (hmsg : orderMsgInHash msg = .ok hd) :
    s.ReturnsSafely c h msg hd ↔
      ¬ ((∃ r, hd.IsDisconnect r) ∧ s.connections.clientToUsername.lookup h = none) ∧
      ¬ ((∃ id, hd.IsUnsubscribe id) ∧ s.connections.entry [] h ≠ none ∧
        s.connections.clientToTopics.lookup h = none) := by
  rw [← raised_eq_none_iff hs hreg hmsg]
  constructor
  · exact ReturnsSafely.returns
  · intro hreturns
    refine ⟨hreturns, fun r hdis => ?_⟩
    obtain ⟨hlogged, -⟩ := (raised_eq_none_iff hs hreg hmsg).1 hreturns
    cases hu : s.connections.clientToUsername.lookup h with
    | none => exact absurd ⟨⟨r, hdis⟩, hu⟩ hlogged
    | some u =>
      have hrun := run_disconnectFrame (l := []) hs.backed hreg hdis hu
      rw [← run_act_disconnect c hdis.command] at hrun
      have hexec := (handle_decoded hmsg c).trans (after_of_ok hrun)
      have hdrop : (s.step (.message c msg)).connections = s.connections.drop c h :=
        congrArg Exec.connections hexec
      rw [hexec, hdrop]
      exact ⟨mem_sentTo.2 (by simp), by simp [ConnectionsImp.drop]⟩

/-- **Which parsed frames of a registered connection are handled safely**, in every reachable
state. -/
theorem returnsSafely_iff (es : List Event) (c : ℕ) (h : ConnectionHandler) (msg : Str)
    (hd : HeaderTable) (hreg : (atServer es).connections.idToHandler.lookup c = some h)
    (hmsg : orderMsgInHash msg = .ok hd) :
    (atServer es).ReturnsSafely c h msg hd ↔
      ¬ ((∃ r, hd.IsDisconnect r) ∧
        (atServer es).connections.clientToUsername.lookup h = none) ∧
      ¬ ((∃ id, hd.IsUnsubscribe id) ∧ (atServer es).connections.entry [] h ≠ none ∧
        (atServer es).connections.clientToTopics.lookup h = none) :=
  returnsSafely_iff_of_wellFormed (wellFormed_atServer es) hreg hmsg

/-- The DISCONNECT of a logged-in client. -/
def loggedInRun : List Event :=
  [.accept, .message 0 "CONNECT\naccept - version :1.2\nhost :h\nlogin :bob\npasscode :pw\n\n\x00"]

def disconnectText : Str := "DISCONNECT\nreceipt :7\n\n\x00"

theorem disconnect_returnsSafely :
    ∃ hd, (atServer loggedInRun).ReturnsSafely 0 ⟨0⟩ disconnectText hd := by
  obtain ⟨hd, hmsg, hcmd⟩ :
      Decodes disconnectText fun hd => hd.get "COMMAND" = some "DISCONNECT" := by
    decide +kernel
  have hlogged : (atServer loggedInRun).connections.clientToUsername.lookup ⟨0⟩ ≠ none := by
    decide +kernel
  refine ⟨hd, (returnsSafely_iff loggedInRun 0 ⟨0⟩ disconnectText hd (by decide +kernel) hmsg).2
    ⟨fun hdis => hlogged hdis.2, fun ⟨⟨id, huns⟩, _⟩ => ?_⟩⟩
  exact absurd (hcmd.symm.trans huns.command) (by decide)

/-- A client disconnects before it has logged in. -/
theorem not_forall_returnsSafely : ¬ ∀ (es : List Event) (c : ℕ) (h : ConnectionHandler) (msg : Str)
    (hd : HeaderTable), (atServer es).connections.idToHandler.lookup c = some h →
    orderMsgInHash msg = .ok hd → (atServer es).ReturnsSafely c h msg hd := by
  intro hall
  obtain ⟨hd, hmsg, -⟩ : Decodes disconnectText fun _ => True := by decide +kernel
  have hsafe := hall [.accept] 0 ⟨0⟩ disconnectText hd (by decide +kernel) hmsg
  have hraised : raised (process 0 disconnectText) (atServer [.accept]).connections ≠ none := by
    decide +kernel
  exact hraised hsafe.returns

end Server

end WorldCupInformer
