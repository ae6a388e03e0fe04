import WorldCupInformer.Client.StompProtocol

/-!
# What the client does with the server's frames

* `processFrame_receipt`, `receiptOf_game`: a RECEIPT is handled by the game its id stands for; the
  mark of the game is taken off, or its entry is removed;
* `processFrame_message`: a MESSAGE changes nothing but what the client knows of the games;
* `processFrame_error`: an ERROR ends the session.
-/

namespace WorldCupInformer.Client

/-- A RECEIPT as the client reads it. -/
def receiptText (receiptId : Str) : Str := "RECEIPT\nreceipt - id :" ++ receiptId ++ "\n\n"

namespace StompProtocol

variable {p p' : StompProtocol} {command rest : Str}

/-- The command is the first line. -/
theorem substr_command (hcmd : '\n' ∉ command) (rest : Str) :
    substr (command ++ '\n' :: rest) 0 (find (command ++ '\n' :: rest) "\n") = .ok command ∧
      substr (command ++ '\n' :: rest) (find (command ++ '\n' :: rest) "\n" + 1) npos =
        .ok rest := by
  have hpos : (command.length + 1 : ℤ) = (command ++ lit "\n").length := by simp [lit]
  rw [find_lineEnd hcmd]
  exact ⟨substr_take rfl, by simpa [lit] using substr_append (b := rest) hpos⟩

theorem processFrame_eq (hcmd : '\n' ∉ command) : p.processFrame (command ++ '\n' :: rest) =
    (do
      let header ← substr rest 0 (find rest "\n\n")
      let bodyStart := find rest "\n\n" + 2
      let body ← (if bodyStart < rest.length then substr rest bodyStart npos else pure [])
      let p ← (if command = "ERROR" then p.handleErrorFrame body else pure p)
      let p ← (if command = "RECEIPT" then p.handleReceiptFrame header else pure p)
      if command = "MESSAGE" then p.handleMessageFrame header body else pure p) := by
  obtain ⟨hcommand, hrest⟩ := substr_command hcmd rest
  unfold processFrame
  rw [hcommand]
  simp only [bind, Except.bind, hrest]

/-- A frame that is handled has been cut into a header and a body. -/
theorem processFrame_cut (hcmd : '\n' ∉ command)
    (hp : p.processFrame (command ++ '\n' :: rest) = .ok p') : ∃ header body,
    (do
      let p ← (if command = "ERROR" then p.handleErrorFrame body else pure p)
      let p ← (if command = "RECEIPT" then p.handleReceiptFrame header else pure p)
      if command = "MESSAGE" then p.handleMessageFrame header body else pure p) = .ok p' := by
  rw [processFrame_eq hcmd] at hp
  obtain ⟨header, -, hp⟩ := bind_eq_ok.1 hp
  obtain ⟨body, -, hp⟩ := bind_eq_ok.1 hp
  exact ⟨header, body, hp⟩

theorem processFrame_error (hp : p.processFrame (lit "ERROR" ++ '\n' :: rest) = .ok p') :
    p' = p.logout := by
  obtain ⟨header, body, hp⟩ := processFrame_cut (by decide) hp
  simp only [if_true, lit_inj, String.reduceEq, if_false, pure_bind] at hp
  obtain ⟨p₁, hp₁, hp⟩ := bind_eq_ok.1 hp
  obtain ⟨message, -, hlogout⟩ := bind_eq_ok.1 hp₁
  cases hp
  cases hlogout
  rfl

theorem processFrame_connected (hp : p.processFrame (lit "CONNECTED" ++ '\n' :: rest) = .ok p') :
    p' = p := by
  obtain ⟨header, body, hp⟩ := processFrame_cut (by decide) hp
  simp only [lit_inj, String.reduceEq, if_false, pure_bind] at hp
  exact (Except.ok.inj hp).symm

theorem processFrame_message (hp : p.processFrame (lit "MESSAGE" ++ '\n' :: rest) = .ok p') :
    ∃ games, p' = { p with gameToEvents := games } := by
  obtain ⟨header, body, hp⟩ := processFrame_cut (by decide) hp
  simp only [if_true, lit_inj, String.reduceEq, if_false, pure_bind] at hp
  unfold handleMessageFrame at hp
  simp only [bind_eq_ok] at hp
  obtain ⟨destination, -, destination, -, user, -, user, -, teamA, -, teamB, -, game, -, hp⟩ := hp
  cases hp
  exact ⟨_, rfl⟩

/-- A RECEIPT is a header line and no body. -/
theorem cut_receipt {r : Str} (hr : '\n' ∉ r) :
    substr (lit "receipt - id :" ++ r ++ lit "\n\n") 0
        (find (lit "receipt - id :" ++ r ++ lit "\n\n") "\n\n") = .ok (lit "receipt - id :" ++ r) ∧
      ¬ find (lit "receipt - id :" ++ r ++ lit "\n\n") "\n\n" + 2 <
        (lit "receipt - id :" ++ r ++ lit "\n\n").length := by
  have hfree : '\n' ∉ lit "receipt - id :" ++ r := by simp [lit, hr]
  have hfind : find (lit "receipt - id :" ++ r ++ lit "\n\n") "\n\n" =
      (lit "receipt - id :" ++ r).length := by
    refine find_eq ?_
    have hhere : Text.find? ['\n', '\n'] ['\n', '\n'] = some 0 := Text.find?_of_prefix (by simp)
    have hskip := Text.find?_append (q := ['\n']) (s := ['\n', '\n']) hfree
    rwa [hhere] at hskip
  rw [hfind]
  refine ⟨substr_take rfl, ?_⟩
  simp [lit]
  omega

theorem receiptText_eq (r : Str) : receiptText r =
    lit "RECEIPT" ++ '\n' :: (lit "receipt - id :" ++ r ++ lit "\n\n") := by
  simp [receiptText, lit]

/-- A RECEIPT reaches `handleReceiptFrame` with its header line. -/
theorem processFrame_receipt_eq {r : Str} (hr : '\n' ∉ r) :
    p.processFrame (receiptText r) = p.handleReceiptFrame ("receipt - id :" ++ r) := by
  obtain ⟨hheader, hbody⟩ := cut_receipt hr
  rw [receiptText_eq, processFrame_eq (by decide), hheader]
  simp only [lit_inj, String.reduceEq, if_true, if_false, pure_bind, hbody, bind_pure]
  rfl

theorem receiptId_eq (r : Str) : substr ("receipt - id :" ++ r)
    (find ("receipt - id :" ++ r) "receipt - id :" + 14) npos = .ok r := by
  have hfind : find (lit "receipt - id :" ++ r) "receipt - id :" = (0 : ℕ) :=
    find_eq (Text.find?_of_prefix (List.prefix_append _ _))
  rw [hfind]
  exact substr_append (by simp [lit])

/-- A RECEIPT is handled by what its id stands for. -/
theorem processFrame_receipt {r command : Str} (hr : '\n' ∉ r)
    (hmsg : p.receiptToMsg.lookup r = some command) :
    p.processFrame (receiptText r) = .ok (p.receiptOf command) := by
  rw [processFrame_receipt_eq hr]
  unfold handleReceiptFrame
  rw [receiptId_eq]
  simp only [bind, Except.bind, Dict.insertNew_of_some hmsg, hmsg, Option.getD_some]
  rfl

theorem receiptOf_game {g sub : Str} (hg : g ≠ "DISCONNECT")
    (hsub : p.gameToSubID.lookup g = some sub) :
    p.receiptOf g = if sub.head? = some '*' then p.confirmSub g else p.unsubscribe g := by
  have hget : p.getSubByGame g = sub := by simp [getSubByGame, hsub]
  unfold receiptOf
  simp only [hg, if_false, Dict.insertNew_of_some hsub, hget]

/-- A RECEIPT ends the session or changes the subscriptions. -/
theorem receiptOf_cases (p : StompProtocol) (command : Str) :
    p.receiptOf command = p.logout ∨
      ∃ subs, p.receiptOf command = { p with gameToSubID := subs } := by
  unfold receiptOf
  dsimp only
  split_ifs
  · exact .inl rfl
  · exact .inr ⟨_, rfl⟩
  · exact .inr ⟨_, rfl⟩

/-- A report has been read into one of the games. -/
def TakesReport (games games' : Dict Str (Dict Str Game)) : Prop :=
  ∃ teamA teamB user body game,
    ((Dict.lookup₂ games (teamA ++ "_" ++ teamB) user).getD
      { teamAname := teamA, teamBname := teamB }).parseFrame body = .ok game ∧
    games' = Dict.put₂ games (teamA ++ "_" ++ teamB) user game

/-- **What a frame can do**: nothing, end the session, what its RECEIPT stands for, or a change of
what the client knows of the games. -/
theorem processFrame_cases {frame : Str} (hp : p.processFrame frame = .ok p') :
    p' = p ∨ p' = p.logout ∨
    (∃ receipts command, p' = receiptOf { p with receiptToMsg := receipts } command) ∨
    ∃ games, TakesReport p.gameToEvents games ∧ p' = { p with gameToEvents := games } := by
  unfold processFrame at hp
  simp only [bind_eq_ok] at hp
  obtain ⟨command, -, rest, -, header, -, body, -, p₁, h₁, p₂, h₂, h₃⟩ := hp
  by_cases herror : command = "ERROR"
  · subst herror
    simp only [lit_inj, String.reduceEq, if_true, if_false] at h₁ h₂ h₃
    obtain ⟨message, -, hlogout⟩ := bind_eq_ok.1 h₁
    obtain rfl := Except.ok.inj hlogout
    obtain rfl := Except.ok.inj h₂
    exact .inr (.inl (Except.ok.inj h₃).symm)
  · rw [if_neg herror] at h₁
    obtain rfl := Except.ok.inj h₁
    by_cases hreceipt : command = "RECEIPT"
    · subst hreceipt
      simp only [lit_inj, String.reduceEq, if_true, if_false] at h₂ h₃
      obtain ⟨receiptId, -, hreceipt⟩ := bind_eq_ok.1 h₂
      obtain rfl := Except.ok.inj hreceipt
      exact .inr (.inr (.inl ⟨_, _, (Except.ok.inj h₃).symm⟩))
    · rw [if_neg hreceipt] at h₂
      obtain rfl := Except.ok.inj h₂
      split_ifs at h₃
      · unfold handleMessageFrame at h₃
        simp only [bind_eq_ok] at h₃
        obtain ⟨_, -, _, -, _, -, _, -, teamA, -, teamB, -, game, hread, hmessage⟩ := h₃
        exact .inr (.inr (.inr ⟨_, ⟨teamA, teamB, _, body, game, hread, rfl⟩,
          (Except.ok.inj hmessage).symm⟩))
      · exact .inl (Except.ok.inj h₃).symm

/-- A frame leaves the connection as it is, or closes it. -/
theorem handler_processFrame {frame : Str} (hp : p.processFrame frame = .ok p') :
    p'.handler = p.handler ∨ p'.handler = p.handler.close.reset := by
  rcases processFrame_cases hp with rfl | rfl | ⟨receipts, command, rfl⟩ | ⟨games, -, rfl⟩
  · exact .inl rfl
  · exact .inr rfl
  · rcases receiptOf_cases { p with receiptToMsg := receipts } command with heq | ⟨subs, heq⟩
    · exact .inr (by rw [heq]; rfl)
    · exact .inl (by rw [heq])
  · exact .inl rfl

theorem receiptOf_disconnect : (p.receiptOf "DISCONNECT").handler.connected = false := rfl

end StompProtocol

end WorldCupInformer.Client
