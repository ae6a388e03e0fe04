import WorldCupInformer.Client.ReceivedFrames

/-!
# Reading a MESSAGE

`processFrame` cuts a frame into command, header and body (`splitFrame`), `handleMessageFrame` cuts
the destination out of the header (`destinationOf`) and reads the body line by line.

* `parseFrame_noThrow_iff`: `Game.parseFrame` throws exactly when a line before the first heading is
  `event name:` and nothing else;
* `handleMessageFrame_noThrow_iff`: a body must also have five bytes.
-/

namespace WorldCupInformer.Client

/-! ### Calls that return -/

/-- The call returns. -/
def NoThrow {α : Type} (x : Except CppException α) : Prop := ∃ a, x = .ok a

section NoThrow

variable {α β : Type}

@[simp] theorem noThrow_ok (a : α) : NoThrow (.ok a : Except CppException α) := ⟨a, rfl⟩

@[simp] theorem noThrow_pure (a : α) : NoThrow (pure a : Except CppException α) := ⟨a, rfl⟩

@[simp] theorem not_noThrow_error (x : CppException) :
    ¬ NoThrow (.error x : Except CppException α) :=
  fun ⟨_, h⟩ => nomatch h

theorem ok_bind (a : α) (f : α → Except CppException β) : (Except.ok a >>= f) = f a := rfl

theorem noThrow_bind {x : Except CppException α} {f : α → Except CppException β} :
    NoThrow (x >>= f) ↔ ∃ a, x = .ok a ∧ NoThrow (f a) := by
  cases x with
  | error e => simp [bind, Except.bind]
  | ok a => simp [bind, Except.bind]

/-- `substr` throws only outside the string. -/
theorem noThrow_substr {s : Str} {pos count : ℤ} :
    NoThrow (substr s pos count) ↔ 0 ≤ pos ∧ pos ≤ s.length := by
  unfold substr
  split_ifs with h <;> simp [h]

end NoThrow

/-- A position found lies in the string, with room for what has been looked for. -/
theorem find_bounds (s p : Str) :
    find s p = npos ∨ 0 ≤ find s p ∧ find s p + p.length ≤ s.length := by
  cases hfind : Text.find? p s with
  | none => exact .inl (find_eq_npos hfind)
  | some n =>
    have hlen := (Text.find?_spec hfind).2
    rw [find_eq hfind]
    omega

/-- What is found in a string of its own length is the string. -/
theorem eq_of_find_of_length {s p : Str} (hfind : find s p ≠ npos) (hlen : s.length ≤ p.length) :
    s = p := by
  cases hp : Text.find? p s with
  | none => exact absurd (find_eq_npos hp) hfind
  | some n =>
    obtain ⟨hocc, hbound⟩ := Text.find?_spec hp
    obtain rfl : n = 0 := by omega
    exact (hocc.eq_of_length_le hlen).symm

theorem noThrow_substr_zero (s : Str) (count : ℤ) : NoThrow (substr s 0 count) :=
  noThrow_substr.2 ⟨le_rfl, Int.natCast_nonneg _⟩

/-- The text behind an occurrence, or behind a position near the beginning if there is none. -/
theorem noThrow_substr_find {s p : Str} {k : ℕ} (hk : k ≤ p.length) (hpos : 0 < k)
    (hshort : find s p = npos → k - 1 ≤ s.length) : NoThrow (substr s (find s p + k) npos) := by
  rw [noThrow_substr]
  rcases find_bounds s p with hnone | hfound
  · have hlen := hshort hnone
    rw [hnone, npos]
    omega
  · omega

namespace Game

/-! ### The lines of a body -/

/-- The line is a heading: the lines after it belong to its section. -/
def IsHeading (line : Str) : Prop :=
  find line "game updates:" ≠ npos ∨ find line "a updates: " ≠ npos ∨
    find line "b updates: " ≠ npos ∨ find line "description:" ≠ npos

/-- No line before the first heading is the bare `event name:`. -/
def NamesEvents (ls : List Str) : Prop :=
  ∀ before after, ls = before ++ lit "event name:" :: after → ∃ l ∈ before, IsHeading l

theorem not_isHeading_eventName : ¬ IsHeading "event name:" := by
  unfold IsHeading
  decide +kernel

theorem namesEvents_cons_of_heading {line : Str} {ls : List Str} (h : IsHeading line) :
    NamesEvents (line :: ls) := by
  intro before after heq
  cases before with
  | nil =>
    rw [List.nil_append] at heq
    exact absurd ((List.cons.inj heq).1 ▸ h) not_isHeading_eventName
  | cons l before => exact ⟨l, List.mem_cons_self, (List.cons.inj heq).1 ▸ h⟩

theorem not_namesEvents_cons (ls : List Str) : ¬ NamesEvents (lit "event name:" :: ls) :=
  fun h => by
  obtain ⟨l, hl, -⟩ := h [] ls rfl
  exact List.not_mem_nil hl

theorem namesEvents_cons {line : Str} {ls : List Str} (hne : line ≠ "event name:")
    (hline : ¬ IsHeading line) : NamesEvents (line :: ls) ↔ NamesEvents ls := by
  constructor
  · intro h before after heq
    obtain ⟨l, hl, hheading⟩ := h (line :: before) after (by rw [heq, List.cons_append])
    rcases List.mem_cons.1 hl with rfl | hl
    · exact absurd hheading hline
    · exact ⟨l, hl, hheading⟩
  · intro h before after heq
    cases before with
    | nil => exact absurd (List.cons.inj heq).1 hne
    | cons l before =>
      obtain ⟨l', hl', hheading⟩ := h before after (List.cons.inj heq).2
      exact ⟨l', List.mem_cons_of_mem _ hl', hheading⟩

theorem noThrow_putUpdate (updates : Dict Str Str) (line : Str) :
    NoThrow (putUpdate updates line) := by
  unfold putUpdate
  obtain ⟨key, hkey⟩ := noThrow_substr_zero (line.filter (!isSpace ·))
    (find (line.filter (!isSpace ·)) ":")
  obtain ⟨value, hvalue⟩ := noThrow_substr_find (s := line.filter (!isSpace ·)) (p := ":") (k := 1)
    (by simp [lit]) (by norm_num) (by simp)
  refine ⟨updates.insert key value, ?_⟩
  push_cast at hvalue
  simp only [hkey, hvalue]
  rfl

/-- A heading switches to its section. -/
theorem parseLine_heading {line : Str} (h : IsHeading line) (r : Reading) :
    ∃ section_ ≠ 0, parseLine r line = .ok { r with whichUpdate := section_ } := by
  unfold parseLine
  split_ifs with h₁ h₂ h₃ h₄
  · exact ⟨1, by norm_num, rfl⟩
  · exact ⟨2, by norm_num, rfl⟩
  · exact ⟨3, by norm_num, rfl⟩
  · exact ⟨4, by norm_num, rfl⟩
  · simp_all [IsHeading]

theorem parseLine_eq {line : Str} (h : ¬ IsHeading line) (r : Reading) :
    parseLine r line = readLine r line := by
  simp only [IsHeading, not_or] at h
  unfold parseLine
  simp [h]

/-- In a section every line can be read. -/
theorem readLine_section {r : Reading} (hr : r.whichUpdate ≠ 0) (line : Str) :
    ∃ r', readLine r line = .ok r' ∧ r'.whichUpdate = r.whichUpdate := by
  obtain ⟨updates₁, h₁⟩ := noThrow_putUpdate r.game.generalUpdates line
  obtain ⟨updates₂, h₂⟩ := noThrow_putUpdate r.game.teamAstats line
  obtain ⟨updates₃, h₃⟩ := noThrow_putUpdate r.game.teamBstats line
  unfold readLine
  split
  · exact absurd ‹_› hr
  · exact ⟨{ r with game.generalUpdates := updates₁ }, by rw [h₁]; rfl, rfl⟩
  · exact ⟨{ r with game.teamAstats := updates₂ }, by rw [h₂]; rfl, rfl⟩
  · exact ⟨{ r with game.teamBstats := updates₃ }, by rw [h₃]; rfl, rfl⟩
  · exact ⟨{ r with description := r.description ++ line ++ lit "\n" }, rfl, rfl⟩

/-- Before the first heading, only the bare `event name:` is too short. -/
theorem readLine_start {r : Reading} (hr : r.whichUpdate = 0) {line : Str}
    (hline : line ≠ "event name:") :
    ∃ r', readLine r line = .ok r' ∧ r'.whichUpdate = 0 := by
  unfold readLine
  simp only [hr]
  split_ifs with hname htime
  · have hlen : 12 ≤ line.length := by
      by_contra hshort
      exact hline (eq_of_find_of_length hname (by simp [lit]; omega))
    obtain ⟨eventName, heq⟩ : NoThrow (substr line 12 npos) :=
      noThrow_substr.2 ⟨by norm_num, by omega⟩
    exact ⟨{ r with eventName := eventName }, by rw [heq]; simp only [hr]; rfl, hr⟩
  · have hlen : 5 ≤ line.length := by
      have hbounds := (find_bounds line "time:").resolve_left htime
      have htext : (lit "time:").length = 5 := rfl
      omega
    obtain ⟨eventTime, heq⟩ : NoThrow (substr line 5 npos) :=
      noThrow_substr.2 ⟨by norm_num, by omega⟩
    exact ⟨{ r with eventTime := eventTime }, by rw [heq]; simp only [hr]; rfl, hr⟩
  · exact ⟨r, rfl, hr⟩

theorem readLine_eventName {r : Reading} (hr : r.whichUpdate = 0) :
    ¬ NoThrow (readLine r "event name:") := by
  unfold readLine
  simp only [hr]
  have hfind : find "event name:" "event name:" ≠ npos := by decide +kernel
  have hsubstr : substr "event name:" 12 npos = .error .outOfRange := by decide +kernel
  simp [hfind, hsubstr, bind, Except.bind]

/-- **The loop of `parseFrame`** throws exactly at a bare `event name:` before the headings. -/
theorem noThrow_foldlM_parseLine (r : Reading) (ls : List Str) :
    NoThrow (ls.foldlM parseLine r) ↔ r.whichUpdate = 0 → NamesEvents ls := by
  induction ls generalizing r with
  | nil => simp [NamesEvents, List.foldlM_nil]
  | cons line ls ih =>
    rw [List.foldlM_cons, noThrow_bind]
    by_cases hheading : IsHeading line
    · obtain ⟨n, hn, heq⟩ := parseLine_heading hheading r
      simp [heq, ih, hn, namesEvents_cons_of_heading hheading]
    · rw [parseLine_eq hheading]
      by_cases hr : r.whichUpdate = 0
      · by_cases hline : line = "event name:"
        · subst hline
          constructor
          · rintro ⟨r', hr', -⟩
            exact absurd ⟨r', hr'⟩ (readLine_eventName hr)
          · exact fun h => absurd (h hr) (not_namesEvents_cons ls)
        · obtain ⟨r', heq, hr'⟩ := readLine_start hr hline
          simp [heq, ih, hr, hr', namesEvents_cons hline hheading]
      · obtain ⟨r', heq, hr'⟩ := readLine_section hr line
        simp [heq, ih, hr, hr']

theorem parseFrame_noThrow_iff (game : Game) (body : Str) :
    NoThrow (game.parseFrame body) ↔ NamesEvents (lines body) := by
  unfold parseFrame
  rw [noThrow_bind]
  have hfold := noThrow_foldlM_parseLine { game := game } (lines body)
  simp only [true_implies] at hfold
  rw [← hfold]
  exact ⟨fun ⟨r, hr, _⟩ => ⟨r, hr⟩, fun ⟨r, hr⟩ => ⟨r, hr, noThrow_pure _⟩⟩

end Game

/-! ### The parts of a frame -/

/-- What `processFrame` cuts a frame into. -/
structure FrameParts where
  command : Str
  header : Str
  body : Str

/-- The cuts of `processFrame`. -/
def splitFrame (frame : Str) : Except CppException FrameParts := do
  let command ← substr frame 0 (find frame "\n")
  let frame ← substr frame (find frame "\n" + 1) npos
  let header ← substr frame 0 (find frame "\n\n")
  let bodyStart := find frame "\n\n" + 2
  let body ← (if bodyStart < frame.length then substr frame bodyStart npos else pure [])
  return { command, header, body }

theorem splitFrame_command {command rest : Str} (hcmd : '\n' ∉ command) {parts : FrameParts}
    (h : splitFrame (command ++ '\n' :: rest) = .ok parts) : parts.command = command := by
  unfold splitFrame at h
  rw [(StompProtocol.substr_command hcmd _).1] at h
  simp only [ok_bind, bind_eq_ok] at h
  obtain ⟨_, -, _, -, _, -, hparts⟩ := h
  exact (congrArg FrameParts.command (Except.ok.inj hparts)).symm

theorem splitFrame_receipt {r : Str} (hr : '\n' ∉ r) :
    splitFrame (receiptText r) = .ok ⟨"RECEIPT", lit "receipt - id :" ++ r, []⟩ := by
  have hnewline : '\n' ∉ lit "RECEIPT" := by decide
  obtain ⟨hcommand, hrest⟩ :=
    StompProtocol.substr_command hnewline (lit "receipt - id :" ++ r ++ lit "\n\n")
  obtain ⟨hheader, hbody⟩ := StompProtocol.cut_receipt hr
  unfold splitFrame
  simp only [StompProtocol.receiptText_eq, hcommand, hrest, hheader, ok_bind, if_neg hbody]
  rfl

/-- **A frame made of lines** is cut at the first empty line, whatever its body is. -/
theorem splitFrame_lines {command : Str} (hcmd : '\n' ∉ command) {ls : List Str} (hne : ls ≠ [])
    (hls : ∀ l ∈ ls, '\n' ∉ l ∧ l ≠ []) (body : Str) :
    splitFrame (command ++ '\n' :: ((lit "\n").intercalate ls ++ lit "\n\n" ++ body)) =
      .ok ⟨command, (lit "\n").intercalate ls, body⟩ := by
  set header : Str := (lit "\n").intercalate ls with hheader
  obtain ⟨hcommand, hrest⟩ := StompProtocol.substr_command hcmd (header ++ lit "\n\n" ++ body)
  have hblank : find (header ++ lit "\n\n" ++ body) "\n\n" = header.length := by
    refine find_eq ?_
    rw [hheader, List.append_assoc]
    exact Text.find?_intercalate hne (fun l hl => (hls l hl).1)
      (fun l hl => (hls l (List.mem_of_mem_tail hl)).2) body
  have hheader' : substr (header ++ lit "\n\n" ++ body) 0 header.length = .ok header := by
    rw [List.append_assoc]
    exact substr_take rfl
  have hbody : (if (header.length + 2 : ℤ) < (header ++ lit "\n\n" ++ body).length then
      substr (header ++ lit "\n\n" ++ body) (header.length + 2) npos else pure []) =
        .ok body := by
    have hlength : (header ++ lit "\n\n").length = header.length + 2 := by simp [lit]
    split_ifs with hlt
    · exact substr_append (by rw [hlength]; norm_num)
    · have hempty : body = [] := by
        rw [List.length_append, hlength] at hlt
        refine List.eq_nil_of_length_eq_zero ?_
        push_cast at hlt
        omega
      rw [hempty]
      rfl
  unfold splitFrame
  simp only [hcommand, hrest, hblank, hheader', hbody, ok_bind]
  rfl

/-- The receipt id `handleReceiptFrame` cuts out of a header. -/
def receiptIdOf (header : Str) : Except CppException Str :=
  substr header (find header "receipt - id :" + 14) npos

/-- The destination `handleMessageFrame` cuts out of a header, without its `/`. -/
def destinationOf (header : Str) : Except CppException Str := do
  let destination ← substr header (find header "destination :/" + 14) npos
  substr destination 0 (find destination "\n")

/-- The user `handleMessageFrame` cuts out of a body. -/
def userOf (body : Str) : Except CppException Str := do
  let user ← substr body (find body "user: " + 6) npos
  substr user 0 (find user "\n")

namespace StompProtocol

variable {p : StompProtocol}

theorem processFrame_eq_bind (p : StompProtocol) (frame : Str) : p.processFrame frame = (do
      let parts ← splitFrame frame
      let p ← (if parts.command = "ERROR" then p.handleErrorFrame parts.body else pure p)
      let p ← (if parts.command = "RECEIPT" then p.handleReceiptFrame parts.header else pure p)
      if parts.command = "MESSAGE" then p.handleMessageFrame parts.header parts.body
      else pure p) := by
  unfold processFrame splitFrame
  simp only [bind_assoc, pure_bind]

theorem processFrame_of_splitFrame {frame header body : Str}
    (h : splitFrame frame = .ok ⟨"MESSAGE", header, body⟩) :
    p.processFrame frame = p.handleMessageFrame header body := by
  rw [processFrame_eq_bind, h, ok_bind]
  simp only [lit_inj, String.reduceEq, if_false, if_true, pure_bind]

theorem processFrame_of_splitFrame_error {frame header body : Str}
    (h : splitFrame frame = .ok ⟨"ERROR", header, body⟩) :
    p.processFrame frame = p.handleErrorFrame body := by
  rw [processFrame_eq_bind, h, ok_bind]
  simp only [lit_inj, String.reduceEq, if_false, if_true, bind_pure]

/-- A user can be cut out of a body of five bytes: without `user: ` the cut is after the fifth. -/
theorem noThrow_userOf (body : Str) : NoThrow (userOf body) ↔ 5 ≤ body.length := by
  have hcut : NoThrow (substr body (find body "user: " + 6) npos) ↔ 5 ≤ body.length := by
    have htext : (lit "user: ").length = 6 := rfl
    rw [noThrow_substr]
    rcases find_bounds body "user: " with hnone | hfound
    · rw [hnone, npos]
      omega
    · omega
  unfold userOf
  rw [noThrow_bind, ← hcut]
  constructor
  · rintro ⟨user, huser, _⟩
    exact ⟨user, huser⟩
  · rintro ⟨user, huser⟩
    exact ⟨user, huser, noThrow_substr_zero _ _⟩

theorem handleMessageFrame_eq (p : StompProtocol) (header body : Str) :
    p.handleMessageFrame header body = (do
      let destination ← destinationOf header
      let user ← userOf body
      let teamA ← substr destination 0 (find destination "_")
      let teamB ← substr destination (find destination "_" + 1) npos
      let gameName := teamA ++ "_" ++ teamB
      let fresh : Game := { teamAname := teamA, teamBname := teamB }
      let current ← ((Dict.lookup₂ p.gameToEvents gameName user).getD fresh).parseFrame body
      return { p with gameToEvents := Dict.put₂ p.gameToEvents gameName user current }) := by
  unfold handleMessageFrame destinationOf userOf
  simp only [bind_assoc]

/-- **The body of a MESSAGE decides whether it can be handled.** -/
theorem handleMessageFrame_noThrow_iff {header destination body : Str}
    (hdest : destinationOf header = .ok destination) :
    NoThrow (p.handleMessageFrame header body) ↔
      5 ≤ body.length ∧ Game.NamesEvents (lines body) := by
  obtain ⟨teamA, hteamA⟩ := noThrow_substr_zero destination (find destination "_")
  obtain ⟨teamB, hteamB⟩ : NoThrow (substr destination (find destination "_" + 1) npos) := by
    have h := noThrow_substr_find (s := destination) (p := "_") (k := 1) (by simp [lit])
      (by norm_num) (by simp)
    exact_mod_cast h
  rw [handleMessageFrame_eq, ← noThrow_userOf]
  simp only [hdest, ok_bind, hteamA, hteamB]
  rw [noThrow_bind]
  constructor
  · rintro ⟨user, huser, hgame⟩
    obtain ⟨current, hcurrent, -⟩ := noThrow_bind.1 hgame
    exact ⟨⟨user, huser⟩, (Game.parseFrame_noThrow_iff _ _).1 ⟨current, hcurrent⟩⟩
  · rintro ⟨⟨user, huser⟩, hnames⟩
    obtain ⟨current, hcurrent⟩ := (Game.parseFrame_noThrow_iff _ body).2 hnames
    exact ⟨user, huser, noThrow_bind.2 ⟨current, hcurrent, noThrow_pure _⟩⟩

end StompProtocol

end WorldCupInformer.Client
