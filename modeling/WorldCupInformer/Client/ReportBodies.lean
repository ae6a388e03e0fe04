import WorldCupInformer.Client.ReceivedMessages

/-!
# Reading a report

The body of a SEND frame is rendered by `buildSendFrames` and read by `Game.parseFrame`, line by
line and with the section headings as the only structure.

* `Reportable`: no line of the body looks like a heading, apart from the headings;
* `parseFrame_reportBody`: what reading such a body does to a game, whatever the game is;
* `report_survives_iff`: the updates come through exactly when they have no white space.
-/

namespace WorldCupInformer

open Client

/-- The body of the SEND frame of an event. -/
def reportBody (u : Str) (event : Client.Event) : Str :=
  "user: " ++ u ++ "\nevent name: " ++
    event.name ++ "\ntime:" ++ Client.intToString event.time ++ "\ngeneral game updates:\n" ++
    Client.StompProtocol.updatesToString event.game_updates ++ "team a updates: \n" ++
    Client.StompProtocol.updatesToString event.team_a_updates ++ "team b updates: \n" ++
    Client.StompProtocol.updatesToString event.team_b_updates ++ "description: \n" ++
    event.discription ++ "\n"

namespace Client

open Game StompProtocol

/-- A SEND frame is its header and the report. -/
theorem buildSendFrame_eq (p : StompProtocol) (gameName : Str) (event : Event) :
    p.buildSendFrame gameName event =
      lit "SEND\ndestination :/" ++ gameName ++ lit "\n\n" ++ reportBody p.username event := by
  simp [buildSendFrame, reportBody, lit]

/-! ### The lines of a report -/

variable {u : Str} {event : Event}

/-- The lines rendered for the user, the name and the time, for the updates and for the
description; the headings stand between them. -/
def Event.rendered (u : Str) (event : Event) : List Str :=
  ["user: " ++ u, "event name: " ++ event.name, "time:" ++ intToString event.time] ++
    lines (updatesToString event.game_updates) ++ lines (updatesToString event.team_a_updates) ++
    lines (updatesToString event.team_b_updates) ++ lines (event.discription ++ "\n")

/-- The user and the name are one line each, and no line is taken for a heading. -/
structure Reportable (u : Str) (event : Event) : Prop where
  user : '\n' ∉ u
  name : '\n' ∉ event.name
  unmarked : ∀ line ∈ event.rendered u, ¬ IsHeading line

theorem newline_notMem_intToString (z : ℤ) : '\n' ∉ intToString z := by
  cases z with
  | ofNat n => exact notMem_natToString (by decide)
  | negSucc n =>
    have hdigits : '\n' ∉ natToString (n + 1) := notMem_natToString (by decide)
    simpa [intToString] using hdigits

theorem updatesToString_ends (updates : List (Str × Str)) :
    updatesToString updates ≠ [] → (updatesToString updates).getLast? = some '\n' := by
  intro hne
  rcases List.eq_nil_or_concat updates with rfl | ⟨init, update, rfl⟩
  · exact absurd rfl hne
  · have hlast : updatesToString (init.concat update) =
        (updatesToString init ++ lit "    " ++ update.1 ++ lit ": " ++ update.2) ++ ['\n'] := by
      simp [updatesToString, lit]
    rw [hlast, List.getLast?_concat]

/-- The lines of the body. -/
theorem lines_reportBody (hu : '\n' ∉ u) (hname : '\n' ∉ event.name) :
    lines (reportBody u event) =
      ["user: " ++ u, "event name: " ++ event.name, "time:" ++ intToString event.time,
        lit "general game updates:"] ++ lines (updatesToString event.game_updates) ++
      [lit "team a updates: "] ++ lines (updatesToString event.team_a_updates) ++
      [lit "team b updates: "] ++ lines (updatesToString event.team_b_updates) ++
      [lit "description: "] ++ lines (event.discription ++ "\n") := by
  obtain ⟨ls₁, hls₁, heq₁⟩ := exists_unlines (updatesToString_ends event.game_updates)
  obtain ⟨ls₂, hls₂, heq₂⟩ := exists_unlines (updatesToString_ends event.team_a_updates)
  obtain ⟨ls₃, hls₃, heq₃⟩ := exists_unlines (updatesToString_ends event.team_b_updates)
  have hlines : ∀ {ls : List Str}, (∀ l ∈ ls, '\n' ∉ l) → lines (unlines ls) = ls := by
    intro ls hls
    have hnil : lines [] = [] := by decide
    have hall := lines_unlines hls []
    rwa [List.append_nil, hnil, List.append_nil] at hall
  have hbody : reportBody u event = unlines
      ["user: " ++ u, "event name: " ++ event.name, "time:" ++ intToString event.time,
        lit "general game updates:"] ++ (unlines ls₁ ++ (unlines [lit "team a updates: "] ++
      (unlines ls₂ ++ (unlines [lit "team b updates: "] ++ (unlines ls₃ ++
      (unlines [lit "description: "] ++ (event.discription ++ lit "\n"))))))) := by
    simp [reportBody, heq₁, heq₂, heq₃, lit]
  have htime := newline_notMem_intToString event.time
  have hhead : ∀ l ∈ ["user: " ++ u, "event name: " ++ event.name,
      "time:" ++ intToString event.time, lit "general game updates:"], '\n' ∉ l := by
    simp [lit, hu, hname, htime]
  rw [hbody, lines_unlines hhead, lines_unlines hls₁, lines_unlines (by simp [lit]),
    lines_unlines hls₂, lines_unlines (by simp [lit]), lines_unlines hls₃,
    lines_unlines (by simp [lit]), heq₁, heq₂, heq₃, hlines hls₁, hlines hls₂, hlines hls₃]
  simp [lit]

/-! ### Reading the lines -/

theorem mem_of_find {s p : Str} (h : find s p ≠ npos) : p ⊆ s := by
  cases hp : Text.find? p s with
  | none => exact absurd (find_eq_npos hp) h
  | some n =>
    obtain ⟨hocc, -⟩ := Text.find?_spec hp
    exact fun ch hch => List.mem_of_mem_drop (hocc.subset hch)

theorem find_of_prefix {s p : Str} (hp : p ≠ []) (h : p <+: s) : find s p = 0 := by
  cases p with
  | nil => exact absurd rfl hp
  | cons ch p => exact find_eq (Text.find?_of_prefix h)

variable {r : Reading}

/-- The user's line may be taken for the name or the time, until those come. -/
theorem parseLine_user (hr : r.whichUpdate = 0) (hline : ¬ IsHeading ("user: " ++ u)) :
    ∃ eventName eventTime, parseLine r ("user: " ++ u) =
      .ok { r with eventName := eventName, eventTime := eventTime } := by
  rw [parseLine_eq hline]
  have hlen : 5 ≤ (lit "user: " ++ u).length := by simp [lit]
  obtain ⟨game, name, description, time, section_⟩ := r
  obtain rfl : section_ = 0 := hr
  unfold readLine
  dsimp only
  split_ifs with hname htime
  · have hlong : 12 ≤ (lit "user: " ++ u).length := by
      by_contra hshort
      have heq := eq_of_find_of_length hname (by simp [lit] at hshort ⊢; omega)
      simp [lit] at heq
    obtain ⟨eventName, heq⟩ : NoThrow (substr (lit "user: " ++ u) 12 npos) :=
      noThrow_substr.2 ⟨by norm_num, by omega⟩
    exact ⟨eventName, time, by rw [heq]; rfl⟩
  · obtain ⟨eventTime, heq⟩ : NoThrow (substr (lit "user: " ++ u) 5 npos) :=
      noThrow_substr.2 ⟨by norm_num, by omega⟩
    exact ⟨name, eventTime, by rw [heq]; rfl⟩
  · exact ⟨name, time, rfl⟩

theorem parseLine_name (hr : r.whichUpdate = 0) {name : Str}
    (hline : ¬ IsHeading ("event name: " ++ name)) :
    parseLine r ("event name: " ++ name) = .ok { r with eventName := name } := by
  rw [parseLine_eq hline]
  have hprefix : lit "event name:" <+: lit "event name: " ++ name := by simp [lit]
  have hfind := find_of_prefix (by simp [lit]) hprefix
  have hsubstr : substr (lit "event name: " ++ name) 12 npos = .ok name := substr_append rfl
  unfold readLine
  simp only [hr, hfind, hsubstr]
  rfl

theorem parseLine_time (hr : r.whichUpdate = 0) {time : ℤ}
    (hline : ¬ IsHeading ("time:" ++ intToString time)) :
    parseLine r ("time:" ++ intToString time) = .ok { r with eventTime := intToString time } := by
  rw [parseLine_eq hline]
  have hprefix : lit "time:" <+: lit "time:" ++ intToString time := by simp
  have hfind := find_of_prefix (by simp [lit]) hprefix
  have hnone : find (lit "time:" ++ intToString time) "event name:" = npos := by
    by_contra hfound
    have hv : 'v' ∈ lit "time:" ++ intToString time := mem_of_find hfound (by simp [lit])
    have hfree : 'v' ∉ intToString time := by
      cases time with
      | ofNat n => exact notMem_natToString (by decide)
      | negSucc n =>
        have hdigits : 'v' ∉ natToString (n + 1) := notMem_natToString (by decide)
        simpa [intToString] using hdigits
    simp [lit, hfree] at hv
  have hsubstr : substr (lit "time:" ++ intToString time) 5 npos = .ok (intToString time) :=
    substr_append rfl
  unfold readLine
  simp only [hr, hfind, hnone, hsubstr]
  rfl

/-- What a line of updates is read as. -/
def updateOf (line : Str) : Str × Str :=
  let line := line.filter (!isSpace ·)
  (line.takeWhile (· ≠ ':'), if ':' ∈ line then (line.dropWhile (· ≠ ':')).drop 1 else line)

theorem putUpdate_eq (updates : Dict Str Str) (line : Str) :
    putUpdate updates line = .ok (updates.insert (updateOf line).1 (updateOf line).2) := by
  unfold putUpdate updateOf
  generalize line.filter (!isSpace ·) = line
  by_cases hcolon : ':' ∈ line
  · obtain ⟨key, value, rfl, hkey⟩ := List.eq_append_cons_of_mem hcolon
    have hfind : find (key ++ ':' :: value) ":" = key.length := by
      refine find_eq ?_
      have hhere : Text.find? [':'] (':' :: value) = some 0 := Text.find?_of_prefix (by simp)
      have hskip := Text.find?_append (q := []) (s := ':' :: value) hkey
      rwa [hhere] at hskip
    have hfree : ∀ ch ∈ key, decide (ch ≠ ':') = true := by
      intro ch hch
      have hne : ch ≠ ':' := fun heq => hkey (heq ▸ hch)
      simpa using hne
    have htake : (key ++ ':' :: value).takeWhile (· ≠ ':') = key := by
      rw [List.takeWhile_append_of_pos hfree]
      simp
    have hdrop : (key ++ ':' :: value).dropWhile (· ≠ ':') = ':' :: value := by
      rw [List.dropWhile_append_of_pos hfree]
      simp
    have hafter : key ++ ':' :: value = (key ++ [':']) ++ value := by simp
    have hvalue : substr (key ++ ':' :: value) (key.length + 1) npos = .ok value := by
      rw [hafter]
      exact substr_append (by simp)
    simp only [hfind, substr_take rfl, hvalue, htake, hdrop]
    simp [bind, Except.bind, pure, Except.pure]
  · have hfind : find line ":" = npos := find_eq_npos (Text.find?_eq_none hcolon)
    have htake : line.takeWhile (· ≠ ':') = line := by
      rw [List.takeWhile_eq_self_iff]
      intro ch hch
      have hne : ch ≠ ':' := fun heq => hcolon (heq ▸ hch)
      simpa using hne
    simp only [hfind, htake, if_neg hcolon]
    simp [substr, npos, bind, Except.bind, pure, Except.pure]

/-- A line of updates put into its table. -/
def putLine (updates : Dict Str Str) (line : Str) : Dict Str Str :=
  updates.insert (updateOf line).1 (updateOf line).2

/-- What a line that is no heading does in a section. -/
def put (section_ : ℕ) (r : Reading) (line : Str) : Reading :=
  match section_ with
  | 1 => { r with game.generalUpdates := putLine r.game.generalUpdates line }
  | 2 => { r with game.teamAstats := putLine r.game.teamAstats line }
  | 3 => { r with game.teamBstats := putLine r.game.teamBstats line }
  | _ => { r with description := r.description ++ line ++ lit "\n" }

theorem put_whichUpdate (section_ : ℕ) (r : Reading) (line : Str) :
    (put section_ r line).whichUpdate = r.whichUpdate := by
  unfold put
  split <;> rfl

theorem readLine_eq (hr : r.whichUpdate ≠ 0) (line : Str) :
    readLine r line = .ok (put r.whichUpdate r line) := by
  unfold readLine put
  simp only [putUpdate_eq]
  split <;> simp_all [Client.ok_bind, putLine, pure, Except.pure]

/-- The lines of a section, read one after the other. -/
theorem foldlM_section {ls : List Str} (hls : ∀ l ∈ ls, ¬ IsHeading l) (hr : r.whichUpdate ≠ 0) :
    ls.foldlM parseLine r = .ok (ls.foldl (put r.whichUpdate) r) := by
  induction ls generalizing r with
  | nil => rfl
  | cons l ls ih =>
    obtain ⟨hl, hls⟩ := List.forall_mem_cons.1 hls
    have hsame := put_whichUpdate r.whichUpdate r l
    rw [List.foldlM_cons, parseLine_eq hl, readLine_eq hr, ok_bind,
      ih hls (by rwa [hsame]), hsame]
    rfl

theorem foldl_put_general (r : Reading) (ls : List Str) : ls.foldl (put 1) r =
    { r with game.generalUpdates := ls.foldl putLine r.game.generalUpdates } := by
  induction ls generalizing r with
  | nil => rfl
  | cons l ls ih => exact ih _

theorem foldl_put_teamA (r : Reading) (ls : List Str) : ls.foldl (put 2) r =
    { r with game.teamAstats := ls.foldl putLine r.game.teamAstats } := by
  induction ls generalizing r with
  | nil => rfl
  | cons l ls ih => exact ih _

theorem foldl_put_teamB (r : Reading) (ls : List Str) : ls.foldl (put 3) r =
    { r with game.teamBstats := ls.foldl putLine r.game.teamBstats } := by
  induction ls generalizing r with
  | nil => rfl
  | cons l ls ih => exact ih _

theorem foldl_put_description (r : Reading) (ls : List Str) :
    ls.foldl (put 4) r = { r with description := r.description ++ unlines ls } := by
  induction ls generalizing r with
  | nil => simp
  | cons l ls ih =>
    rw [List.foldl_cons, ih]
    simp [put, lit]

/-! ### The headings -/

theorem parseLine_general (r : Reading) :
    parseLine r "general game updates:" = .ok { r with whichUpdate := 1 } := by
  have hfind : find "general game updates:" "game updates:" ≠ npos := by decide +kernel
  exact if_pos hfind

theorem parseLine_teamA (r : Reading) :
    parseLine r "team a updates: " = .ok { r with whichUpdate := 2 } := by
  have hnot : ¬ find "team a updates: " "game updates:" ≠ npos := by decide +kernel
  have hfind : find "team a updates: " "a updates: " ≠ npos := by decide +kernel
  exact (if_neg hnot).trans (if_pos hfind)

theorem parseLine_teamB (r : Reading) :
    parseLine r "team b updates: " = .ok { r with whichUpdate := 3 } := by
  have hnot : ¬ find "team b updates: " "game updates:" ≠ npos := by decide +kernel
  have hnotA : ¬ find "team b updates: " "a updates: " ≠ npos := by decide +kernel
  have hfind : find "team b updates: " "b updates: " ≠ npos := by decide +kernel
  exact (if_neg hnot).trans ((if_neg hnotA).trans (if_pos hfind))

theorem parseLine_description (r : Reading) :
    parseLine r "description: " = .ok { r with whichUpdate := 4 } := by
  have hnot : ¬ find "description: " "game updates:" ≠ npos := by decide +kernel
  have hnotA : ¬ find "description: " "a updates: " ≠ npos := by decide +kernel
  have hnotB : ¬ find "description: " "b updates: " ≠ npos := by decide +kernel
  have hfind : find "description: " "description:" ≠ npos := by decide +kernel
  exact (if_neg hnot).trans ((if_neg hnotA).trans ((if_neg hnotB).trans (if_pos hfind)))

/-- A heading and the lines of its section. -/
theorem foldlM_heading {heading : Str} {section_ : ℕ} (hne : section_ ≠ 0)
    (hheading : ∀ r, parseLine r heading = .ok { r with whichUpdate := section_ })
    {ls : List Str} (hls : ∀ l ∈ ls, ¬ IsHeading l) (rest : List Str) (r : Reading) :
    (heading :: (ls ++ rest)).foldlM parseLine r =
      rest.foldlM parseLine (ls.foldl (put section_) { r with whichUpdate := section_ }) := by
  have hsection := foldlM_section (r := { r with whichUpdate := section_ }) hls hne
  rw [List.foldlM_cons, hheading, ok_bind, List.foldlM_append, hsection, ok_bind]

/-- The lines before the first heading. -/
theorem foldlM_head (h : Reportable u event) (game : Game) (rest : List Str) :
    ((lit "user: " ++ u) :: (lit "event name: " ++ event.name) ::
      (lit "time:" ++ intToString event.time) :: rest).foldlM parseLine { game := game } =
        rest.foldlM parseLine
          { game := game, eventName := event.name, eventTime := intToString event.time } := by
  have huser := h.unmarked (lit "user: " ++ u) (by simp [Event.rendered])
  have hname := h.unmarked (lit "event name: " ++ event.name) (by simp [Event.rendered])
  have htime := h.unmarked (lit "time:" ++ intToString event.time) (by simp [Event.rendered])
  obtain ⟨eventName, eventTime, hread⟩ := parseLine_user (r := { game := game }) rfl huser
  rw [List.foldlM_cons, hread, ok_bind, List.foldlM_cons, parseLine_name rfl hname, ok_bind,
    List.foldlM_cons, parseLine_time rfl htime, ok_bind]

/-- The game after a report. -/
def reported (game : Game) (event : Event) : Game :=
  { game with
    generalUpdates := (lines (updatesToString event.game_updates)).foldl putLine game.generalUpdates
    teamAstats := (lines (updatesToString event.team_a_updates)).foldl putLine game.teamAstats
    teamBstats := (lines (updatesToString event.team_b_updates)).foldl putLine game.teamBstats
    eventsInfo := game.eventsInfo.insertNew (intToString event.time)
      [event.name, event.discription ++ lit "\n"] }

/-- **Reading a report**, whatever the game: its updates go into the tables line by line, and its
name and description under its time. -/
theorem parseFrame_reportBody (h : Reportable u event) (game : Game) :
    game.parseFrame (reportBody u event) = .ok (reported game event) := by
  have hgeneral : ∀ l ∈ lines (updatesToString event.game_updates), ¬ IsHeading l :=
    fun l hl => h.unmarked l (by simp [Event.rendered, hl])
  have hteamA : ∀ l ∈ lines (updatesToString event.team_a_updates), ¬ IsHeading l :=
    fun l hl => h.unmarked l (by simp [Event.rendered, hl])
  have hteamB : ∀ l ∈ lines (updatesToString event.team_b_updates), ¬ IsHeading l :=
    fun l hl => h.unmarked l (by simp [Event.rendered, hl])
  have hdescription : ∀ l ∈ lines (event.discription ++ lit "\n"), ¬ IsHeading l :=
    fun l hl => h.unmarked l (by simp [Event.rendered, hl])
  obtain ⟨ls, hls, hends⟩ := exists_unlines (s := event.discription ++ lit "\n") fun _ => by
    simp [lit]
  have hunlines :
      unlines (lines (event.discription ++ lit "\n")) = event.discription ++ lit "\n" := by
    have hnil : lines [] = [] := by decide
    have hall := lines_unlines hls []
    rw [List.append_nil, hnil, List.append_nil, ← hends] at hall
    rw [hall, hends]
  have hread : (lines (reportBody u event)).foldlM parseLine { game := game } = .ok
      { game := { reported game event with eventsInfo := game.eventsInfo }
        eventName := event.name
        description := event.discription ++ lit "\n"
        eventTime := intToString event.time
        whichUpdate := 4 } := by
    rw [lines_reportBody h.user h.name]
    simp only [List.append_assoc, List.cons_append, List.nil_append]
    rw [foldlM_head h, foldlM_heading (by norm_num) parseLine_general hgeneral,
      foldlM_heading (by norm_num) parseLine_teamA hteamA,
      foldlM_heading (by norm_num) parseLine_teamB hteamB]
    have hlast := foldlM_heading (by norm_num) parseLine_description hdescription []
    rw [List.append_nil] at hlast
    rw [hlast, foldl_put_general, foldl_put_teamA, foldl_put_teamB, foldl_put_description, hunlines]
    rfl
  unfold parseFrame
  rw [hread]
  rfl

/-- Reports of several users, read one after the other. -/
theorem foldlM_reports {reports : List (Str × Event)} (h : ∀ x ∈ reports, Reportable x.1 x.2)
    (game : Game) : (reports.map fun x => reportBody x.1 x.2).foldlM parseFrame game =
      .ok ((reports.map Prod.snd).foldl reported game) := by
  induction reports generalizing game with
  | nil => rfl
  | cons x reports ih =>
    obtain ⟨hx, hreports⟩ := List.forall_mem_cons.1 h
    rw [List.map_cons, List.foldlM_cons, parseFrame_reportBody hx, ok_bind, ih hreports]
    rfl

/-! ### Which updates come through -/

/-- The text has no white space at all. -/
def SpaceFree (s : Str) : Prop := ∀ ch ∈ s, isSpace ch = false

/-- No white space at either end. -/
def Trimmed (s : Str) : Prop := SpaceFree (s.head?.toList ++ s.getLast?.toList)

/-- The updates of an events file: a map from keys without line ends and colons to values without
line ends, with no white space at the ends. -/
structure TidyUpdates (updates : List (Str × Str)) : Prop where
  nodup : (updates.map Prod.fst).Nodup
  key : ∀ x ∈ updates, x.1 ≠ [] ∧ ':' ∉ x.1 ∧ '\n' ∉ x.1 ∧ Trimmed x.1
  value : ∀ x ∈ updates, '\n' ∉ x.2 ∧ Trimmed x.2

theorem filter_of_spaceFree {s : Str} (h : SpaceFree s) : s.filter (!isSpace ·) = s := by
  rw [List.filter_eq_self]
  intro ch hch
  simp [h ch hch]

theorem spaceFree_filter (s : Str) : SpaceFree (s.filter (!isSpace ·)) := by
  intro ch hch
  simpa using (List.mem_filter.1 hch).2

/-- A line of updates is read without the white space of its key and its value. -/
theorem updateOf_line {key value : Str} (hkey : ':' ∉ key) :
    updateOf ("    " ++ key ++ ": " ++ value) =
      (key.filter (!isSpace ·), value.filter (!isSpace ·)) := by
  have hline : (lit "    " ++ key ++ lit ": " ++ value).filter (!isSpace ·) =
      key.filter (!isSpace ·) ++ ':' :: value.filter (!isSpace ·) := by
    simp [lit, isSpace]
  have hfree : ':' ∉ key.filter (!isSpace ·) := fun h => hkey (List.mem_filter.1 h).1
  unfold updateOf
  rw [hline]
  generalize key.filter (!isSpace ·) = key at hfree
  have htrue : ∀ ch ∈ key, decide (ch ≠ ':') = true := by
    intro ch hch
    have hne : ch ≠ ':' := fun heq => hfree (heq ▸ hch)
    simpa using hne
  simp only [List.takeWhile_append_of_pos htrue, List.dropWhile_append_of_pos htrue]
  simp

/-- The lines of a map of updates, put into an empty table. -/
theorem foldl_putLine {updates : List (Str × Str)}
    (hkey : ∀ x ∈ updates, ':' ∉ x.1 ∧ '\n' ∉ x.1) (hvalue : ∀ x ∈ updates, '\n' ∉ x.2)
    (d : Dict Str Str) : (lines (updatesToString updates)).foldl putLine d =
      updates.foldl (fun d x =>
        d.insert (x.1.filter (!isSpace ·)) (x.2.filter (!isSpace ·))) d := by
  induction updates generalizing d with
  | nil => rfl
  | cons x updates ih =>
    obtain ⟨⟨hcolon, hline⟩, hkey⟩ := List.forall_mem_cons.1 hkey
    obtain ⟨hline', hvalue⟩ := List.forall_mem_cons.1 hvalue
    have hfree : '\n' ∉ lit "    " ++ x.1 ++ lit ": " ++ x.2 := by simp [lit, hline, hline']
    have hcons : updatesToString (x :: updates) =
        (lit "    " ++ x.1 ++ lit ": " ++ x.2) ++ '\n' :: updatesToString updates := by
      simp [updatesToString, lit]
    rw [hcons, lines_cons hfree, List.foldl_cons, ih hkey hvalue, List.foldl_cons, putLine,
      updateOf_line hcolon]

/-- The table holds the map. -/
def Stores (d : Dict Str Str) (updates : List (Str × Str)) : Prop :=
  ∀ key, d.lookup key = updates.lookup key

theorem lookup_foldl_insert {updates : List (Str × Str)} (hnodup : (updates.map Prod.fst).Nodup)
    (d : Dict Str Str) (key : Str) :
    (updates.foldl (fun d x => d.insert x.1 x.2) d).lookup key =
      (updates.lookup key).or (d.lookup key) :=
  Dict.get_foldl (fun d key => d.lookup key) (fun d x key => Dict.lookup_insert d x.1 key x.2)
    hnodup d key

/-- What is in the table has been put there without white space. -/
theorem spaceFree_of_lookup {updates : List (Str × Str)} {d : Dict Str Str} {key value : Str}
    (hd : ∀ key value, d.lookup key = some value → SpaceFree key ∧ SpaceFree value)
    (h : (updates.foldl (fun d x =>
      d.insert (x.1.filter (!isSpace ·)) (x.2.filter (!isSpace ·))) d).lookup key = some value) :
    SpaceFree key ∧ SpaceFree value := by
  induction updates generalizing d with
  | nil => exact hd key value h
  | cons x updates ih =>
    refine ih (fun key' value' h' => ?_) h
    rw [Dict.lookup_insert] at h'
    split_ifs at h' with heq
    · obtain rfl := Option.some.inj h'
      exact ⟨heq ▸ spaceFree_filter _, spaceFree_filter _⟩
    · exact hd key' value' h'

theorem lookup_of_mem {updates : List (Str × Str)} (hnodup : (updates.map Prod.fst).Nodup)
    {x : Str × Str} (hx : x ∈ updates) : updates.lookup x.1 = some x.2 := by
  induction updates with
  | nil => cases hx
  | cons y updates ih =>
    obtain ⟨hnew, hrest⟩ := List.nodup_cons.1 hnodup
    obtain ⟨name, value⟩ := y
    rcases List.mem_cons.1 hx with rfl | hx
    · simp
    · have hne : x.1 ≠ name := fun h => hnew (List.mem_map.2 ⟨x, hx, h⟩)
      have hbeq : (x.1 == name) = false := by simpa using hne
      rw [List.lookup_cons, hbeq]
      exact ih hrest hx

/-- **A map of updates comes through** exactly when no key and no value has white space. -/
theorem stores_iff {updates : List (Str × Str)} (hu : TidyUpdates updates) :
    Stores ((lines (updatesToString updates)).foldl putLine ∅) updates ↔
      ∀ x ∈ updates, SpaceFree x.1 ∧ SpaceFree x.2 := by
  rw [foldl_putLine (fun x hx => ⟨(hu.key x hx).2.1, (hu.key x hx).2.2.1⟩)
    fun x hx => (hu.value x hx).1]
  constructor
  · intro hstores x hx
    refine spaceFree_of_lookup (d := ∅) (by simp) ((hstores x.1).trans ?_)
    exact lookup_of_mem hu.nodup hx
  · intro hfree key
    have hsame : updates.foldl (fun (d : Dict Str Str) x =>
        d.insert (x.1.filter (!isSpace ·)) (x.2.filter (!isSpace ·))) ∅ =
        updates.foldl (fun d x => d.insert x.1 x.2) ∅ := by
      refine List.foldl_ext _ _ _ fun d x hx => ?_
      rw [filter_of_spaceFree (hfree x hx).1, filter_of_spaceFree (hfree x hx).2]
    rw [hsame, lookup_foldl_insert hu.nodup]
    simp

/-! ### Reports -/

/-- The three maps of an event are such updates. -/
structure Event.Tidy (event : Event) : Prop where
  game : TidyUpdates event.game_updates
  teamA : TidyUpdates event.team_a_updates
  teamB : TidyUpdates event.team_b_updates

/-- No key and no value has white space. -/
def Event.SpaceFree (event : Event) : Prop :=
  ∀ x ∈ event.game_updates ++ event.team_a_updates ++ event.team_b_updates,
    Client.SpaceFree x.1 ∧ Client.SpaceFree x.2

/-- A new game that reads the report has the updates of the event, and its name and description
under its time. -/
def Survives (teamA teamB u : Str) (event : Event) : Prop :=
  ∃ game, parseFrame { teamAname := teamA, teamBname := teamB } (reportBody u event) = .ok game ∧
    Stores game.generalUpdates event.game_updates ∧
    Stores game.teamAstats event.team_a_updates ∧
    Stores game.teamBstats event.team_b_updates ∧
    ∀ time, game.eventsInfo.lookup time =
      if time = intToString event.time then some [event.name, event.discription ++ lit "\n"]
      else none

/-- **A report survives the trip exactly when its updates have no white space**: the parser takes
all white space out of a line of updates, and not only what the renderer has put there. -/
theorem report_survives_iff (teamA teamB u : Str) (event : Event) (hreport : Reportable u event)
    (htidy : event.Tidy) : Survives teamA teamB u event ↔ event.SpaceFree := by
  have hgame := stores_iff htidy.game
  have hteamA := stores_iff htidy.teamA
  have hteamB := stores_iff htidy.teamB
  have hfree : event.SpaceFree ↔ (∀ x ∈ event.game_updates, SpaceFree x.1 ∧ SpaceFree x.2) ∧
      (∀ x ∈ event.team_a_updates, SpaceFree x.1 ∧ SpaceFree x.2) ∧
      ∀ x ∈ event.team_b_updates, SpaceFree x.1 ∧ SpaceFree x.2 := by
    simp only [Event.SpaceFree, List.append_assoc, List.mem_append, or_imp, forall_and, and_assoc]
    tauto
  rw [hfree, ← hgame, ← hteamA, ← hteamB, Survives, parseFrame_reportBody hreport]
  constructor
  · rintro ⟨game, hparse, hstores, hstoresA, hstoresB, -⟩
    obtain rfl := Except.ok.inj hparse
    exact ⟨hstores, hstoresA, hstoresB⟩
  · rintro ⟨hstores, hstoresA, hstoresB⟩
    refine ⟨_, rfl, hstores, hstoresA, hstoresB, fun time => ?_⟩
    rw [reported, Dict.insertNew_of_none (by simp), Dict.lookup_insert]
    simp

instance : DecidablePred IsHeading := fun _ => inferInstanceAs (Decidable (_ ∨ _))

instance : DecidablePred SpaceFree := fun s => List.decidableBAll (isSpace · = false) s

instance : DecidablePred Trimmed := fun _ => inferInstanceAs (Decidable (SpaceFree _))

instance (updates : List (Str × Str)) : Decidable (TidyUpdates updates) :=
  decidable_of_iff ((updates.map Prod.fst).Nodup ∧
    (∀ x ∈ updates, x.1 ≠ [] ∧ ':' ∉ x.1 ∧ '\n' ∉ x.1 ∧ Trimmed x.1) ∧
      ∀ x ∈ updates, '\n' ∉ x.2 ∧ Trimmed x.2)
    ⟨fun h => ⟨h.1, h.2.1, h.2.2⟩, fun h => ⟨h.nodup, h.key, h.value⟩⟩

instance (event : Event) : Decidable event.Tidy :=
  decidable_of_iff (TidyUpdates event.game_updates ∧ TidyUpdates event.team_a_updates ∧
    TidyUpdates event.team_b_updates)
    ⟨fun h => ⟨h.1, h.2.1, h.2.2⟩, fun h => ⟨h.game, h.teamA, h.teamB⟩⟩

instance (u : Str) (event : Event) : Decidable (Reportable u event) :=
  decidable_of_iff ('\n' ∉ u ∧ '\n' ∉ event.name ∧ ∀ line ∈ event.rendered u, ¬ IsHeading line)
    ⟨fun h => ⟨h.1, h.2.1, h.2.2⟩, fun h => ⟨h.user, h.name, h.unmarked⟩⟩

/-- A goal. -/
def goal (key value : String) : Event where
  name := "goal"
  time := 1980
  game_updates := [(lit "active", lit "true")]
  team_a_updates := [(lit key, lit value)]
  team_b_updates := []
  discription := "A goal\nafter half an hour"

theorem goal_survives : Survives "a" "b" "bob" (goal "goals" "1") :=
  (report_survives_iff "a" "b" "bob" (goal "goals" "1") (by decide +kernel) (by decide +kernel)).2
    (by unfold Event.SpaceFree; decide +kernel)

/-- Who scored is stored as `AB` under `goalscoredby`. -/
theorem not_forall_report_survives : ¬ ∀ (teamA teamB u : Str) (event : Event),
    Reportable u event → event.Tidy → Survives teamA teamB u event := by
  intro hall
  have hreport : Reportable "bob" (goal "goal scored by" "A B") := by decide +kernel
  have htidy : (goal "goal scored by" "A B").Tidy := by decide +kernel
  obtain ⟨game, hparse, -, hstores, -⟩ := hall "a" "b" "bob" _ hreport htidy
  rw [parseFrame_reportBody hreport] at hparse
  obtain rfl := Except.ok.inj hparse
  have hfree := (stores_iff htidy.teamA).1 hstores
  revert hfree
  decide +kernel

end Client

end WorldCupInformer
