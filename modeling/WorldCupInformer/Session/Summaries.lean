import WorldCupInformer.Client.ReportBodies
import WorldCupInformer.Session.PublishedText

/-!
# Summaries of different games and users

A subscriber keeps one `Game` for every game and every user that reports on it.

* `processFrame_reportMessage`: a report changes the entry of its own game and user, and no other;
* `processFrames_reportMessages`: the entry is what the reports of its game and its user make of it,
  in the order of arrival;
* `summaries_independent`: how the reports of different publishers are mixed does not matter.
-/

namespace WorldCupInformer

open Client Utf8

/-! ### Reading any report -/

section Report

variable {u : Str} {event : Client.Event}

/-- A report can be read whatever its lines look like. -/
theorem noThrow_parseFrame_reportBody (hu : '\n' ∉ u) (hname : '\n' ∉ event.name) (game : Game) :
    NoThrow (game.parseFrame (reportBody u event)) := by
  rw [Game.parseFrame_noThrow_iff, lines_reportBody hu hname]
  have hheading : Game.IsHeading "general game updates:" := by
    unfold Game.IsHeading
    decide +kernel
  -- the three lines before the heading are no bare `event name:`
  intro before after heq
  rcases before with _ | ⟨l₁, _ | ⟨l₂, _ | ⟨l₃, _ | ⟨l₄, before⟩⟩⟩⟩
  · simp [lit] at heq
  · simp [lit] at heq
  · simp [lit] at heq
  · simp [lit] at heq
  · simp only [List.cons_append, List.nil_append, List.cons.injEq] at heq
    exact ⟨l₄, by simp, heq.2.2.2.1 ▸ hheading⟩

/-- The user is cut out of the first line. -/
theorem userOf_reportBody (hu : '\n' ∉ u) : userOf (reportBody u event) = .ok u := by
  obtain ⟨rest, hrest⟩ : ∃ rest, reportBody u event = lit "user: " ++ (u ++ '\n' :: rest) :=
    ⟨_, by simp only [reportBody, List.append_assoc]; rfl⟩
  have hfind : find (lit "user: " ++ (u ++ '\n' :: rest)) "user: " = 0 :=
    find_of_prefix (by simp [lit]) (List.prefix_append _ _)
  have hcut : substr (lit "user: " ++ (u ++ '\n' :: rest)) (0 + 6) npos =
      .ok (u ++ '\n' :: rest) := substr_append rfl
  have hline := (StompProtocol.substr_command hu rest).1
  unfold userOf
  rw [hrest, hfind, hcut]
  exact hline

end Report

/-! ### The teams of a game -/

/-- A new game, named by the text before the first `_` and the text after it. -/
def newGame (g : Str) : Game where
  teamAname := g.takeWhile (· ≠ '_')
  teamBname := (g.dropWhile (· ≠ '_')).drop 1

theorem newGame_teams (g : Str) (hg : '_' ∈ g) :
    (newGame g).teamAname ++ lit "_" ++ (newGame g).teamBname = g := by
  obtain ⟨a, b, rfl, ha⟩ := List.eq_append_cons_of_mem hg
  have hfree : ∀ ch ∈ a, decide (ch ≠ '_') = true := by
    intro ch hch
    have hne : ch ≠ '_' := fun heq => ha (heq ▸ hch)
    simpa using hne
  simp only [newGame, List.takeWhile_append_of_pos hfree, List.dropWhile_append_of_pos hfree]
  simp [lit]

/-- The two cuts of `handleMessageFrame`. -/
theorem substr_teams (g : Str) (hg : '_' ∈ g) :
    substr g 0 (find g "_") = .ok (newGame g).teamAname ∧
      substr g (find g "_" + 1) npos = .ok (newGame g).teamBname := by
  have hteams := newGame_teams g hg
  have ha : '_' ∉ (newGame g).teamAname := by
    intro hmem
    simpa using List.mem_takeWhile_imp hmem
  generalize (newGame g).teamAname = a at hteams ha
  generalize (newGame g).teamBname = b at hteams
  have hsplit : g = a ++ '_' :: b := by rw [← hteams]; simp [lit]
  have hfind : find (a ++ '_' :: b) "_" = a.length := by
    refine find_eq ?_
    have hhere : Text.find? ['_'] ('_' :: b) = some 0 := Text.find?_of_prefix (by simp)
    have hskip := Text.find?_append (q := []) (s := '_' :: b) ha
    rwa [hhere] at hskip
  have hafter : a ++ '_' :: b = (a ++ ['_']) ++ b := by simp
  rw [hsplit, hfind]
  refine ⟨substr_take rfl, ?_⟩
  rw [hafter]
  exact substr_append (by simp)

/-! ### One report -/

/-- A MESSAGE frame with a report: its destination is `/` and the names of two teams, and its body
is what `buildSendFrames` writes for a user and an event (`buildSendFrame_eq`). -/
structure ReportMessage where
  messageId : ℕ
  subscriptionId : ℕ
  gameName : Str
  user : Str
  event : Client.Event
  body : Str
  gameName_line : '\n' ∉ gameName
  gameName_teams : '_' ∈ gameName
  user_line : '\n' ∉ user
  name_line : '\n' ∉ event.name
  body_eq : bytesOf body = reportBody user event

namespace ReportMessage

/-- The frame a client receives. -/
def frame (m : ReportMessage) : Str :=
  receivedMessage m.messageId (lit "/" ++ m.gameName) m.subscriptionId m.body

/-- The game the report is about, in bytes. -/
def game (m : ReportMessage) : Str := bytesOf m.gameName

theorem teams_of_game (m : ReportMessage) : '_' ∈ m.game :=
  (mem_bytesOf_iff (by decide)).2 m.gameName_teams

end ReportMessage

/-- **A report changes the entry of its own game and user**: it is read by the game that is there,
or by a new one. -/
theorem processFrame_reportMessage (p : StompProtocol) (m : ReportMessage) :
    ∃ current, ((Dict.lookup₂ p.gameToEvents m.game m.user).getD (newGame m.game)).parseFrame
        (bytesOf m.body) = .ok current ∧
      p.processFrame m.frame =
        .ok { p with gameToEvents := Dict.put₂ p.gameToEvents m.game m.user current } := by
  obtain ⟨hteamA, hteamB⟩ := substr_teams m.game m.teams_of_game
  have hteams := newGame_teams m.game m.teams_of_game
  have huser : userOf (bytesOf m.body) = .ok m.user := by
    rw [m.body_eq]
    exact userOf_reportBody m.user_line
  obtain ⟨current, hcurrent⟩ : NoThrow
      (((Dict.lookup₂ p.gameToEvents m.game m.user).getD (newGame m.game)).parseFrame
        (bytesOf m.body)) := by
    rw [m.body_eq]
    exact noThrow_parseFrame_reportBody m.user_line m.name_line _
  refine ⟨current, hcurrent, ?_⟩
  have hdest : destinationOf (messageHeader m.messageId m.gameName m.subscriptionId) =
      .ok m.game := destinationOf_messageHeader m.gameName_line
  rw [ReportMessage.frame,
    StompProtocol.processFrame_of_splitFrame (splitFrame_receivedMessage m.gameName_line),
    StompProtocol.handleMessageFrame_eq]
  simp only [hdest, ok_bind, huser, hteamA, hteamB, hteams]
  have hcurrent' : ((Dict.lookup₂ p.gameToEvents m.game m.user).getD
      { teamAname := (newGame m.game).teamAname
        teamBname := (newGame m.game).teamBname }).parseFrame
        (bytesOf m.body) = .ok current := hcurrent
  rw [hcurrent', ok_bind]
  rfl

/-! ### Many reports -/

/-- The receiving thread handles the frames one after the other. -/
def processFrames (p : StompProtocol) (frames : List Str) : Except CppException StompProtocol :=
  frames.foldlM StompProtocol.processFrame p

/-- The bodies of the reports of a user on a game, in the order of arrival. -/
def bodiesOf (g u : Str) (ms : List ReportMessage) : List Str :=
  (ms.filter fun m => m.game = g ∧ m.user = u).map fun m => bytesOf m.body

/-- What bodies make of an entry: the first one finds a new game if there is none. -/
def readEach (g : Str) (entry : Option Game) (bodies : List Str) :
    Except CppException (Option Game) :=
  bodies.foldlM (fun entry body => some <$> (entry.getD (newGame g)).parseFrame body) entry

theorem bodiesOf_cons (g u : Str) (m : ReportMessage) (ms : List ReportMessage) :
    bodiesOf g u (m :: ms) =
      if m.game = g ∧ m.user = u then bytesOf m.body :: bodiesOf g u ms else bodiesOf g u ms := by
  unfold bodiesOf
  rw [List.filter_cons]
  split_ifs with h h' <;> simp_all

/-- **After any reports**, the entry of a game and a user is what their bodies make of the entry
before, and the games with entries are the old ones and those reported on. -/
theorem processFrames_reportMessages (p : StompProtocol) (ms : List ReportMessage) :
    ∃ p', processFrames p (ms.map ReportMessage.frame) = .ok p' ∧
      (∀ g u, readEach g (Dict.lookup₂ p.gameToEvents g u) (bodiesOf g u ms) =
        .ok (Dict.lookup₂ p'.gameToEvents g u)) ∧
      ∀ g, (p'.gameToEvents.lookup g).isSome ↔
        (p.gameToEvents.lookup g).isSome ∨ ∃ m ∈ ms, m.game = g := by
  induction ms generalizing p with
  | nil => exact ⟨p, rfl, fun g u => rfl, by simp⟩
  | cons m ms ih =>
    obtain ⟨current, hcurrent, hframe⟩ := processFrame_reportMessage p m
    obtain ⟨p', hrun, hentries, hgames⟩ :=
      ih { p with gameToEvents := Dict.put₂ p.gameToEvents m.game m.user current }
    refine ⟨p', ?_, fun g u => ?_, fun g => ?_⟩
    · rw [processFrames, List.map_cons, List.foldlM_cons, hframe]
      exact hrun
    · have hentry := hentries g u
      rw [Dict.lookup₂_put₂] at hentry
      rw [bodiesOf_cons]
      by_cases hkey : m.game = g ∧ m.user = u
      · obtain ⟨rfl, rfl⟩ := hkey
        rw [if_pos ⟨rfl, rfl⟩] at hentry
        rw [if_pos ⟨rfl, rfl⟩, readEach, List.foldlM_cons, hcurrent]
        exact hentry
      · rw [if_neg fun h => hkey ⟨h.1.symm, h.2.symm⟩] at hentry
        rwa [if_neg hkey]
    · rw [hgames, Dict.lookup_put₂]
      by_cases hg : g = m.game
      · simp [hg]
      · have hne : ¬ m.game = g := fun h => hg h.symm
        simp [hg, hne]

theorem readEach_some (g : Str) (game : Game) (bodies : List Str) :
    readEach g (some game) bodies = some <$> bodies.foldlM Game.parseFrame game := by
  induction bodies generalizing game with
  | nil => rfl
  | cons body bodies ih =>
    have hcons : readEach g (some game) (body :: bodies) =
        (some <$> game.parseFrame body) >>= fun entry => readEach g entry bodies :=
      List.foldlM_cons
    rw [hcons, List.foldlM_cons]
    cases game.parseFrame body with
    | error x => rfl
    | ok game => exact ih game

/-- A missing entry stays missing without bodies, and else is a new game that has read them. -/
theorem readEach_none {g : Str} {bodies : List Str} {entry : Option Game}
    (h : readEach g none bodies = .ok entry) :
    (entry.isSome ↔ bodies ≠ []) ∧
      ∀ game, entry = some game → bodies.foldlM Game.parseFrame (newGame g) = .ok game := by
  cases bodies with
  | nil =>
    obtain rfl : none = entry := Except.ok.inj h
    simp
  | cons body bodies =>
    -- the first body is read as if the new game had been there
    have hnew : readEach g (some (newGame g)) (body :: bodies) = .ok entry := h
    rw [readEach_some] at hnew
    cases hread : (body :: bodies).foldlM Game.parseFrame (newGame g) with
    | error x => rw [hread] at hnew; cases hnew
    | ok game =>
      rw [hread] at hnew
      obtain rfl : some game = entry := Except.ok.inj hnew
      simp

/-- The same games with the same users, and the same `Game` for each. -/
def SameTables (d d' : Dict Str (Dict Str Game)) : Prop :=
  (∀ g, (d.lookup g).isSome = (d'.lookup g).isSome) ∧
    ∀ g u, Dict.lookup₂ d g u = Dict.lookup₂ d' g u

/-- The command looks a game and a user up together. -/
theorem handleSummaryRequest_eq (p : StompProtocol) (parameters : List Str)
    (files : Dict Str Str) : p.handleSummaryRequest parameters files = (do
      let gameName ← vectorAt parameters 1
      let user ← vectorAt parameters 2
      let filename ← vectorAt parameters 3
      match Dict.lookup₂ p.gameToEvents gameName user with
      | some game => return (← game.writeToFile filename files, 0)
      | none => return (files, 1)) := by
  unfold StompProtocol.handleSummaryRequest Dict.lookup₂
  refine bind_congr fun gameName => bind_congr fun user => bind_congr fun filename => ?_
  cases p.gameToEvents.lookup gameName with
  | none => rfl
  | some users => rfl

/-- The summary command sees nothing but the tables. -/
theorem handleSummaryRequest_congr {p q : StompProtocol}
    (h : SameTables p.gameToEvents q.gameToEvents) (parameters : List Str) (files : Dict Str Str) :
    p.handleSummaryRequest parameters files = q.handleSummaryRequest parameters files := by
  simp only [handleSummaryRequest_eq, h.2]

/-- The entry of every game and user is there exactly when a report of the user on the game has
arrived, and is a new game that has read the bodies of those reports in the order of arrival. -/
def Gathered (d : Dict Str (Dict Str Game)) (ms : List ReportMessage) : Prop :=
  ∀ g u, ((Dict.lookup₂ d g u).isSome ↔ ∃ m ∈ ms, m.game = g ∧ m.user = u) ∧
    ∀ game, Dict.lookup₂ d g u = some game →
      (bodiesOf g u ms).foldlM Game.parseFrame (newGame g) = .ok game

theorem bodiesOf_ne_nil {g u : Str} {ms : List ReportMessage} :
    bodiesOf g u ms ≠ [] ↔ ∃ m ∈ ms, m.game = g ∧ m.user = u := by
  simp [bodiesOf, List.filter_eq_nil_iff]

/-- **Games and users do not interfere.**  From empty tables all reports are handled, and every game
and every user has the entry its own reports make; two orders of arrival that agree on the reports
of each game and user give the same tables and the same summaries. -/
theorem summaries_independent (p : StompProtocol) (hp : p.gameToEvents = ∅)
    (ms : List ReportMessage) :
    ∃ p', processFrames p (ms.map ReportMessage.frame) = .ok p' ∧ Gathered p'.gameToEvents ms ∧
      ∀ (q q' : StompProtocol) (ms' : List ReportMessage), q.gameToEvents = ∅ →
        processFrames q (ms'.map ReportMessage.frame) = .ok q' →
        (∀ g u, bodiesOf g u ms' = bodiesOf g u ms) →
        SameTables q'.gameToEvents p'.gameToEvents ∧
          ∀ (parameters : List Str) (files : Dict Str Str),
            q'.handleSummaryRequest parameters files =
              p'.handleSummaryRequest parameters files := by
  obtain ⟨p', hrun, hentries, hgames⟩ := processFrames_reportMessages p ms
  simp only [hp, Dict.lookup₂_empty] at hentries
  refine ⟨p', hrun, fun g u => ?_, fun q q' ms' hq hrun' hagree => ?_⟩
  · obtain ⟨hsome, hread⟩ := readEach_none (hentries g u)
    exact ⟨hsome.trans bodiesOf_ne_nil, hread⟩
  · obtain ⟨q'', hrun'', hentries', hgames'⟩ := processFrames_reportMessages q ms'
    obtain rfl : q'' = q' := Except.ok.inj (hrun''.symm.trans hrun')
    simp only [hq, Dict.lookup₂_empty] at hentries'
    have hmentions : ∀ g, (∃ m ∈ ms', m.game = g) ↔ ∃ m ∈ ms, m.game = g := by
      intro g
      have hlists : ∀ ms : List ReportMessage,
          (∃ m ∈ ms, m.game = g) ↔ ∃ u, bodiesOf g u ms ≠ [] := by
        intro ms
        simp only [bodiesOf_ne_nil]
        constructor
        · rintro ⟨m, hm, hg⟩
          exact ⟨m.user, m, hm, hg, rfl⟩
        · rintro ⟨_, m, hm, hg, _⟩
          exact ⟨m, hm, hg⟩
      simp only [hlists, hagree]
    have hsame : SameTables q''.gameToEvents p'.gameToEvents := by
      refine ⟨fun g => ?_, fun g u => ?_⟩
      · rw [Bool.eq_iff_iff, hgames, hgames', hmentions, hp, hq]
      · have hentry := hentries' g u
        rw [hagree, hentries] at hentry
        exact (Except.ok.inj hentry).symm
    exact ⟨hsame, handleSummaryRequest_congr hsame⟩

/-- A report of a goal in `a_b`. -/
def goalReport (user : String) (huser : '\n' ∉ lit user)
    (hbytes : bytesOf (reportBody user (goal "goals" "1")) = reportBody user (goal "goals" "1")) :
    ReportMessage where
  messageId := 0
  subscriptionId := 0
  gameName := "a_b"
  user := user
  event := goal "goals" "1"
  body := reportBody user (goal "goals" "1")
  gameName_line := by decide
  gameName_teams := by decide
  user_line := huser
  name_line := by decide
  body_eq := hbytes

theorem summaries_independent_example :
    let ms := [goalReport "bob" (by decide) (by decide +kernel),
      goalReport "eve" (by decide) (by decide +kernel)]
    ∃ p', processFrames {} (ms.map ReportMessage.frame) = .ok p' ∧ Gathered p'.gameToEvents ms ∧
      ∀ (q q' : StompProtocol) (ms' : List ReportMessage), q.gameToEvents = ∅ →
        processFrames q (ms'.map ReportMessage.frame) = .ok q' →
        (∀ g u, bodiesOf g u ms' = bodiesOf g u ms) →
        SameTables q'.gameToEvents p'.gameToEvents ∧
          ∀ (parameters : List Str) (files : Dict Str Str),
            q'.handleSummaryRequest parameters files = p'.handleSummaryRequest parameters files :=
  summaries_independent {} rfl _

end WorldCupInformer
