import WorldCupInformer.Client.ReportBodies

/-!
# The statistics of a game

A game keeps its three tables from one report to the next; the section the parser is in begins anew
with every report.

* `table_foldl_reported`: one table after any number of reports;
* `statistics_accumulate`: each of the three holds the latest value of every key of its section.
-/

namespace WorldCupInformer.Client

open Game StompProtocol

/-- Without white space. -/
def strip (s : Str) : Str := s.filter (!isSpace ·)

/-- The pairs of a map of updates without white space, in the order in which they are rendered. -/
def stripped (updates : List (Str × Str)) : List (Str × Str) :=
  updates.map fun x => (strip x.1, strip x.2)

/-- The keys are without colon and line end, and the values without line end. -/
def Renderable (updates : List (Str × Str)) : Prop :=
  ∀ x ∈ updates, (':' ∉ x.1 ∧ '\n' ∉ x.1) ∧ '\n' ∉ x.2

/-- The three maps of an event are so. -/
structure Event.Renderable (event : Event) : Prop where
  game : Client.Renderable event.game_updates
  teamA : Client.Renderable event.team_a_updates
  teamB : Client.Renderable event.team_b_updates

theorem foldl_putLine_eq {updates : List (Str × Str)} (h : Renderable updates) (d : Dict Str Str) :
    (lines (updatesToString updates)).foldl putLine d =
      (stripped updates).foldl (fun d x => d.insert x.1 x.2) d := by
  rw [foldl_putLine (fun x hx => (h x hx).1) fun x hx => (h x hx).2, stripped, List.foldl_map]
  rfl

/-- **One table after any number of reports**: the pairs of its section, put into it one after the
other. -/
theorem table_foldl_reported {table : Game → Dict Str Str} {updates : Event → List (Str × Str)}
    (htable : ∀ game event, table (reported game event) =
      (lines (updatesToString (updates event))).foldl putLine (table game))
    {events : List Event} (h : ∀ event ∈ events, Renderable (updates event)) (game : Game) :
    table (events.foldl reported game) =
      (events.flatMap fun event => stripped (updates event)).foldl
        (fun d x => d.insert x.1 x.2) (table game) := by
  induction events generalizing game with
  | nil => rfl
  | cons event events ih =>
    obtain ⟨hevent, hevents⟩ := List.forall_mem_cons.1 h
    rw [List.foldl_cons, ih hevents, htable, foldl_putLine_eq hevent, List.flatMap_cons,
      List.foldl_append]

/-- The table holds the latest value of every key. -/
theorem lookup_table_foldl_reported (table : Game → Dict Str Str)
    (updates : Event → List (Str × Str))
    (htable : ∀ game event, table (reported game event) =
      (lines (updatesToString (updates event))).foldl putLine (table game))
    {events : List Event} (h : ∀ event ∈ events, Renderable (updates event)) {game : Game}
    (hgame : table game = ∅) (key : Str) : (table (events.foldl reported game)).lookup key =
      Dict.latest (events.flatMap fun event => stripped (updates event)) key := by
  have hlatest := Dict.get_foldl_latest (fun (d : Dict Str Str) key => d.lookup key)
    (fun d x key => Dict.lookup_insert d x.1 key x.2)
    (events.flatMap fun event => stripped (updates event)) (table game) key
  rw [table_foldl_reported htable h, hlatest, hgame]
  simp

/-- **Statistics accumulate**: after any reports, read in order into a new game, each table holds,
for the keys and values without their white space, the value that comes last in its section of the
reports, and nothing else. -/
theorem statistics_accumulate (teamA teamB : Str) (reports : List (Str × Event))
    (h : ∀ x ∈ reports, Reportable x.1 x.2 ∧ x.2.Renderable) :
    ∃ game, (reports.map fun x => reportBody x.1 x.2).foldlM parseFrame
        { teamAname := teamA, teamBname := teamB } = .ok game ∧
      (∀ key, game.generalUpdates.lookup key =
        Dict.latest (reports.flatMap fun x => stripped x.2.game_updates) key) ∧
      (∀ key, game.teamAstats.lookup key =
        Dict.latest (reports.flatMap fun x => stripped x.2.team_a_updates) key) ∧
      ∀ key, game.teamBstats.lookup key =
        Dict.latest (reports.flatMap fun x => stripped x.2.team_b_updates) key := by
  have hrenderable : ∀ event ∈ reports.map Prod.snd, event.Renderable := by
    intro event hevent
    obtain ⟨x, hx, rfl⟩ := List.mem_map.1 hevent
    exact (h x hx).2
  refine ⟨_, foldlM_reports (fun x hx => (h x hx).1) _, fun key => ?_, fun key => ?_,
    fun key => ?_⟩
  · rw [lookup_table_foldl_reported Game.generalUpdates
      Event.game_updates (fun _ _ => rfl)
      (fun event hevent => (hrenderable event hevent).game) rfl, List.flatMap_map]
  · rw [lookup_table_foldl_reported Game.teamAstats
      Event.team_a_updates (fun _ _ => rfl)
      (fun event hevent => (hrenderable event hevent).teamA) rfl, List.flatMap_map]
  · rw [lookup_table_foldl_reported Game.teamBstats
      Event.team_b_updates (fun _ _ => rfl)
      (fun event hevent => (hrenderable event hevent).teamB) rfl, List.flatMap_map]

theorem renderable_goal {value : String} (hvalue : '\n' ∉ lit value) :
    (goal "goals" value).Renderable where
  game := by simp [Renderable, goal, lit]
  teamA := by simpa [Renderable, goal, lit] using hvalue
  teamB := by simp [Renderable, goal]

/-- The second goal is reported by another user. -/
def goalReports : List (Str × Event) :=
  [(lit "bob", goal "goals" "1"), (lit "eve", goal "goals" "2 ")]

theorem goalReports_accumulate :
    ∃ game, (goalReports.map fun x => reportBody x.1 x.2).foldlM parseFrame
        { teamAname := "a", teamBname := "b" } = .ok game ∧
      game.teamAstats.lookup (lit "goals") = some (lit "2") := by
  have hreports : ∀ x ∈ goalReports, Reportable x.1 x.2 ∧ x.2.Renderable := by
    refine List.forall_mem_cons.2 ⟨⟨by decide +kernel, renderable_goal (by decide)⟩,
      List.forall_mem_singleton.2 ⟨by decide +kernel, renderable_goal (by decide)⟩⟩
  obtain ⟨game, hread, -, hteamA, -⟩ := statistics_accumulate "a" "b" goalReports hreports
  exact ⟨game, hread, (hteamA (lit "goals")).trans (by decide)⟩

end WorldCupInformer.Client
