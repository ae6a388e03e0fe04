import WorldCupInformer.Client.Cpp
import WorldCupInformer.Lib.Dictionary

/-!
# What the client knows of a game (`Game`, `Event`)

`parseFrame` reads the body of a report line by line; a section heading switches to the next
table.
-/

namespace WorldCupInformer.Client

/-- An event of an events file.  The updates are listed in the order of their keys, as a
`std::map` is. -/
structure Event where
  name : Str
  time : ℤ
  game_updates : List (Str × Str)
  team_a_updates : List (Str × Str)
  team_b_updates : List (Str × Str)
  discription : Str

/-- `names_and_events`: what `parseEventsFile` returns. -/
structure NamesAndEvents where
  team_a_name : Str
  team_b_name : Str
  events : List Event

/-- The fields of `Game`. -/
structure Game where
  teamAname : Str
  teamBname : Str
  generalUpdates : Dict Str Str := ∅
  teamAstats : Dict Str Str := ∅
  teamBstats : Dict Str Str := ∅
  eventsInfo : Dict Str (List Str) := ∅

namespace Game

/-- The local variables of `parseFrame`, with the game it changes. -/
structure Reading where
  game : Game
  eventName : Str := []
  description : Str := []
  eventTime : Str := []
  /-- 1 general game updates, 2 team A updates, 3 team B updates, 4 description -/
  whichUpdate : ℕ := 0

/-- A line of updates, without its white space, as an entry of its table.  The source inserts a
new key and overwrites an old one. -/
def putUpdate (updates : Dict Str Str) (line : Str) : Except CppException (Dict Str Str) := do
  let line := line.filter (!isSpace ·)
  let index := find line ":"
  let key ← substr line 0 index
  let value ← substr line (index + 1) npos
  return updates.insert key value

/-- A line that is no heading. -/
def readLine (r : Reading) (line : Str) : Except CppException Reading := do
  match r.whichUpdate with
  | 0 =>
    if find line "event name:" ≠ npos then
      return { r with eventName := ← substr line 12 npos }
    else if find line "time:" ≠ npos then
      return { r with eventTime := ← substr line 5 npos }
    else return r
  | 1 =>
    let updates ← putUpdate r.game.generalUpdates line
    return { r with game.generalUpdates := updates }
  | 2 =>
    let updates ← putUpdate r.game.teamAstats line
    return { r with game.teamAstats := updates }
  | 3 =>
    let updates ← putUpdate r.game.teamBstats line
    return { r with game.teamBstats := updates }
  | _ => return { r with description := r.description ++ line ++ lit "\n" }

/-- One turn of the loop. -/
def parseLine (r : Reading) (line : Str) : Except CppException Reading :=
  if find line "game updates:" ≠ npos then return { r with whichUpdate := 1 }
  else if find line "a updates: " ≠ npos then return { r with whichUpdate := 2 }
  else if find line "b updates: " ≠ npos then return { r with whichUpdate := 3 }
  else if find line "description:" ≠ npos then return { r with whichUpdate := 4 }
  else readLine r line

/-- `parseFrame`. -/
def parseFrame (game : Game) (body : Str) : Except CppException Game := do
  let r ← (lines body).foldlM parseLine { game := game }
  let event := [r.eventName, r.description]
  return { r.game with eventsInfo := r.game.eventsInfo.insertNew r.eventTime event }

/-! ### Printing -/

/-- The entries of a `std::map` in the order of its iterator. -/
def iterate {ν : Type} (d : Dict Str ν) : List (Str × ν) :=
  (d.entries.map fun entry => (entry.1, entry.2)).insertionSort (·.1 ≤ ·.1)

/-- One of the event reports `to_string` prints. -/
structure EventReport where
  time : Str
  name : Str
  description : Str
  deriving DecidableEq

def EventReport.toString (report : EventReport) : Str :=
  report.time ++ " - " ++ report.name ++ "\n\n" ++ report.description ++ "\n\n"

/-- The event reports, in the order in which `to_string` prints them. -/
def eventReports (game : Game) : Except CppException (List EventReport) :=
  (iterate game.eventsInfo).mapM fun event => do
    return { time := event.1, name := ← vectorAt event.2 0, description := ← vectorAt event.2 1 }

/-- The entries of a table of updates, as `to_string` prints them. -/
def statsToString (stats : Dict Str Str) : Str :=
  (iterate stats).flatMap fun x => x.1 ++ ": " ++ x.2 ++ "\n"

/-- What `to_string` begins with. -/
def statistics (game : Game) : Str :=
  game.teamAname ++ " vs " ++ game.teamBname ++ "\n" ++ "Game stats:\n" ++ "General stats:\n" ++
    statsToString game.generalUpdates ++
    game.teamAname ++ " stats:\n" ++ statsToString game.teamAstats ++
    game.teamBname ++ " stats:\n" ++ statsToString game.teamBstats ++ "Game event reports:\n"

/-- `to_string`. -/
def toString (game : Game) : Except CppException Str := do
  let reports ← game.eventReports
  return game.statistics ++ reports.flatMap EventReport.toString

/-- `writeToFile`, on the contents of the files, for a path that can be opened. -/
def writeToFile (game : Game) (path : Str) (files : Dict Str Str) :
    Except CppException (Dict Str Str) := do
  return files.insert path (← game.toString)

end Game

end WorldCupInformer.Client
