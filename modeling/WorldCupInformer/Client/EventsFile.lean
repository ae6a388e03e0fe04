import WorldCupInformer.Client.EventReports
import WorldCupInformer.Client.Statistics
import WorldCupInformer.Lib.Results

/-!
# Events files (`parseEventsFile`)

`parseEventsFile` on what `json::parse` makes of the file.  `Json` has the values of the JSON
library, with the conversions that the function uses; how the library prints a value (`dump`) is a
parameter.

* `file_accepted_iff`: which files are taken, and `parseEventsFile_eq_ok`: what they give;
* `parseEventsFile_json`: what has been read can be written and read again.
-/

namespace WorldCupInformer.Client

open Results

/-- A value of the JSON library.  The members of an object are listed in the order of their keys, as
in a `std::map`; a floating-point number is finite. -/
inductive Json
  | null
  | boolean (b : Bool)
  | number (z : ℤ)
  | number_float (x : ℚ)
  | string (s : Str)
  | array (elements : List Json)
  | object (members : List (Str × Json))

/-- `json::type_error` with its id, or a conversion that is undefined. -/
inductive JsonException
  | typeError (id : ℕ)
  | undefined
  deriving DecidableEq

namespace Json

/-- The member of an object. -/
def at? : Json → Str → Option Json
  | .object members, key => members.lookup key
  | _, _ => none

/-- `operator[]`.  A key without a member gets `null`, and `null` becomes an object; the new members
are never read again. -/
def member (j : Json) (key : Str) : Except JsonException Json :=
  match j with
  | .null => return .null
  | .object _ => return (j.at? key).getD .null
  | _ => throw (.typeError 305)

/-- Conversion to `std::string`. -/
def toStr : Json → Except JsonException Str
  | .string s => return s
  | _ => throw (.typeError 302)

/-- `static_cast<int>` of a floating-point number. -/
def truncate (x : ℚ) : ℤ := x.num.tdiv x.den

/-- Conversion to `int`. -/
def toInt : Json → Except JsonException ℤ
  -- the low 32 bits of an integer, and of a floating-point number the integer part, if it fits
  | .number z => return z.bmod (2 ^ 32)
  | .number_float x =>
    if -2 ^ 31 ≤ truncate x ∧ truncate x < 2 ^ 31 then return truncate x else throw .undefined
  | .boolean b => return if b then 1 else 0
  | _ => throw (.typeError 302)

/-- The values that `for (auto &value : j)` runs over. -/
def elements : Json → List Json
  | .null => []
  | .object members => members.map Prod.snd
  | .array elements => elements
  | j => [j]

/-- The keys and values of `items()`. -/
def items : Json → List (Str × Json)
  | .null => []
  | .object members => members
  | .array elements => elements.zipIdx.map fun x => (natToString x.2, x.1)
  | j => [([], j)]

end Json

section

variable (dump : Json → Str)

/-- The text that is kept of an update. -/
def updateText : Json → Str
  | .string s => s
  | j => dump j

/-- One of the loops over updates: a `std::map` from what `items()` lists. -/
def parseUpdates (j : Json) : List (Str × Str) :=
  Game.iterate (j.items.foldl (fun d update => d.insert update.1 (updateText dump update.2)) ∅)

/-- One turn of the loop over the events. -/
def parseEvent (event : Json) : Except JsonException Event := do
  let name ← (← event.member "event name").toStr
  let time ← (← event.member "time").toInt
  let description ← (← event.member "description").toStr
  let game_updates := parseUpdates dump (← event.member "general game updates")
  let team_a_updates := parseUpdates dump (← event.member "team a updates")
  let team_b_updates := parseUpdates dump (← event.member "team b updates")
  return { name, time, game_updates, team_a_updates, team_b_updates, discription := description }

/-- `parseEventsFile`, on the value that has been read from the file. -/
def parseEventsFile (data : Json) : Except JsonException NamesAndEvents := do
  let team_a_name ← (← data.member "team a").toStr
  let team_b_name ← (← data.member "team b").toStr
  let events ← (← data.member "events").elements.mapM (parseEvent dump)
  return { team_a_name, team_b_name, events }

end

/-! ### What a file says -/

namespace Json

/-- The number as an `int`. -/
inductive IsInt : Json → ℤ → Prop
  | number (z : ℤ) : IsInt (.number z) (z.bmod (2 ^ 32))
  | number_float {x : ℚ} (h : -2 ^ 31 ≤ truncate x ∧ truncate x < 2 ^ 31) :
      IsInt (.number_float x) (truncate x)
  | boolean (b : Bool) : IsInt (.boolean b) (if b then 1 else 0)

/-- The updates are in the order of their keys; the value of a key is the text of the last item that
has it. -/
structure ListsUpdates (dump : Json → Str) (j : Json) (updates : List (Str × Str)) : Prop where
  sorted : updates.Pairwise (·.1 < ·.1)
  mem_iff : ∀ key value, (key, value) ∈ updates ↔
    (Dict.latest j.items key).map (updateText dump) = some value

structure DescribesEvent (dump : Json → Str) (j : Json) (event : Event) : Prop where
  name : j.at? "event name" = some (.string event.name)
  time : ∃ t, j.at? "time" = some t ∧ t.IsInt event.time
  description : j.at? "description" = some (.string event.discription)
  game_updates : ((j.at? "general game updates").getD .null).ListsUpdates dump event.game_updates
  team_a_updates : ((j.at? "team a updates").getD .null).ListsUpdates dump event.team_a_updates
  team_b_updates : ((j.at? "team b updates").getD .null).ListsUpdates dump event.team_b_updates

/-- The names and events that a file describes; it may have other members too. -/
structure Describes (dump : Json → Str) (data : Json) (info : NamesAndEvents) : Prop where
  team_a_name : data.at? "team a" = some (.string info.team_a_name)
  team_b_name : data.at? "team b" = some (.string info.team_b_name)
  events : List.Forall₂ (DescribesEvent dump) ((data.at? "events").getD .null).elements info.events

variable {dump : Json → Str} {j : Json} {key s : Str} {t : ℤ}

/-! ### Members and conversions -/

theorem toStr_eq_ok : j.toStr = .ok s ↔ j = .string s := by
  cases j with
  | string s' => exact ⟨fun h => congrArg _ (Except.ok.inj h), fun h => congrArg _ (string.inj h)⟩
  | _ => exact ⟨fun h => (by cases h), fun h => (by cases h)⟩

theorem toInt_eq_ok : j.toInt = .ok t ↔ j.IsInt t := by
  constructor
  · intro h
    cases j with
    | number z =>
      obtain rfl := Except.ok.inj h
      exact .number z
    | number_float x =>
      simp only [toInt] at h
      split_ifs at h with hx
      obtain rfl := Except.ok.inj h
      exact .number_float hx
    | boolean b =>
      obtain rfl := Except.ok.inj h
      exact .boolean b
    | _ => cases h
  · rintro (z | hx | b)
    · rfl
    · exact if_pos hx
    · rfl

/-- `null` has no use but as a missing value, so that the member must be there. -/
theorem member_bind_eq_ok {α : Type} {f : Json → Except JsonException α} {a : α}
    (hnull : f .null ≠ .ok a) :
    (j.member key >>= f) = .ok a ↔ ∃ m, j.at? key = some m ∧ f m = .ok a := by
  cases j with
  | null => simp [member, at?, bind, Except.bind, pure, Except.pure, hnull]
  | object members =>
    show f (((object members).at? key).getD .null) = .ok a ↔ _
    cases (object members).at? key with
    | none => simp [hnull]
    | some m => simp
  | _ => simp [member, at?, bind, Except.bind, throw, throwThe, MonadExceptOf.throw]

theorem member_toStr_eq_ok :
    (j.member key >>= toStr) = .ok s ↔ j.at? key = some (.string s) := by
  rw [member_bind_eq_ok fun h => by cases h]
  simp [toStr_eq_ok]

theorem member_toInt_eq_ok :
    (j.member key >>= toInt) = .ok t ↔ ∃ m, j.at? key = some m ∧ m.IsInt t := by
  rw [member_bind_eq_ok fun h => by cases h]
  simp only [toInt_eq_ok]

/-- The first thing a function does is to read a member. -/
theorem read_bind {α β : Type} {g : Json → Except JsonException α} {f : α → Except JsonException β}
    {b : β} : (j.member key >>= fun m => g m >>= f) = .ok b ↔
      ∃ a, (j.member key >>= g) = .ok a ∧ f a = .ok b := by
  rw [← bind_assoc]
  exact bind_eq_ok

/-- What has a member is an object. -/
theorem member_of_at? {m : Json} (h : j.at? key = some m) (key' : Str) :
    j.member key' = .ok ((j.at? key').getD .null) := by
  cases j with
  | object members => rfl
  | _ => cases h

end Json

section

variable {dump : Json → Str} {j data event : Json} {updates : List (Str × Str)}

/-! ### Updates -/

theorem mem_parseUpdates {key value : Str} : (key, value) ∈ parseUpdates dump j ↔
    (Dict.latest j.items key).map (updateText dump) = some value := by
  have hlatest := Dict.get_foldl_latest (fun (d : Dict Str Str) key => d.lookup key)
    (fun d x key => Dict.lookup_insert d x.1 key x.2)
    (j.items.map (Prod.map id (updateText dump))) ∅ key
  rw [parseUpdates, mem_iterate, ← Dict.latest_map]
  rw [List.foldl_map, AList.lookup_empty, Option.or_none] at hlatest
  exact Eq.congr_left hlatest

theorem sorted_parseUpdates (dump : Json → Str) (j : Json) :
    (parseUpdates dump j).Pairwise (·.1 < ·.1) := by
  have hsorted := sorted_iterate (j.items.foldl (fun (d : Dict Str Str) update =>
    d.insert update.1 (updateText dump update.2)) ∅)
  have hnodup := List.pairwise_map.1 (nodup_iterate (j.items.foldl
    (fun (d : Dict Str Str) update => d.insert update.1 (updateText dump update.2)) ∅))
  exact hsorted.imp₂ (fun _ _ hle hne => lt_of_le_of_ne hle hne) hnodup

/-- Updates in the order of their keys are known by their members. -/
theorem eq_of_sorted {updates' : List (Str × Str)} (h : updates.Pairwise (·.1 < ·.1))
    (h' : updates'.Pairwise (·.1 < ·.1)) (hmem : ∀ x, x ∈ updates ↔ x ∈ updates') :
    updates = updates' := by
  have hnodup : updates.Nodup := h.imp fun hlt heq => by simp [heq] at hlt
  have hnodup' : updates'.Nodup := h'.imp fun hlt heq => by simp [heq] at hlt
  have hperm := (List.perm_ext_iff_of_nodup hnodup hnodup').2 hmem
  exact hperm.eq_of_pairwise (fun _ _ _ _ hlt hgt => absurd hlt hgt.asymm) h h'

theorem parseUpdates_eq_iff : parseUpdates dump j = updates ↔ j.ListsUpdates dump updates := by
  constructor
  · rintro rfl
    exact ⟨sorted_parseUpdates dump j, fun _ _ => mem_parseUpdates⟩
  · intro h
    refine eq_of_sorted (sorted_parseUpdates dump j) h.sorted fun x => ?_
    exact mem_parseUpdates.trans (h.mem_iff x.1 x.2).symm

/-! ### The file -/

theorem parseEvent_eq_ok {e : Event} :
    parseEvent dump event = .ok e ↔ event.DescribesEvent dump e := by
  constructor
  · intro h
    obtain ⟨name, hname, h⟩ := Json.read_bind.1 h
    obtain ⟨time, htime, h⟩ := Json.read_bind.1 h
    obtain ⟨description, hdescription, h⟩ := Json.read_bind.1 h
    have hobject := Json.member_toStr_eq_ok.1 hname
    simp only [Json.member_of_at? hobject, ok_bind_eq] at h
    obtain rfl := Except.ok.inj h
    exact ⟨hobject, Json.member_toInt_eq_ok.1 htime, Json.member_toStr_eq_ok.1 hdescription,
      parseUpdates_eq_iff.1 rfl, parseUpdates_eq_iff.1 rfl, parseUpdates_eq_iff.1 rfl⟩
  · rintro ⟨hname, htime, hdescription, hgame, hteamA, hteamB⟩
    refine Json.read_bind.2 ⟨_, Json.member_toStr_eq_ok.2 hname, ?_⟩
    refine Json.read_bind.2 ⟨_, Json.member_toInt_eq_ok.2 htime, ?_⟩
    refine Json.read_bind.2 ⟨_, Json.member_toStr_eq_ok.2 hdescription, ?_⟩
    simp only [Json.member_of_at? hname, ok_bind_eq, parseUpdates_eq_iff.2 hgame,
      parseUpdates_eq_iff.2 hteamA, parseUpdates_eq_iff.2 hteamB]
    rfl

/-- **What is read from a file** is what the file describes, and every file that describes names and
events is read. -/
theorem parseEventsFile_eq_ok {info : NamesAndEvents} :
    parseEventsFile dump data = .ok info ↔ data.Describes dump info := by
  constructor
  · intro h
    obtain ⟨team_a_name, hteamA, h⟩ := Json.read_bind.1 h
    obtain ⟨team_b_name, hteamB, h⟩ := Json.read_bind.1 h
    have hobject := Json.member_toStr_eq_ok.1 hteamA
    rw [Json.member_of_at? hobject, ok_bind_eq] at h
    obtain ⟨events, hevents, h⟩ := bind_eq_ok.1 h
    obtain rfl := Except.ok.inj h
    refine ⟨hobject, Json.member_toStr_eq_ok.1 hteamB, ?_⟩
    exact (mapM_eq_ok.1 hevents).imp fun _ _ => parseEvent_eq_ok.1
  · rintro ⟨hteamA, hteamB, hevents⟩
    refine Json.read_bind.2 ⟨_, Json.member_toStr_eq_ok.2 hteamA, ?_⟩
    refine Json.read_bind.2 ⟨_, Json.member_toStr_eq_ok.2 hteamB, ?_⟩
    rw [Json.member_of_at? hteamA, ok_bind_eq]
    exact bind_eq_ok.2 ⟨_, mapM_eq_ok.2 (hevents.imp fun _ _ => parseEvent_eq_ok.2), rfl⟩

/-! ### Which files are read -/

namespace Json

/-- An event needs its name, time and description; its updates may be anything, or missing. -/
structure IsEvent (event : Json) : Prop where
  name : ∃ s, event.at? "event name" = some (.string s)
  time : ∃ t z, event.at? "time" = some t ∧ t.IsInt z
  description : ∃ s, event.at? "description" = some (.string s)

structure IsEventsFile (data : Json) : Prop where
  team_a_name : ∃ s, data.at? "team a" = some (.string s)
  team_b_name : ∃ s, data.at? "team b" = some (.string s)
  events : ∀ event ∈ ((data.at? "events").getD .null).elements, event.IsEvent

theorem isEvent_iff : event.IsEvent ↔ ∃ e, event.DescribesEvent dump e := by
  constructor
  · rintro ⟨⟨name, hname⟩, ⟨t, z, ht, hz⟩, description, hdescription⟩
    exact ⟨⟨name, z, _, _, _, description⟩, hname, ⟨t, ht, hz⟩, hdescription,
      parseUpdates_eq_iff.1 rfl, parseUpdates_eq_iff.1 rfl, parseUpdates_eq_iff.1 rfl⟩
  · rintro ⟨e, hname, ⟨t, ht, hz⟩, hdescription, -, -, -⟩
    exact ⟨⟨_, hname⟩, ⟨t, _, ht, hz⟩, _, hdescription⟩

end Json

/-- **A file is read exactly when** it is an object with the names of the teams, and each of its
events has a name, a time and a description. -/
theorem file_accepted_iff (dump : Json → Str) (data : Json) :
    (∃ info, parseEventsFile dump data = .ok info) ↔ data.IsEventsFile := by
  simp only [parseEventsFile_eq_ok]
  constructor
  · rintro ⟨info, hteamA, hteamB, hevents⟩
    refine ⟨⟨_, hteamA⟩, ⟨_, hteamB⟩, fun event hevent => ?_⟩
    exact Json.isEvent_iff.2 (exists_forall₂_iff.1 ⟨_, hevents⟩ event hevent)
  · rintro ⟨⟨team_a_name, hteamA⟩, ⟨team_b_name, hteamB⟩, hevents⟩
    obtain ⟨events, hevents⟩ := exists_forall₂_iff.2 fun event hevent =>
      Json.isEvent_iff.1 (hevents event hevent)
    exact ⟨⟨team_a_name, team_b_name, events⟩, hteamA, hteamB, hevents⟩

/-! ### Writing a file -/

def updatesJson (updates : List (Str × Str)) : Json :=
  .object (updates.map (Prod.map id .string))

/-- The event as a value of the library. -/
def Event.json (event : Event) : Json :=
  .object [(lit "description", .string event.discription), (lit "event name", .string event.name),
    (lit "general game updates", updatesJson event.game_updates),
    (lit "team a updates", updatesJson event.team_a_updates),
    (lit "team b updates", updatesJson event.team_b_updates), (lit "time", .number event.time)]

def NamesAndEvents.json (info : NamesAndEvents) : Json :=
  .object [(lit "events", .array (info.events.map Event.json)),
    (lit "team a", .string info.team_a_name), (lit "team b", .string info.team_b_name)]

theorem listsUpdates_updatesJson (h : updates.Pairwise (·.1 < ·.1)) (dump : Json → Str) :
    (updatesJson updates).ListsUpdates dump updates where
  sorted := h
  mem_iff key value := by
    have hkeys : (updates.map Prod.fst).Nodup :=
      List.pairwise_map.2 (h.imp fun hlt heq => by simp [heq] at hlt)
    show _ ↔ (Dict.latest (updates.map (Prod.map id Json.string)) key).map (updateText dump) = _
    rw [Dict.latest_map, Option.map_map, ← Dict.latest_eq_some_iff hkeys]
    exact Eq.congr_left Option.map_id'.symm

/-- What fits into an `int` is converted to itself. -/
theorem isInt_number {t : ℤ} (h : j.IsInt t) : (Json.number t).IsInt t := by
  have hrange : -2 ^ 31 ≤ t ∧ t < 2 ^ 31 := by
    cases h with
    | number z =>
      have hle := Int.le_bmod (x := z) (m := 2 ^ 32) (by norm_num)
      have hlt := Int.bmod_lt (x := z) (m := 2 ^ 32) (by norm_num)
      omega
    | number_float hx => exact hx
    | boolean b => cases b <;> simp
  have hsame : t.bmod (2 ^ 32) = t := Int.bmod_eq_of_le (by omega) (by omega)
  have hint := Json.IsInt.number t
  rwa [hsame] at hint

/-- **What has been read can be written and read again**, and is the same. -/
theorem parseEventsFile_json {info : NamesAndEvents} (h : parseEventsFile dump data = .ok info)
    (dump' : Json → Str) : parseEventsFile dump' info.json = .ok info := by
  rw [parseEventsFile_eq_ok] at h ⊢
  refine ⟨rfl, rfl, ?_⟩
  show List.Forall₂ _ (info.events.map Event.json) info.events
  rw [List.forall₂_map_left_iff, List.forall₂_same]
  intro event hevent
  obtain ⟨j, -, ⟨t, -, htime⟩, -, hgame, hteamA, hteamB⟩ := exists_of_forall₂ h.events event hevent
  exact ⟨rfl, ⟨_, rfl, isInt_number htime⟩, rfl, listsUpdates_updatesJson hgame.sorted dump',
    listsUpdates_updatesJson hteamA.sorted dump', listsUpdates_updatesJson hteamB.sorted dump'⟩

/-! ### From the file to the statistics -/

/-- What a file says of a key in a section of its events: the text of the last mention. -/
def Json.said (dump : Json → Str) (data : Json) (section_ key : Str) : Option Str :=
  (Dict.latest (((data.at? "events").getD .null).elements.flatMap fun event =>
    ((event.at? section_).getD .null).items) key).map (updateText dump)

theorem Json.ListsUpdates.latest_eq (h : j.ListsUpdates dump updates) (key : Str) :
    Dict.latest updates key = (Dict.latest j.items key).map (updateText dump) := by
  have hkeys : (updates.map Prod.fst).Nodup :=
    List.pairwise_map.2 (h.sorted.imp fun hlt heq => by simp [heq] at hlt)
  refine Option.ext fun value => ?_
  rw [Dict.latest_eq_some_iff hkeys, h.mem_iff]

/-- The latest values of a section, in the file and in the events read from it. -/
theorem said_eq {info : NamesAndEvents} (h : data.Describes dump info) {section_ : Str}
    {updates : Event → List (Str × Str)}
    (hsection : ∀ event e, Json.DescribesEvent dump event e →
      ((event.at? section_).getD .null).ListsUpdates dump (updates e)) (key : Str) :
    data.said dump section_ key = Dict.latest (info.events.flatMap updates) key := by
  rw [Json.said, ← Dict.latest_map, List.map_flatMap]
  refine Dict.latest_flatMap_congr (h.events.imp fun event e hevent => ?_)
  rw [Dict.latest_map, (hsection event e hevent).latest_eq]

theorem stripped_of_spaceFree (h : ∀ x ∈ updates, SpaceFree x.1 ∧ SpaceFree x.2) :
    stripped updates = updates := by
  refine (List.map_congr_left fun x hx => ?_).trans (List.map_id _)
  exact Prod.ext (filter_of_spaceFree (h x hx).1) (filter_of_spaceFree (h x hx).2)

/-- One table of a game that has read the reports of a file. -/
theorem table_of_file {info : NamesAndEvents} (h : data.Describes dump info) {section_ : Str}
    (updates : Event → List (Str × Str))
    (hsection : ∀ event e, Json.DescribesEvent dump event e →
      ((event.at? section_).getD .null).ListsUpdates dump (updates e))
    (table : Game → Dict Str Str) (htable : ∀ game event, table (reported game event) =
      (lines (StompProtocol.updatesToString (updates event))).foldl putLine (table game))
    (hupdates : ∀ event ∈ info.events, Renderable (updates event) ∧
      ∀ x ∈ updates event, SpaceFree x.1 ∧ SpaceFree x.2)
    {game : Game} (hgame : table game = ∅) (key : Str) :
    (table (info.events.foldl reported game)).lookup key = data.said dump section_ key := by
  have hsame : (info.events.flatMap fun event => stripped (updates event)) =
      info.events.flatMap updates :=
    List.flatMap_congr fun event hevent => stripped_of_spaceFree (hupdates event hevent).2
  rw [lookup_table_foldl_reported table updates htable
    (fun event hevent => (hupdates event hevent).1) hgame, hsame, said_eq h hsection]

/-- **The statistics are those of the file.**  A subscriber that gets the reports of an events file,
in its order, keeps for every key of every section the text that the file has last, when no key and
no value has white space. -/
theorem statistics_of_file {info : NamesAndEvents} (h : parseEventsFile dump data = .ok info)
    {u : Str} (hevents : ∀ event ∈ info.events,
      Reportable u event ∧ event.Renderable ∧ event.SpaceFree) :
    ∃ game, info.events.foldlM (fun (game : Game) event => game.parseFrame (reportBody u event))
        { teamAname := info.team_a_name, teamBname := info.team_b_name } = .ok game ∧
      ∀ key, game.generalUpdates.lookup key = data.said dump "general game updates" key ∧
        game.teamAstats.lookup key = data.said dump "team a updates" key ∧
        game.teamBstats.lookup key = data.said dump "team b updates" key := by
  have hdescribes := parseEventsFile_eq_ok.1 h
  refine ⟨_, foldlM_parseFrame (fun event hevent => (hevents event hevent).1) _, fun key => ?_⟩
  refine ⟨?_, ?_, ?_⟩
  · refine table_of_file hdescribes Event.game_updates (fun _ _ he => he.game_updates)
      Game.generalUpdates (fun _ _ => rfl) (fun event hevent => ?_) rfl key
    obtain ⟨-, hrender, hspace⟩ := hevents event hevent
    exact ⟨hrender.game, fun x hx => hspace x (by simp [hx])⟩
  · refine table_of_file hdescribes Event.team_a_updates (fun _ _ he => he.team_a_updates)
      Game.teamAstats (fun _ _ => rfl) (fun event hevent => ?_) rfl key
    obtain ⟨-, hrender, hspace⟩ := hevents event hevent
    exact ⟨hrender.teamA, fun x hx => hspace x (by simp [hx])⟩
  · refine table_of_file hdescribes Event.team_b_updates (fun _ _ he => he.team_b_updates)
      Game.teamBstats (fun _ _ => rfl) (fun event hevent => ?_) rfl key
    obtain ⟨-, hrender, hspace⟩ := hevents event hevent
    exact ⟨hrender.teamB, fun x hx => hspace x (by simp [hx])⟩

end

/-! ### A file -/

/-- How the library prints a value that is no text and has no parts. -/
def dumpScalar : Json → Str
  | .null => "null"
  | .boolean b => if b then "true" else "false"
  | .number z => intToString z
  | _ => []

/-- A goal, with its number as a number, and nothing about the other team. -/
def goalFile : Json :=
  .object [(lit "events", .array [.object [
      (lit "description", .string "A goal\nafter half an hour"), (lit "event name", .string "goal"),
      (lit "general game updates", .object [(lit "active", .boolean true)]),
      (lit "team a updates", .object [(lit "goals", .number 1)]), (lit "time", .number 1980)]]),
    (lit "team a", .string "a"), (lit "team b", .string "b")]

def goalInfo : NamesAndEvents where
  team_a_name := "a"
  team_b_name := "b"
  events := [goal "goals" "1"]

theorem parseEventsFile_goalFile : parseEventsFile dumpScalar goalFile = .ok goalInfo := rfl

theorem goalFile_read_again : parseEventsFile dumpScalar goalInfo.json = .ok goalInfo :=
  parseEventsFile_json parseEventsFile_goalFile dumpScalar

theorem goalFile_statistics : ∃ game, goalInfo.events.foldlM
      (fun (game : Game) event => game.parseFrame (reportBody "bob" event))
      { teamAname := "a", teamBname := "b" } = .ok game ∧
    game.teamAstats.lookup (lit "goals") = some (lit "1") := by
  have hspace : (goal "goals" "1").SpaceFree := by
    unfold Event.SpaceFree
    decide +kernel
  have hevents : ∀ event ∈ goalInfo.events,
      Reportable "bob" event ∧ event.Renderable ∧ event.SpaceFree :=
    List.forall_mem_singleton.2 ⟨by decide +kernel, renderable_goal (by decide), hspace⟩
  obtain ⟨game, hread, htables⟩ := statistics_of_file parseEventsFile_goalFile hevents
  exact ⟨game, hread, (htables (lit "goals")).2.1⟩

end WorldCupInformer.Client
