import WorldCupInformer.Client.ReportBodies
import WorldCupInformer.Lib.Decimals

/-!
# The event reports of a summary

A game keeps its event reports under their times, as texts, and `to_string` prints them in the order
of these texts.

* `Prints`: the event reports `to_string` prints after the game has read a list of reports;
* `lists_all_iff`: no report is missing exactly when no two have the same time;
* `chronological_iff`: they come in the order of their times exactly when the decimals of the times
  are in the order of the times.
-/

namespace WorldCupInformer.Client

open Game

variable {u teamA teamB : Str} {events : List Event} {reports : List EventReport}

/-- The report of an event, as it should be printed. -/
def Event.report (event : Event) : EventReport where
  time := intToString event.time
  name := event.name
  description := event.discription ++ "\n"

/-- A new game that has read the reports of these events, by this user, prints these event reports
at the end of its summary. -/
def Prints (teamA teamB u : Str) (events : List Event) (reports : List EventReport) : Prop :=
  ∃ game, events.foldlM (fun (game : Game) event => game.parseFrame (reportBody u event))
      { teamAname := teamA, teamBname := teamB } = .ok game ∧
    game.eventReports = .ok reports ∧
    game.toString = .ok (game.statistics ++ reports.flatMap EventReport.toString)

/-! ### The table of the events -/

/-- The entry of a report. -/
def Game.EventReport.entry (report : EventReport) : Str × List Str :=
  (report.time, [report.name, report.description])

/-- What a report does to `eventsInfo`. -/
def putEvent (d : Dict Str (List Str)) (event : Event) : Dict Str (List Str) :=
  d.insertNew (intToString event.time) [event.name, event.discription ++ lit "\n"]

theorem lookup_putEvent (d : Dict Str (List Str)) (event : Event) (time : Str) :
    (putEvent d event).lookup time =
      if time = intToString event.time ∧ d.lookup time = none then
        some [event.name, event.discription ++ lit "\n"]
      else d.lookup time := by
  unfold putEvent
  cases hold : d.lookup (intToString event.time) with
  | some old =>
    rw [Dict.insertNew_of_some hold, if_neg]
    rintro ⟨rfl, hnone⟩
    simp [hold] at hnone
  | none =>
    rw [Dict.insertNew_of_none hold, Dict.lookup_insert]
    by_cases htime : time = intToString event.time
    · rw [if_pos htime, if_pos ⟨htime, htime ▸ hold⟩]
    · rw [if_neg htime, if_neg fun h => htime h.1]

/-- `eventsInfo` after the events. -/
def infoOf (events : List Event) : Dict Str (List Str) := events.foldl putEvent ∅

theorem eventsInfo_foldl (events : List Event) (game : Game) :
    (events.foldl reported game).eventsInfo = events.foldl putEvent game.eventsInfo := by
  induction events generalizing game with
  | nil => rfl
  | cons event events ih => exact ih _

/-- The game reads all the reports. -/
theorem foldlM_parseFrame (h : ∀ event ∈ events, Reportable u event) (game : Game) :
    events.foldlM (fun (game : Game) event => game.parseFrame (reportBody u event)) game =
      .ok (events.foldl reported game) := by
  have hreports : ∀ x ∈ events.map (u, ·), Reportable x.1 x.2 := by simpa using h
  have hread := foldlM_reports hreports game
  simpa [List.foldlM_map, Function.comp_def] using hread

theorem mem_iterate {ν : Type} {d : Dict Str ν} {x : Str × ν} :
    x ∈ iterate d ↔ d.lookup x.1 = some x.2 := by
  have hlookup : d.lookup x.1 = some x.2 ↔ ⟨x.1, x.2⟩ ∈ d.entries := AList.mem_lookup_iff
  rw [hlookup, iterate, List.mem_insertionSort, List.mem_map]
  constructor
  · rintro ⟨entry, hentry, rfl⟩
    exact hentry
  · exact fun hx => ⟨⟨x.1, x.2⟩, hx, rfl⟩

theorem nodup_iterate {ν : Type} (d : Dict Str ν) : ((iterate d).map Prod.fst).Nodup := by
  have hsort := (List.perm_insertionSort (fun x y : Str × ν => x.1 ≤ y.1)
    (d.entries.map fun entry => (entry.1, entry.2))).map Prod.fst
  rw [List.map_map] at hsort
  exact hsort.nodup_iff.2 d.nodupKeys

theorem sorted_iterate {ν : Type} (d : Dict Str ν) :
    (iterate d).Pairwise fun x y => x.1 ≤ y.1 :=
  List.pairwise_insertionSort _ _

/-- Every entry is that of an event. -/
theorem exists_of_lookup {d : Dict Str (List Str)} {time : Str} {info : List Str}
    (h : (events.foldl putEvent d).lookup time = some info) :
    d.lookup time = some info ∨ ∃ event ∈ events, (time, info) = event.report.entry := by
  induction events generalizing d with
  | nil => exact .inl h
  | cons event events ih =>
    rcases ih h with hd | ⟨event', hmem, heq⟩
    · rw [lookup_putEvent] at hd
      split_ifs at hd with hnew
      · obtain rfl := Option.some.inj hd
        exact .inr ⟨event, List.mem_cons_self, by rw [hnew.1]; rfl⟩
      · exact .inl hd
    · exact .inr ⟨event', List.mem_cons_of_mem _ hmem, heq⟩

/-- Entries stay as they are. -/
theorem lookup_foldl_putEvent {d : Dict Str (List Str)} {time : Str} {info : List Str}
    (h : d.lookup time = some info) : (events.foldl putEvent d).lookup time = some info := by
  induction events generalizing d with
  | nil => exact h
  | cons event events ih =>
    refine ih ?_
    rw [lookup_putEvent, if_neg fun hnew => by simp [h] at hnew]
    exact h

/-- Every event has an entry under its time. -/
theorem exists_lookup {event : Event} (h : event ∈ events) (d : Dict Str (List Str)) :
    ∃ info, (events.foldl putEvent d).lookup (intToString event.time) = some info := by
  induction events generalizing d with
  | nil => cases h
  | cons event' events ih =>
    rcases List.mem_cons.1 h with rfl | h
    · have hnow : ∃ info, (putEvent d event).lookup (intToString event.time) = some info := by
        rw [lookup_putEvent]
        split_ifs with hnew
        · exact ⟨_, rfl⟩
        · exact Option.ne_none_iff_exists'.1 fun hnone => hnew ⟨rfl, hnone⟩
      obtain ⟨info, hinfo⟩ := hnow
      have hrest : (events.foldl putEvent (putEvent d event)).lookup (intToString event.time) =
          some info := lookup_foldl_putEvent hinfo
      exact ⟨info, hrest⟩
    · exact ih h _

/-- The entries are those of event reports. -/
theorem exists_reports (events : List Event) :
    ∃ reports : List EventReport,
      iterate (infoOf events) = reports.map EventReport.entry := by
  have hentries : iterate (infoOf events) ∈ Set.range (List.map EventReport.entry) := by
    rw [Set.range_list_map]
    intro x hx
    rcases exists_of_lookup (mem_iterate.1 hx) with hnone | ⟨event, -, heq⟩
    · simp at hnone
    · exact ⟨event.report, heq.symm⟩
  obtain ⟨reports, hreports⟩ := hentries
  exact ⟨reports, hreports.symm⟩

theorem eventReports_eq {game : Game} {reports : List EventReport}
    (h : iterate game.eventsInfo = reports.map EventReport.entry) :
    game.eventReports = .ok reports := by
  rw [eventReports, h]
  clear h
  induction reports with
  | nil => rfl
  | cons report reports ih =>
    rw [List.map_cons, List.mapM_cons, ih]
    rfl

/-- **What is printed** after reports: the table of the events, in its order. -/
theorem prints_iff (h : ∀ event ∈ events, Reportable u event) :
    Prints teamA teamB u events reports ↔
      iterate (infoOf events) = reports.map EventReport.entry := by
  have hinfo : (events.foldl reported { teamAname := teamA, teamBname := teamB }).eventsInfo =
      infoOf events := eventsInfo_foldl events _
  constructor
  · rintro ⟨game, hread, hreports, -⟩
    rw [foldlM_parseFrame h] at hread
    obtain rfl := Except.ok.inj hread
    obtain ⟨reports', hreports'⟩ := exists_reports events
    rw [← hinfo] at hreports'
    rw [eventReports_eq hreports'] at hreports
    rw [← hinfo, hreports', Except.ok.inj hreports]
  · intro hentries
    rw [← hinfo] at hentries
    refine ⟨_, foldlM_parseFrame h _, eventReports_eq hentries, ?_⟩
    rw [Game.toString, eventReports_eq hentries]
    rfl

/-! ### No report is missing -/

/-- The reports of all the events are among those that are printed, as often as they occur. -/
def ListsAll (teamA teamB u : Str) (events : List Event) : Prop :=
  ∃ reports, Prints teamA teamB u events reports ∧ (events.map Event.report).Subperm reports

theorem intToString_injective : Function.Injective intToString := by
  intro a b h
  have hsign : ∀ n m, natToString n ≠ '-' :: natToString m := by
    intro n m heq
    have hmem : '-' ∈ natToString n := by simp [heq]
    exact notMem_natToString (by decide) hmem
  cases a with
  | ofNat n =>
    cases b with
    | ofNat m => exact congrArg Int.ofNat (natToString_injective h)
    | negSucc m => exact absurd h (hsign _ _)
  | negSucc n =>
    cases b with
    | ofNat m => exact absurd h.symm (hsign _ _)
    | negSucc m =>
      have heq : n + 1 = m + 1 := natToString_injective (List.cons.inj h).2
      exact congrArg Int.negSucc (Nat.succ.inj heq)

/-- The times of the reports that are printed are pairwise different. -/
theorem nodup_times (h : iterate (infoOf events) = reports.map EventReport.entry) :
    (reports.map EventReport.time).Nodup := by
  have hnodup := nodup_iterate (infoOf events)
  rwa [h, List.map_map] at hnodup

theorem entry_injective : Function.Injective EventReport.entry := by
  intro r r' h
  obtain ⟨time, name, description⟩ := r
  obtain ⟨time', name', description'⟩ := r'
  simpa [EventReport.entry] using h

/-- With different times every event keeps its own entry. -/
theorem mem_reports (hnodup : (events.map Event.time).Nodup)
    (h : iterate (infoOf events) = reports.map EventReport.entry) {report : EventReport} :
    report ∈ reports ↔ report ∈ events.map Event.report := by
  have hmem : report ∈ reports ↔ report.entry ∈ iterate (infoOf events) := by
    rw [h, List.mem_map_of_injective entry_injective]
  rw [hmem, mem_iterate, List.mem_map]
  constructor
  · intro hlookup
    rcases exists_of_lookup hlookup with hnone | ⟨event, hevent, heq⟩
    · simp at hnone
    · exact ⟨event, hevent, (entry_injective heq).symm⟩
  · rintro ⟨event, hevent, rfl⟩
    obtain ⟨info, hinfo⟩ := exists_lookup hevent ∅
    rcases exists_of_lookup hinfo with hnone | ⟨event', hevent', heq⟩
    · simp at hnone
    -- the entry under its time is its own
    have htime : event.time = event'.time := intToString_injective (congrArg Prod.fst heq)
    obtain rfl : event = event' := List.inj_on_of_nodup_map hnodup hevent hevent' htime
    rw [infoOf]
    exact hinfo.trans (congrArg some (congrArg Prod.snd heq))

/-- **No report is missing from a summary** exactly when the times of the events are pairwise
different: of two reports with one time, the first is kept. -/
theorem lists_all_iff (h : ∀ event ∈ events, Reportable u event) :
    ListsAll teamA teamB u events ↔ (events.map Event.time).Nodup := by
  constructor
  · rintro ⟨reports, hprints, l, hperm, hsub⟩
    have hnodup := nodup_times ((prints_iff h).1 hprints)
    have htimes : (events.map fun event => intToString event.time).Nodup := by
      have hl : (l.map EventReport.time).Nodup := hnodup.sublist (hsub.map _)
      have hevents := (hperm.map EventReport.time).nodup_iff.1 hl
      rwa [List.map_map] at hevents
    refine List.Nodup.of_map intToString ?_
    rwa [List.map_map]
  · intro hnodup
    obtain ⟨reports, hreports⟩ := exists_reports events
    refine ⟨reports, (prints_iff h).2 hreports, List.subperm_of_subset ?_ fun report hreport =>
      (mem_reports hnodup hreports).2 hreport⟩
    have htimes : ((events.map Event.report).map EventReport.time).Nodup := by
      have hmap := hnodup.map intToString_injective
      rw [List.map_map] at hmap
      rwa [List.map_map]
    exact htimes.of_map _

/-- Two goals in different seconds. -/
def goals : List Event := [goal "goals" "1", { goal "goals" "2" with time := 2000 }]

theorem goals_listed : ListsAll "a" "b" "bob" goals :=
  (lists_all_iff (by decide +kernel)).2 (by decide +kernel)

/-- Of two events in the same second the second is not listed. -/
theorem not_forall_lists_all : ¬ ∀ (teamA teamB u : Str) (events : List Event),
    (∀ event ∈ events, Reportable u event) → ListsAll teamA teamB u events := by
  intro hall
  have hreport : ∀ event ∈ [goal "goals" "1", { goal "goals" "1" with name := "whistle" }],
      Reportable "bob" event := by decide +kernel
  obtain ⟨reports, hprints, hsub⟩ := hall "a" "b" "bob" _ hreport
  have hentries := (prints_iff hreport).1 hprints
  have hlength := congrArg List.length hentries
  rw [List.length_map] at hlength
  have hone : (iterate (infoOf [goal "goals" "1",
      { goal "goals" "1" with name := "whistle" }])).length = 1 := by decide +kernel
  have hle := hsub.length_le
  rw [← hlength, hone] at hle
  simp at hle

/-! ### The order of the reports -/

/-- The reports that are printed come in the order of their times in seconds. -/
def Chronological (teamA teamB u : Str) (events : List Event) : Prop :=
  ∃ reports, Prints teamA teamB u events reports ∧
    reports.Pairwise fun r r' => Decimals.value r.time ≤ Decimals.value r'.time

/-- The number made of the first digits of `t'`, as many as `t` has. -/
def leadingDigits (t t' : ℤ) : ℤ := t' / 10 ^ ((intToString t').length - (intToString t).length)

theorem le_iff_leadingDigits {t t' : ℤ} (hnonneg : 0 ≤ t) (hlt : t < t') :
    intToString t ≤ intToString t' ↔ t ≤ leadingDigits t t' := by
  obtain ⟨m, rfl⟩ := Int.eq_ofNat_of_zero_le hnonneg
  obtain ⟨n, rfl⟩ := Int.eq_ofNat_of_zero_le (hnonneg.trans hlt.le)
  have hle : m ≤ n := by omega
  have hdigits := Decimals.toDigits_le_toDigits_iff hle
  unfold leadingDigits
  have hcast : ((n : ℤ) / 10 ^ ((intToString n).length - (intToString m).length)) =
      ((n / 10 ^ ((Nat.toDigits 10 n).length - (Nat.toDigits 10 m).length) : ℕ) : ℤ) := by
    push_cast
    rfl
  rw [hcast, Nat.cast_le]
  exact hdigits

theorem value_intToString {t : ℤ} (hnonneg : 0 ≤ t) :
    (Decimals.value (intToString t) : ℤ) = t := by
  obtain ⟨n, rfl⟩ := Int.eq_ofNat_of_zero_le hnonneg
  exact congrArg Nat.cast (Decimals.value_toDigits n)

/-- The texts of the times are in order, and so are their numbers. -/
def InOrder (r r' : EventReport) : Prop :=
  r.time ≤ r'.time ∧ Decimals.value r.time ≤ Decimals.value r'.time

/-- **A summary is chronological** exactly when of any two times the earlier is at most the number
made of as many first digits of the later: the reports are in the order of the texts. -/
theorem chronological_iff (h : ∀ event ∈ events, Reportable u event)
    (hnodup : (events.map Event.time).Nodup) (hnonneg : ∀ event ∈ events, 0 ≤ event.time) :
    Chronological teamA teamB u events ↔ ∀ event ∈ events, ∀ event' ∈ events,
      event.time < event'.time → event.time ≤ leadingDigits event.time event'.time := by
  obtain ⟨reports, hreports⟩ := exists_reports events
  have hmem : ∀ {report}, report ∈ reports ↔ report ∈ events.map Event.report :=
    mem_reports hnodup hreports
  have hsorted : reports.Pairwise fun r r' => r.time ≤ r'.time := by
    have hentries := sorted_iterate (infoOf events)
    rwa [hreports, List.pairwise_map] at hentries
  have htimes : ∀ report ∈ reports, ∃ event ∈ events, report.time = intToString event.time ∧
      (Decimals.value report.time : ℤ) = event.time := by
    intro report hreport
    obtain ⟨event, hevent, rfl⟩ := List.mem_map.1 (hmem.1 hreport)
    exact ⟨event, hevent, rfl, value_intToString (hnonneg event hevent)⟩
  constructor
  · rintro ⟨reports', hprints, hchronological⟩ event hevent event' hevent' hlt
    have hsame := (prints_iff h).1 hprints
    rw [hreports] at hsame
    obtain rfl : reports = reports' := List.map_injective_iff.2 entry_injective hsame
    -- of two reports, one comes first in both orders
    have hsymm : Std.Symm fun r r' => InOrder r r' ∨ InOrder r' r := ⟨fun _ _ => Or.symm⟩
    have hboth : ∀ r ∈ reports, ∀ r' ∈ reports, r ≠ r' → InOrder r r' ∨ InOrder r' r := by
      have hpairs : reports.Pairwise fun r r' => InOrder r r' ∨ InOrder r' r :=
        (hsorted.and hchronological).imp .inl
      exact fun r hr r' hr' hne => hpairs.forall hr hr' hne
    have hvalue := value_intToString (hnonneg event hevent)
    have hvalue' := value_intToString (hnonneg event' hevent')
    have hne : event.report ≠ event'.report := by
      intro heq
      have htime : event.time = event'.time :=
        intToString_injective (congrArg EventReport.time heq)
      omega
    rw [← le_iff_leadingDigits (hnonneg event hevent) hlt]
    rcases hboth _ (hmem.2 (List.mem_map_of_mem hevent)) _ (hmem.2 (List.mem_map_of_mem hevent'))
      hne with ⟨htext, -⟩ | ⟨-, hnumber⟩
    · exact htext
    · have hnumber : Decimals.value (intToString event'.time) ≤
          Decimals.value (intToString event.time) := hnumber
      omega
  · intro hdigits
    refine ⟨reports, (prints_iff h).2 hreports, hsorted.imp_of_mem fun {r r'} hr hr' htext => ?_⟩
    obtain ⟨event, hevent, htime, hvalue⟩ := htimes r hr
    obtain ⟨event', hevent', htime', hvalue'⟩ := htimes r' hr'
    by_contra hlater
    have hlt : event'.time < event.time := by omega
    have hle := (le_iff_leadingDigits (hnonneg event' hevent') hlt).2
      (hdigits event' hevent' event hevent hlt)
    rw [htime, htime'] at htext
    have heq := intToString_injective (le_antisymm htext hle)
    omega

theorem goals_chronological : Chronological "a" "b" "bob" goals :=
  (chronological_iff (by decide +kernel) (by decide +kernel) (by decide +kernel)).2
    (by decide +kernel)

/-- The report of second 90 comes after that of second 1980. -/
theorem not_forall_chronological : ¬ ∀ (teamA teamB u : Str) (events : List Event),
    (∀ event ∈ events, Reportable u event) → (events.map Event.time).Nodup →
    (∀ event ∈ events, 0 ≤ event.time) → Chronological teamA teamB u events := by
  intro hall
  have hreport : ∀ event ∈ [{ goal "goals" "1" with time := 90 }, goal "goals" "1"],
      Reportable "bob" event := by decide +kernel
  obtain ⟨reports, hprints, hchronological⟩ := hall "a" "b" "bob" _ hreport (by decide +kernel)
    (by decide +kernel)
  have hentries := (prints_iff hreport).1 hprints
  have hlisted : iterate (infoOf [{ goal "goals" "1" with time := 90 }, goal "goals" "1"]) =
      [(goal "goals" "1").report, { (goal "goals" "1").report with time := "90" }].map
        EventReport.entry := by decide +kernel
  rw [hlisted] at hentries
  obtain rfl := List.map_injective_iff.2 entry_injective hentries
  revert hchronological
  decide +kernel

end WorldCupInformer.Client
