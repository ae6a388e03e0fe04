import WorldCupInformer.Client.EventReports
import WorldCupInformer.Client.Login
import WorldCupInformer.Client.ReceivedFrames

/-!
# Accesses to vectors

A command handler does not look at the length of the vector it reads from, so that an access is in
bounds only when its line has enough words.

* `InBounds`: a call does not access an element outside a vector, with a rule for what follows a
  call and one for each loop;
* `Recorded`: every event has the two texts that a summary reads, an invariant of the frames
  (`Recorded.processFrame`);
* one lemma for each handler.
-/

namespace WorldCupInformer.Client

/-! ### Calls without an access outside a vector -/

/-- The call returns or throws. -/
def InBounds {α : Type} (x : Except CppException α) : Prop := x ≠ .error .undefined

section InBounds

variable {α β : Type}

@[simp] theorem inBounds_ok (a : α) : InBounds (.ok a : Except CppException α) := by
  simp [InBounds]

@[simp] theorem inBounds_pure (a : α) : InBounds (pure a : Except CppException α) := inBounds_ok a

@[simp] theorem inBounds_error {x : CppException} :
    InBounds (.error x : Except CppException α) ↔ x ≠ .undefined := by
  simp [InBounds]

theorem inBounds_bind {x : Except CppException α} {f : α → Except CppException β} :
    InBounds (x >>= f) ↔ InBounds x ∧ ∀ a, x = .ok a → InBounds (f a) := by
  cases x with
  | error e => simp [bind, Except.bind]
  | ok a => simp [bind, Except.bind]

theorem InBounds.bind {x : Except CppException α} {f : α → Except CppException β}
    (hx : InBounds x) (hf : ∀ a, x = .ok a → InBounds (f a)) : InBounds (x >>= f) :=
  inBounds_bind.2 ⟨hx, hf⟩

theorem inBounds_bind_iff {x : Except CppException α} {f : α → Except CppException β}
    (hf : ∀ a, InBounds (f a)) : InBounds (x >>= f) ↔ InBounds x :=
  inBounds_bind.trans ⟨And.left, fun hx => ⟨hx, fun a _ => hf a⟩⟩

/-- What follows an access to an element goes on with it. -/
theorem inBounds_vectorAt_bind {v : List α} {i : ℕ} {f : α → Except CppException β} :
    InBounds (vectorAt v i >>= f) ↔ ∃ h : i < v.length, InBounds (f v[i]) := by
  unfold vectorAt
  by_cases h : i < v.length
  · simp [h, bind, Except.bind]
  · simp [h, bind, Except.bind]

theorem inBounds_vectorFront_bind {v : List α} {f : α → Except CppException β} :
    InBounds (vectorFront v >>= f) ↔ ∃ a w, v = a :: w ∧ InBounds (f a) := by
  cases v with
  | nil => simp [vectorFront, bind, Except.bind]
  | cons a w => simp [vectorFront, bind, Except.bind]

theorem inBounds_vectorBack {v : List α} : InBounds (vectorBack v) ↔ v ≠ [] := by
  unfold vectorBack
  cases hlast : v.getLast? with
  | none => simpa using hlast
  | some a =>
    have hne : v ≠ [] := fun hnil => by simp [hnil] at hlast
    simp [hne]

@[simp] theorem inBounds_substr (s : Str) (pos count : ℤ) : InBounds (substr s pos count) := by
  unfold substr
  split_ifs <;> simp

@[simp] theorem inBounds_stoi (s : Str) : InBounds (stoi s) := by
  unfold stoi
  dsimp only
  split_ifs <;> simp

theorem inBounds_foldlM {σ : Type} {f : σ → α → Except CppException σ}
    (hf : ∀ s a, InBounds (f s a)) (l : List α) (s : σ) : InBounds (l.foldlM f s) := by
  induction l generalizing s with
  | nil => exact inBounds_ok s
  | cons a l ih =>
    rw [List.foldlM_cons]
    exact (hf s a).bind fun s' _ => ih s'

theorem inBounds_mapM {f : α → Except CppException β} {l : List α}
    (hf : ∀ a ∈ l, InBounds (f a)) : InBounds (l.mapM f) := by
  induction l with
  | nil => exact inBounds_ok []
  | cons a l ih =>
    obtain ⟨ha, hl⟩ := List.forall_mem_cons.1 hf
    rw [List.mapM_cons]
    exact ha.bind fun b _ => (ih hl).bind fun bs _ => inBounds_pure _

end InBounds

/-! ### The texts of an event -/

namespace Game

/-- Every event has its name and its description. -/
def Recorded (game : Game) : Prop :=
  ∀ time info, game.eventsInfo.lookup time = some info → ∃ name description,
    info = [name, description]

/-- A summary reads both. -/
theorem Recorded.inBounds_writeToFile {game : Game} (h : game.Recorded) (path : Str)
    (files : Dict Str Str) : InBounds (game.writeToFile path files) := by
  have hreports : InBounds game.eventReports := by
    refine inBounds_mapM fun event hevent => ?_
    obtain ⟨name, description, hinfo⟩ := h _ _ (mem_iterate.1 hevent)
    have hname : 0 < event.2.length := by simp [hinfo]
    have hdescription : 1 < event.2.length := by simp [hinfo]
    exact inBounds_vectorAt_bind.2 ⟨hname, inBounds_vectorAt_bind.2 ⟨hdescription, inBounds_pure _⟩⟩
  have htext : InBounds game.toString := hreports.bind fun reports _ => inBounds_pure _
  exact htext.bind fun text _ => inBounds_pure _

theorem inBounds_putUpdate (updates : Dict Str Str) (line : Str) :
    InBounds (putUpdate updates line) :=
  (inBounds_substr _ _ _).bind fun _ _ => (inBounds_substr _ _ _).bind fun _ _ => inBounds_pure _

/-- A line is cut, perhaps, and changes anything but the events. -/
theorem readLine_eq_bind (r : Reading) (line : Str) :
    ∃ (α : Type) (x : Except CppException α) (f : α → Reading),
      (readLine r line = x >>= fun a => pure (f a)) ∧ InBounds x ∧
      ∀ a, (f a).game.eventsInfo = r.game.eventsInfo := by
  unfold readLine
  split
  · split_ifs
    · exact ⟨_, _, _, rfl, inBounds_substr _ _ _, fun _ => rfl⟩
    · exact ⟨_, _, _, rfl, inBounds_substr _ _ _, fun _ => rfl⟩
    · exact ⟨Unit, pure (), fun _ => r, rfl, inBounds_pure _, fun _ => rfl⟩
  · exact ⟨_, _, _, rfl, inBounds_putUpdate _ _, fun _ => rfl⟩
  · exact ⟨_, _, _, rfl, inBounds_putUpdate _ _, fun _ => rfl⟩
  · exact ⟨_, _, _, rfl, inBounds_putUpdate _ _, fun _ => rfl⟩
  · exact ⟨Unit, pure (), fun _ => _, rfl, inBounds_pure _, fun _ => rfl⟩

theorem parseLine_spec (r : Reading) (line : Str) : InBounds (parseLine r line) ∧
    ∀ r', parseLine r line = .ok r' → r'.game.eventsInfo = r.game.eventsInfo := by
  by_cases hheading : IsHeading line
  · obtain ⟨n, -, heq⟩ := parseLine_heading hheading r
    rw [heq]
    refine ⟨inBounds_ok _, fun r' hr' => ?_⟩
    obtain rfl := Except.ok.inj hr'
    rfl
  · obtain ⟨α, x, f, heq, hx, hf⟩ := readLine_eq_bind r line
    rw [parseLine_eq hheading, heq]
    refine ⟨hx.bind fun a _ => inBounds_pure _, fun r' hr' => ?_⟩
    obtain ⟨a, -, ha⟩ := bind_eq_ok.1 hr'
    obtain rfl := Except.ok.inj ha
    exact hf a

theorem eventsInfo_foldlM_parseLine {r r' : Reading} {ls : List Str}
    (h : ls.foldlM parseLine r = .ok r') : r'.game.eventsInfo = r.game.eventsInfo := by
  induction ls generalizing r with
  | nil =>
    obtain rfl := Except.ok.inj h
    rfl
  | cons line ls ih =>
    rw [List.foldlM_cons] at h
    obtain ⟨r₁, hline, hrest⟩ := bind_eq_ok.1 h
    exact (ih hrest).trans ((parseLine_spec r line).2 r₁ hline)

theorem inBounds_parseFrame (game : Game) (body : Str) : InBounds (game.parseFrame body) :=
  (inBounds_foldlM (fun r line => (parseLine_spec r line).1) _ _).bind fun _ _ => inBounds_pure _

/-- The event of a report is recorded with both. -/
theorem Recorded.parseFrame {game game' : Game} (h : game.Recorded) {body : Str}
    (hread : game.parseFrame body = .ok game') : game'.Recorded := by
  obtain ⟨r, hr, hput⟩ := bind_eq_ok.1 hread
  obtain rfl := Except.ok.inj hput
  intro time info hinfo
  dsimp only at hinfo
  have hevents : r.game.eventsInfo = game.eventsInfo := eventsInfo_foldlM_parseLine hr
  rw [hevents] at hinfo
  cases hold : game.eventsInfo.lookup r.eventTime with
  | some old =>
    rw [Dict.insertNew_of_some hold] at hinfo
    exact h time info hinfo
  | none =>
    rw [Dict.insertNew_of_none hold, Dict.lookup_insert] at hinfo
    split_ifs at hinfo
    · exact ⟨_, _, (Option.some.inj hinfo).symm⟩
    · exact h time info hinfo

theorem recorded_new (teamA teamB : Str) :
    Recorded { teamAname := teamA, teamBname := teamB } :=
  fun _ _ h => by simp at h

end Game

/-! ### The handlers -/

namespace StompProtocol

variable {p p' : StompProtocol} {parameters : List Str} {n : ℕ}

theorem inBounds_handleLoginRequest (connects writes : Bool) :
    InBounds (p.handleLoginRequest parameters connects writes) ↔
      p.sentLoginRequest = true ∨ 3 < parameters.length := by
  unfold handleLoginRequest
  cases hlogin : p.sentLoginRequest with
  | true => simp
  | false =>
    simp only [Bool.false_eq_true, if_false, false_or, inBounds_vectorAt_bind]
    constructor
    · rintro ⟨_, _, hlength, _⟩
      exact hlength
    · intro hlength
      refine ⟨by omega, by omega, hlength, (inBounds_stoi _).bind fun port _ => ?_⟩
      split
      · exact inBounds_pure _
      · split
        · exact inBounds_pure _
        · exact inBounds_pure _

theorem inBounds_handleJoinRequest :
    InBounds (p.handleJoinRequest parameters) ↔ 1 < parameters.length := by
  unfold handleJoinRequest
  rw [inBounds_vectorAt_bind]
  constructor
  · rintro ⟨hlength, _⟩
    exact hlength
  · intro hlength
    exact ⟨hlength, inBounds_pure _⟩

theorem inBounds_handleExitRequest :
    InBounds (p.handleExitRequest parameters) ↔ 1 < parameters.length := by
  unfold handleExitRequest
  rw [inBounds_vectorAt_bind]
  constructor
  · rintro ⟨hlength, _⟩
    exact hlength
  · intro hlength
    refine ⟨hlength, ?_⟩
    split_ifs
    · exact inBounds_pure _
    · exact inBounds_pure _

/-- The client is subscribed to the game of the file, and there are no events to report. -/
def NothingToReport (p : StompProtocol) (infoForFrames : NamesAndEvents) : Prop :=
  p.checkSub (infoForFrames.team_a_name ++ "_" ++ infoForFrames.team_b_name) = true ∧
    infoForFrames.events = []

theorem buildSendFrames_eq_nil_iff (infoForFrames : NamesAndEvents) :
    p.buildSendFrames infoForFrames = [] ↔ p.NothingToReport infoForFrames := by
  unfold buildSendFrames NothingToReport
  dsimp only
  split_ifs with hsub
  · rw [List.map_eq_nil_iff]
    exact (and_iff_right hsub).symm
  · exact iff_of_false id fun h => hsub h.1

/-- `sendFrames.back()` needs a frame. -/
theorem inBounds_handleReportRequest (infoForFrames : NamesAndEvents) :
    InBounds (p.handleReportRequest infoForFrames) ↔ ¬ p.NothingToReport infoForFrames := by
  rw [← buildSendFrames_eq_nil_iff, ← ne_eq, ← inBounds_vectorBack]
  unfold handleReportRequest
  dsimp only
  refine inBounds_bind_iff fun last => ?_
  split_ifs
  · exact inBounds_pure _
  · exact inBounds_pure _

/-- The events of every game have their names and descriptions. -/
def Recorded (p : StompProtocol) : Prop :=
  ∀ gameName user game, Dict.lookup₂ p.gameToEvents gameName user = some game → game.Recorded

theorem Recorded.inBounds_handleSummaryRequest (hp : p.Recorded) (files : Dict Str Str) :
    InBounds (p.handleSummaryRequest parameters files) ↔ 3 < parameters.length := by
  unfold handleSummaryRequest
  simp only [inBounds_vectorAt_bind]
  constructor
  · rintro ⟨_, _, hlength, _⟩
    exact hlength
  · intro hlength
    refine ⟨by omega, by omega, hlength, ?_⟩
    split
    · rename_i users husers
      split
      · rename_i game hgame
        have hrecorded := hp _ _ game ((Dict.lookup₂_of_lookup husers _).trans hgame)
        exact (hrecorded.inBounds_writeToFile _ files).bind fun _ _ => inBounds_pure _
      · exact inBounds_pure _
    · exact inBounds_pure _

/-- The handlers of frames cut strings only. -/
theorem inBounds_processFrame (p : StompProtocol) (frame : Str) :
    InBounds (p.processFrame frame) := by
  have herror : ∀ (p : StompProtocol) body, InBounds (p.handleErrorFrame body) := fun p body =>
    InBounds.bind ((inBounds_substr _ _ _).bind fun _ _ => inBounds_substr _ _ _)
      fun _ _ => inBounds_pure _
  have hreceipt : ∀ (p : StompProtocol) header, InBounds (p.handleReceiptFrame header) :=
    fun p header => (inBounds_substr _ _ _).bind fun _ _ => inBounds_pure _
  have hmessage : ∀ (p : StompProtocol) header body,
      InBounds (p.handleMessageFrame header body) := by
    intro p header body
    unfold handleMessageFrame
    iterate 6 refine (inBounds_substr _ _ _).bind fun _ _ => ?_
    exact (Game.inBounds_parseFrame _ _).bind fun _ _ => inBounds_pure _
  unfold processFrame
  iterate 3 refine (inBounds_substr _ _ _).bind fun _ _ => ?_
  refine InBounds.bind ?_ fun body _ => InBounds.bind ?_ fun p _ => InBounds.bind ?_ fun p _ => ?_
  · split_ifs
    · exact inBounds_substr _ _ _
    · exact inBounds_pure _
  · split_ifs
    · exact herror _ _
    · exact inBounds_pure _
  · split_ifs
    · exact hreceipt _ _
    · exact inBounds_pure _
  · split_ifs
    · exact hmessage _ _ _
    · exact inBounds_pure _

/-! ### The games a handler leaves -/

theorem Recorded.congr (hp : p.Recorded) (h : p'.gameToEvents = p.gameToEvents) : p'.Recorded := by
  unfold Recorded
  rw [h]
  exact hp

theorem recorded_logout (p : StompProtocol) : p.logout.Recorded :=
  fun gameName user game h => by simp [logout] at h

theorem gameToEvents_sendFrames (p : StompProtocol) (frames : List Str) :
    (p.sendFrames frames).1.gameToEvents = p.gameToEvents := by
  induction frames generalizing p with
  | nil => rfl
  | cons frame frames ih =>
    have hsent : (p.sendFrame frame).1.gameToEvents = p.gameToEvents := rfl
    rw [sendFrames]
    split
    · rename_i heq
      obtain rfl := congrArg Prod.fst heq
      rfl
    · rename_i heq
      obtain rfl := congrArg Prod.fst heq
      exact (ih _).trans hsent

theorem gameToEvents_connectToServer (p : StompProtocol) (connects writes : Bool) :
    (p.connectToServer connects writes).1.gameToEvents = p.gameToEvents := by
  unfold connectToServer
  split_ifs
  · rfl
  · rfl

theorem gameToEvents_login {connects writes : Bool}
    (h : p.handleLoginRequest parameters connects writes = .ok (p', n)) :
    p'.gameToEvents = p.gameToEvents := by
  unfold handleLoginRequest at h
  split_ifs at h
  · obtain rfl := congrArg Prod.fst (Except.ok.inj h)
    rfl
  obtain ⟨hostPort, -, h⟩ := bind_eq_ok.1 h
  obtain ⟨thisUsername, -, h⟩ := bind_eq_ok.1 h
  obtain ⟨password, -, h⟩ := bind_eq_ok.1 h
  obtain ⟨port, -, h⟩ := bind_eq_ok.1 h
  split at h
  · rename_i p₁ heq
    obtain rfl := congrArg Prod.fst (Except.ok.inj h)
    exact (congrArg (·.1.gameToEvents) heq).symm.trans (gameToEvents_connectToServer _ _ _)
  · rename_i p₁ _ _ heq
    have hconnect : p₁.gameToEvents = p.gameToEvents :=
      (congrArg (·.1.gameToEvents) heq).symm.trans (gameToEvents_connectToServer _ _ _)
    split at h
    · rename_i heq
      obtain rfl := congrArg Prod.fst (Except.ok.inj h)
      obtain rfl := congrArg Prod.fst heq
      exact hconnect
    · rename_i heq
      obtain rfl := congrArg Prod.fst (Except.ok.inj h)
      obtain rfl := congrArg Prod.fst heq
      exact hconnect

theorem gameToEvents_join (h : p.handleJoinRequest parameters = .ok (p', n)) :
    p'.gameToEvents = p.gameToEvents := by
  obtain ⟨gameName, -, h⟩ := bind_eq_ok.1 h
  obtain rfl := congrArg Prod.fst (Except.ok.inj h)
  rfl

theorem gameToEvents_exit (h : p.handleExitRequest parameters = .ok (p', n)) :
    p'.gameToEvents = p.gameToEvents := by
  obtain ⟨gameName, -, h⟩ := bind_eq_ok.1 h
  split_ifs at h
  · obtain rfl := congrArg Prod.fst (Except.ok.inj h)
    rfl
  · obtain rfl := congrArg Prod.fst (Except.ok.inj h)
    rfl

theorem gameToEvents_report {infoForFrames : NamesAndEvents}
    (h : p.handleReportRequest infoForFrames = .ok (p', n)) :
    p'.gameToEvents = p.gameToEvents := by
  obtain ⟨last, -, h⟩ := bind_eq_ok.1 h
  split_ifs at h
  · obtain rfl := congrArg Prod.fst (Except.ok.inj h)
    rfl
  · have hsent := gameToEvents_sendFrames p (p.buildSendFrames infoForFrames)
    obtain rfl := congrArg Prod.fst (Except.ok.inj h)
    exact hsent

theorem gameToEvents_logout (p : StompProtocol) :
    p.handleLogoutRequest.1.gameToEvents = p.gameToEvents := by
  unfold handleLogoutRequest
  dsimp only
  split
  · rename_i heq
    obtain rfl := congrArg Prod.fst heq
    rfl
  · rename_i heq
    obtain rfl := congrArg Prod.fst heq
    rfl

/-- **The reports a client gets are recorded.** -/
theorem Recorded.processFrame (hp : p.Recorded) {frame : Str} (h : p.processFrame frame = .ok p') :
    p'.Recorded := by
  rcases processFrame_cases h with rfl | rfl | ⟨receipts, command, rfl⟩ |
    ⟨games, ⟨teamA, teamB, user, body, game, hread, hgames⟩, rfl⟩
  · exact hp
  · exact recorded_logout p
  · rcases receiptOf_cases { p with receiptToMsg := receipts } command with heq | ⟨subs, heq⟩
    · rw [heq]
      exact recorded_logout _
    · rw [heq]
      exact hp.congr rfl
  · intro gameName user' game' hgame
    dsimp only at hgame
    rw [hgames, Dict.lookup₂_put₂] at hgame
    split_ifs at hgame
    · obtain rfl := Option.some.inj hgame
      refine Game.Recorded.parseFrame ?_ hread
      cases hold : Dict.lookup₂ p.gameToEvents (teamA ++ "_" ++ teamB) user with
      | none => exact Game.recorded_new teamA teamB
      | some old => exact hp _ _ old hold
    · exact hp _ _ game' hgame

end StompProtocol

end WorldCupInformer.Client
