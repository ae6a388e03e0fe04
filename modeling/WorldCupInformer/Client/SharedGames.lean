import WorldCupInformer.Client.GamePointers

/-!
# Summaries while frames arrive

The two threads of the client, with the games behind their pointers.  A frame is handled in one
step and a summary in two, so that between finding a game and writing it the keyboard thread holds a
pointer, and frames may be handled meanwhile.  The three take no common lock: the runs here are
those in which they do not overlap, and what happens in the others is a data race.

* `games_owned`: at any time the pointers lead to games, and while the process is running the map
  owns the games, so that `~StompProtocol` deletes each of them once;
* `held_iff`: the pointer that is held stays valid exactly when no frame ends the session meanwhile;
* `summaries_linearize`: the client then does what it does when a summary is one step.
-/

namespace WorldCupInformer.Client

open Results

/-- The two threads of the client, and the games.  `thread` has the fields of the object that hold
no game. -/
structure SharedGames where
  thread : KeyboardThread
  pointers : Pointers := {}
  /-- what `handleSummaryRequest` has found: the pointer, and the file it will write -/
  writing : Option (Pointer × Str) := none
  /-- a pointer has been used that leads to no game, and the behaviour is undefined -/
  invalid : Bool := false

namespace SharedGames

/-- The process has ended, or does something undefined. -/
def Ended (c : SharedGames) : Prop :=
  c.invalid = true ∨ c.thread.pc = .threw ∨ c.thread.pc = .outside

instance (c : SharedGames) : Decidable c.Ended := inferInstanceAs (Decidable (_ ∨ _ ∨ _))

/-- A summary up to the pointer; any other step is one of `KeyboardThread`. -/
def startStep (c : SharedGames) (surroundings : Surroundings) : SharedGames :=
  if c.thread.ReadsSummary then
    let parameters := extractParameters c.thread.nextLine
    let thread := c.thread.readLine
    match c.pointers.findGame parameters with
    -- without an entry nothing is written, and the line is done
    | .ok writing => { c with thread := thread, writing := writing }
    | .error x => { c with thread := { thread with pc := .ofException x } }
  else { c with thread := c.thread.keyboardStep surroundings }

/-- The rest of the summary. -/
def writeStep (c : SharedGames) (pointer : Pointer) (filename : Str) : SharedGames :=
  match c.pointers.writeGame pointer filename c.thread.files with
  | .ok files => { c with thread := { c.thread with files := files }, writing := none }
  | .error (.exception x _) =>
    { c with thread := { c.thread with pc := .ofException x }, writing := none }
  | .error .invalidPointer => { c with invalid := true }

/-- The next step of the keyboard thread. -/
def keyboardStep (c : SharedGames) (surroundings : Surroundings) : SharedGames :=
  if c.Ended then c
  else
    match c.writing with
    | some (pointer, filename) => c.writeStep pointer filename
    | none => c.startStep surroundings

/-- The receiving thread handles a frame while the client is connected. -/
def receive (c : SharedGames) (frame : Str) : SharedGames :=
  if c.Ended ∨ c.thread.protocol.handler.connected = false then c
  else
    match Pointers.processFrame c.thread.protocol c.pointers frame with
    | .ok (protocol, pointers) =>
      { c with thread := { c.thread with protocol := protocol }, pointers := pointers }
    | .error (.exception x heap) =>
      { c with
        thread := { c.thread with pc := .ofException x }
        pointers := { c.pointers with heap := heap } }
    | .error .invalidPointer => { c with invalid := true }

/-- One step.  Handling a frame, finding a game for a summary and writing it are one step each, as
if a lock were held. -/
def step (c : SharedGames) : KeyboardEvent → SharedGames
  | .keyboard surroundings => c.keyboardStep surroundings
  | .frame frame => c.receive frame
  | .lost => { c with thread := { c.thread with protocol.handler.writable := false } }

/-- The client has been started with this input. -/
def start (input : Str) : SharedGames := { thread := { cin := { rest := input } } }

def run (input : Str) (es : List KeyboardEvent) : SharedGames := Machine.run step (start input) es

variable {c : SharedGames} {k : KeyboardThread} {frame filename : Str} {pointer : Pointer}
  {surroundings : Surroundings}

def Connected (c : SharedGames) : Prop := c.thread.protocol.handler.connected = true

/-- The pointer that the keyboard thread holds leads to a game. -/
structure HeldLive (c : SharedGames) : Prop where
  valid : c.invalid = false
  held : ∀ pointer filename, c.writing = some (pointer, filename) →
    ∃ a, pointer = some a ∧ (c.pointers.heap.read a).isSome

/-- No session ends with this step while a summary is being written. -/
def KeepsSession (c : SharedGames) (e : KeyboardEvent) : Prop :=
  c.writing ≠ none → c.Connected → (c.step e).Connected

instance (c : SharedGames) (e : KeyboardEvent) : Decidable (c.KeepsSession e) :=
  inferInstanceAs (Decidable (_ ≠ _ → (_ = true) → (_ = true)))

/-- The pointers lead to games of their own, and while the process is running the map owns the
games. -/
structure Sound (c : SharedGames) : Prop where
  valid : c.pointers.Valid
  owns : ¬ c.Ended → c.pointers.Owns

theorem Sound.of_owns (ho : c.pointers.Owns) : c.Sound := ⟨ho.valid, fun _ => ho⟩

/-! ### What a step can do -/

theorem ended_ofException (x : CppException) : KeyboardPc.ofException x = .threw ∨
    KeyboardPc.ofException x = .outside := by
  cases x <;> simp [KeyboardPc.ofException]

theorem writing_ne_none (hw : c.writing = some (pointer, filename)) : c.writing ≠ none := by
  rw [hw]
  exact Option.some_ne_none _

/-- What is done to the pointers is done by a frame. -/
theorem pointers_keyboardStep (c : SharedGames) (surroundings : Surroundings) :
    (c.keyboardStep surroundings).pointers = c.pointers := by
  unfold keyboardStep
  split_ifs
  · rfl
  split
  · unfold writeStep
    split <;> rfl
  · unfold startStep
    split_ifs
    · dsimp only
      split <;> rfl
    · rfl

/-- A frame is not handled, or it throws, or it is handled. -/
theorem receive_cases (hs : c.Sound) (frame : Str) :
    c.receive frame = c ∨
    (∃ x heap, (heap = c.pointers.heap ∨ ∃ game, heap = c.pointers.heap.alloc game) ∧
      c.receive frame =
        { c with
          thread := { c.thread with pc := .ofException x }
          pointers := { c.pointers with heap := heap } }) ∨
    c.Connected ∧ c.pointers.Owns ∧ ∃ protocol pointers,
      Pointers.processFrame c.thread.protocol c.pointers frame = .ok (protocol, pointers) ∧
      pointers.Owns ∧ c.receive frame =
        { c with thread := { c.thread with protocol := protocol }, pointers := pointers } := by
  by_cases hskip : c.Ended ∨ c.thread.protocol.handler.connected = false
  · exact .inl (if_pos hskip)
  obtain ⟨hended, hclosed⟩ := not_or.1 hskip
  have ho := hs.owns hended
  refine .inr ?_
  rcases ho.processFrame c.thread.protocol frame with
    ⟨protocol, pointers, hframe, ho'⟩ | ⟨fault, x, hframe, heap, rfl, hleft⟩
  · refine .inr ⟨Bool.eq_true_of_not_eq_false hclosed, ho, protocol, pointers, hframe, ho', ?_⟩
    rw [receive, if_neg hskip, hframe]
  · refine .inl ⟨x, heap, hleft, ?_⟩
    rw [receive, if_neg hskip, hframe]

/-- A process that has ended takes no step. -/
theorem ended_keyboardStep (h : c.Ended) (surroundings : Surroundings) :
    c.keyboardStep surroundings = c := if_pos h

/-- **The pointers stay sound**, whatever a step does. -/
theorem sound_step (hs : c.Sound) (e : KeyboardEvent) : (c.step e).Sound := by
  cases e with
  | keyboard surroundings =>
    show (c.keyboardStep surroundings).Sound
    refine ⟨by rw [pointers_keyboardStep]; exact hs.valid, fun hended => ?_⟩
    rw [pointers_keyboardStep]
    refine hs.owns fun h => hended ?_
    rwa [ended_keyboardStep h]
  | frame frame =>
    show (c.receive frame).Sound
    rcases receive_cases hs frame with
      h | ⟨x, heap, hleft, h⟩ | ⟨-, -, protocol, pointers, -, ho, h⟩
    · rw [h]
      exact hs
    · rw [h]
      exact ⟨hs.valid.of_leaves hleft, fun hended => absurd (.inr (ended_ofException x)) hended⟩
    · rw [h]
      exact .of_owns ho
  | lost => exact ⟨hs.valid, hs.owns⟩

/-- A summary finds an entry of the map. -/
theorem found_of_findGame {g : Pointers} {parameters : List Str}
    (h : g.findGame parameters = .ok (some (pointer, filename))) :
    ∃ gameName user, Dict.lookup₂ g.gameToEvents gameName user = some pointer := by
  unfold Pointers.findGame at h
  simp only [bind_eq_ok] at h
  obtain ⟨gameName, -, user, -, filename', -, h⟩ := h
  obtain ⟨pointer', hlookup, heq⟩ := Option.map_eq_some_iff.1 (Except.ok.inj h)
  obtain ⟨rfl, -⟩ := Prod.mk.inj heq
  exact ⟨gameName, user, hlookup⟩

/-- An entry leads to a game. -/
theorem live_of_lookup {g : Pointers} (hv : g.Valid) {gameName user : Str}
    (h : Dict.lookup₂ g.gameToEvents gameName user = some pointer) :
    ∃ a, pointer = some a ∧ (g.heap.read a).isSome := by
  rw [hv.lookup_eq] at h
  obtain ⟨a, ha, rfl⟩ := Option.map_eq_some_iff.1 h
  exact ⟨a, rfl, hv.valid.live ha⟩

/-- A game that is live has an entry, and keeps it. -/
theorem live_of_keeps {g g' : Pointers} (ho : g.Owns) (hv : g'.Valid) (hkeeps : g.Keeps g') {a : ℕ}
    (ha : (g.heap.read a).isSome) : (g'.heap.read a).isSome := by
  obtain ⟨⟨gameName, user⟩, hpointer⟩ := ho.owned.owner ha
  have hlookup := ho.valid.lookup_eq gameName user
  rw [hpointer] at hlookup
  obtain ⟨b, hb, hlive⟩ := live_of_lookup hv (hkeeps gameName user _ hlookup)
  obtain rfl := Option.some.inj hb
  exact hlive

theorem writeGame_of_live {g : Pointers} {a : ℕ} {game : Game}
    (hgame : g.heap.read a = some game) (filename : Str) (files : Dict Str Str) :
    g.writeGame (some a) filename files =
      g.orThrow (game.writeToFile filename files) := by
  unfold Pointers.writeGame
  rw [valid_some, ok_bind_eq, hgame, valid_some, ok_bind_eq]

/-- The summary of a live game is written. -/
theorem writeStep_ok {a : ℕ} {game : Game} (hgame : c.pointers.heap.read a = some game)
    {files : Dict Str Str} (hfiles : game.writeToFile filename c.thread.files = .ok files) :
    c.writeStep (some a) filename =
      { c with thread := { c.thread with files := files }, writing := none } := by
  unfold writeStep
  rw [writeGame_of_live hgame, hfiles]
  rfl

theorem writeStep_error {a : ℕ} {game : Game} (hgame : c.pointers.heap.read a = some game)
    {x : CppException} (hx : game.writeToFile filename c.thread.files = .error x) :
    c.writeStep (some a) filename =
      { c with thread := { c.thread with pc := .ofException x }, writing := none } := by
  unfold writeStep
  rw [writeGame_of_live hgame, hx]
  rfl

theorem heldLive_writeStep (hheld : c.HeldLive) (hw : c.writing = some (pointer, filename)) :
    (c.writeStep pointer filename).HeldLive ∧
      (c.writeStep pointer filename).thread.protocol = c.thread.protocol := by
  obtain ⟨a, rfl, hlive⟩ := hheld.held _ _ hw
  obtain ⟨game, hgame⟩ := Option.isSome_iff_exists.1 hlive
  cases hfiles : game.writeToFile filename c.thread.files with
  | ok files =>
    rw [writeStep_ok hgame hfiles]
    exact ⟨⟨hheld.valid, fun _ _ hwriting => by cases hwriting⟩, rfl⟩
  | error x =>
    rw [writeStep_error hgame hfiles]
    exact ⟨⟨hheld.valid, fun _ _ hwriting => by cases hwriting⟩, rfl⟩

theorem heldLive_startStep (hv : c.pointers.Valid) (hheld : c.HeldLive) (hw : c.writing = none)
    (surroundings : Surroundings) : (c.startStep surroundings).HeldLive := by
  unfold startStep
  split_ifs
  · dsimp only
    split
    · rename_i writing hfound
      refine ⟨hheld.valid, fun pointer filename hwriting => ?_⟩
      obtain rfl : writing = some (pointer, filename) := hwriting
      obtain ⟨gameName, user, hlookup⟩ := found_of_findGame hfound
      exact live_of_lookup hv hlookup
    · exact ⟨hheld.valid, fun _ _ hwriting => by simp [hw] at hwriting⟩
  · exact ⟨hheld.valid, fun _ _ hwriting => by simp [hw] at hwriting⟩

/-- A frame that does not end the session leaves the entries where the summary finds them. -/
theorem KeepsSession.keeps (hkeeps : c.KeepsSession (.frame frame)) (ho : c.pointers.Owns)
    (hopen : c.Connected) {protocol : StompProtocol} {pointers : Pointers}
    (hframe : Pointers.processFrame c.thread.protocol c.pointers frame = .ok (protocol, pointers))
    (hreceive : c.receive frame =
      { c with thread := { c.thread with protocol := protocol }, pointers := pointers })
    (hwriting : c.writing ≠ none) : c.pointers.Keeps pointers := by
  have hnext : (c.receive frame).Connected := hkeeps hwriting hopen
  rw [hreceive] at hnext
  have hnext : protocol.handler.connected = true := hnext
  rcases Pointers.processFrame_cases ho hframe with ⟨-, hkeep⟩ | ⟨hclosed, -⟩
  · exact hkeep
  · rw [hclosed] at hnext
    cases hnext

/-- The pointer that is held stays valid while the session goes on. -/
theorem heldLive_step (hs : c.Sound) (hheld : c.HeldLive) {e : KeyboardEvent}
    (hkeeps : c.KeepsSession e) : (c.step e).HeldLive := by
  cases e with
  | keyboard surroundings =>
    show (c.keyboardStep surroundings).HeldLive
    unfold keyboardStep
    split_ifs
    · exact hheld
    rcases hw : c.writing with _ | ⟨pointer, filename⟩
    · exact heldLive_startStep hs.valid hheld hw surroundings
    · exact (heldLive_writeStep hheld hw).1
  | frame frame =>
    show (c.receive frame).HeldLive
    rcases receive_cases hs frame with
      h | ⟨x, heap, hleft, h⟩ | ⟨hopen, ho, protocol, pointers, hframe, ho', h⟩
    · rw [h]
      exact hheld
    · rw [h]
      refine ⟨hheld.valid, fun pointer filename hw => ?_⟩
      obtain ⟨a, rfl, hlive⟩ := hheld.held pointer filename hw
      exact ⟨a, rfl, Pointers.live_of_leaves hleft hlive⟩
    · have hkeep := hkeeps.keeps ho hopen hframe h
      rw [h]
      refine ⟨hheld.valid, fun pointer filename hw => ?_⟩
      obtain ⟨a, rfl, hlive⟩ := hheld.held pointer filename hw
      exact ⟨a, rfl, live_of_keeps ho ho'.valid (hkeep (writing_ne_none hw)) hlive⟩
  | lost => exact ⟨hheld.valid, hheld.held⟩

/-- A session that ends while a summary is being written leaves its pointer dangling. -/
theorem keepsSession_of_heldLive (hs : c.Sound) {e : KeyboardEvent} (hheld : c.HeldLive)
    (hnext : (c.step e).HeldLive) : c.KeepsSession e := by
  intro hwriting hconnected
  obtain ⟨⟨pointer, filename⟩, hw⟩ := Option.ne_none_iff_exists'.1 hwriting
  cases e with
  | keyboard surroundings =>
    show (c.keyboardStep surroundings).Connected
    unfold keyboardStep
    split_ifs
    · exact hconnected
    · rw [hw]
      show (c.writeStep pointer filename).thread.protocol.handler.connected = true
      rw [(heldLive_writeStep hheld hw).2]
      exact hconnected
  | frame frame =>
    have hlive : (c.receive frame).HeldLive := hnext
    show (c.receive frame).Connected
    rcases receive_cases hs frame with
      h | ⟨x, heap, -, h⟩ | ⟨hopen, ho, protocol, pointers, hframe, -, h⟩
    · rw [h]
      exact hconnected
    · rw [h]
      exact hconnected
    · rw [h] at hlive ⊢
      show protocol.handler.connected = true
      rcases Pointers.processFrame_cases ho hframe with ⟨hhandler, -⟩ | ⟨-, hempty⟩
      · rw [hhandler]
        exact hconnected
      · obtain ⟨a, -, ha⟩ := hlive.held pointer filename hw
        simp [hempty.blocks] at ha
  | lost => exact hconnected

theorem heldLive_start (input : Str) : (start input).HeldLive where
  valid := rfl
  held _ _ hw := by cases hw

/-! ### Runs -/

theorem sound_start (input : Str) : (start input).Sound := .of_owns Pointers.owns_empty

theorem sound_run (input : Str) (es : List KeyboardEvent) : (run input es).Sound :=
  Machine.run_invariant (I := Sound) (fun _ e hs => sound_step hs e) (sound_start input) es

/-- **The games belong to the map**, where frames and summaries do not overlap: no entry is ever
null, every entry leads to a game that has not been deleted, and no two entries lead to the same
one.  While the process is running, every game has an entry, and deleting what the map points to,
as `~StompProtocol` does, deletes every game once. -/
theorem games_owned (input : Str) (es : List KeyboardEvent) :
    (run input es).pointers.Valid ∧ (¬ (run input es).Ended → (run input es).pointers.Owns ∧
      ∃ heap, (run input es).pointers.deleteGames = .ok { heap := heap } ∧
        ∀ a, heap.read a = none) := by
  have hs := sound_run input es
  exact ⟨hs.valid, fun hended => ⟨hs.owns hended, (hs.owns hended).deleteGames⟩⟩

/-- **When a summary follows a valid pointer**, where frames and summaries do not overlap. -/
theorem held_iff (input : Str) (es : List KeyboardEvent) :
    (∀ pre, pre <+: es → (run input pre).HeldLive) ↔
      Machine.Along step KeepsSession (start input) es :=
  (Machine.along_iff_forall_prefix (J := Sound) (I := HeldLive)
    (fun _ e hs => sound_step hs e) (fun _ _ hs hheld hkeeps => heldLive_step hs hheld hkeeps)
    (fun _ _ hs hheld hnext => keepsSession_of_heldLive hs hheld hnext)
    (sound_start input) (heldLive_start input) es).symm

/-! ### A summary in one step -/

/-- The summary that has been begun, seen from a thread that has not begun it. -/
structure Begun (c : SharedGames) (k : KeyboardThread) (pointer : Pointer) (filename : Str) :
    Prop where
  cin : c.thread.cin = (k.cin.getline 1024).2
  loop : c.Ended ∨ k.pc = .loop
  terminate : k.terminate = false
  command : (extractParameters k.nextLine).head? = some (lit "summary")
  found : c.pointers.findGame (extractParameters k.nextLine) = .ok (some (pointer, filename))

/-- The threads of `c` are those of `k`, which has the games themselves, and has not begun the
summary that `c` has begun. -/
structure Refines (c : SharedGames) (k : KeyboardThread) : Prop where
  valid : c.invalid = false
  sound : c.Sound
  represents : Pointers.Represents c.thread.protocol c.pointers k.protocol
  thread : k = { c.thread.withGames k.protocol.gameToEvents with cin := k.cin }
  idle : c.writing = none → c.thread.cin = k.cin
  begun : ∀ pointer filename, c.writing = some (pointer, filename) → c.Begun k pointer filename

theorem Refines.ended_iff (h : c.Refines k) : c.Ended ↔ k.pc = .threw ∨ k.pc = .outside := by
  have hpc : k.pc = c.thread.pc := by
    rw [h.thread]
    rfl
  rw [Ended, h.valid, hpc]
  simp

/-- A summary that has been begun finds the same entry later. -/
theorem findGame_of_keeps {g g' : Pointers} (hkeeps : g.Keeps g') {parameters : List Str}
    (h : g.findGame parameters = .ok (some (pointer, filename))) :
    g'.findGame parameters = .ok (some (pointer, filename)) := by
  unfold Pointers.findGame at h ⊢
  simp only [bind_eq_ok] at h ⊢
  obtain ⟨gameName, hgameName, user, huser, filename', hfilename, h⟩ := h
  obtain ⟨pointer', hlookup, heq⟩ := Option.map_eq_some_iff.1 (Except.ok.inj h)
  refine ⟨gameName, hgameName, user, huser, filename', hfilename, ?_⟩
  rw [hkeeps _ _ _ hlookup, Option.map_some, heq]
  rfl

/-- A frame that throws, and what it has left. -/
theorem Refines.thrown (h : c.Refines k) (x : CppException) {heap : Heap Game}
    (hleft : heap = c.pointers.heap ∨ ∃ game, heap = c.pointers.heap.alloc game) :
    Refines
      { c with
        thread := { c.thread with pc := .ofException x }
        pointers := { c.pointers with heap := heap } }
      { k with pc := .ofException x } where
  valid := h.valid
  sound := ⟨h.sound.valid.of_leaves hleft, fun hended => absurd (.inr (ended_ofException x)) hended⟩
  represents := h.represents.of_leaves h.sound.valid hleft
  thread := by
    rw [h.thread]
    rfl
  idle := h.idle
  begun pointer filename hw := by
    obtain ⟨hcin, -, hterminate, hcommand, hfound⟩ := h.begun pointer filename hw
    exact ⟨hcin, .inl (.inr (ended_ofException x)), hterminate, hcommand, hfound⟩

/-- A frame that has been handled. -/
theorem Refines.handled (h : c.Refines k) {protocol protocol' : StompProtocol} {pointers : Pointers}
    (ho : pointers.Owns) (hr : Pointers.Represents protocol pointers protocol')
    (hkeep : c.writing ≠ none → c.pointers.Keeps pointers) :
    Refines { c with thread := { c.thread with protocol := protocol }, pointers := pointers }
      { k with protocol := protocol' } where
  valid := h.valid
  sound := .of_owns ho
  represents := hr
  thread := by
    show { k with protocol := protocol' } = _
    rw [h.thread, show protocol' = _ from hr.fields]
    rfl
  idle := h.idle
  begun pointer filename hw := by
    obtain ⟨hcin, hloop, hterminate, hcommand, hfound⟩ := h.begun pointer filename hw
    exact ⟨hcin, hloop, hterminate, hcommand,
      findGame_of_keeps (hkeep (writing_ne_none hw)) hfound⟩

theorem refines_receive (h : c.Refines k) (frame : Str) (hkeeps : c.KeepsSession (.frame frame)) :
    (c.receive frame).Refines (k.receive frame) := by
  have hended := h.ended_iff
  have hconnected : k.protocol.handler.connected = c.thread.protocol.handler.connected := by
    rw [h.represents.fields]
    rfl
  by_cases hskip : c.Ended ∨ c.thread.protocol.handler.connected = false
  · have hskip' : k.pc = .threw ∨ k.pc = .outside ∨ k.protocol.handler.connected = false := by
      rwa [← or_assoc, ← hended, hconnected]
    rw [receive, if_pos hskip, KeyboardThread.receive, if_pos hskip']
    exact h
  have hskip' : ¬ (k.pc = .threw ∨ k.pc = .outside ∨ k.protocol.handler.connected = false) := by
    rwa [← or_assoc, ← hended, hconnected]
  have ho := h.sound.owns (not_or.1 hskip).1
  have hopen : c.Connected := Bool.eq_true_of_not_eq_false (not_or.1 hskip).2
  have hagrees := Pointers.processFrame_agrees ho h.represents frame
  cases hframe : k.protocol.processFrame frame with
  | error x =>
    rw [hframe] at hagrees
    obtain ⟨fault, hframe', heap, rfl, hleft⟩ := hagrees.exists_of_error
    have hc : c.receive frame =
        { c with
          thread := { c.thread with pc := .ofException x }
          pointers := { c.pointers with heap := heap } } := by
      rw [receive, if_neg hskip, hframe']
    have hk : k.receive frame = { k with pc := .ofException x } := by
      rw [KeyboardThread.receive, if_neg hskip', hframe]
    rw [hc, hk]
    exact h.thrown x hleft
  | ok protocol =>
    rw [hframe] at hagrees
    obtain ⟨⟨protocol', pointers⟩, hframe', ho', hr⟩ := hagrees.exists_of_ok
    have hc : c.receive frame =
        { c with thread := { c.thread with protocol := protocol' }, pointers := pointers } := by
      rw [receive, if_neg hskip, hframe']
    have hk : k.receive frame = { k with protocol := protocol } := by
      rw [KeyboardThread.receive, if_neg hskip', hframe]
    have hkeep := hkeeps.keeps ho hopen hframe' hc
    rw [hc, hk]
    exact h.handled ho' hr hkeep

/-- `handleSummaryRequest` from what is found, which is a pointer to the game. -/
theorem handleSummaryRequest_eq_findGame {g : Pointers} {p₀ p : StompProtocol} (hv : g.Valid)
    (hr : Pointers.Represents p₀ g p) (parameters : List Str) (files : Dict Str Str) :
    p.handleSummaryRequest parameters files = (g.findGame parameters >>= fun found =>
      found.elim (.ok (files, 1)) fun w => (w.1.bind g.heap.read).elim (.error .undefined)
        fun game => (game.writeToFile w.2 files).map (·, 0)) := by
  have hread {game : Game} {filename : Str} : (do
      return (← game.writeToFile filename files, 0) : Except CppException (Dict Str Str × ℕ)) =
        (game.writeToFile filename files).map (·, 0) := by
    cases game.writeToFile filename files with
    | ok files => rfl
    | error x => rfl
  unfold StompProtocol.handleSummaryRequest Pointers.findGame
  simp only [bind_assoc, pure_bind]
  refine bind_congr fun gameName => bind_congr fun user => bind_congr fun filename => ?_
  have hgames := hr.games gameName user
  rw [hv.lookup_eq]
  unfold Dict.lookup₂ at hgames
  cases hpointer : g.pointer (gameName, user) with
  | none =>
    rw [hv.valid.contents_eq_none.2 hpointer] at hgames
    cases husers : p.gameToEvents.lookup gameName with
    | none => rfl
    | some users =>
      rw [husers, Option.bind_some] at hgames
      dsimp only
      rw [hgames]
      rfl
  | some a =>
    obtain ⟨game, hgame⟩ := Option.isSome_iff_exists.1 (hv.valid.live hpointer)
    rw [Heap.contents_of_pointer hpointer, hgame] at hgames
    obtain ⟨users, husers, hlookup⟩ := Option.bind_eq_some_iff.1 hgames
    rw [husers]
    dsimp only
    rw [hlookup, Option.map_some, Option.map_some, Option.elim_some, Option.bind_some, hgame,
      Option.elim_some]
    exact hread

theorem runCommand_summary {parameters : List Str}
    (h : parameters.head? = some (lit "summary")) (surroundings : Surroundings) :
    k.runCommand surroundings parameters =
      (k.protocol.handleSummaryRequest parameters k.files).map fun r =>
        { k with files := r.1 } := by
  obtain ⟨words, rfl⟩ := List.head?_eq_some_iff.1 h
  unfold KeyboardThread.runCommand vectorFront
  simp only [List.head?_cons, ok_bind_eq, lit_inj, String.reduceEq, if_false, if_true]
  cases k.protocol.handleSummaryRequest (lit "summary" :: words) k.files with
  | ok r => rfl
  | error x => rfl

/-- The file is written, and the summary has been run. -/
theorem refines_writeStep (h : c.Refines k) (hended : ¬ c.Ended)
    (hw : c.writing = some (pointer, filename)) (surroundings : Surroundings) :
    (c.writeStep pointer filename).Refines (k.keyboardStep surroundings) := by
  obtain ⟨hcin, hloop, hterminate, hcommand, hfound⟩ := h.begun pointer filename hw
  obtain ⟨gameName, user, hlookup⟩ := found_of_findGame hfound
  obtain ⟨a, rfl, hlive⟩ := live_of_lookup h.sound.valid hlookup
  obtain ⟨game, hgame⟩ := Option.isSome_iff_exists.1 hlive
  have hfiles : k.files = c.thread.files := by
    rw [h.thread]
    rfl
  have hsummary : k.readLine.protocol.handleSummaryRequest (extractParameters k.nextLine)
      k.readLine.files = (game.writeToFile filename c.thread.files).map (·, 0) := by
    have hsummary := handleSummaryRequest_eq_findGame h.sound.valid h.represents
      (extractParameters k.nextLine) k.files
    rw [hfound, ok_bind_eq, Option.elim_some, Option.bind_some, hgame, Option.elim_some,
      hfiles] at hsummary
    rw [← hsummary, ← hfiles]
    rfl
  rw [KeyboardThread.keyboardStep_of_loop (hloop.resolve_left hended) hterminate,
    runCommand_summary hcommand, hsummary]
  cases hwrite : game.writeToFile filename c.thread.files with
  | ok files =>
    rw [writeStep_ok hgame hwrite]
    refine ⟨h.valid, .of_owns (h.sound.owns hended), h.represents, ?_, fun _ => hcin,
      fun _ _ hw => by cases hw⟩
    show { k.readLine with files := files } = _
    rw [KeyboardThread.readLine, h.thread]
    rfl
  | error x =>
    rw [writeStep_error hgame hwrite]
    refine ⟨h.valid, .of_owns (h.sound.owns hended), h.represents, ?_, fun _ => hcin,
      fun _ _ hw => by cases hw⟩
    show { k.readLine with pc := .ofException x } = _
    rw [KeyboardThread.readLine, h.thread]
    rfl

/-- The threads agree outside a summary. -/
theorem refines_of_idle {games : Dict Str (Dict Str Game)} {thread : KeyboardThread}
    {g : Pointers} (ho : g.Owns) (hgames : ∀ gameName user, Dict.lookup₂ games gameName user =
      Heap.contents g.heap g.pointer (gameName, user)) :
    Refines { thread := thread, pointers := g } (thread.withGames games) where
  valid := rfl
  sound := .of_owns ho
  represents := ⟨rfl, hgames⟩
  thread := rfl
  idle _ := rfl
  begun _ _ hw := by cases hw

/-- A line is read, and the command is run, unless it is a summary of a game that is known. -/
theorem refines_startStep (h : c.Refines k) (hended : ¬ c.Ended) (hw : c.writing = none)
    (surroundings : Surroundings) :
    (c.startStep surroundings).Refines k ∨
      (c.startStep surroundings).Refines (k.keyboardStep surroundings) := by
  have ho := h.sound.owns hended
  obtain ⟨thread, g, writing, invalid⟩ := c
  obtain rfl : writing = none := hw
  obtain rfl : invalid = false := h.valid
  obtain ⟨games, rfl⟩ : ∃ games, k = thread.withGames games := by
    refine ⟨k.protocol.gameToEvents, ?_⟩
    have hthread := h.thread
    rw [← h.idle rfl] at hthread
    exact hthread
  have ho : g.Owns := ho
  have hgames : ∀ gameName user, Dict.lookup₂ games gameName user =
      Heap.contents g.heap g.pointer (gameName, user) := h.represents.games
  unfold startStep
  dsimp only
  split_ifs with hreads
  · obtain ⟨hloop, hterminate, hcommand⟩ := hreads
    have hk : (thread.withGames games).keyboardStep surroundings =
        (thread.withGames games).readLine.after
          (((thread.withGames games).protocol.handleSummaryRequest
            (extractParameters thread.nextLine) thread.files).map fun r =>
              { (thread.withGames games).readLine with files := r.1 }) := by
      rw [KeyboardThread.keyboardStep_of_loop (k := thread.withGames games) hloop hterminate]
      exact congrArg _ (runCommand_summary (k := (thread.withGames games).readLine) hcommand _)
    rw [hk, handleSummaryRequest_eq_findGame ho.valid h.represents]
    cases hfound : g.findGame (extractParameters thread.nextLine) with
    | error x => exact .inr (refines_of_idle ho hgames)
    | ok found =>
      rcases found with _ | ⟨pointer, filename⟩
      · exact .inr (refines_of_idle ho hgames)
      · refine .inl ⟨rfl, .of_owns ho, h.represents, rfl, fun hw => (by cases hw), ?_⟩
        intro pointer' filename' hwriting
        obtain ⟨rfl, rfl⟩ := Prod.mk.inj (Option.some.inj hwriting)
        exact ⟨rfl, .inr hloop, hterminate, hcommand, hfound⟩
  · rw [KeyboardThread.keyboardStep_withGames hreads]
    exact .inr (refines_of_idle ho hgames)

/-- **A step of the keyboard thread** is one step of the other, or none. -/
theorem refines_keyboardStep (h : c.Refines k) (surroundings : Surroundings) :
    (c.keyboardStep surroundings).Refines k ∨
      (c.keyboardStep surroundings).Refines (k.keyboardStep surroundings) := by
  unfold keyboardStep
  split_ifs with hended
  · exact .inl h
  rcases hw : c.writing with _ | ⟨pointer, filename⟩
  · exact refines_startStep h hended hw surroundings
  · exact .inr (refines_writeStep h hended hw surroundings)

/-- The frames that the steps deliver. -/
def framesOf (es : List KeyboardEvent) : List Str :=
  es.filterMap fun
    | .frame frame => some frame
    | _ => none

theorem refines_run {es : List KeyboardEvent} (h : c.Refines k)
    (hes : Machine.Along step KeepsSession c es) :
    ∃ es', es'.Sublist es ∧ framesOf es' = framesOf es ∧
      (Machine.run step c es).Refines (Machine.run KeyboardThread.step k es') := by
  induction es generalizing c k with
  | nil => exact ⟨[], List.Sublist.slnil, rfl, h⟩
  | cons e es ih =>
    obtain ⟨he, hes⟩ := hes
    have htake (hnext : (c.step e).Refines (k.step e)) : ∃ es', es'.Sublist (e :: es) ∧
        framesOf es' = framesOf (e :: es) ∧
        (Machine.run step c (e :: es)).Refines (Machine.run KeyboardThread.step k es') := by
      obtain ⟨es', hsub, hframes, hrun⟩ := ih hnext hes
      refine ⟨e :: es', hsub.cons_cons e, ?_, hrun⟩
      cases e with
      | keyboard surroundings => exact hframes
      | frame frame => exact congrArg (frame :: ·) hframes
      | lost => exact hframes
    cases e with
    | keyboard surroundings =>
      rcases refines_keyboardStep h surroundings with hsame | hnext
      · obtain ⟨es', hsub, hframes, hrun⟩ := ih hsame hes
        exact ⟨es', hsub.cons _, hframes, hrun⟩
      · exact htake hnext
    | frame frame => exact htake (refines_receive h frame he)
    | lost =>
      refine htake ⟨h.valid, ⟨h.sound.valid, h.sound.owns⟩, ⟨?_, h.represents.games⟩, ?_, h.idle,
        ?_⟩
      · show ({ k.protocol with handler.writable := false } : StompProtocol) = _
        rw [h.represents.fields]
        rfl
      · show ({ k with protocol.handler.writable := false } : KeyboardThread) = _
        rw [h.thread]
        rfl
      · intro pointer filename hw
        obtain ⟨hcin, hloop, hterminate, hcommand, hfound⟩ := h.begun pointer filename hw
        exact ⟨hcin, hloop, hterminate, hcommand, hfound⟩

/-- **A summary is as good as one step**, where frames do not overlap with its two steps.  While no
session ends between them, the pointers are valid, and the client does what it does when the games
are kept in the map itself and a summary is taken in one step, the one that writes the file. -/
theorem summaries_linearize (input : Str) (es : List KeyboardEvent)
    (hes : Machine.Along step KeepsSession (start input) es) :
    ∃ es', es'.Sublist es ∧ framesOf es' = framesOf es ∧
      (run input es).Refines (KeyboardThread.run input es') := by
  refine refines_run ⟨rfl, sound_start input, ⟨rfl, ?_⟩, rfl, fun _ => rfl, ?_⟩ hes
  · intro gameName user
    show Dict.lookup₂ ∅ gameName user = _
    simp [Heap.contents, Pointers.pointer, start]
  · intro _ _ hw
    cases hw

/-- A user logs in, gets a report, and asks for a summary of it. -/
def summaryInput : Str := "login h:1 bob pw\nsummary a_b eve f\n"

/-- A report of the user `eve`. -/
def reportFrame (time : Str) : Str :=
  "MESSAGE\ndestination :/a_b\n\nuser: eve\nevent name: e\ntime: " ++ time ++ "\ndescription: \nd\n"

/-- The keyboard thread goes on, with a server to connect to and no events files. -/
def typed : KeyboardEvent := .keyboard { connects := true, parseEventsFile := fun _ => none }

/-- A second report arrives after the game has been found. -/
def reportBetween : List KeyboardEvent :=
  [typed, .frame (reportFrame "1"), typed, .frame (reportFrame "2"), typed]

theorem summaries_linearize_reportBetween :
    Machine.Along step KeepsSession (start summaryInput) reportBetween ∧
      ∃ es', es'.Sublist reportBetween ∧ framesOf es' = framesOf reportBetween ∧
        (run summaryInput reportBetween).Refines (KeyboardThread.run summaryInput es') :=
  ⟨by decide +kernel, summaries_linearize summaryInput reportBetween (by decide +kernel)⟩

/-- An ERROR frame arrives instead, and the summary follows a pointer to a deleted game. -/
example : (run summaryInput [typed, .frame (reportFrame "1"), typed,
    .frame "ERROR\n\n-----\nno\n", typed]).invalid = true := by decide +kernel

/-- A report that cannot be read ends the process, and its game has no entry. -/
example : let c := run summaryInput [typed, .frame
      "MESSAGE\ndestination :/a_b\n\nuser: eve\nevent name:\n"]
    c.Ended ∧ (c.pointers.heap.read 0).isSome ∧ c.pointers.gameToEvents.keys = [] := by
  decide +kernel

end SharedGames

end WorldCupInformer.Client
