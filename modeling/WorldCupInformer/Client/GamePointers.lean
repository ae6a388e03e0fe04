import WorldCupInformer.Client.KeyboardThread
import WorldCupInformer.Client.ReceivedFrames
import WorldCupInformer.Lib.Heap
import WorldCupInformer.Lib.Results

/-!
# The games behind the pointers (`gameToEvents`)

`gameToEvents` holds pointers: `handleMessageFrame` makes a game with `new`, `logout` and
`~StompProtocol` delete what the map points to, and `handleSummaryRequest` follows a pointer in the
keyboard thread while the receiving thread may be at work.  Here the map and the heap are those of
the source; the other fields of `StompProtocol` are kept in a `StompProtocol` whose own games are
not used.

* `Pointers.Owns`, `Pointers.Represents`: the games belong to the map, which stands for a map of
  values;
* `Pointers.processFrame_agrees`: a frame does the same to both; if it throws, the game that has
  been made for a report stays behind (`Pointers.Leaves`).
-/

namespace WorldCupInformer.Client

open Results

/-- A `Game*`: the address of a block, or `nullptr`. -/
abbrev Pointer := Option ℕ

/-- How a function can fail to return. -/
inductive Fault
  /-- with an exception, and these games; one that is being parsed is as it was before -/
  | exception (x : CppException) (heap : Heap Game)
  /-- a null pointer, or a pointer to a game that has been deleted, has been followed or deleted -/
  | invalidPointer

/-- The use of a pointer, whose behaviour is undefined unless it leads to a live block. -/
def valid {α : Type} : Option α → Except Fault α
  | some x => .ok x
  | none => .error .invalidPointer

theorem valid_some {α : Type} (x : α) : valid (some x) = .ok x := rfl

/-! ### The object with other games -/

namespace StompProtocol

variable (games : Dict Str (Dict Str Game)) (p : StompProtocol)

def withGames : StompProtocol := { p with gameToEvents := games }

theorem receiptOf_withGames {command : Str} (hcommand : command ≠ "DISCONNECT") :
    (p.withGames games).receiptOf command = (p.receiptOf command).withGames games := by
  unfold receiptOf
  rw [if_neg hcommand, if_neg hcommand]
  dsimp only
  rw [apply_ite (withGames games)]
  rfl

/-- What a command returns. -/
def resultWithGames (r : StompProtocol × ℕ) : StompProtocol × ℕ := (r.1.withGames games, r.2)

theorem sendFrame_withGames (frame : Str) :
    (p.withGames games).sendFrame frame = resultWithGames games (p.sendFrame frame) := rfl

theorem handleJoinRequest_withGames (parameters : List Str) :
    (p.withGames games).handleJoinRequest parameters =
      (p.handleJoinRequest parameters).map (resultWithGames games) := by
  unfold handleJoinRequest
  rw [map_bind]
  rfl

theorem handleExitRequest_withGames (parameters : List Str) :
    (p.withGames games).handleExitRequest parameters =
      (p.handleExitRequest parameters).map (resultWithGames games) := by
  unfold handleExitRequest
  rw [map_bind]
  refine bind_congr fun gameName => ?_
  rw [apply_ite (Except.map (resultWithGames games))]
  rfl

theorem sendFrames_withGames (frames : List Str) :
    (p.withGames games).sendFrames frames = resultWithGames games (p.sendFrames frames) := by
  induction frames generalizing p with
  | nil => rfl
  | cons frame frames ih =>
    unfold sendFrames
    rw [sendFrame_withGames]
    rcases p.sendFrame frame with ⟨p', _ | _ | result⟩
    · exact ih p'
    · rfl
    · exact ih p'

theorem handleReportRequest_withGames (infoForFrames : NamesAndEvents) :
    (p.withGames games).handleReportRequest infoForFrames =
      (p.handleReportRequest infoForFrames).map (resultWithGames games) := by
  unfold handleReportRequest
  have hframes : (p.withGames games).buildSendFrames infoForFrames =
      p.buildSendFrames infoForFrames := rfl
  rw [hframes]
  dsimp only
  rw [map_bind]
  refine bind_congr fun last => ?_
  rw [sendFrames_withGames, apply_ite (Except.map (resultWithGames games))]
  rfl

theorem handleLogoutRequest_withGames :
    (p.withGames games).handleLogoutRequest = resultWithGames games p.handleLogoutRequest := by
  have hsend : ((p.withGames games).addMsg "DISCONNECT").sendFrame p.buildDisconnectFrame =
      resultWithGames games ((p.addMsg "DISCONNECT").sendFrame p.buildDisconnectFrame) := rfl
  have hframe : (p.withGames games).buildDisconnectFrame = p.buildDisconnectFrame := rfl
  unfold handleLogoutRequest
  dsimp only
  rw [hframe, hsend]
  rcases (p.addMsg "DISCONNECT").sendFrame p.buildDisconnectFrame with ⟨p', _ | _ | result⟩
  · rfl
  · rfl
  · rfl

theorem handleLoginRequest_withGames (parameters : List Str) (connects writes : Bool) :
    (p.withGames games).handleLoginRequest parameters connects writes =
      (p.handleLoginRequest parameters connects writes).map (resultWithGames games) := by
  unfold handleLoginRequest
  have hsent : (p.withGames games).sentLoginRequest = p.sentLoginRequest := rfl
  rw [hsent]
  split_ifs with hlogin
  · rfl
  simp only [map_bind]
  refine bind_congr fun hostPort => ?_
  refine bind_congr fun thisUsername => ?_
  refine bind_congr fun password => ?_
  refine bind_congr fun port => ?_
  have hsend (q : StompProtocol) (frame : Str) : (q.withGames games).setLogin.sendFrame frame =
      resultWithGames games (q.setLogin.sendFrame frame) := rfl
  cases connects with
  | false => rfl
  | true =>
    set q := ((p.setHandler (toShort port) (getline hostPort ':').1).connectToServer true writes).1
    have hconnect : ((p.withGames games).setHandler (toShort port)
        (getline hostPort ':').1).connectToServer true writes = (q.withGames games, 0) := rfl
    have hconnect' : (p.setHandler (toShort port) (getline hostPort ':').1).connectToServer true
        writes = (q, 0) := rfl
    rw [hconnect, hconnect']
    simp only [hsend]
    rcases q.setLogin.sendFrame (buildConnectFrame thisUsername password) with ⟨q', _ | _ | result⟩
    · rfl
    · rfl
    · rfl

end StompProtocol

namespace KeyboardThread

variable {games : Dict Str (Dict Str Game)} {k : KeyboardThread}

def withGames (games : Dict Str (Dict Str Game)) (k : KeyboardThread) : KeyboardThread :=
  { k with protocol := k.protocol.withGames games }

/-- A command that ends with what one of the handlers returns. -/
theorem bind_withGames (x : Except CppException (StompProtocol × ℕ)) :
    (x.map (StompProtocol.resultWithGames games) >>= fun r =>
        Except.ok { k.withGames games with protocol := r.1 }) =
      (x >>= fun r => Except.ok { k with protocol := r.1 }).map (withGames games) := by
  cases x with
  | error x => rfl
  | ok r => rfl

/-- **Only `summary` looks at the games.** -/
theorem runCommand_withGames {surroundings : Surroundings} {parameters : List Str}
    (hsummary : parameters.head? ≠ some (lit "summary")) :
    (k.withGames games).runCommand surroundings parameters =
      (k.runCommand surroundings parameters).map (withGames games) := by
  unfold runCommand
  rw [map_bind]
  cases parameters with
  | nil => rfl
  | cons command words =>
    have hcommand : command ≠ lit "summary" := fun heq => hsummary (by rw [heq]; rfl)
    show (if _ then _ else _) = Except.map _ (if _ then _ else _)
    split_ifs
    · rfl
    · show (StompProtocol.withGames games k.protocol).handleLoginRequest _ _ _ >>= _ = _
      rw [StompProtocol.handleLoginRequest_withGames]
      exact bind_withGames _
    · show (StompProtocol.withGames games k.protocol).handleJoinRequest _ >>= _ = _
      rw [StompProtocol.handleJoinRequest_withGames]
      exact bind_withGames _
    · show (StompProtocol.withGames games k.protocol).handleExitRequest _ >>= _ = _
      rw [StompProtocol.handleExitRequest_withGames]
      exact bind_withGames _
    · rw [map_bind]
      refine bind_congr fun filePath => ?_
      cases surroundings.parseEventsFile filePath with
      | none => rfl
      | some infoForFrames =>
        show (StompProtocol.withGames games k.protocol).handleReportRequest _ >>= _ = _
        rw [StompProtocol.handleReportRequest_withGames]
        exact bind_withGames _
    · show Except.ok { k.withGames games with
          protocol := (StompProtocol.withGames games k.protocol).handleLogoutRequest.1
          pc := .poll } = _
      rw [StompProtocol.handleLogoutRequest_withGames]
      rfl
    · rfl

/-- The keyboard thread is about to run a `summary`. -/
def ReadsSummary (k : KeyboardThread) : Prop :=
  k.pc = .loop ∧ k.terminate = false ∧ (extractParameters k.nextLine).head? = some (lit "summary")

instance (k : KeyboardThread) : Decidable k.ReadsSummary :=
  inferInstanceAs (Decidable (_ ∧ _ ∧ _))

/-- The thread after a command that returns, or throws. -/
def after (k : KeyboardThread) : Except CppException KeyboardThread → KeyboardThread
  | .ok k' => k'
  | .error x => { k with pc := .ofException x }

/-- The line has been read. -/
def readLine (k : KeyboardThread) : KeyboardThread := { k with cin := (k.cin.getline 1024).2 }

theorem keyboardStep_of_loop (hloop : k.pc = .loop) (hterminate : k.terminate = false)
    (surroundings : Surroundings) : k.keyboardStep surroundings =
      k.readLine.after (k.readLine.runCommand surroundings (extractParameters k.nextLine)) := by
  obtain ⟨cin, protocol, terminate, files, pc⟩ := k
  obtain rfl : pc = .loop := hloop
  obtain rfl : terminate = false := hterminate
  rfl

theorem after_withGames (k : KeyboardThread) (r : Except CppException KeyboardThread) :
    (k.withGames games).after (r.map (withGames games)) = (k.after r).withGames games := by
  cases r with
  | ok k' => rfl
  | error x => rfl

theorem keyboardStep_withGames (h : ¬ k.ReadsSummary) (surroundings : Surroundings) :
    (k.withGames games).keyboardStep surroundings =
      (k.keyboardStep surroundings).withGames games := by
  by_cases hreads : k.pc = .loop ∧ k.terminate = false
  · obtain ⟨hloop, hterminate⟩ := hreads
    have hsummary : (extractParameters k.nextLine).head? ≠ some (lit "summary") :=
      fun heq => h ⟨hloop, hterminate, heq⟩
    have hgames : (k.withGames games).pc = .loop := hloop
    rw [keyboardStep_of_loop hloop hterminate, keyboardStep_of_loop hgames hterminate,
      ← after_withGames, ← runCommand_withGames hsummary]
    rfl
  · obtain ⟨cin, protocol, terminate, files, pc⟩ := k
    cases pc with
    | loop =>
      obtain rfl : terminate = true := by simpa using hreads
      rfl
    | poll =>
      unfold keyboardStep
      dsimp only
      rw [apply_ite (withGames games)]
      rfl
    | returned => rfl
    | threw => rfl
    | outside => rfl

end KeyboardThread

/-- The field `gameToEvents`, and the heap it points into. -/
structure Pointers where
  gameToEvents : Dict Str (Dict Str Pointer) := ∅
  heap : Heap Game := {}

namespace Pointers

/-- If this throws, the games are as they are. -/
abbrev orThrow {α : Type} (g : Pointers) : Except CppException α → Except Fault α :=
  thrown (.exception · g.heap)

/-- `if (user.second != nullptr) delete user.second`. -/
def deleteGame (heap : Heap Game) : Pointer → Except Fault (Heap Game)
  | some a => valid (heap.free a)
  | none => return heap

/-- The loops over `gameToEvents` in `logout` and `~StompProtocol`. -/
def deleteGames (g : Pointers) : Except Fault Pointers := do
  return { gameToEvents := ∅, heap := ← (Dict.values₂ g.gameToEvents).foldlM deleteGame g.heap }

/-- The game a report is read into, `current`: the one of the entry, or a new one. -/
def currentGame (g : Pointers) (gameName user : Str) (fresh : Game) : Pointer × Heap Game :=
  match Dict.lookup₂ g.gameToEvents gameName user with
  | some pointer => (pointer, g.heap)
  | none => (g.heap.address, g.heap.alloc fresh)

/-- `handleMessageFrame`. -/
def handleMessageFrame (g : Pointers) (header body : Str) : Except Fault Pointers := do
  let destination ← g.orThrow (substr header (find header "destination :/" + 14) npos)
  let destination ← g.orThrow (substr destination 0 (find destination "\n"))
  let user ← g.orThrow (substr body (find body "user: " + 6) npos)
  let user ← g.orThrow (substr user 0 (find user "\n"))
  let teamA ← g.orThrow (substr destination 0 (find destination "_"))
  let teamB ← g.orThrow (substr destination (find destination "_" + 1) npos)
  let gameName := teamA ++ "_" ++ teamB
  let fresh : Game := { teamAname := teamA, teamBname := teamB }
  let (current, heap) := g.currentGame gameName user fresh
  -- `current->parseFrame(body)`
  let a ← valid current
  let game ← valid (heap.read a)
  let game ← thrown (.exception · heap) (game.parseFrame body)
  return { gameToEvents := Dict.put₂ g.gameToEvents gameName user current
           heap := ← valid (heap.write a game) }

/-- The pointer `handleSummaryRequest` finds, and the name of the file. -/
def findGame (g : Pointers) (parameters : List Str) :
    Except CppException (Option (Pointer × Str)) := do
  let gameName ← vectorAt parameters 1
  let user ← vectorAt parameters 2
  let filename ← vectorAt parameters 3
  return (Dict.lookup₂ g.gameToEvents gameName user).map (·, filename)

/-- `gameToEvents[gameName][user]->writeToFile(filename)`. -/
def writeGame (g : Pointers) (pointer : Pointer) (filename : Str) (files : Dict Str Str) :
    Except Fault (Dict Str Str) := do
  let game ← valid (g.heap.read (← valid pointer))
  g.orThrow (game.writeToFile filename files)

/-- `logout`. -/
def logout (p : StompProtocol) (g : Pointers) : Except Fault (StompProtocol × Pointers) := do
  return (p.logout, ← g.deleteGames)

/-- `handleErrorFrame`. -/
def handleErrorFrame (p : StompProtocol) (g : Pointers) (body : Str) :
    Except Fault (StompProtocol × Pointers) := do
  let _ ← g.orThrow (StompProtocol.errorMessage body)
  logout p g

/-- `handleReceiptFrame`. -/
def handleReceiptFrame (p : StompProtocol) (g : Pointers) (header : Str) :
    Except Fault (StompProtocol × Pointers) := do
  let receiptId ← g.orThrow (substr header (find header "receipt - id :" + 14) npos)
  -- `operator[]` of a map
  let p := { p with receiptToMsg := p.receiptToMsg.insertNew receiptId [] }
  let command := (p.receiptToMsg.lookup receiptId).getD []
  if command = lit "DISCONNECT" then logout p g else return (p.receiptOf command, g)

/-- `processFrame`. -/
def processFrame (p : StompProtocol) (g : Pointers) (frame : Str) :
    Except Fault (StompProtocol × Pointers) := do
  let command ← g.orThrow (substr frame 0 (find frame "\n"))
  let frame ← g.orThrow (substr frame (find frame "\n" + 1) npos)
  let header ← g.orThrow (substr frame 0 (find frame "\n\n"))
  let bodyStart := find frame "\n\n" + 2
  let body ← g.orThrow (if bodyStart < frame.length then substr frame bodyStart npos
    else pure [])
  let (p, g) ← (if command = "ERROR" then handleErrorFrame p g body else pure (p, g))
  let (p, g) ← (if command = "RECEIPT" then handleReceiptFrame p g header else pure (p, g))
  if command = "MESSAGE" then return (p, ← g.handleMessageFrame header body) else return (p, g)

/-! ### What the pointers lead to -/

variable {p p₀ : StompProtocol} {g g' : Pointers}

/-- The entries of `gameToEvents`. -/
def pointer (g : Pointers) (key : Str × Str) : Option ℕ :=
  (Dict.lookup₂ g.gameToEvents key.1 key.2).join

/-- No entry of `gameToEvents` is null, and every entry leads to a game of its own. -/
structure Valid (g : Pointers) : Prop where
  notNull : ∀ gameName user, Dict.lookup₂ g.gameToEvents gameName user ≠ some none
  valid : Heap.Valid g.heap g.pointer

/-- Moreover every game has an entry. -/
structure Owns (g : Pointers) : Prop where
  notNull : ∀ gameName user, Dict.lookup₂ g.gameToEvents gameName user ≠ some none
  owned : Heap.Owned g.heap g.pointer

theorem Owns.valid (h : Owns g) : g.Valid := ⟨h.notNull, h.owned.toValid⟩

/-- The games of `p` are those that the pointers lead to, and its other fields are those of `p₀`. -/
structure Represents (p₀ : StompProtocol) (g : Pointers) (p : StompProtocol) : Prop where
  fields : p = p₀.withGames p.gameToEvents
  games : ∀ gameName user, Dict.lookup₂ p.gameToEvents gameName user =
    Heap.contents g.heap g.pointer (gameName, user)

theorem Valid.lookup_eq (h : Valid g) (gameName user : Str) :
    Dict.lookup₂ g.gameToEvents gameName user = (g.pointer (gameName, user)).map some := by
  have hnotNull := h.notNull gameName user
  unfold pointer
  dsimp only
  rcases hlookup : Dict.lookup₂ g.gameToEvents gameName user with _ | _ | a
  · rfl
  · exact absurd hlookup hnotNull
  · rfl

/-- The map of values that the pointers stand for. -/
theorem Valid.exists_represents (h : Valid g) (p₀ : StompProtocol) : ∃ p, Represents p₀ g p := by
  let value (pointer : Pointer) : Game :=
    (pointer.bind g.heap.read).getD { teamAname := [], teamBname := [] }
  refine ⟨p₀.withGames (Dict.mapValues (Dict.mapValues value) g.gameToEvents), rfl, ?_⟩
  intro gameName user
  show Dict.lookup₂ (Dict.mapValues (Dict.mapValues value) g.gameToEvents) gameName user = _
  rw [Dict.lookup₂_mapValues, h.lookup_eq]
  cases hpointer : g.pointer (gameName, user) with
  | none => simp [Heap.contents, hpointer]
  | some a =>
    obtain ⟨game, hgame⟩ := Option.isSome_iff_exists.1 (h.valid.live hpointer)
    rw [Heap.contents_of_pointer hpointer, hgame]
    simp [value, hgame]

theorem owns_empty : Owns {} where
  notNull := by simp
  owned := by
    have hnone : pointer {} = fun _ => none := by
      funext key
      simp [pointer]
    rw [hnone]
    exact Heap.Owned.empty

/-- The pointers after `gameToEvents[gameName][user] = current`. -/
theorem pointer_put (g : Pointers) (gameName user : Str) (a : ℕ) (heap : Heap Game) :
    pointer { gameToEvents := Dict.put₂ g.gameToEvents gameName user (some a), heap := heap } =
      Function.update g.pointer (gameName, user) (some a) := by
  funext key
  rw [pointer, Dict.lookup₂_put₂, Function.update_apply, pointer]
  by_cases hkey : key = (gameName, user)
  · simp [hkey]
  · have hne : ¬ (key.1 = gameName ∧ key.2 = user) := fun h => hkey (Prod.ext h.1 h.2)
    rw [if_neg hne, if_neg hkey]

theorem notNull_put (h : Valid g) (gameName user : Str) (a : ℕ) (gameName' user' : Str) :
    Dict.lookup₂ (Dict.put₂ g.gameToEvents gameName user (some a)) gameName' user' ≠ some none := by
  rw [Dict.lookup₂_put₂]
  split_ifs
  · simp
  · exact h.notNull _ _

/-! ### Deleting the games -/

theorem foldlM_deleteGame (heap : Heap Game) (as : List ℕ) :
    (as.map some).foldlM deleteGame heap = valid (heap.freeAll as) := by
  induction as generalizing heap with
  | nil => rfl
  | cons a as ih =>
    rw [List.map_cons, List.foldlM_cons, Heap.freeAll, List.foldlM_cons]
    cases hfree : heap.free a with
    | none => simp [deleteGame, hfree, valid, bind, Except.bind]
    | some heap =>
      simp only [deleteGame, hfree, valid]
      exact ih heap

/-- **Every game is deleted once, and none is left.** -/
theorem Owns.deleteGames (h : Owns g) : ∃ heap, g.deleteGames = .ok { heap := heap } ∧
    ∀ a, heap.read a = none := by
  have hsome : ∀ pointer ∈ Dict.values₂ g.gameToEvents, pointer ∈ Set.range some := by
    intro pointer hmem
    obtain ⟨gameName, user, hlookup⟩ := Dict.mem_values₂.1 hmem
    cases pointer with
    | none => exact absurd hlookup (h.notNull gameName user)
    | some a => exact ⟨a, rfl⟩
  obtain ⟨as, has⟩ : Dict.values₂ g.gameToEvents ∈ Set.range (List.map some) := by
    rw [Set.range_list_map]
    exact hsome
  have hall (a : ℕ) : a ∈ as ↔ ∃ key, g.pointer key = some a := by
    rw [← List.mem_map_of_injective (Option.some_injective ℕ), has, Dict.mem_values₂, Prod.exists]
    simp only [pointer, Option.join_eq_some_iff]
  have hnodup : as.Nodup := by
    refine List.Nodup.of_map some ?_
    rw [has]
    refine Dict.nodup_values₂ fun {gameName user gameName' user' pointer} h₁ h₂ => ?_
    obtain ⟨a, rfl⟩ := hsome pointer (Dict.mem_values₂.2 ⟨_, _, h₁⟩)
    have hkey : (gameName, user) = (gameName', user') :=
      h.owned.injective (a := a) (by simp [Pointers.pointer, h₁]) (by simp [Pointers.pointer, h₂])
    exact Prod.mk.inj hkey
  obtain ⟨heap, hfree, hread⟩ := h.owned.freeAll hnodup hall
  refine ⟨heap, ?_, hread⟩
  rw [Pointers.deleteGames, ← has, foldlM_deleteGame, hfree]
  rfl

/-! ### A report -/

/-- What is left when handling a frame throws: the games, and the one that has been made for the
report. -/
def Leaves (g : Pointers) (fault : Fault) (x : CppException) : Prop :=
  ∃ heap, fault = .exception x heap ∧ (heap = g.heap ∨ ∃ game, heap = g.heap.alloc game)

theorem leaves_exception (g : Pointers) (x : CppException) : g.Leaves (.exception x g.heap) x :=
  ⟨g.heap, rfl, .inl rfl⟩

/-- The block of `current`: that of the entry afterwards. -/
theorem currentGame_spec (ho : Owns g) (hr : Represents p₀ g p) (gameName user : Str)
    (fresh : Game) : ∃ a heap, g.currentGame gameName user fresh = (some a, heap) ∧
      (heap = g.heap ∨ ∃ game, heap = g.heap.alloc game) ∧
      heap.read a = some ((Dict.lookup₂ p.gameToEvents gameName user).getD fresh) ∧
      Heap.Owned heap (Function.update g.pointer (gameName, user) (some a)) ∧
      ∀ key ≠ (gameName, user), Heap.contents heap (Function.update g.pointer (gameName, user)
        (some a)) key = Heap.contents g.heap g.pointer key := by
  have hlookup := ho.valid.lookup_eq gameName user
  unfold currentGame
  rw [hr.games, hlookup]
  cases hpointer : g.pointer (gameName, user) with
  | none =>
    refine ⟨g.heap.address, g.heap.alloc fresh, rfl, .inr ⟨fresh, rfl⟩, ?_,
      ho.owned.alloc hpointer fresh, ?_⟩
    · rw [Heap.read_alloc, if_pos rfl, ho.owned.contents_eq_none.2 hpointer, Option.getD_none]
    · intro key hkey
      rw [ho.owned.contents_alloc, Function.update_of_ne hkey]
  | some a =>
    have hself : Function.update g.pointer (gameName, user) (some a) = g.pointer := by
      rw [← hpointer, Function.update_eq_self]
    obtain ⟨game, hgame⟩ := Option.isSome_iff_exists.1 (ho.owned.live hpointer)
    refine ⟨a, g.heap, rfl, .inl rfl, ?_, ?_, fun key _ => by rw [hself]⟩
    · rw [Heap.contents_of_pointer hpointer, hgame, Option.getD_some]
    · rw [hself]
      exact ho.owned

/-- **A report is read into the game that the map of values has.** -/
theorem handleMessageFrame_agrees (ho : Owns g) (hr : Represents p₀ g p) (header body : Str) :
    Agrees g.Leaves (fun g' p' => Owns g' ∧ Represents p₀ g' p')
      (g.handleMessageFrame header body) (p.handleMessageFrame header body) := by
  unfold handleMessageFrame StompProtocol.handleMessageFrame
  refine Agrees.thrown_bind g.leaves_exception _ fun destination => ?_
  refine Agrees.thrown_bind g.leaves_exception _ fun destination => ?_
  refine Agrees.thrown_bind g.leaves_exception _ fun user => ?_
  refine Agrees.thrown_bind g.leaves_exception _ fun user => ?_
  refine Agrees.thrown_bind g.leaves_exception _ fun teamA => ?_
  refine Agrees.thrown_bind g.leaves_exception _ fun teamB => ?_
  dsimp only
  obtain ⟨a, heap, hcurrent, hleft, hread, howned, hframe⟩ := currentGame_spec ho hr
    (teamA ++ "_" ++ teamB) user { teamAname := teamA, teamBname := teamB }
  set gameName : Str := teamA ++ "_" ++ teamB
  rw [hcurrent]
  dsimp only
  rw [valid_some, ok_bind_eq, hread, valid_some, ok_bind_eq]
  refine Agrees.thrown_bind (fun x => ⟨heap, rfl, hleft⟩) _ fun game => ?_
  obtain ⟨heap', hwrite⟩ := Heap.exists_write (h := heap) (a := a) (by rw [hread]; rfl) game
  rw [hwrite, valid_some, ok_bind_eq]
  refine .ok ⟨⟨notNull_put ho.valid gameName user a, ?_⟩, ?_, ?_⟩
  · rw [pointer_put]
    exact howned.write hwrite
  · rw [hr.fields]
    rfl
  · intro gameName' user'
    rw [pointer_put, howned.contents_write (Function.update_self ..) hwrite, Dict.lookup₂_put₂,
      Function.update_apply]
    by_cases hkey : (gameName', user') = (gameName, user)
    · rw [if_pos hkey, if_pos (Prod.mk.inj hkey)]
    · rw [if_neg hkey, if_neg fun h => hkey (Prod.ext h.1 h.2), hframe _ hkey, hr.games]

/-! ### The other frames -/

/-- The fields of the object and the games together. -/
def Abstracts (q : StompProtocol × Pointers) (p : StompProtocol) : Prop :=
  Owns q.2 ∧ Represents q.1 q.2 p

theorem logout_agrees (ho : Owns g) (hr : Represents p₀ g p) {E : Fault → CppException → Prop} :
    Agrees E Abstracts (logout p₀ g) (.ok p.logout) := by
  obtain ⟨heap, hdelete, hread⟩ := ho.deleteGames
  have hnone : pointer { heap := heap } = fun _ => none := by
    funext key
    simp [pointer]
  rw [logout, hdelete]
  refine .ok ⟨⟨by simp, ?_⟩, ?_, ?_⟩
  · rw [hnone]
    exact ⟨⟨by simp, by simp⟩, fun ha => by simp [hread] at ha⟩
  · rw [hr.fields]
    rfl
  · intro gameName user
    show Dict.lookup₂ ∅ gameName user = _
    rw [hnone, Dict.lookup₂_empty]
    rfl

theorem handleErrorFrame_agrees (ho : Owns g) (hr : Represents p₀ g p) (body : Str) :
    Agrees g.Leaves Abstracts (handleErrorFrame p₀ g body) (p.handleErrorFrame body) := by
  unfold handleErrorFrame StompProtocol.handleErrorFrame
  exact Agrees.thrown_bind g.leaves_exception _ fun _ => logout_agrees ho hr

theorem handleReceiptFrame_agrees (ho : Owns g) (hr : Represents p₀ g p) (header : Str) :
    Agrees g.Leaves Abstracts (handleReceiptFrame p₀ g header) (p.handleReceiptFrame header) := by
  unfold handleReceiptFrame StompProtocol.handleReceiptFrame
  refine Agrees.thrown_bind g.leaves_exception _ fun receiptId => ?_
  have hreceipts : p.receiptToMsg = p₀.receiptToMsg := by
    rw [hr.fields]
    rfl
  dsimp only
  rw [hreceipts]
  set receipts := p₀.receiptToMsg.insertNew receiptId []
  have hr' : Represents { p₀ with receiptToMsg := receipts } g
      { p with receiptToMsg := receipts } :=
    ⟨by rw [hr.fields]; rfl, hr.games⟩
  split_ifs with hcommand
  · rw [hcommand]
    exact logout_agrees ho hr'
  · have hp : ({ p with receiptToMsg := receipts } : StompProtocol) =
        StompProtocol.withGames p.gameToEvents { p₀ with receiptToMsg := receipts } := by
      rw [hr.fields]
      rfl
    rw [hp, StompProtocol.receiptOf_withGames _ _ hcommand]
    exact .ok ⟨ho, rfl, hr.games⟩

/-- **A frame does the same to the pointers as to the map of values.** -/
theorem processFrame_agrees (ho : Owns g) (hr : Represents p₀ g p) (frame : Str) :
    Agrees g.Leaves Abstracts (processFrame p₀ g frame) (p.processFrame frame) := by
  unfold processFrame StompProtocol.processFrame
  refine Agrees.thrown_bind g.leaves_exception _ fun command => ?_
  refine Agrees.thrown_bind g.leaves_exception _ fun frame => ?_
  refine Agrees.thrown_bind g.leaves_exception _ fun header => ?_
  refine Agrees.thrown_bind g.leaves_exception _ fun body => ?_
  -- only one of the three handlers is called
  by_cases herror : command = "ERROR"
  · subst herror
    simp only [lit_inj, String.reduceEq, if_true, if_false, pure_bind]
    exact (handleErrorFrame_agrees ho hr body).bind fun q p' h => .ok h
  · simp only [herror, if_false, pure_bind]
    by_cases hreceipt : command = "RECEIPT"
    · subst hreceipt
      simp only [lit_inj, String.reduceEq, if_true, if_false]
      exact (handleReceiptFrame_agrees ho hr header).bind fun q p' h => .ok h
    · simp only [hreceipt, if_false, pure_bind]
      split_ifs
      · rw [← bind_pure (p.handleMessageFrame header body)]
        exact (handleMessageFrame_agrees ho hr header body).bind fun g' p' h => .ok h
      · exact .ok ⟨ho, hr⟩

/-! ### What a frame does to the pointers -/

/-- Every entry of the map is still there. -/
def Keeps (g g' : Pointers) : Prop :=
  ∀ gameName user pointer, Dict.lookup₂ g.gameToEvents gameName user = some pointer →
    Dict.lookup₂ g'.gameToEvents gameName user = some pointer

/-- There is no game, and no entry. -/
structure Emptied (g : Pointers) : Prop where
  entries : g.gameToEvents = ∅
  blocks : ∀ a, g.heap.read a = none

theorem handleMessageFrame_keeps {header body : Str}
    (h : g.handleMessageFrame header body = .ok g') : Keeps g g' := by
  unfold handleMessageFrame at h
  simp only [bind_eq_ok] at h
  obtain ⟨_, -, _, -, _, -, user, -, teamA, -, teamB, -, a, hcurrent, _, -, _, -, heap, -, h⟩ := h
  obtain rfl := Except.ok.inj h
  intro gameName user' pointer hlookup
  dsimp only
  rw [Dict.lookup₂_put₂]
  split_ifs with hkey
  · obtain ⟨rfl, rfl⟩ := hkey
    have hfound : (g.currentGame (teamA ++ "_" ++ teamB) user'
        { teamAname := teamA, teamBname := teamB }).1 = pointer := by
      unfold currentGame
      rw [hlookup]
    rw [hfound]
  · exact hlookup

theorem handler_receiptOf {command : Str} (hcommand : command ≠ "DISCONNECT") :
    (p.receiptOf command).handler = p.handler := by
  unfold StompProtocol.receiptOf
  rw [if_neg hcommand]
  dsimp only
  split_ifs
  · rfl
  · rfl

/-- **A frame closes the connection and deletes every game, or does neither.** -/
theorem processFrame_cases (ho : Owns g) {frame : Str} {p' : StompProtocol}
    (h : processFrame p g frame = .ok (p', g')) :
    p'.handler = p.handler ∧ Keeps g g' ∨ p'.handler.connected = false ∧ Emptied g' := by
  have hlogout {p p' : StompProtocol} {g' : Pointers} (h : logout p g = .ok (p', g')) :
      p'.handler.connected = false ∧ Emptied g' := by
    obtain ⟨heap, hdelete, hread⟩ := ho.deleteGames
    rw [logout, hdelete] at h
    obtain ⟨rfl, rfl⟩ := Prod.mk.inj (Except.ok.inj h)
    exact ⟨rfl, rfl, hread⟩
  have hsame : p.handler = p.handler ∧ Keeps g g := ⟨rfl, fun _ _ _ h => h⟩
  unfold processFrame at h
  simp only [bind_eq_ok, Prod.exists] at h
  obtain ⟨command, -, rest, -, header, -, body, -, p₁, g₁, h₁, p₂, g₂, h₂, h₃⟩ := h
  by_cases herror : command = "ERROR"
  · subst herror
    simp only [lit_inj, String.reduceEq, if_true, if_false] at h₁ h₂ h₃
    obtain ⟨message, -, hend⟩ := bind_eq_ok.1 h₁
    obtain ⟨rfl, rfl⟩ := Prod.mk.inj (Except.ok.inj h₂)
    obtain ⟨rfl, rfl⟩ := Prod.mk.inj (Except.ok.inj h₃)
    exact .inr (hlogout hend)
  · rw [if_neg herror] at h₁
    obtain ⟨rfl, rfl⟩ := Prod.mk.inj (Except.ok.inj h₁)
    by_cases hreceipt : command = "RECEIPT"
    · subst hreceipt
      simp only [lit_inj, String.reduceEq, if_true, if_false] at h₂ h₃
      obtain ⟨rfl, rfl⟩ := Prod.mk.inj (Except.ok.inj h₃)
      obtain ⟨receiptId, -, hreceipt⟩ := bind_eq_ok.1 h₂
      dsimp only at hreceipt
      split_ifs at hreceipt with hcommand
      · exact .inr (hlogout hreceipt)
      · obtain ⟨rfl, rfl⟩ := Prod.mk.inj (Except.ok.inj hreceipt)
        exact .inl ⟨handler_receiptOf hcommand, hsame.2⟩
    · rw [if_neg hreceipt] at h₂
      obtain ⟨rfl, rfl⟩ := Prod.mk.inj (Except.ok.inj h₂)
      split_ifs at h₃
      · obtain ⟨g'', hmessage, h₃⟩ := bind_eq_ok.1 h₃
        obtain ⟨rfl, rfl⟩ := Prod.mk.inj (Except.ok.inj h₃)
        exact .inl ⟨rfl, handleMessageFrame_keeps hmessage⟩
      · obtain ⟨rfl, rfl⟩ := Prod.mk.inj (Except.ok.inj h₃)
        exact .inl hsame

/-- **A frame leads to no invalid pointer**, and leaves games that belong to the map, unless it
throws. -/
theorem Owns.processFrame (ho : Owns g) (p : StompProtocol) (frame : Str) :
    (∃ p' g', Pointers.processFrame p g frame = .ok (p', g') ∧ Owns g') ∨
    ∃ fault x, Pointers.processFrame p g frame = .error fault ∧ g.Leaves fault x := by
  obtain ⟨q, hr⟩ := ho.valid.exists_represents p
  have hagrees := processFrame_agrees ho hr frame
  cases hframe : Pointers.processFrame p g frame with
  | ok r =>
    rw [hframe] at hagrees
    obtain ⟨q', -, hq'⟩ := hagrees.exists_of_eq_ok
    exact .inl ⟨r.1, r.2, rfl, hq'.1⟩
  | error fault =>
    rw [hframe] at hagrees
    obtain ⟨x, -, hleaves⟩ := hagrees.exists_of_eq_error
    exact .inr ⟨fault, x, rfl, hleaves⟩

/-- The games that are left still have their entries. -/
theorem Valid.of_leaves (hv : Valid g) {heap : Heap Game}
    (h : heap = g.heap ∨ ∃ game, heap = g.heap.alloc game) : Valid { g with heap := heap } := by
  refine ⟨hv.notNull, ?_⟩
  rcases h with rfl | ⟨game, rfl⟩
  · exact hv.valid
  · exact hv.valid.alloc game

theorem live_of_leaves {heap : Heap Game}
    (h : heap = g.heap ∨ ∃ game, heap = g.heap.alloc game) {a : ℕ}
    (ha : (g.heap.read a).isSome) : (heap.read a).isSome := by
  rcases h with rfl | ⟨game, rfl⟩
  · exact ha
  · rwa [Heap.read_alloc, if_neg (Heap.lt_address ha).ne]

theorem Represents.of_leaves (hr : Represents p₀ g p) (hv : Valid g) {heap : Heap Game}
    (h : heap = g.heap ∨ ∃ game, heap = g.heap.alloc game) :
    Represents p₀ { g with heap := heap } p := by
  refine ⟨hr.fields, fun gameName user => ?_⟩
  rcases h with rfl | ⟨game, rfl⟩
  · exact hr.games gameName user
  · rw [hr.games]
    exact (congrFun (hv.valid.contents_alloc_none game) _).symm

end Pointers

end WorldCupInformer.Client
