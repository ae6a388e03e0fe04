import WorldCupInformer.Client.Game

/-!
# The client's protocol object (`StompProtocol`, `ConnectionHandler`)

The state of the client is shared by its two threads: the keyboard thread runs the commands, the
receiving thread handles the frames.  Every method is a function of the state.  Of what goes to the
screen only the text of an ERROR frame is kept (`errorMessage`).
-/

namespace WorldCupInformer.Client

/-- The fields of `ConnectionHandler`, and its socket: whether a write to it succeeds, and what
has been written. -/
structure ConnectionHandler where
  host : Str := []
  port : ℤ := -1
  connected : Bool := false
  writable : Bool := false
  written : Str := []

namespace ConnectionHandler

/-- `sendFrameAscii`: the frame, then the delimiter. -/
def sendFrameAscii (handler : ConnectionHandler) (frame : Str) (delimiter : Char) :
    ConnectionHandler × Bool :=
  if handler.writable then
    ({ handler with written := handler.written ++ frame ++ [delimiter] }, true)
  else (handler, false)

/-- `close`. -/
def close (handler : ConnectionHandler) : ConnectionHandler := { handler with writable := false }

/-- `reset`. -/
def reset (handler : ConnectionHandler) : ConnectionHandler :=
  { handler with host := [], port := -1, connected := false }

end ConnectionHandler

/-- The fields of `StompProtocol`; `subscriptionID` is an `int` that no session counts beyond
`2 ^ 31`. -/
structure StompProtocol where
  handler : ConnectionHandler := {}
  gameToEvents : Dict Str (Dict Str Game) := ∅
  receiptToMsg : Dict Str Str := ∅
  gameToSubID : Dict Str Str := ∅
  waitingForDisconnect : Bool := false
  sentLoginRequest : Bool := false
  subscriptionID : ℕ := 0
  username : Str := []

namespace StompProtocol

/-- `addSubscription`.  `insert` keeps the entry of a game that has one. -/
def addSubscription (p : StompProtocol) (gameName : Str) : StompProtocol :=
  { p with
    gameToSubID := p.gameToSubID.insertNew gameName (lit "*" ++ natToString p.subscriptionID)
    subscriptionID := p.subscriptionID + 1 }

/-- `addMsg`. -/
def addMsg (p : StompProtocol) (msg : Str) : StompProtocol :=
  let index := natToString (Dict.size p.receiptToMsg)
  { p with receiptToMsg := p.receiptToMsg.insertNew index msg }

/-- `logout`. -/
def logout (p : StompProtocol) : StompProtocol :=
  { p with
    handler := p.handler.close.reset
    gameToEvents := ∅
    receiptToMsg := ∅
    gameToSubID := ∅
    waitingForDisconnect := false
    sentLoginRequest := false
    subscriptionID := 0
    username := [] }

/-- `confirmSub`. -/
def confirmSub (p : StompProtocol) (gameName : Str) : StompProtocol :=
  let subID := (p.gameToSubID.lookup gameName).getD []
  { p with gameToSubID := p.gameToSubID.insert gameName (subID.drop 1) }

/-- `unsubscribe`. -/
def unsubscribe (p : StompProtocol) (gameName : Str) : StompProtocol :=
  { p with gameToSubID := p.gameToSubID.erase gameName }

/-- `setWaitingForDisconnect`. -/
def setWaitingForDisconnect (p : StompProtocol) : StompProtocol :=
  { p with waitingForDisconnect := true }

/-- `sendFrame`: 0 when the frame was sent. -/
def sendFrame (p : StompProtocol) (frame : Str) : StompProtocol × ℕ :=
  let sent := p.handler.sendFrameAscii frame '\x00'
  ({ p with handler := sent.1 }, if sent.2 then 0 else 1)

/-- `checkSub`: the game has a subscription that is not marked. -/
def checkSub (p : StompProtocol) (gameName : Str) : Bool :=
  match p.gameToSubID.lookup gameName with
  | some subID => subID.head? ≠ some '*'
  | none => false

/-- `getSubId`. -/
def getSubId (p : StompProtocol) : Str := natToString p.subscriptionID

/-- `getReceiptID`. -/
def getReceiptID (p : StompProtocol) : Str := natToString (Dict.size p.receiptToMsg)

/-- `getSubByGame`. -/
def getSubByGame (p : StompProtocol) (gameName : Str) : Str :=
  (p.gameToSubID.lookup gameName).getD []

/-! ### Commands -/

/-- `buildSubscribeFrame`. -/
def buildSubscribeFrame (p : StompProtocol) (gameName : Str) : Str :=
  "SUBSCRIBE\n" ++ "destination :/" ++ gameName ++ "\n" ++ "id :" ++ p.getSubId ++ "\n" ++
    "receipt :" ++ p.getReceiptID ++ "\n\n"

/-- `handleJoinRequest`. -/
def handleJoinRequest (p : StompProtocol) (parameters : List Str) :
    Except CppException (StompProtocol × ℕ) := do
  let gameName ← vectorAt parameters 1
  let subFrame := p.buildSubscribeFrame gameName
  return ((p.addSubscription gameName).addMsg gameName).sendFrame subFrame

/-- `buildUnsubscribeFrame`. -/
def buildUnsubscribeFrame (p : StompProtocol) (gameName : Str) : Str :=
  "UNSUBSCRIBE\n" ++ "id :" ++ p.getSubByGame gameName ++ "\n" ++
    "receipt :" ++ p.getReceiptID ++ "\n\n"

/-- `handleExitRequest`. -/
def handleExitRequest (p : StompProtocol) (parameters : List Str) :
    Except CppException (StompProtocol × ℕ) := do
  let gameName ← vectorAt parameters 1
  if p.getSubByGame gameName = "" then return (p, 1)
  let unsubFrame := p.buildUnsubscribeFrame gameName
  return (p.addMsg gameName).sendFrame unsubFrame

/-- `buildDisconnectFrame`. -/
def buildDisconnectFrame (p : StompProtocol) : Str :=
  "DISCONNECT\nreceipt :" ++ p.getReceiptID ++ "\n\n"

/-- `handleLogoutRequest`. -/
def handleLogoutRequest (p : StompProtocol) : StompProtocol × ℕ :=
  let disconnectFrame := p.buildDisconnectFrame
  match (p.addMsg "DISCONNECT").sendFrame disconnectFrame with
  | (p, 1) => (p, 1)
  | (p, _) => (p.setWaitingForDisconnect, 0)

/-- `updatesToString`. -/
def updatesToString (updatesMap : List (Str × Str)) : Str :=
  updatesMap.flatMap fun update => "    " ++ update.1 ++ ": " ++ update.2 ++ "\n"

/-- The SEND frame of one event. -/
def buildSendFrame (p : StompProtocol) (gameName : Str) (event : Event) : Str :=
  "SEND\ndestination :/" ++ gameName ++ "\n\nuser: " ++ p.username ++ "\nevent name: " ++
    event.name ++ "\ntime:" ++ intToString event.time ++ "\ngeneral game updates:\n" ++
    updatesToString event.game_updates ++ "team a updates: \n" ++
    updatesToString event.team_a_updates ++ "team b updates: \n" ++
    updatesToString event.team_b_updates ++ "description: \n" ++ event.discription ++ "\n"

/-- `buildSendFrames`, from what `parseEventsFile` returns for the file. -/
def buildSendFrames (p : StompProtocol) (infoForFrames : NamesAndEvents) : List Str :=
  let gameName := infoForFrames.team_a_name ++ "_" ++ infoForFrames.team_b_name
  if p.checkSub gameName then infoForFrames.events.map (p.buildSendFrame gameName)
  else ["ERROR"]

/-- The loop of `handleReportRequest`, which ends with the first frame that cannot be sent. -/
def sendFrames (p : StompProtocol) : List Str → StompProtocol × ℕ
  | [] => (p, 0)
  | frame :: frames =>
    match p.sendFrame frame with
    | (p, 1) => (p, 1)
    | (p, _) => p.sendFrames frames

/-- `handleReportRequest`. -/
def handleReportRequest (p : StompProtocol) (infoForFrames : NamesAndEvents) :
    Except CppException (StompProtocol × ℕ) := do
  let frames := p.buildSendFrames infoForFrames
  let last ← vectorBack frames
  if last = "ERROR" then return (p, 0)
  return p.sendFrames frames

/-- `handleSummaryRequest`: the contents of the files, and 0 when a summary was written. -/
def handleSummaryRequest (p : StompProtocol) (parameters : List Str) (files : Dict Str Str) :
    Except CppException (Dict Str Str × ℕ) := do
  let gameName ← vectorAt parameters 1
  let user ← vectorAt parameters 2
  let filename ← vectorAt parameters 3
  match p.gameToEvents.lookup gameName with
  | some users =>
    match users.lookup user with
    | some game => return (← game.writeToFile filename files, 0)
    | none => return (files, 1)
  | none => return (files, 1)

/-! ### Frames -/

/-- The text `handleErrorFrame` prints. -/
def errorMessage (body : Str) : Except CppException Str := do
  let errorMessage ← substr body (findLastOf body "-----") npos
  substr errorMessage (find errorMessage "\n") npos

/-- `handleErrorFrame`. -/
def handleErrorFrame (p : StompProtocol) (body : Str) : Except CppException StompProtocol := do
  let _ ← errorMessage body
  return p.logout

/-- What `handleReceiptFrame` does for the command its receipt id stands for.  Reading a table with
`[]` gives a key without an entry an empty one. -/
def receiptOf (p : StompProtocol) (command : Str) : StompProtocol :=
  if command = "DISCONNECT" then p.logout
  else
    let p := { p with gameToSubID := p.gameToSubID.insertNew command [] }
    if (p.getSubByGame command).head? = some '*' then p.confirmSub command
    else p.unsubscribe command

/-- `handleReceiptFrame`. -/
def handleReceiptFrame (p : StompProtocol) (header : Str) : Except CppException StompProtocol := do
  let receiptId ← substr header (find header "receipt - id :" + 14) npos
  let p := { p with receiptToMsg := p.receiptToMsg.insertNew receiptId [] }
  return p.receiptOf ((p.receiptToMsg.lookup receiptId).getD [])

/-- `handleMessageFrame`. -/
def handleMessageFrame (p : StompProtocol) (header body : Str) :
    Except CppException StompProtocol := do
  let destination ← substr header (find header "destination :/" + 14) npos
  let destination ← substr destination 0 (find destination "\n")
  let user ← substr body (find body "user: " + 6) npos
  let user ← substr user 0 (find user "\n")
  let teamA ← substr destination 0 (find destination "_")
  let teamB ← substr destination (find destination "_" + 1) npos
  let gameName := teamA ++ "_" ++ teamB
  let fresh : Game := { teamAname := teamA, teamBname := teamB }
  let current ← ((Dict.lookup₂ p.gameToEvents gameName user).getD fresh).parseFrame body
  return { p with gameToEvents := Dict.put₂ p.gameToEvents gameName user current }

/-- `processFrame`. -/
def processFrame (p : StompProtocol) (frame : Str) : Except CppException StompProtocol := do
  let command ← substr frame 0 (find frame "\n")
  let frame ← substr frame (find frame "\n" + 1) npos
  let header ← substr frame 0 (find frame "\n\n")
  let bodyStart := find frame "\n\n" + 2
  let body ← (if bodyStart < frame.length then substr frame bodyStart npos else pure [])
  let p ← (if command = "ERROR" then p.handleErrorFrame body else pure p)
  let p ← (if command = "RECEIPT" then p.handleReceiptFrame header else pure p)
  -- `handleConnectedFrame` only prints
  if command = "MESSAGE" then p.handleMessageFrame header body else pure p

end StompProtocol

end WorldCupInformer.Client
