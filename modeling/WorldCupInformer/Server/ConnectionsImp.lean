import WorldCupInformer.Lib.Dictionary
import WorldCupInformer.Server.Java

/-!
# The registries of the server (`ConnectionsImp`)

Every method is a program over the six registries that can end with an exception; what it
changed before the exception stays changed.  A reference that may be `null` is an `Option`, and
`nonNull` raises the `NullPointerException` of the concurrent collections and of a call through
such a reference.

The registries call back into other objects (`handler.send`, `protocol.terminate`).  These calls,
and the calls of `subscribe`, `unsubscribe` and `disconnect` with what they returned, are noted in
order in `Exec.calls`; nothing reads them back.
-/

namespace WorldCupInformer

/-- A connection handler object; the server allocates one for every accepted connection. -/
structure ConnectionHandler where
  serial : ℕ
  deriving DecidableEq

/-- The fields of `ConnectionsImp`. -/
structure ConnectionsImp where
  usernameToPass : Dict Str Str := ∅
  clientToUsername : Dict ConnectionHandler Str := ∅
  loggedInUsers : Finset Str := ∅
  topicToClients : Dict Str (Dict ConnectionHandler Str) := ∅
  idToHandler : Dict ℕ ConnectionHandler := ∅
  clientToTopics : Dict ConnectionHandler (Dict Str Str) := ∅
  messageId : ℕ := 0

/-- A call made while a frame is handled, with what it returned. -/
inductive Call
  | send (handler : ConnectionHandler) (msg : Str)
  | terminate (handler : ConnectionHandler)
  | subscribe (topic : Str) (connectionId : ℕ) (subscriptionId : Str) (returned : Bool)
  | unsubscribe (connectionId : ℕ) (subscriptionId : Str) (returned : Bool)
  | disconnect (connectionId : ℕ)
  deriving DecidableEq

/-- What a program runs on: the registries, and the calls noted so far. -/
structure Exec where
  connections : ConnectionsImp
  calls : List Call := []

/-- Programs over the registries. -/
abbrev Java := EStateM JavaException Exec

section Programs

variable {α : Type}

/-- Dereference, or use as a key of a concurrent collection. -/
def nonNull : Option α → Java α
  | some a => pure a
  | none => throw .nullPointer

/-- A computation that does not touch the registries. -/
def ofExcept : Except JavaException α → Java α
  | .ok a => pure a
  | .error x => throw x

def connections : Java ConnectionsImp := return (← get).connections

def update (f : ConnectionsImp → ConnectionsImp) : Java Unit :=
  modify fun e => { e with connections := f e.connections }

/-- Note a call. -/
def note (c : Call) : Java Unit := modify fun e => { e with calls := e.calls ++ [c] }

@[simp] theorem run_nonNull_some (a : α) (e : Exec) : (nonNull (some a)).run e = .ok a e := rfl

@[simp] theorem run_nonNull_none (e : Exec) :
    (nonNull (none : Option α)).run e = .error .nullPointer e := rfl

@[simp] theorem run_ofExcept_ok (a : α) (e : Exec) : (ofExcept (.ok a)).run e = .ok a e := rfl

@[simp] theorem run_ofExcept_error (x : JavaException) (e : Exec) :
    (ofExcept (.error x : Except JavaException α)).run e = .error x e := rfl

@[simp] theorem run_connections (e : Exec) : connections.run e = .ok e.connections e := rfl

@[simp] theorem run_update (f : ConnectionsImp → ConnectionsImp) (e : Exec) :
    (update f).run e = .ok () { e with connections := f e.connections } := rfl

@[simp] theorem run_note (c : Call) (e : Exec) :
    (note c).run e = .ok () { e with calls := e.calls ++ [c] } := rfl

/-- What a program leaves behind, whether it ends normally or with an exception. -/
def after (m : Java Unit) (s : ConnectionsImp) : Exec :=
  match m.run { connections := s } with
  | .ok _ e => e
  | .error _ e => e

/-- The exception a program ends with, if any. -/
def raised (m : Java Unit) (s : ConnectionsImp) : Option JavaException :=
  match m.run { connections := s } with
  | .ok _ _ => none
  | .error x _ => some x

@[simp] theorem run_ite (p : Prop) [Decidable p] (m n : Java α) (e : Exec) :
    (if p then m else n).run e = if p then m.run e else n.run e := by
  split <;> rfl

/-- What the body of a `try` changed stays changed. -/
@[simp] theorem run_try (m : Java α) (f : JavaException → Java α) (e : Exec) :
    (tryCatch m f).run e =
      match m.run e with
      | .ok a e' => .ok a e'
      | .error x e' => (f x).run e' := by
  rw [EStateM.run_tryCatch]
  cases m.run e <;> rfl

end Programs

/-! ### Sending -/

/-- `buildSendMessage`. -/
def buildSendMessage (messageId : ℕ) (channel : Str) (subscriptionId : Option Str)
    (message : Str) : Str :=
  "MESSAGE\nsubscription :" ++ stringOf subscriptionId ++ "\nmessage - id :" ++
    Nat.toDigits 10 messageId ++ "\ndestination :" ++ channel ++ "\n\n" ++ message ++ "\x00"

/-- `send(int, T)`: to the connection with this id, if it is registered. -/
def send (connectionId : ℕ) (msg : Str) : Java Bool := do
  match (← connections).idToHandler.lookup connectionId with
  | none => return false
  | some clientConnectionHandler =>
    note (.send clientConnectionHandler msg)
    return true

/-- One turn of the loop of `send(String, T)`. -/
def sendToClient (channel msg : Str) (registered : Dict ConnectionHandler Str)
    (clientConnectionHandler : ConnectionHandler) : Java Unit := do
  let subscriptionId := registered.lookup clientConnectionHandler
  let response := buildSendMessage (← connections).messageId channel subscriptionId msg
  note (.send clientConnectionHandler response)

/-- `send(String, T)`: to every client of the channel, in the order of the key set. -/
def sendToChannel (channel msg : Str) : Java Unit := do
  let registeredClientsToChannelMap ← nonNull ((← connections).topicToClients.lookup channel)
  forM registeredClientsToChannelMap.keys (sendToClient channel msg registeredClientsToChannelMap)

/-! ### Sessions -/

/-- One turn of the loop of `disconnect`. -/
def removeFromTopic (clientConnectionHandler : ConnectionHandler) (topic : Str) : Java Unit := do
  let topicMap ← nonNull ((← connections).topicToClients.lookup topic)
  update fun s =>
    { s with
      topicToClients := s.topicToClients.insert topic (topicMap.erase clientConnectionHandler) }

/-- `disconnect`. -/
def disconnect (connectionId : ℕ) : Java Unit := do
  let clientConnectionHandler ← nonNull ((← connections).idToHandler.lookup connectionId)
  let userName := (← connections).clientToUsername.lookup clientConnectionHandler
  let clientTopicsMap := (← connections).clientToTopics.lookup clientConnectionHandler
  let clientTopics := (clientTopicsMap.map Dict.values).getD []
  update fun s => { s with clientToTopics := s.clientToTopics.erase clientConnectionHandler }
  forM clientTopics (removeFromTopic clientConnectionHandler)
  try
    update fun s => { s with idToHandler := s.idToHandler.erase connectionId }
    -- `loggedInUsers.remove(null)` throws when the client never logged in
    let userName ← nonNull userName
    update fun s => { s with loggedInUsers := s.loggedInUsers.erase userName }
  catch
    | .nullPointer => pure ()
    | x => throw x
  note (.disconnect connectionId)
  note (.terminate clientConnectionHandler)

/-- `connect`. -/
def connect (connectionId : ℕ) (userName password : Str) : Java Unit := do
  update fun s => { s with loggedInUsers := insert userName s.loggedInUsers }
  update fun s => { s with usernameToPass := s.usernameToPass.insert userName password }
  let clientHandler ← nonNull ((← connections).idToHandler.lookup connectionId)
  update fun s => { s with clientToUsername := s.clientToUsername.insert clientHandler userName }

/-- `idToUsername`. -/
def idToUsername (connectionId : ℕ) : Java (Option Str) := do
  let handler ← nonNull ((← connections).idToHandler.lookup connectionId)
  return (← connections).clientToUsername.lookup handler

/-- `checkPasswordForUser`: an unknown user is registered with the given password. -/
def checkPasswordForUser (userName password : Str) : Java Bool := do
  if (← connections).usernameToPass.lookup userName = none then
    update fun s => { s with usernameToPass := s.usernameToPass.insert userName password }
    return true
  else if (← connections).usernameToPass.lookup userName = some password then
    return true
  return false

/-- `IsTheClientConnected`. -/
def isTheClientConnected (connectionHandler : Option ConnectionHandler) : Java Bool := do
  let handler ← nonNull connectionHandler
  return ((← connections).clientToUsername.lookup handler).isSome

/-- `logOutUser`. -/
def logOutUser (userName : Option Str) : Java Unit := do
  let userName ← nonNull userName
  update fun s => { s with loggedInUsers := s.loggedInUsers.erase userName }

/-- `IsloggedInUser`. -/
def isloggedInUser (userName : Str) : Java Bool := do
  return userName ∈ (← connections).loggedInUsers

/-- `addConnection`. -/
def addConnection (connectionID : ℕ) (handler : ConnectionHandler) : Java Unit :=
  update fun s => { s with idToHandler := s.idToHandler.insert connectionID handler }

/-- `convertIdToConnectionHandler`. -/
def convertIdToConnectionHandler (connectionID : ℕ) : Java (Option ConnectionHandler) := do
  return (← connections).idToHandler.lookup connectionID

/-! ### Subscriptions -/

/-- `isUserSubscribedToChannel`. -/
def isUserSubscribedToChannel (clientHandler : Option ConnectionHandler) (topic : Str) :
    Java Bool := do
  if (← connections).topicToClients.lookup topic = none then
    return false
  let topicMap ← nonNull ((← connections).topicToClients.lookup topic)
  let handler ← nonNull clientHandler
  return (topicMap.lookup handler).isSome

/-- `Subscribe`. -/
def subscribe (topic : Str) (connectionID : ℕ) (subscriptionID : Str) : Java Bool := do
  let handler := (← connections).idToHandler.lookup connectionID
  if (← connections).topicToClients.lookup topic = none then
    update fun s => { s with topicToClients := s.topicToClients.insert topic ∅ }
  let topicMap ← nonNull ((← connections).topicToClients.lookup topic)
  let handler ← nonNull handler
  if topicMap.lookup handler ≠ none then
    return false
  update fun s =>
    { s with
      topicToClients := s.topicToClients.insert topic (topicMap.insert handler subscriptionID) }
  if (← connections).clientToTopics.lookup handler = none then
    update fun s => { s with clientToTopics := s.clientToTopics.insert handler ∅ }
  let subToTopic ← nonNull ((← connections).clientToTopics.lookup handler)
  update fun s =>
    { s with
      clientToTopics := s.clientToTopics.insert handler (subToTopic.insert subscriptionID topic) }
  return true

/-- `getTopic`: the empty text stands for "no such subscription". -/
def getTopic (connectionID : ℕ) (subscriptionID : Str) : Java Str := do
  let handler ← nonNull ((← connections).idToHandler.lookup connectionID)
  match (← connections).clientToTopics.lookup handler with
  | none => return ""
  | some subToTopic => return (subToTopic.lookup subscriptionID).getD ""

/-- `Unsubscribe`. -/
def unsubscribe (connectionID : ℕ) (subscriptionID : Str) : Java Bool := do
  let handler := (← connections).idToHandler.lookup connectionID
  let topic ← getTopic connectionID subscriptionID
  if (← connections).topicToClients.lookup topic = none then
    return false
  let topicMap ← nonNull ((← connections).topicToClients.lookup topic)
  let handler ← nonNull handler
  if topicMap.lookup handler = none then
    return false
  let subToTopic ← nonNull ((← connections).clientToTopics.lookup handler)
  let removed : Bool := subToTopic.lookup subscriptionID = some topic
  if removed then
    update fun s =>
      { s with clientToTopics := s.clientToTopics.insert handler (subToTopic.erase subscriptionID) }
    let subToTopic ← nonNull ((← connections).clientToTopics.lookup handler)
    if subToTopic.keys.length = 0 then
      update fun s => { s with clientToTopics := s.clientToTopics.erase handler }
  let topicMap ← nonNull ((← connections).topicToClients.lookup topic)
  update fun s =>
    { s with topicToClients := s.topicToClients.insert topic (topicMap.erase handler) }
  return removed

end WorldCupInformer
