import WorldCupInformer.Server.ConnectionsImp

/-!
# The frames of the server (`bgu.spl.net.srv.Frames`)

A request is handled from its header table, which also holds the command and the body under the
keys `COMMAND` and `BODY`.  Every `act` first collects the errors of the frame; if there are any,
the sender gets them in an ERROR frame and is disconnected.
-/

namespace WorldCupInformer

/-- The header table of a request.  `bodyLine` tells that a header line is named `BODY`: the key
object of the table is then the one of that line and not the literal of the source. -/
structure HeaderTable where
  map : Dict Str Str := ∅
  bodyLine : Bool := false

namespace HeaderTable

def get (headersToValue : HeaderTable) (key : Str) : Option Str := headersToValue.map.lookup key

def put (headersToValue : HeaderTable) (key value : Str) : HeaderTable :=
  { headersToValue with map := headersToValue.map.insert key value }

end HeaderTable

/-! ### Answers -/

/-- `ReceiptFrame.toString`. -/
def ReceiptFrame.toString (receiptID : Str) : Str :=
  "RECEIPT\n" ++ "receipt - id :" ++ receiptID ++ "\n\n\x00"

/-- The line of the receipt header in an ERROR frame. -/
def ErrorFrame.receiptLine : Option Str → Str
  | some receipt => "receipt :" ++ receipt ++ "\n"
  | none => ""

/-- The line of one key in an ERROR frame.  The keys are compared with the literals by reference:
`BODY` is skipped only if no header line brought its own key object. -/
def ErrorFrame.headerLine (headerToValue : HeaderTable) (key : Str) : Str :=
  if key ≠ "COMMAND" ∧ (key ≠ "BODY" ∨ headerToValue.bodyLine) then
    key ++ " :" ++ stringOf (headerToValue.get key) ++ "\n"
  else ""

/-- `ErrorFrame.toString`. -/
def ErrorFrame.toString (errorList : List Str) (headerToValue : HeaderTable) : Str :=
  "ERROR\n" ++ ErrorFrame.receiptLine (headerToValue.get "receipt") ++
    "message :invalid frame recevied\n\n" ++ "The Message: \n----- \n" ++
    stringOf (headerToValue.get "COMMAND") ++ "\n" ++
    headerToValue.map.keys.flatMap (ErrorFrame.headerLine headerToValue) ++
    "\n" ++ stringOf (headerToValue.get "BODY") ++ "\n----- \n" ++
    errorList.flatMap (fun error => error ++ lit "\n") ++ "\x00"

/-- Answer with an ERROR frame and disconnect, as every `act` does with a rejected frame. -/
def sendErrorFrame (connectionId : ℕ) (errorList : List Str) (headersToValue : HeaderTable) :
    Java Unit := do
  let _ ← send connectionId (ErrorFrame.toString errorList headersToValue)
  disconnect connectionId

/-- Answer with a RECEIPT frame if the header is present. -/
def sendReceiptFrame (connectionId : ℕ) (receiptId : Option Str) : Java Unit := do
  match receiptId with
  | some receiptId =>
    let _ ← send connectionId (ReceiptFrame.toString receiptId)
  | none => pure ()

/-! ### CONNECT -/

namespace ConnectFrame

/-- `buildResponseFrame`. -/
def buildResponseFrame (accept_version : Option Str) : Str :=
  "CONNECTED\nversion: " ++ stringOf accept_version ++ "\n\n\x00"

/-- The errors of a frame that lacks one of the four headers. -/
def malformedErrors (host accept_version userName passcode : Option Str) : List Str :=
  [lit "Malformed message arrived."] ++
  (if accept_version ≠ some "1.2" then
    [lit "Message should include version header set as 1.2"] else []) ++
  (if host ≠ some " stomp . cs . bgu . ac . il" then
    [lit "Message should include host header as stomp.cs.bgu.ac.il"] else []) ++
  (if userName = none then [lit "Message should include username"] else []) ++
  (if passcode = none then [lit "Message should include password"] else [])

/-- `isLegalFrame`.  Version and host are looked at only when a header is missing. -/
def isLegalFrame (connectionId : ℕ) (host accept_version userName passcode : Option Str) :
    Java (List Str) := do
  match host, accept_version, userName, passcode with
  | some _, some _, some userName, some passcode =>
    let mut errorList : List Str := []
    if ← isTheClientConnected (← convertIdToConnectionHandler connectionId) then
      errorList := errorList ++ [lit "The client is already logged in, log out before trying again"]
    if ← isloggedInUser userName then
      errorList := errorList ++ [lit "User already logged in."]
    if !(← checkPasswordForUser userName passcode) then
      errorList := errorList ++ [lit "Wrong password"]
    return errorList
  | _, _, _, _ => return malformedErrors host accept_version userName passcode

/-- `act`. -/
def act (connectionId : ℕ) (headersToValue : HeaderTable) : Java Unit := do
  let accept_version := headersToValue.get "accept - version"
  let host := headersToValue.get "host"
  let userName := headersToValue.get "login"
  let passcode := headersToValue.get "passcode"
  let errorList ← isLegalFrame connectionId host accept_version userName passcode
  if errorList.length > 0 then
    sendErrorFrame connectionId errorList headersToValue
  else
    connect connectionId (← nonNull userName) (← nonNull passcode)
    let _ ← send connectionId (buildResponseFrame accept_version)
    sendReceiptFrame connectionId (headersToValue.get "receipt-id")

end ConnectFrame

/-! ### DISCONNECT -/

namespace DisconnectFrame

/-- `isLegalFrame`. -/
def isLegalFrame (receiptId : Option Str) : List Str :=
  if receiptId = none then
    [lit "Message is malformed. Disconnect message should include receipt id."]
  else []

/-- `act`. -/
def act (connectionId : ℕ) (headersToValue : HeaderTable) : Java Unit := do
  let receiptId := headersToValue.get "receipt"
  let errorList := isLegalFrame receiptId
  if errorList.length > 0 then
    sendErrorFrame connectionId errorList headersToValue
  else
    logOutUser (← idToUsername connectionId)
    let receiptId ← nonNull receiptId
    let _ ← send connectionId (ReceiptFrame.toString receiptId)
    disconnect connectionId

end DisconnectFrame

/-! ### SEND -/

namespace SendFrame

/-- `isLegalFrame`. -/
def isLegalFrame (connectionId : ℕ) (destination : Option Str) : Java (List Str) := do
  match destination with
  | none => return [lit "Message is malformed. Message should include password."]
  | some destination =>
    if !(← isUserSubscribedToChannel (← convertIdToConnectionHandler connectionId) destination) then
      return [lit "User is not subscribed to: " ++ destination]
    return []

/-- `act`. -/
def act (connectionId : ℕ) (headersToValue : HeaderTable) : Java Unit := do
  let body := headersToValue.get "BODY"
  let destination := headersToValue.get "destination"
  let errorList ← isLegalFrame connectionId destination
  if errorList.length > 0 then
    sendErrorFrame connectionId errorList headersToValue
  else
    sendToChannel (← nonNull destination) (← nonNull body)
    sendReceiptFrame connectionId (headersToValue.get "receipt-id")

end SendFrame

/-! ### SUBSCRIBE and UNSUBSCRIBE -/

/-- The error of a body that is missing or not empty. -/
def bodyErrors (body : Option Str) : List Str :=
  if body ≠ some [] then [lit "Message body should be empty"] else []

/-- The error of a missing subscription id. -/
def idErrors (id : Option Str) : List Str :=
  if id = none then [lit "Message should contain subscription id"] else []

namespace SubscribeFrame

/-- `isLegalFrame`. -/
def isLegalFrame (headersToValue : HeaderTable) : List Str :=
  (if headersToValue.get "destination" = none then
    [lit "Message should contain a destination"] else []) ++
  idErrors (headersToValue.get "id") ++ bodyErrors (headersToValue.get "BODY")

/-- `act`. -/
def act (connectionId : ℕ) (headersToValue : HeaderTable) : Java Unit := do
  let errorList := isLegalFrame headersToValue
  if errorList.length = 0 then
    let topic ← nonNull (headersToValue.get "destination")
    let subscriptionId ← nonNull (headersToValue.get "id")
    let success ← subscribe topic connectionId subscriptionId
    note (.subscribe topic connectionId subscriptionId success)
    if success then
      sendReceiptFrame connectionId (headersToValue.get "receipt")
    else
      sendErrorFrame connectionId
        (errorList ++ [lit "Cannot add subscription, already subscribed to topic"]) headersToValue
  else
    sendErrorFrame connectionId errorList headersToValue

end SubscribeFrame

namespace UnsubscribeFrame

/-- `isLegalFrame`. -/
def isLegalFrame (headersToValue : HeaderTable) : List Str :=
  idErrors (headersToValue.get "id") ++ bodyErrors (headersToValue.get "BODY")

/-- `act`. -/
def act (connectionId : ℕ) (headersToValue : HeaderTable) : Java Unit := do
  let errorList := isLegalFrame headersToValue
  if errorList.length = 0 then
    let subscriptionId ← nonNull (headersToValue.get "id")
    let success ← unsubscribe connectionId subscriptionId
    note (.unsubscribe connectionId subscriptionId success)
    if success then
      sendReceiptFrame connectionId (headersToValue.get "receipt")
    else
      sendErrorFrame connectionId
        (errorList ++ [lit "SubscriptionID does not represent a valid user subscription"])
        headersToValue
  else
    sendErrorFrame connectionId errorList headersToValue

end UnsubscribeFrame

end WorldCupInformer
