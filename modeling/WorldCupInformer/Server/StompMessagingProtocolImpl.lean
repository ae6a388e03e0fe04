import WorldCupInformer.Server.Frames

/-!
# Processing a message (`StompMessagingProtocolImpl`)

`orderMsgInHash` cuts a message into its header table, `process` hands the table to the frame of
its command.  A message with another command is ignored.
-/

namespace WorldCupInformer

/-- One turn of the header loop of `orderMsgInHash`. -/
def putHeaderLine (headersToValue : HeaderTable) (currHeader : Str) :
    Except JavaException HeaderTable := do
  let headerAndValue := split currHeader " :"
  let header ← arrayGet headerAndValue 0
  let value ← arrayGet headerAndValue 1
  return { headersToValue.put header value with
    bodyLine := headersToValue.bodyLine || decide (header = "BODY") }

/-- `orderMsgInHash`. -/
def orderMsgInHash (msg : Str) : Except JavaException HeaderTable := do
  let headerBeginIndex := indexOf msg "\n"
  let value ← substring msg 0 headerBeginIndex
  let headersToValue := HeaderTable.put {} "COMMAND" value
  let indexOfBodyBegin := indexOf msg "\n\n"
  let indexOfBodyEnd := indexOf msg "\x00"
  let bodyMsg ← substring msg (indexOfBodyBegin + 2) indexOfBodyEnd
  let headersMsg ← substring msg (headerBeginIndex + 1) indexOfBodyBegin
  let headersToValue ← (split headersMsg "\n").foldlM putHeaderLine headersToValue
  return headersToValue.put "BODY" bodyMsg

/-- The message is cut into a header table with this property. -/
def Decodes (msg : Str) (P : HeaderTable → Prop) : Prop :=
  ∃ headersToValue, orderMsgInHash msg = .ok headersToValue ∧ P headersToValue

instance (msg : Str) (P : HeaderTable → Prop) [DecidablePred P] : Decidable (Decodes msg P) :=
  match h : orderMsgInHash msg with
  | .ok headersToValue => decidable_of_iff (P headersToValue) (by simp [Decodes, h])
  | .error _ => isFalse (by simp [Decodes, h])

/-- The frame of the command, if it is one of the five.  The source tests the five commands one
after the other; they exclude each other. -/
def act (connectionId : ℕ) (headersToValue : HeaderTable) : Java Unit := do
  let command ← nonNull (headersToValue.get "COMMAND")
  if command = "CONNECT" then
    ConnectFrame.act connectionId headersToValue
  if command = "DISCONNECT" then
    DisconnectFrame.act connectionId headersToValue
  if command = "SEND" then
    SendFrame.act connectionId headersToValue
  if command = "UNSUBSCRIBE" then
    UnsubscribeFrame.act connectionId headersToValue
  if command = "SUBSCRIBE" then
    SubscribeFrame.act connectionId headersToValue

/-- `process`. -/
def process (connectionId : ℕ) (message : Str) : Java Unit := do
  let headersToValue ← ofExcept (orderMsgInHash message)
  act connectionId headersToValue

end WorldCupInformer
