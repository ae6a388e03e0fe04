import WorldCupInformer.Client.StompProtocol

/-!
# Logging in (`handleLoginRequest`)

Whether the socket can be connected is a parameter, `connects`, and whether it can then be written
another, `writes`.
-/

namespace WorldCupInformer.Client.StompProtocol

/-- `setHandler`. -/
def setHandler (p : StompProtocol) (port : ℤ) (host : Str) : StompProtocol :=
  { p with handler := { p.handler with host := host, port := port } }

/-- `connectToServer`: 0 when the socket is connected. -/
def connectToServer (p : StompProtocol) (connects writes : Bool) : StompProtocol × ℕ :=
  if connects then ({ p with handler := { p.handler with writable := writes } }, 0) else (p, 1)

/-- `setLogin`. -/
def setLogin (p : StompProtocol) : StompProtocol :=
  { p with sentLoginRequest := true, handler := { p.handler with connected := true } }

/-- `setUsername`. -/
def setUsername (p : StompProtocol) (user : Str) : StompProtocol := { p with username := user }

/-- `buildConnectFrame`. -/
def buildConnectFrame (username password : Str) : Str :=
  "CONNECT\n" ++ "accept - version :1.2\n" ++ "host : stomp . cs . bgu . ac . il\n" ++
    "login :" ++ username ++ "\n" ++ "passcode :" ++ password ++ "\n\n"

/-- `handleLoginRequest`. -/
def handleLoginRequest (p : StompProtocol) (parameters : List Str) (connects : Bool)
    (writes : Bool := true) : Except CppException (StompProtocol × ℕ) := do
  if p.sentLoginRequest then return (p, 1)
  let hostPort ← vectorAt parameters 1
  let (host, hostPortStream) := getline hostPort ':'
  let (portString, _) := getline hostPortStream ':'
  let thisUsername ← vectorAt parameters 2
  let password ← vectorAt parameters 3
  let connectFrame := buildConnectFrame thisUsername password
  let port ← stoi portString
  match (p.setHandler (toShort port) host).connectToServer connects writes with
  | (p, 1) => return (p, 1)
  | (p, _) =>
    match p.setLogin.sendFrame connectFrame with
    | (p, 1) => return (p, 1)
    | (p, _) => return (p.setUsername thisUsername, 0)

end WorldCupInformer.Client.StompProtocol
