import WorldCupInformer.Session.Commands

/-!
# The client's requests are understood

The frames the client builds, each with its NUL, are read by `orderMsgInHash` as they were meant.

* `Input`, `typed`: everything that changes the client's protocol object, in any order and with
  any frames, also such as no server sends;
* `Reads`: the table a frame is read into, with nothing added and nothing altered;
* `requests_understood`: the tables of the four requests.
-/

namespace WorldCupInformer

open Client (natToString CppException StompProtocol NamesAndEvents)

/-! ### The client by itself -/

/-- What happens to the client's protocol object. -/
inductive Input
  | login (hostPort username password : Word) (connects : Bool)
  | join (gameName : Word)
  | exit (gameName : Word)
  | report (infoForFrames : NamesAndEvents)
  | logout
  | frame (bytes : Str)
  /-- the connection breaks: from now on writing fails -/
  | broken

/-- One input.  `summary` only reads the object. -/
def Input.apply (p : StompProtocol) : Input → Except CppException StompProtocol
  | .login hostPort username password connects => do
    let parameters := [lit "login", hostPort.typed, username.typed, password.typed]
    return (← p.handleLoginRequest parameters connects).1
  | .join gameName => return (← p.handleJoinRequest [lit "join", gameName.typed]).1
  | .exit gameName => return (← p.handleExitRequest [lit "exit", gameName.typed]).1
  | .report infoForFrames => return (← p.handleReportRequest infoForFrames).1
  | .logout => .ok p.handleLogoutRequest.1
  | .frame bytes => p.processFrame bytes
  | .broken => .ok { p with handler := { p.handler with writable := false } }

/-- The object after the inputs; an exception ends the program. -/
def typed (inputs : List Input) : Except CppException StompProtocol :=
  inputs.foldlM Input.apply {}

/-- Every game the client has an entry for has one of the two forms. -/
def Entered (p : StompProtocol) : Prop :=
  ∀ g subID, p.gameToSubID.lookup g = some subID → IsEntry subID

namespace Entered

variable {p p' : StompProtocol}

theorem congr (hp : Entered p) (h : p'.gameToSubID = p.gameToSubID) : Entered p' := by
  intro g subID
  rw [h]
  exact hp g subID

theorem logout (p : StompProtocol) : Entered p.logout := by
  intro g subID h
  simp [StompProtocol.logout] at h

theorem addSubscription (hp : Entered p) (gameName : Str) :
    Entered (p.addSubscription gameName) := by
  intro g subID h
  rcases isEntry_of_addSubscription h with hold | hentry
  · exact hp g subID hold
  · exact hentry

theorem login {hostPort u pw : Str} {connects : Bool} {n : ℕ} (hp : Entered p)
    (hrun : p.handleLoginRequest [lit "login", hostPort, u, pw] connects = .ok (p', n)) :
    Entered p' :=
  hp.congr (handleLoginRequest_cases hrun).2.1

theorem exit {g : Str} {n : ℕ} (hp : Entered p)
    (hrun : p.handleExitRequest [lit "exit", g] = .ok (p', n)) : Entered p' := by
  rw [handleExitRequest_eq] at hrun
  split_ifs at hrun
  · obtain rfl := congrArg Prod.fst (Except.ok.inj hrun)
    exact hp
  · obtain rfl := congrArg Prod.fst (Except.ok.inj hrun)
    exact hp.congr rfl

theorem report {infoForFrames : NamesAndEvents} {n : ℕ} (hp : Entered p)
    (hrun : p.handleReportRequest infoForFrames = .ok (p', n)) : Entered p' := by
  unfold StompProtocol.handleReportRequest at hrun
  obtain ⟨last, -, hrun⟩ := bind_eq_ok.1 hrun
  split_ifs at hrun
  · obtain rfl := congrArg Prod.fst (Except.ok.inj hrun)
    exact hp
  · obtain ⟨text, hsent, -⟩ := sendFrames_writes p (p.buildSendFrames infoForFrames)
    obtain rfl := congrArg Prod.fst (Except.ok.inj hrun)
    exact hp.congr (by rw [hsent])

theorem handleLogoutRequest (hp : Entered p) : Entered p.handleLogoutRequest.1 := by
  unfold StompProtocol.handleLogoutRequest
  dsimp only
  split
  · rename_i p' heq
    obtain rfl := congrArg Prod.fst heq
    exact hp.congr rfl
  · rename_i p' n hne heq
    obtain rfl := congrArg Prod.fst heq
    exact hp.congr rfl

theorem processFrame {frame : Str} (hp : Entered p) (hrun : p.processFrame frame = .ok p') :
    Entered p' := by
  rcases StompProtocol.processFrame_cases hrun with rfl | rfl | ⟨receipts, command, rfl⟩ |
    ⟨games, -, rfl⟩
  · exact hp
  · exact logout p
  · have hnoted : Entered { p with receiptToMsg := receipts } := hp.congr rfl
    exact isEntry_receiptOf hnoted command
  · exact hp.congr rfl

/-- Whatever happens, the entries of the client keep their form. -/
theorem apply (hp : Entered p) {input : Input} (hrun : input.apply p = .ok p') : Entered p' := by
  cases input with
  | login hostPort username password connects =>
    obtain ⟨⟨p₁, n⟩, hlogin, hp'⟩ := bind_eq_ok.1 hrun
    obtain rfl := Except.ok.inj hp'
    exact hp.login hlogin
  | join gameName =>
    obtain rfl := Except.ok.inj hrun
    exact (hp.addSubscription gameName.typed).congr rfl
  | exit gameName =>
    obtain ⟨⟨p₁, n⟩, hexit, hp'⟩ := bind_eq_ok.1 hrun
    obtain rfl := Except.ok.inj hp'
    exact hp.exit hexit
  | report infoForFrames =>
    obtain ⟨⟨p₁, n⟩, hreport, hp'⟩ := bind_eq_ok.1 hrun
    obtain rfl := Except.ok.inj hp'
    exact hp.report hreport
  | logout =>
    obtain rfl := Except.ok.inj hrun
    exact hp.handleLogoutRequest
  | frame bytes => exact hp.processFrame hrun
  | broken =>
    obtain rfl := Except.ok.inj hrun
    exact hp.congr rfl

theorem typed {inputs : List Input} (hrun : typed inputs = .ok p) : Entered p := by
  suffices h : ∀ p₀, Entered p₀ → inputs.foldlM Input.apply p₀ = .ok p → Entered p from
    h {} (by intro g subID h; simp at h) hrun
  clear hrun
  induction inputs with
  | nil =>
    intro p₀ hp₀ hrun
    exact Except.ok.inj hrun ▸ hp₀
  | cons input inputs ih =>
    intro p₀ hp₀ hrun
    rw [List.foldlM_cons] at hrun
    obtain ⟨p₁, hinput, hrest⟩ := bind_eq_ok.1 hrun
    exact ih p₁ (hp₀.apply hinput) hrest

end Entered

/-! ### The tables -/

/-- The frame, with its NUL, is read into the table with this command, the headers in this order
and an empty body, and with nothing else. -/
def Reads (frame command : Str) (headers : List (Str × Str)) : Prop :=
  ∃ hd, orderMsgInHash (Utf8.textOf (frame ++ lit "\x00")) = .ok hd ∧ ∀ key, hd.get key =
    if key = "COMMAND" then some command else if key = "BODY" then some [] else headers.lookup key

/-- A message whose header lines are cut as they were put together is read as it was meant. -/
theorem reads_of_foldlM {frame command : Str} {headers : List (Str × Str)}
    (hframe : frame ++ lit "\x00" =
      Utf8.bytesOf (frameText command (headers.map fun x => headerLine x.1 x.2) []))
    (hcmd : IsLine command) (hne : headers ≠ [])
    (hlines : ∀ x ∈ headers, IsLine (headerLine x.1 x.2))
    (hput : ∀ x ∈ headers, ∀ table, putHeaderLine table (headerLine x.1 x.2) =
      .ok (putHeader table x))
    (hnames : (lit "COMMAND" :: lit "BODY" :: headers.map Prod.fst).Nodup) :
    Reads frame command headers := by
  have hfold : ∀ table, (headers.map fun x => headerLine x.1 x.2).foldlM putHeaderLine table =
      .ok (headers.foldl putHeader table) := by
    clear hframe hlines hnames hne
    induction headers with
    | nil => exact fun table => rfl
    | cons x headers ih =>
      intro table
      have hrest := ih fun y hy => hput y (List.mem_cons_of_mem x hy)
      rw [List.map_cons, List.foldlM_cons, hput x List.mem_cons_self table]
      exact hrest (putHeader table x)
  have hall : ∀ l ∈ headers.map fun x => headerLine x.1 x.2, IsLine l := by
    intro l hl
    obtain ⟨x, hx, rfl⟩ := List.mem_map.1 hl
    exact hlines x hx
  have htable := orderMsgInHash_frameText hcmd (by simpa using hne) hall
    (List.not_mem_nil (a := '\x00'))
  rw [hfold] at htable
  refine ⟨_, by rw [hframe, Utf8.textOf_bytesOf]; exact htable, fun key => ?_⟩
  obtain ⟨hnotCommand, hrest⟩ := List.nodup_cons.1 hnames
  obtain ⟨-, hnodup⟩ := List.nodup_cons.1 hrest
  have hcommand : headers.lookup (lit "COMMAND") = none :=
    Dict.list_lookup_of_notMem fun hmem => hnotCommand (List.mem_cons_of_mem _ hmem)
  rw [HeaderTable.get_put, Dict.get_foldl HeaderTable.get HeaderTable.get_putHeader hnodup]
  by_cases hkey : key = "COMMAND"
  · subst hkey
    have hne : lit "COMMAND" ≠ lit "BODY" := by decide
    simp [hcommand, hne]
  · by_cases hkey' : key = "BODY"
    · simp [hkey']
    · simp [hkey, hkey']

/-- Headers without blanks are cut as they were put together. -/
theorem reads_of_plain {frame command : Str} {headers : List (Str × Str)}
    (hframe : frame ++ lit "\x00" =
      Utf8.bytesOf (frameText command (headers.map fun x => headerLine x.1 x.2) []))
    (hcmd : IsLine command) (hne : headers ≠ [])
    (hplain : ∀ x ∈ headers, Plain x.1 ∧ Plain x.2)
    (hnames : (lit "COMMAND" :: lit "BODY" :: headers.map Prod.fst).Nodup) :
    Reads frame command headers :=
  reads_of_foldlM hframe hcmd hne
    (fun x hx => isLine_headerLine (hplain x hx).1 (hplain x hx).2)
    (fun x hx table => putHeaderLine_eq table (hplain x hx).1 (hplain x hx).2) hnames

/-- The four requests of a client are read as they were meant, whatever the words typed. -/
structure Understood (p : StompProtocol) : Prop where
  connect : ∀ username password : Word,
    Reads (StompProtocol.buildConnectFrame username.typed password.typed) "CONNECT"
      [("accept - version", "1.2"), ("host", " stomp . cs . bgu . ac . il"),
        ("login", username.text), ("passcode", password.text)]
  subscribe : ∀ gameName : Word, Reads (p.buildSubscribeFrame gameName.typed) "SUBSCRIBE"
    [("destination", "/" ++ gameName.text), ("id", p.getSubId), ("receipt", p.getReceiptID)]
  unsubscribe : ∀ gameName subID, p.gameToSubID.lookup gameName = some subID →
    Reads (p.buildUnsubscribeFrame gameName) "UNSUBSCRIBE"
      [("id", subID), ("receipt", p.getReceiptID)]
  disconnect : Reads p.buildDisconnectFrame "DISCONNECT" [("receipt", p.getReceiptID)]

theorem reads_connect (username password : Word) :
    Reads (StompProtocol.buildConnectFrame username.typed password.typed) "CONNECT"
      [("accept - version", "1.2"), ("host", " stomp . cs . bgu . ac . il"),
        ("login", username.text), ("passcode", password.text)] := by
  have hcmd : IsLine "CONNECT" := ⟨by decide, by decide, by decide⟩
  have hframe := buildConnectFrame_bytes username.text password.text
  have hlines := isLine_connect username.plain password.plain
  refine reads_of_foldlM hframe hcmd (by simp) (by simpa using hlines) ?_ ?_
  · simp only [List.forall_mem_cons]
    -- the first two lines have blanks
    exact ⟨fun table => putHeaderLine_of_split table split_version,
      fun table => putHeaderLine_of_split table split_host,
      fun table => putHeaderLine_eq table plain_login username.plain,
      fun table => putHeaderLine_eq table plain_passcode password.plain, List.forall_mem_nil _⟩
  · simp only [List.map_cons, List.map_nil]
    decide

theorem Entered.understood {p : StompProtocol} (hp : Entered p) : Understood p where
  connect := reads_connect
  subscribe gameName := by
    have hcmd : IsLine "SUBSCRIBE" := ⟨by decide, by decide, by decide⟩
    have hdest : Plain (lit "/" ++ gameName.text) := gameName.plain.cons (by decide)
    have hframe := buildSubscribeFrame_bytes p gameName.text
    refine reads_of_plain hframe hcmd (by simp) ?_ ?_
    · simp [plain_destination, plain_id, plain_receipt, hdest, plain_natToString,
        StompProtocol.getSubId, StompProtocol.getReceiptID]
    · simp only [List.map_cons, List.map_nil]
      decide
  unsubscribe gameName subID hsub := by
    have hcmd : IsLine "UNSUBSCRIBE" := ⟨by decide, by decide, by decide⟩
    have hentry := hp gameName subID hsub
    have hget : p.getSubByGame gameName = subID := by simp [StompProtocol.getSubByGame, hsub]
    have hframe := buildUnsubscribeFrame_bytes p (hget ▸ hentry.ascii)
    rw [hget] at hframe
    refine reads_of_plain hframe hcmd (by simp) ?_ ?_
    · simp [plain_id, plain_receipt, hentry.plain, plain_natToString, StompProtocol.getReceiptID]
    · simp only [List.map_cons, List.map_nil]
      decide
  disconnect := by
    have hcmd : IsLine "DISCONNECT" := ⟨by decide, by decide, by decide⟩
    refine reads_of_plain (buildDisconnectFrame_bytes p) hcmd (by simp) ?_ ?_
    · simp [plain_receipt, plain_natToString, StompProtocol.getReceiptID]
    · simp only [List.map_cons, List.map_nil]
      decide

/-- The client's requests are understood after these inputs. -/
def UnderstoodAfter (inputs : List Input) : Prop := ∀ p, typed inputs = .ok p → Understood p

/-- **Every request the client builds is understood**, after any commands and any frames: with the
words typed at the keyboard, the subscription ids it has stored, marked or not, and its receipt ids,
the server reads exactly the headers that were written. -/
theorem requests_understood (inputs : List Input) : UnderstoodAfter inputs := by
  intro p hp
  exact (Entered.typed hp).understood

end WorldCupInformer
