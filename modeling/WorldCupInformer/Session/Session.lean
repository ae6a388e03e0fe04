import WorldCupInformer.Client.ReceivedFrames
import WorldCupInformer.Lib.Link
import WorldCupInformer.Lib.Utf8
import WorldCupInformer.Server.Server

/-!
# One client and the server

A `Session` is the client of one connection, the server, and the messages on their way between
them.  A command typed at the keyboard, a message worked off by the server and a frame handled by
the client are one step each; writing to the socket does not fail while it is open.

The client works on bytes and the server on texts:

* `delivered`: the messages the server's decoder makes of the bytes the client has written;
* `received`: the frames the client's `getFrameAscii` makes of the texts the server has sent;
* `Session.step`: the steps of connection `c`.
-/

namespace WorldCupInformer

/-- The bytes up to each NUL, read as a text; what follows the last NUL is no message yet. -/
def delivered (stream : Str) : List Str :=
  (Text.pieces (lit "\x00") stream).dropLast.map fun bytes => Utf8.textOf (bytes ++ lit "\x00")

/-- `encode` puts a NUL after every text and writes the bytes; the client's loop passes on what
stands between the NULs, without the empty frames. -/
def received (texts : List Str) : List Str :=
  (Text.pieces (lit "\x00") (Utf8.bytesOf (texts.flatMap (· ++ lit "\x00")))).filter (· ≠ [])

/-- A word typed at the keyboard: it is not empty, and holds neither white space nor a NUL. -/
structure Word where
  text : Str
  nonempty : text ≠ []
  space : ∀ ch ∈ text, Client.isSpace ch = false
  nul : '\x00' ∉ text

/-- The word as the client reads it. -/
def Word.typed (w : Word) : Str := Utf8.bytesOf w.text

/-- The strings of an events file as the client holds them; `json::parse` takes UTF-8 only. -/
def Client.Event.bytes (event : Client.Event) : Client.Event where
  name := Utf8.bytesOf event.name
  time := event.time
  game_updates := event.game_updates.map (Prod.map Utf8.bytesOf Utf8.bytesOf)
  team_a_updates := event.team_a_updates.map (Prod.map Utf8.bytesOf Utf8.bytesOf)
  team_b_updates := event.team_b_updates.map (Prod.map Utf8.bytesOf Utf8.bytesOf)
  discription := Utf8.bytesOf event.discription

@[inherit_doc Client.Event.bytes]
def Client.NamesAndEvents.bytes (infoForFrames : Client.NamesAndEvents) :
    Client.NamesAndEvents where
  team_a_name := Utf8.bytesOf infoForFrames.team_a_name
  team_b_name := Utf8.bytesOf infoForFrames.team_b_name
  events := infoForFrames.events.map Client.Event.bytes

/-- The server after a message of connection `c`. -/
def Server.afterMessage (c : ℕ) (s : Server) (msg : Str) : Server := s.step (.message c msg)

/-- The frames the client of connection `c` gets in answer to its message. -/
def Server.answer (c : ℕ) (s : Server) (msg : Str) : List Str :=
  received (sentTo ⟨c⟩ (s.handle (.message c msg)).calls)

/-- The client, unless an exception has ended its process, and its link to the server. -/
structure Session where
  client : Except Client.CppException Client.StompProtocol
  link : Link Server Str Str

namespace Session

/-- The steps of a session. -/
inductive Event
  | join (gameName : Word)
  | exit (gameName : Word)
  | report (infoForFrames : Client.NamesAndEvents)
  /-- the server works off its oldest message -/
  | serve
  /-- the client handles its oldest frame -/
  | deliver

/-- The keyboard thread runs a command; what it writes is on its way. -/
def command (s : Session)
    (run : Client.StompProtocol → Except Client.CppException (Client.StompProtocol × ℕ)) :
    Session :=
  match s.client with
  | .error _ => s
  | .ok p =>
    match run p with
    | .error x => { s with client := .error x }
    | .ok (p, _) => { client := .ok { p with handler.written := [] }
                      link := s.link.send (delivered p.handler.written) }

/-- The loop of `main`: a connected client handles the next frame. -/
def deliver (s : Session) : Session :=
  match s.client, s.link.toClient with
  | .ok p, frame :: _ =>
    if p.handler.connected then { client := p.processFrame frame, link := s.link.receive } else s
  | _, _ => s

/-- One step. -/
def step (c : ℕ) (s : Session) : Event → Session
  | .join gameName => s.command (·.handleJoinRequest [lit "join", gameName.typed])
  | .exit gameName => s.command (·.handleExitRequest [lit "exit", gameName.typed])
  | .report infoForFrames => s.command (·.handleReportRequest infoForFrames.bytes)
  | .serve => { s with link := s.link.serve (Server.afterMessage c) (Server.answer c) }
  | .deliver => s.deliver

/-- No frame is in flight. -/
def Quiet (s : Session) : Prop := s.link.toServer = [] ∧ s.link.toClient = []

/-- The client is running and connected. -/
def Open (s : Session) : Prop := ∃ p, s.client = .ok p ∧ p.handler.connected = true

/-- The client of connection `c` has just logged in to a server with any history. -/
structure LoggedIn (c : ℕ) (p : Client.StompProtocol) (s : Session) : Prop where
  running : s.client = .ok p
  connected : p.handler.connected = true
  writable : p.handler.writable = true
  written : p.handler.written = []
  receipts : p.receiptToMsg = ∅
  subscriptions : p.gameToSubID = ∅
  username : ∃ u, p.username = Utf8.bytesOf u ∧ '\x00' ∉ u ∧
    s.link.server.connections.clientToUsername.lookup ⟨c⟩ = some u
  quiet : s.Quiet
  reachable : ∃ es, s.link.server = Server.atServer es
  registered : s.link.server.connections.idToHandler.lookup c = some ⟨c⟩
  fresh : ∀ t, s.link.server.connections.entry t ⟨c⟩ = none

/-- A command that writes nothing. -/
theorem command_of_silent {s : Session} {p p' : Client.StompProtocol} (hp : s.client = .ok p)
    {run : Client.StompProtocol → Except Client.CppException (Client.StompProtocol × ℕ)}
    {result : ℕ}
    (hrun : run p = .ok (p', result)) (hwritten : p'.handler.written = []) :
    s.command run = { s with client := .ok p' } := by
  have hnone : delivered [] = [] := rfl
  have hp' : ({ p' with handler.written := [] } : Client.StompProtocol) = p' := by rw [← hwritten]
  simp only [command, hp, hrun, hwritten, hnone, Link.send, List.append_nil]
  rw [hp']

theorem command_dead {s : Session} {x : Client.CppException} (hx : s.client = .error x)
    (run : Client.StompProtocol → Except Client.CppException (Client.StompProtocol × ℕ)) :
    s.command run = s := by
  simp only [command, hx]

/-- A command that ends the process has sent nothing. -/
theorem command_link_of_error {s : Session} {p : Client.StompProtocol} {x : Client.CppException}
    (hp : s.client = .ok p)
    {run : Client.StompProtocol → Except Client.CppException (Client.StompProtocol × ℕ)}
    (hx : (s.command run).client = .error x) : (s.command run).link = s.link := by
  unfold command at hx ⊢
  rw [hp] at hx ⊢
  dsimp only at hx ⊢
  cases hrun : run p with
  | error y => rfl
  | ok q =>
    rw [hrun] at hx
    cases hx

/-- A connected client takes the next frame. -/
theorem deliver_cases (s : Session) : s.deliver = s ∨
    ∃ p frame frames, s.client = .ok p ∧ p.handler.connected = true ∧
      s.link.toClient = frame :: frames ∧
      s.deliver = { client := p.processFrame frame, link := s.link.receive } := by
  unfold deliver
  split
  · rename_i p frame frames hp hframes
    split_ifs with hopen
    · exact .inr ⟨p, frame, frames, hp, hopen, hframes, rfl⟩
    · exact .inl rfl
  · exact .inl rfl

/-- A client has connected to a new server and logged in. -/
def bobLogin : List WorldCupInformer.Event :=
  [.accept, .message 0 "CONNECT\naccept - version :1.2\nhost :h\nlogin :bob\npasscode :pw\n\n\x00"]

/-- The client after that. -/
def bob : Client.StompProtocol :=
  { handler := { connected := true, writable := true }
    sentLoginRequest := true
    username := "bob" }

def bobSession : Session :=
  { client := .ok bob, link := { server := Server.atServer bobLogin } }

theorem bobSession_loggedIn : bobSession.LoggedIn 0 bob where
  running := rfl
  connected := rfl
  writable := rfl
  written := rfl
  receipts := rfl
  subscriptions := rfl
  username := ⟨"bob", by rw [Utf8.bytesOf_of_ascii (by simp [lit])]; rfl, by decide,
    by decide +kernel⟩
  quiet := ⟨rfl, rfl⟩
  reachable := ⟨bobLogin, rfl⟩
  registered := by decide +kernel
  fresh t := by
    have hentries : (Server.atServer bobLogin).connections.topicToClients.entries = [] := by
      decide +kernel
    have htopics : (Server.atServer bobLogin).connections.topicToClients = ∅ := AList.ext hentries
    simp [bobSession, ConnectionsImp.entry, htopics, Dict.lookup₂]

/-- What can be computed of the client of a fixed session. -/
theorem exists_client {α : Type} {s : Session} {f : Client.StompProtocol → α} {a : α}
    (h : s.client.toOption.map f = some a) : ∃ p, s.client = .ok p ∧ f p = a := by
  cases hp : s.client with
  | error x =>
    rw [hp] at h
    cases h
  | ok p =>
    rw [hp] at h
    exact ⟨p, rfl, Option.some.inj h⟩

def game : Word := ⟨"a_b", by decide, by simp [lit, Client.isSpace], by decide⟩

end Session

/-! ### The two framings -/

theorem nul_mem_bytesOf {s : Str} : '\x00' ∈ Utf8.bytesOf s ↔ '\x00' ∈ s :=
  Utf8.mem_bytesOf_iff (by decide)

theorem bytesOf_nul : Utf8.bytesOf (lit "\x00") = lit "\x00" :=
  Utf8.bytesOf_of_ascii (by simp [lit])

/-- Every frame that is written with its NUL is a message. -/
theorem delivered_flatMap {frames : List Str} (h : ∀ frame ∈ frames, '\x00' ∉ frame) :
    delivered (frames.flatMap (· ++ lit "\x00")) =
      frames.map fun frame => Utf8.textOf (frame ++ lit "\x00") := by
  have hpieces : Text.pieces (lit "\x00") (frames.flatMap (· ++ lit "\x00")) = frames ++ [[]] :=
    Text.pieces_flatMap h
  rw [delivered, hpieces, List.dropLast_concat]

/-- The stream of texts that end with a NUL: the NUL that `encode` adds makes an empty frame after
each of them. -/
theorem bytesOf_flatMap (texts : List Str) :
    Utf8.bytesOf ((texts.map (· ++ lit "\x00")).flatMap (· ++ lit "\x00")) =
      (texts.flatMap fun text => [Utf8.bytesOf text, []]).flatMap (· ++ lit "\x00") := by
  induction texts with
  | nil => rfl
  | cons text texts ih => simp [ih, bytesOf_nul]

theorem nul_notMem_of_mem_frames {texts : List Str} (h : ∀ text ∈ texts, '\x00' ∉ text) :
    ∀ l ∈ texts.flatMap fun text => [Utf8.bytesOf text, []], '\x00' ∉ l := by
  intro l hl
  obtain ⟨text, htext, hl⟩ := List.mem_flatMap.1 hl
  simp only [List.mem_cons, List.not_mem_nil, or_false] at hl
  rcases hl with rfl | rfl
  · rw [nul_mem_bytesOf]
    exact h text htext
  · simp

/-- Texts that end with their only NUL arrive without it. -/
theorem received_map {texts : List Str} (h : ∀ text ∈ texts, text ≠ [] ∧ '\x00' ∉ text) :
    received (texts.map (· ++ lit "\x00")) = texts.map Utf8.bytesOf := by
  have hpieces := Text.pieces_flatMap (nul_notMem_of_mem_frames fun text htext => (h text htext).2)
  rw [received, bytesOf_flatMap]
  refine (congrArg _ hpieces).trans ?_
  clear hpieces
  induction texts with
  | nil => rfl
  | cons text texts ih =>
    have htext : Utf8.bytesOf text ≠ [] := fun hnil =>
      (h text List.mem_cons_self).1 (Utf8.bytesOf_injective hnil)
    have hrest := ih fun l hl => h l (List.mem_cons_of_mem text hl)
    simpa [htext] using hrest

/-- The texts arrive one after the other. -/
theorem received_cons_eq (text : Str) (texts : List Str) : received (text :: texts) =
    (Text.pieces (lit "\x00") (Utf8.bytesOf text)).filter (· ≠ []) ++ received texts := by
  have hstream : Utf8.bytesOf ((text :: texts).flatMap (· ++ lit "\x00")) =
      Utf8.bytesOf text ++ '\x00' :: Utf8.bytesOf (texts.flatMap (· ++ lit "\x00")) := by
    simp [lit, Utf8.bytesOf_cons]
  have hcut := Text.pieces_append_separator '\x00' (Utf8.bytesOf text)
    (Utf8.bytesOf (texts.flatMap (· ++ lit "\x00")))
  rw [received, hstream, received, ← List.filter_append]
  exact congrArg _ hcut

/-- A text that begins without a NUL arrives as a first frame with this beginning. -/
theorem received_cons {b : Str} (hb : b ≠ []) (hnul : '\x00' ∉ b) (rest : Str)
    (texts : List Str) :
    ∃ frame frames, received ((b ++ rest) :: texts) = frame :: frames ∧
      Utf8.bytesOf b <+: frame := by
  have hbytes : '\x00' ∉ Utf8.bytesOf b := by rwa [nul_mem_bytesOf]
  have hne : Utf8.bytesOf b ≠ [] := fun hnil => hb (Utf8.bytesOf_injective hnil)
  obtain ⟨t, ts, hpieces⟩ := Text.exists_pieces_append (q := []) (s := Utf8.bytesOf rest) hbytes
  have hpieces : Text.pieces (lit "\x00") (Utf8.bytesOf (b ++ rest)) =
      (Utf8.bytesOf b ++ t) :: ts := by rw [Utf8.bytesOf_append]; exact hpieces
  refine ⟨Utf8.bytesOf b ++ t, ts.filter (· ≠ []) ++ received texts, ?_, List.prefix_append _ t⟩
  rw [received_cons_eq, hpieces, List.filter_cons_of_pos (by simp [hne]), List.cons_append]

end WorldCupInformer
