import WorldCupInformer.Session.UserClients

/-!
# Publications on their way

The invariant of the runs of a `Network`, and that every step keeps it.

* `Peer.Inv`: what holds of one client, its two channels, and what it has handled and reported: the
  frames of publications it has handled and those on their way are the ones of the log, its tables
  are what it has read, and what it has reported has been published, is on its way or is lost;
* `Peer.Inv.typed`, `Peer.Inv.deliver`, `Peer.Inv.lose`: the steps of the client;
* `Peer.Inv.publish`, `Peer.Inv.answered`: what a step of the server means for one client;
* `History.Inv`: what holds of the server, its log and all clients;
* `History.Inv.step`, `History.Inv.after`: every step keeps it, and so it holds after every run.
-/

namespace WorldCupInformer

open Client (natToString CppException StompProtocol)

/-! ### Logs -/

section Filters

variable {α β : Type*} {f : α → Option β}

theorem map_filterMap_some (l : List α) :
    (l.filterMap f).map some = (l.filter fun a => (f a).isSome).map f := by
  induction l with
  | nil => rfl
  | cons a l ih => cases h : f a <;> simp [h, ih]

/-- An element of a filtered list comes from one of the list that was filtered. -/
theorem exists_split_of_filterMap {l : List α} {as bs : List β} {b : β}
    (h : l.filterMap f = as ++ b :: bs) : ∃ pre a post,
      (l.filter fun a => (f a).isSome) = pre ++ a :: post ∧ pre.length = as.length ∧
        f a = some b := by
  have hmap := map_filterMap_some (f := f) l
  rw [h, List.map_append, List.map_cons] at hmap
  obtain ⟨pre, rest, hsplit, hpre, hrest⟩ := List.map_eq_append_iff.1 hmap.symm
  obtain ⟨a, post, rfl, ha, -⟩ := List.map_eq_cons_iff.1 hrest
  exact ⟨pre, a, post, hsplit, by simpa using congrArg List.length hpre, ha⟩

theorem length_filterMap (l : List α) :
    (l.filterMap f).length = (l.filter fun a => (f a).isSome).length := by
  simpa using congrArg List.length (map_filterMap_some (f := f) l)

end Filters

namespace Publication

/-- What client `c` has published. -/
def contents (c : ℕ) (log : List Publication) : List (Str × Str) :=
  (log.filter (·.sender = c)).map content

/-- The publications client `c` is subscribed to. -/
def forClient (c : ℕ) (log : List Publication) : List Publication :=
  log.filter fun pub => (pub.frameTo c).isSome

end Publication

/-- A frame is one of a publication. -/
def isMessage (frame : Str) : Bool := HasCommand "MESSAGE" frame

theorem isMessage_frameTo {pub : Publication} {c : ℕ} {frame : Str}
    (h : pub.frameTo c = some frame) : isMessage frame = true := by
  obtain ⟨id, -, rfl⟩ := Option.map_eq_some_iff.1 h
  refine decide_eq_true (hasCommand_bytesOf (by simp [lit]) ?_)
  simp only [Server.messageText, List.append_assoc]
  exact List.prefix_append (lit "MESSAGE\n") _

theorem Answer.isMessage {frame : Str} (h : Answer frame) : isMessage frame = false :=
  decide_eq_false h.not_message

/-! ### One client -/

/-- What concerns one client. -/
structure Peer where
  client : Except CppException StompProtocol
  toServer : List Str
  toClient : List Str
  handled : List Str
  reported : List (Str × Str)

namespace Peer

/-- The client has not connected yet. -/
structure Fresh (x : Peer) : Prop where
  toServer : x.toServer = []
  toClient : x.toClient = []
  handled : x.handled = []
  reported : x.reported = []
  client : ∃ p, x.client = .ok p ∧ p.sentLoginRequest = false ∧ p.handler.connected = false ∧
    p.handler.writable = false

/-- The server has not handled the CONNECT of the client, if there is one. -/
structure Waiting (s : ConnectionsImp) (c : ℕ) (u : Word) (x : Peer) : Prop where
  entries : ∀ t, s.entry t ⟨c⟩ = none
  username : s.clientToUsername.lookup ⟨c⟩ = none
  messages : (x.toServer = [] ∧ ∀ p, x.client = .ok p → p.handler.writable = false) ∨
    ∃ msg msgs hd v host pw, x.toServer = msg :: msgs ∧ ReadFrom u.text msg hd ∧
      hd.IsConnect v host u.text pw ∧ ∀ m ∈ msgs, UserMessage u m

/-- The server has handled the CONNECT of the client. -/
structure Served (s : ConnectionsImp) (c : ℕ) (u : Word) (x : Peer) : Prop where
  session : s.idToHandler.lookup c = none ∨ s.clientToUsername.lookup ⟨c⟩ = some u.text
  messages : ∀ m ∈ x.toServer, UserMessage u m

/-- What holds of every client, whose user is `u`. -/
structure Inv (s : ConnectionsImp) (log : List Publication) (c : ℕ) (u : Word) (x : Peer) :
    Prop where
  client : ∀ p, x.client = .ok p → UserClient u p
  phase : x.Waiting s c u ∨ x.Served s c u
  frames : ∀ frame ∈ x.toClient, isMessage frame = true ∨ Answer frame
  /-- the frames of publications the client has handled, and those on their way -/
  arrivals : (x.handled ++ x.toClient).filter isMessage = log.filterMap (·.frameTo c)
  tables : ∀ p, x.client = .ok p → p.handler.connected = true →
    ReadFromAll p.gameToEvents
      ((Publication.forClient c log).take (x.handled.filter isMessage).length)
  published : Publication.contents c log <+: x.reported
  /-- a registered client has published all it has reported, but for what is on its way or has been
  lost with its connection -/
  pending : s.idToHandler.lookup c ≠ none → ∃ lost,
    Publication.contents c log ++ x.toServer.filterMap sendOf ++ lost = x.reported ∧
      ∀ p, x.client = .ok p → p.handler.writable = true → lost = []

namespace Inv

variable {s s' : ConnectionsImp} {log : List Publication} {c : ℕ} {u : Word} {x : Peer}
  {p : StompProtocol}

theorem length_handled_le (h : Inv s log c u x) :
    (x.handled.filter isMessage).length ≤ (Publication.forClient c log).length := by
  have hlen := congrArg List.length h.arrivals
  rw [List.filter_append, List.length_append, length_filterMap] at hlen
  exact Nat.le_of_add_right_le hlen.le

/-- The oldest message is one of the client. -/
theorem exists_readFrom (h : Inv s log c u x) {msg : Str} {msgs : List Str}
    (hcons : x.toServer = msg :: msgs) : ∃ hd, ReadFrom u.text msg hd := by
  rcases h.phase with ⟨-, -, ⟨hnil, -⟩ | ⟨msg', _, hd, _, _, _, hcons', hread, -⟩⟩ | ⟨-, hserved⟩
  · rw [hcons] at hnil
    cases hnil
  · rw [(List.cons.inj (hcons.symm.trans hcons')).1]
    exact ⟨hd, hread⟩
  · obtain ⟨hd, hread, -⟩ := hserved msg (by rw [hcons]; exact List.mem_cons_self)
    exact ⟨hd, hread⟩

/-- A command of the client. -/
theorem typed (h : Inv s log c u x) (hp : x.client = .ok p) {reports : List (Str × Str)}
    {t t' : Session} (hserver : t.link.toServer = x.toServer)
    (hclient : t.link.toClient = x.toClient) (htyped : Typed u p reports t t') :
    Inv s log c u
      { client := t'.client
        toServer := t'.link.toServer
        toClient := t'.link.toClient
        handled := x.handled
        reported := x.reported ++ reports } := by
  obtain ⟨msgs, hlink, hmsgs, hsends, hclosed⟩ := htyped.sends
  have hto : t'.link.toServer = x.toServer ++ msgs := by rw [hlink, ← hserver]; rfl
  have hfrom : t'.link.toClient = x.toClient := by rw [hlink, ← hclient]; rfl
  rw [hto, hfrom]
  exact
    { client := fun p' hp' => (htyped.client p' hp').1
      phase := by
        rcases h.phase with ⟨hent, hname, hwait⟩ | ⟨hsession, hserved⟩
        · refine .inl ⟨hent, hname, ?_⟩
          rcases hwait with
            ⟨hnil, hwritable⟩ | ⟨msg, rest, hd, v, host, pw, hcons, hread, hcon, hrest⟩
          · refine .inl ⟨by rw [hnil, hclosed (hwritable p hp)]; rfl, fun p' hp' => ?_⟩
            rw [(htyped.client p' hp').2.1]
            exact hwritable p hp
          · refine .inr ⟨msg, rest ++ msgs, hd, v, host, pw, by simp [hcons], hread, hcon, ?_⟩
            exact List.forall_mem_append.2 ⟨hrest, hmsgs⟩
        · exact .inr ⟨hsession, List.forall_mem_append.2 ⟨hserved, hmsgs⟩⟩
      frames := h.frames
      arrivals := h.arrivals
      tables := fun p' hp' hopen => by
        obtain ⟨-, hhandler, hgames, -⟩ := htyped.client p' hp'
        rw [hhandler] at hopen
        rw [hgames]
        exact h.tables p hp hopen
      published := h.published.trans (List.prefix_append _ _)
      pending := fun hreg => by
        obtain ⟨lost, hlost, hnone⟩ := h.pending hreg
        refine ⟨lost, ?_, fun p' hp' hwritable => ?_⟩
        · rw [← hlost, ← hsends, List.filterMap_append]
          cases hwritable : p.handler.writable with
          | true => simp [hnone p hp hwritable]
          | false => simp [hclosed hwritable]
        · rw [(htyped.client p' hp').2.1] at hwritable
          exact hnone p hp hwritable }

/-- A process that has ended without a connection is followed by another one. -/
theorem restart (h : Inv s log c u x) (hfresh : x.Fresh) :
    Inv s log c u { x with client := .ok {} } where
  client p hp := by
    obtain rfl := Except.ok.inj hp
    exact .start u
  phase := by
    refine h.phase.imp (fun hwait => ?_) fun hserved => ⟨hserved.session, hserved.messages⟩
    refine ⟨hwait.entries, hwait.username, .inl ⟨hfresh.toServer, fun p hp => ?_⟩⟩
    obtain rfl := Except.ok.inj hp
    rfl
  frames := h.frames
  arrivals := h.arrivals
  tables p hp hopen := by
    obtain rfl := Except.ok.inj hp
    cases hopen
  published := h.published
  pending hreg := by
    obtain ⟨lost, hlost, -⟩ := h.pending hreg
    refine ⟨lost, hlost, fun p hp hwritable => ?_⟩
    obtain rfl := Except.ok.inj hp
    cases hwritable

/-- The connection breaks. -/
theorem lose (h : Inv s log c u x) (k : ℕ) : Inv s log c u
    { x with
      client := x.client.map fun p => { p with handler := { p.handler with writable := false } }
      toServer := x.toServer.take k } := by
  have hclient : ∀ p', (x.client.map fun p : StompProtocol =>
      { p with handler := { p.handler with writable := false } }) = .ok p' →
      ∃ p, x.client = .ok p ∧ p' = { p with handler := { p.handler with writable := false } } := by
    intro p' hp'
    cases hx : x.client with
    | error e => rw [hx] at hp'; cases hp'
    | ok p => rw [hx] at hp'; exact ⟨p, rfl, (Except.ok.inj hp').symm⟩
  exact
    { client := fun p' hp' => by
        obtain ⟨p, hp, rfl⟩ := hclient p' hp'
        have hp := h.client p hp
        exact ⟨hp.keys, hp.entries, hp.written, fun hw => by (cases hw), hp.username, hp.tables⟩
      phase := by
        rcases h.phase with ⟨hent, hname, hwait⟩ | ⟨hsession, hserved⟩
        · refine .inl ⟨hent, hname, ?_⟩
          have hwritable : ∀ p', (x.client.map fun p : StompProtocol =>
              { p with handler := { p.handler with writable := false } }) = .ok p' →
              p'.handler.writable = false := by
            intro p' hp'
            obtain ⟨p, -, rfl⟩ := hclient p' hp'
            rfl
          rcases hwait with ⟨hnil, -⟩ | ⟨msg, rest, hd, v, host, pw, hcons, hread, hcon, hrest⟩
          · exact .inl ⟨by simp [hnil], hwritable⟩
          · cases k with
            | zero => exact .inl ⟨by simp, hwritable⟩
            | succ k =>
              refine .inr ⟨msg, rest.take k, hd, v, host, pw, by simp [hcons], hread, hcon, ?_⟩
              exact fun m hm => hrest m (List.mem_of_mem_take hm)
        · exact .inr ⟨hsession, fun m hm => hserved m (List.mem_of_mem_take hm)⟩
      frames := h.frames
      arrivals := h.arrivals
      tables := fun p' hp' hopen => by
        obtain ⟨p, hp, rfl⟩ := hclient p' hp'
        exact h.tables p hp hopen
      published := h.published
      pending := fun hreg => by
        obtain ⟨lost, hlost, -⟩ := h.pending hreg
        -- what the server does not get any more is lost now
        refine ⟨(x.toServer.drop k).filterMap sendOf ++ lost, ?_, fun p' hp' hw => ?_⟩
        · have hcut : x.toServer.filterMap sendOf = (x.toServer.take k).filterMap sendOf ++
              (x.toServer.drop k).filterMap sendOf := by
            rw [← List.filterMap_append, List.take_append_drop]
          rw [← hlost, hcut]
          simp only [List.append_assoc]
        · obtain ⟨p, -, rfl⟩ := hclient p' hp'
          cases hw }

/-- The oldest frame is that of the next publication. -/
theorem deliver_message (h : Inv s log c u x) (hlog : ∀ pub ∈ log, pub.Authentic)
    (hp : x.client = .ok p) (hopen : p.handler.connected = true) {frame : Str} {frames : List Str}
    (hcons : x.toClient = frame :: frames) (hmessage : isMessage frame = true) :
    ∃ p', p.processFrame frame = .ok p' ∧ UserClient u p' ∧
      (p'.handler.writable = true → p.handler.writable = true) ∧
      (p'.handler.connected = true → ReadFromAll p'.gameToEvents
        ((Publication.forClient c log).take
          ((x.handled ++ [frame]).filter isMessage).length)) := by
  have hgames := h.tables p hp hopen
  -- the publications before it are those whose frames have been handled
  have hsplit : log.filterMap (·.frameTo c) =
      x.handled.filter isMessage ++ frame :: frames.filter isMessage := by
    rw [← h.arrivals, hcons, List.filter_append, List.filter_cons_of_pos hmessage]
  obtain ⟨pre, pub, post, hfilter, hlen, hpub⟩ := exists_split_of_filterMap hsplit
  have hfor : Publication.forClient c log = pre ++ pub :: post := hfilter
  have hmem : pub ∈ log := by
    have hmem : pub ∈ Publication.forClient c log := by simp [hfor]
    exact List.mem_of_mem_filter hmem
  rw [hfor, ← hlen, List.take_left] at hgames
  obtain ⟨games, hrun, hread⟩ := hgames.concat (hlog pub hmem) hpub
  have hclient := h.client p hp
  refine ⟨_, hrun, ?_, id, fun _ => ?_⟩
  · exact ⟨hclient.keys, hclient.entries, hclient.written, hclient.connected, hclient.username,
      fun hclosed => by rw [hopen] at hclosed; cases hclosed⟩
  · have htake : pre ++ pub :: post = (pre ++ [pub]) ++ post := by simp
    have hcount : ((x.handled ++ [frame]).filter isMessage).length = (pre ++ [pub]).length := by
      simp [hmessage, hlen]
    rw [hfor, hcount, htake, List.take_left]
    exact hread

/-- The oldest frame is an answer. -/
theorem deliver_answer (h : Inv s log c u x) (hp : x.client = .ok p)
    (hopen : p.handler.connected = true) {frame : Str} (hanswer : Answer frame) :
    ∃ p', p.processFrame frame = .ok p' ∧ UserClient u p' ∧
      (p'.handler.writable = true → p.handler.writable = true) ∧
      (p'.handler.connected = true → ReadFromAll p'.gameToEvents
        ((Publication.forClient c log).take
          ((x.handled ++ [frame]).filter isMessage).length)) := by
  have hgames := h.tables p hp hopen
  obtain ⟨p', hrun, hafter⟩ := (h.client p hp).answer hanswer
  refine ⟨p', hrun, hafter.client, hafter.writable, fun hconnected => ?_⟩
  have hcount : (x.handled ++ [frame]).filter isMessage = x.handled.filter isMessage := by
    simp [hanswer.isMessage]
  rw [hafter.games hconnected, hcount]
  exact hgames

/-- The client handles its oldest frame. -/
theorem deliver (h : Inv s log c u x) (hlog : ∀ pub ∈ log, pub.Authentic) (hp : x.client = .ok p)
    (hopen : p.handler.connected = true) {frame : Str} {frames : List Str}
    (hcons : x.toClient = frame :: frames) : ∃ p', p.processFrame frame = .ok p' ∧
      Inv s log c u
        { x with client := .ok p', toClient := frames, handled := x.handled ++ [frame] } := by
  have hall : x.handled ++ [frame] ++ frames = x.handled ++ x.toClient := by simp [hcons]
  obtain ⟨p', hrun, hclient, hwritable, htables⟩ :=
    (h.frames frame (by rw [hcons]; exact List.mem_cons_self)).elim
      (h.deliver_message hlog hp hopen hcons) (h.deliver_answer hp hopen)
  refine ⟨p', hrun, ?_⟩
  exact
    { client := fun q hq => by
        obtain rfl := Except.ok.inj hq
        exact hclient
      phase := by
        rcases h.phase with ⟨hent, hname, hwait⟩ | hserved
        · refine .inl ⟨hent, hname, hwait.imp_left fun hnil => ⟨hnil.1, fun q hq => ?_⟩⟩
          obtain rfl := Except.ok.inj hq
          have hclosed := hnil.2 p hp
          by_contra hw
          rw [hwritable (by simpa using hw)] at hclosed
          cases hclosed
        · exact .inr ⟨hserved.session, hserved.messages⟩
      frames := fun f hf => h.frames f (by rw [hcons]; exact List.mem_cons_of_mem _ hf)
      arrivals := by rw [hall]; exact h.arrivals
      tables := fun q hq hconnected => by
        obtain rfl := Except.ok.inj hq
        exact htables hconnected
      published := h.published
      pending := fun hreg => by
        obtain ⟨lost, hlost, hnone⟩ := h.pending hreg
        refine ⟨lost, hlost, fun q hq hw => ?_⟩
        obtain rfl := Except.ok.inj hq
        exact hnone p hp (hwritable hw) }

/-- The server accepts a SEND. -/
theorem publish (h : Inv s log c u x) (pub : Publication) (msgs : List Str)
    (hphase : Waiting s c u { x with toServer := msgs } ∨ Served s c u { x with toServer := msgs })
    (hpublished : Publication.contents c (log ++ [pub]) <+: x.reported)
    (hpending : s.idToHandler.lookup c ≠ none → ∃ lost,
      Publication.contents c (log ++ [pub]) ++ msgs.filterMap sendOf ++ lost = x.reported ∧
        ∀ p, x.client = .ok p → p.handler.writable = true → lost = []) :
    Inv s (log ++ [pub]) c u
      { x with toServer := msgs, toClient := x.toClient ++ (pub.frameTo c).toList } := by
  have hmessage : ∀ frame ∈ (pub.frameTo c).toList, isMessage frame = true := fun frame hframe =>
    isMessage_frameTo (Option.mem_toList.1 hframe)
  exact
    { client := h.client
      phase := hphase.imp (fun h => ⟨h.entries, h.username, h.messages⟩) fun h =>
        ⟨h.session, h.messages⟩
      frames := fun frame hframe => (List.mem_append.1 hframe).elim (h.frames frame) fun hframe =>
        .inl (hmessage frame hframe)
      arrivals := by
        have hlast : [pub].filterMap (·.frameTo c) = (pub.frameTo c).toList := by
          cases h : pub.frameTo c <;> simp [h]
        rw [← List.append_assoc, List.filter_append, h.arrivals, List.filterMap_append, hlast,
          List.filter_eq_self.2 hmessage]
      tables := fun p hp hopen => by
        have hfor : Publication.forClient c (log ++ [pub]) =
            Publication.forClient c log ++ Publication.forClient c [pub] := List.filter_append ..
        rw [hfor, List.take_append_of_le_length h.length_handled_le]
        exact h.tables p hp hopen
      published := hpublished
      pending := hpending }

/-- The server answers a message of some client, and does not publish anything. -/
theorem answered (h : Inv s log c u x) (msgs : List Str) {answers : List Str}
    (hanswers : ∀ frame ∈ answers, Answer frame)
    (hphase : Waiting s' c u { x with toServer := msgs } ∨
      Served s' c u { x with toServer := msgs })
    (hpending : s'.idToHandler.lookup c ≠ none → s.idToHandler.lookup c ≠ none ∧
      msgs.filterMap sendOf = x.toServer.filterMap sendOf) :
    Inv s' log c u { x with toServer := msgs, toClient := x.toClient ++ answers } where
  client := h.client
  phase := hphase.imp (fun h => ⟨h.entries, h.username, h.messages⟩) fun h =>
    ⟨h.session, h.messages⟩
  frames frame hframe := (List.mem_append.1 hframe).elim (h.frames frame) fun hframe =>
    .inr (hanswers frame hframe)
  arrivals := by
    have hnone : answers.filter isMessage = [] :=
      List.filter_eq_nil_iff.2 fun frame hframe => by simp [(hanswers frame hframe).isMessage]
    rw [← List.append_assoc, List.filter_append, hnone, List.append_nil]
    exact h.arrivals
  tables := h.tables
  published := h.published
  pending hreg := by
    obtain ⟨hreg, hmsgs⟩ := hpending hreg
    rw [hmsgs]
    exact h.pending hreg

end Inv

end Peer

/-! ### All clients -/

namespace History

/-- What concerns client `c`. -/
def peer (h : History) (c : ℕ) : Peer where
  client := h.network.client c
  toServer := h.network.toServer c
  toClient := h.network.toClient c
  handled := h.handled c
  reported := h.reported c

/-- What holds after every run. -/
structure Inv (h : History) : Prop where
  wellFormed : h.network.server.WellFormed
  ids : h.network.server.NumberedIds
  authentic : ∀ pub ∈ h.log, pub.Authentic
  senders : ∀ pub ∈ h.log, pub.sender < h.network.server.accepted
  peers : ∀ c, ∃ u, (h.peer c).Inv h.network.server.connections h.log c u
  fresh : ∀ c, h.network.server.accepted ≤ c → (h.peer c).Fresh

/-- The strings of the events files hold no NUL, and the names of the events are one line each. -/
def Plain (_ : History) : Network.Event → Prop
  | .report _ (some infoForFrames) => infoForFrames.Plain
  | _ => True

namespace Inv

variable {h : History}

theorem start : Inv {} where
  wellFormed := Server.wellFormed_init
  ids t d id hid := by simp [ConnectionsImp.entry] at hid
  authentic pub hpub := by cases hpub
  senders pub hpub := by cases hpub
  peers c := by
    refine ⟨⟨"u", by decide, by simp [lit, Client.isSpace], by decide⟩, ?_⟩
    exact
      { client := fun p hp => by
          obtain rfl := Except.ok.inj hp
          exact .start _
        phase := .inl ⟨fun t => by simp [ConnectionsImp.entry, Dict.lookup₂], by simp,
          .inl ⟨rfl, fun p hp => by obtain rfl := Except.ok.inj hp; rfl⟩⟩
        frames := fun frame hframe => by cases hframe
        arrivals := rfl
        tables := fun p hp hopen => by
          obtain rfl := Except.ok.inj hp
          cases hopen
        published := List.nil_prefix
        pending := fun hreg => by simp at hreg }
  fresh c _ := ⟨rfl, rfl, rfl, rfl, {}, rfl, rfl, rfl, rfl⟩

/-- A client that is connected has been accepted. -/
theorem accepted_of_connected (hinv : h.Inv) {c : ℕ} {p : StompProtocol}
    (hp : h.network.client c = .ok p) (hopen : p.handler.connected = true) :
    c < h.network.server.accepted := by
  by_contra hc
  obtain ⟨p', hp', -, hclosed, -⟩ := (hinv.fresh c (not_lt.1 hc)).client
  obtain rfl := Except.ok.inj (hp.symm.trans hp')
  rw [hopen] at hclosed
  cases hclosed

/-- The log and the handled frames of a step of one client that is not a delivery. -/
structure Quiet (h : History) (c : ℕ) (e : Network.Event) (reports : List (Str × Str)) : Prop where
  published : h.network.published e = none
  handled : ∀ d, h.network.handled d e = none
  reported : ∀ d, h.network.reported d e = if d = c then reports else []

/-- A step that concerns one client only. -/
theorem of_peer (hinv : h.Inv) {h' : History} (c : ℕ)
    (hserver : h'.network.server = h.network.server) (hlog : h'.log = h.log)
    (hother : ∀ d, d ≠ c → h'.peer d = h.peer d)
    (hself : ∀ u, (h.peer c).Inv h.network.server.connections h.log c u →
      (h'.peer c).Inv h.network.server.connections h.log c u)
    (hfresh : h.network.server.accepted ≤ c → (h.peer c).Fresh → (h'.peer c).Fresh) : h'.Inv where
  wellFormed := by rw [hserver]; exact hinv.wellFormed
  ids := by rw [hserver]; exact hinv.ids
  authentic := by rw [hlog]; exact hinv.authentic
  senders := by rw [hlog, hserver]; exact hinv.senders
  peers d := by
    rw [hserver, hlog]
    obtain ⟨u, hpeer⟩ := hinv.peers d
    refine ⟨u, ?_⟩
    by_cases hd : d = c
    · subst hd
      exact hself u hpeer
    · rw [hother d hd]
      exact hpeer
  fresh d hd := by
    rw [hserver] at hd
    have hold := hinv.fresh d hd
    by_cases hdc : d = c
    · subst hdc
      exact hfresh hd hold
    · rw [hother d hdc]
      exact hold

/-- The connection takes what the command has sent. -/
theorem put (hinv : h.Inv) {c : ℕ} {e : Network.Event} {s : Session} {reports : List (Str × Str)}
    (hput : h.network.step e = h.network.put c s)
    (hrunning : h.network.server.accepted ≤ c → ∃ p, s.client = .ok p)
    (hquiet : Quiet h c e reports)
    (hdead : ∀ x, h.network.client c = .error x → s = h.network.session c ∧ reports = [])
    (htyped : ∀ p u, h.network.client c = .ok p → UserClient u p →
      Typed u p reports (h.network.session c) s) : (h.step e).Inv := by
  have hlog : (h.step e).log = h.log := by simp [History.step, hquiet.published]
  have hself : (h.step e).peer c =
      { client := s.client
        toServer := s.link.toServer
        toClient := s.link.toClient
        handled := h.handled c
        reported := h.reported c ++ reports } := by
    simp [History.peer, History.step, hput, Network.put, hquiet.handled, hquiet.reported]
  refine hinv.of_peer c (by simp [History.step, hput, Network.put]) hlog (fun d hd => ?_)
    (fun u hpeer => ?_) fun hc hold => ?_
  · simp [History.peer, History.step, hput, Network.put, hquiet.handled, hquiet.reported, hd]
  · rw [hself]
    cases hp : h.network.client c with
    | error x =>
      obtain ⟨rfl, rfl⟩ := hdead x hp
      rw [List.append_nil]
      exact hpeer
    | ok p => exact hpeer.typed hp rfl rfl (htyped p u hp (hpeer.client p hp))
  · -- before its connection opens, a command sends nothing
    obtain ⟨u, hpeer⟩ := hinv.peers c
    obtain ⟨p, hp, hlogin, hconnected, hwritable⟩ := hold.client
    obtain ⟨⟨msgs, hlink, -, hsends, hclosed⟩, hnew⟩ := htyped p u hp (hpeer.client p hp)
    obtain rfl := hclosed hwritable
    obtain rfl : [] = reports := hsends
    obtain ⟨p', hp'⟩ := hrunning hc
    obtain ⟨-, hhandler, -, hsame⟩ := hnew p' hp'
    rw [hself]
    refine ⟨?_, ?_, hold.handled, ?_, p', hp', ?_⟩
    · simpa [History.peer, hlink, Link.send, Network.session] using hold.toServer
    · simpa [History.peer, hlink, Link.send, Network.session] using hold.toClient
    · simpa [History.peer] using hold.reported
    · rw [hhandler, hsame]
      exact ⟨hlogin, hconnected, hwritable⟩

/-- Another process is started in the place of one that has not connected. -/
theorem restart (hinv : h.Inv) {c : ℕ} {e : Network.Event} {x : CppException}
    (hc : h.network.server.accepted ≤ c)
    (hrestart : h.network.step e =
      { h.network with
        client := Function.update h.network.client c (.ok {})
        unconnected := h.network.unconnected ++ [x] })
    (hquiet : Quiet h c e []) : (h.step e).Inv := by
  have hself : (h.step e).peer c = { h.peer c with client := .ok {} } := by
    simp [History.peer, History.step, hrestart, hquiet.handled, hquiet.reported]
  refine hinv.of_peer c (by simp [History.step, hrestart])
    (by simp [History.step, hquiet.published]) (fun d hd => ?_) (fun u hpeer => ?_) fun _ hold => ?_
  · simp [History.peer, History.step, hrestart, hquiet.handled, hquiet.reported, hd]
  · rw [hself]
    exact hpeer.restart (hinv.fresh c hc)
  · rw [hself]
    exact { hold with client := ⟨{}, rfl, rfl, rfl, rfl⟩ }

/-- **A command of a client.** -/
theorem command (hinv : h.Inv) {c : ℕ} {e : Network.Event} {s : Session}
    (reports : List (Str × Str)) (hstep : h.network.step e = h.network.typed c s)
    (hquiet : Quiet h c e reports)
    (hdead : ∀ x, h.network.client c = .error x → s = h.network.session c ∧ reports = [])
    (htyped : ∀ p u, h.network.client c = .ok p → UserClient u p →
      Typed u p reports (h.network.session c) s) : (h.step e).Inv := by
  rcases h.network.typed_cases c s with ⟨hput, hrunning⟩ | ⟨x, -, hc, hrestart⟩
  · exact hinv.put (hstep.trans hput) hrunning hquiet hdead htyped
  · obtain ⟨u, hpeer⟩ := hinv.peers c
    obtain ⟨p, hp, -, -, hwritable⟩ := (hinv.fresh c hc).client
    -- what has not connected has written nothing
    obtain ⟨⟨msgs, -, -, hsends, hclosed⟩, -⟩ := htyped p u hp (hpeer.client p hp)
    obtain rfl := hclosed hwritable
    obtain rfl : [] = reports := hsends
    exact hinv.restart hc (hstep.trans hrestart) hquiet

/-- A connection breaks. -/
theorem lose (hinv : h.Inv) (c k : ℕ) : (h.step (.lose c k)).Inv := by
  by_cases hc : c < h.network.server.accepted
  · have hstep : h.network.step (.lose c k) = h.network.lose c k := rfl
    refine hinv.of_peer c (by simp [History.step, hstep, Network.lose, hc])
      (by simp [History.step, Network.published]) (fun d hd => ?_) (fun u hpeer => ?_)
      fun hle => absurd hc (Nat.not_lt.2 hle)
    · simp [History.peer, History.step, hstep, Network.lose, hc, hd, Network.handled,
        Network.reported]
    · have hself := hpeer.lose k
      simpa [History.peer, History.step, hstep, Network.lose, hc, Network.handled,
        Network.reported] using hself
  · have hsame : h.step (.lose c k) = h := by
      have hstep : h.network.step (.lose c k) = h.network := if_neg hc
      simp [History.step, hstep, Network.published, Network.handled, Network.reported]
    rw [hsame]
    exact hinv

/-- A frame is handled. -/
theorem deliver (hinv : h.Inv) (c : ℕ) : (h.step (.deliver c)).Inv := by
  rcases h.network.deliver_cases c with ⟨hstep, hhandled⟩ |
    ⟨p, frame, frames, hp, hopen, hcons, hstep, hhandled⟩
  · have hsame : h.step (.deliver c) = h := by
      simp [History.step, hstep, Network.published, hhandled, Network.reported]
    rw [hsame]
    exact hinv
  · have hc : c < h.network.server.accepted := hinv.accepted_of_connected hp hopen
    refine hinv.of_peer c (by simp [History.step, hstep, Network.put])
      (by simp [History.step, Network.published]) (fun d hd => ?_) (fun u hpeer => ?_)
      fun hle => absurd hc (Nat.not_lt.2 hle)
    · simp [History.peer, History.step, hstep, Network.put, hd, hhandled, Network.reported]
    · obtain ⟨p', hrun, hself⟩ := hpeer.deliver hinv.authentic hp hopen hcons
      rw [← hrun] at hself
      simpa [History.peer, History.step, hstep, Network.put, hhandled, Network.reported] using hself

/-- What the server keeps of a client that has not sent the message. -/
theorem answered_other {u : Word} {c d : ℕ} {msg : Str} {x : Peer}
    (hwf : h.network.server.WellFormed) (hpeer : x.Inv h.network.server.connections h.log d u)
    (hd : d ≠ c) {answers : List Str}
    (hanswers : ∀ frame ∈ answers, Answer frame) :
    Peer.Inv (h.network.server.afterMessage c msg).connections h.log d u
      { x with toClient := x.toClient ++ answers } := by
  set s := h.network.server.connections
  set s' := (h.network.server.afterMessage c msg).connections
  have hreg : s.idToHandler.lookup d = none → s'.idToHandler.lookup d = none := fun hnone =>
    Server.step_message (P := fun conns => conns.idToHandler.lookup d = none) hwf.backed hnone
      fun hd e _ he => he.unregistered_mono hnone
  have hsame : s.SameClient s' ⟨d⟩ := by
    refine Server.step_message (P := fun conns => s.SameClient conns ⟨d⟩) hwf.backed (.refl s _)
      fun hd' e _ he => he.sameClient fun hlookup => ?_
    obtain ⟨heq, -⟩ := hwf.handlers c _ hlookup
    exact hd (congrArg ConnectionHandler.serial heq)
  refine hpeer.answered x.toServer hanswers ?_ fun hne => ⟨fun hnone => hne (hreg hnone), rfl⟩
  rcases hpeer.phase with ⟨hent, hname, hwait⟩ | ⟨hsession, hserved⟩
  · exact .inl ⟨fun t => (hsame.entry t).trans (hent t), hsame.username.trans hname, hwait⟩
  · exact .inr ⟨hsession.imp hreg fun hname => hsame.username.trans hname, hserved⟩

/-- A client whose message has been answered. -/
theorem answered_self {u : Word} {c : ℕ} {msg : Str} {msgs : List Str} {x : Peer} {hd : HeaderTable}
    (hwf : h.network.server.WellFormed) (hpeer : x.Inv h.network.server.connections h.log c u)
    (hcons : x.toServer = msg :: msgs) (hread : ReadFrom u.text msg hd)
    (hnone : h.network.server.published c msg = none) {answers : List Str}
    (hanswers : ∀ frame ∈ answers, Answer frame) :
    Peer.Inv (h.network.server.afterMessage c msg).connections h.log c u
      { x with toServer := msgs, toClient := x.toClient ++ answers } := by
  have heff := act_effect hwf.backed (c := c) (orderMsgInHash_body hread.decoded)
  rw [← Server.handle_decoded hread.decoded] at heff
  refine hpeer.answered msgs hanswers ?_ fun hreg =>
    ⟨fun hold => hreg (heff.unregistered_mono hold), ?_⟩
  · rcases hpeer.phase with ⟨-, -, hwait⟩ | ⟨hsession, hserved⟩
    · rcases hwait with ⟨hnil, -⟩ | ⟨msg', msgs', hd', v, host, pw, hcons', hread', hcon, hrest⟩
      · rw [hcons] at hnil
        cases hnil
      · obtain ⟨rfl, rfl⟩ := List.cons.inj (hcons.symm.trans hcons')
        obtain rfl := Except.ok.inj (hread.decoded.symm.trans hread'.decoded)
        refine .inr ⟨(heff.connect_done hcon).imp_right fun hlogged => ?_, hrest⟩
        obtain ⟨handler, hreg, hname⟩ := hlogged
        rwa [(hwf.handlers c handler hreg).1] at hname
    · rw [hcons] at hserved
      obtain ⟨⟨hd', hread', hcmd⟩, hrest⟩ := List.forall_mem_cons.1 hserved
      obtain rfl := Except.ok.inj (hread.decoded.symm.trans hread'.decoded)
      refine .inr ⟨hsession.imp (fun hold => heff.unregistered_mono hold) fun hname => ?_, hrest⟩
      exact (congrArg (AList.lookup _) (heff.username_same hcmd)).trans hname
  · cases hsend : sendOf msg with
    | none => simp [hcons, hsend]
    | some content =>
      have hsend' := isSend_of_sendOf hread.decoded hsend
      exact absurd (Server.dropped_of_send hwf hread.decoded hsend' hnone) hreg

theorem contents_concat (c : ℕ) (log : List Publication) (pub : Publication) :
    Publication.contents c (log ++ [pub]) =
      Publication.contents c log ++ if pub.sender = c then [pub.content] else [] := by
  rw [Publication.contents, List.filter_append, List.map_append, List.filter_cons, List.filter_nil]
  simp only [decide_eq_true_eq]
  split_ifs <;> rfl

/-- A client whose report has been published. -/
theorem published_self {u : Word} {c : ℕ} {msg : Str} {msgs : List Str} {x : Peer}
    {pub : Publication} (hpeer : x.Inv h.network.server.connections h.log c u)
    (hcons : x.toServer = msg :: msgs) (hpub : h.network.server.published c msg = some pub)
    (hpublishes : h.network.server.Publishes c u.text pub) :
    pub.username = some u.text ∧ Peer.Inv h.network.server.connections (h.log ++ [pub]) c u
      { x with toServer := msgs, toClient := x.toClient ++ (pub.frameTo c).toList } := by
  have hreg : h.network.server.connections.idToHandler.lookup c ≠ none := by
    rw [hpublishes.registered]
    simp
  obtain ⟨hsession, hserved⟩ : x.Served h.network.server.connections c u :=
    hpeer.phase.resolve_left fun hwait => hpublishes.subscribed (hwait.entries _)
  rw [hcons] at hserved
  obtain ⟨lost, hlost, hnone⟩ := hpeer.pending hreg
  have hcontents : Publication.contents c (h.log ++ [pub]) ++ msgs.filterMap sendOf ++ lost =
      x.reported := by
    rw [← hlost, hcons, contents_concat, if_pos hpublishes.sender, List.filterMap_cons,
      sendOf_of_published hpub]
    simp
  refine ⟨hpublishes.username.trans (hsession.resolve_left hreg), hpeer.publish pub msgs ?_ ?_ ?_⟩
  · exact .inr ⟨hsession, (List.forall_mem_cons.1 hserved).2⟩
  · rw [← hcontents, List.append_assoc]
    exact List.prefix_append _ _
  · exact fun _ => ⟨lost, hcontents, hnone⟩

/-- A client that has not sent the report that has been published. -/
theorem published_other {u : Word} {c d : ℕ} {x : Peer} {pub : Publication}
    (hpeer : x.Inv h.network.server.connections h.log d u) (hsender : pub.sender = c)
    (hd : d ≠ c) : Peer.Inv h.network.server.connections (h.log ++ [pub]) d u
      { x with toClient := x.toClient ++ (pub.frameTo d).toList } := by
  have hcontents : Publication.contents d (h.log ++ [pub]) = Publication.contents d h.log := by
    rw [contents_concat, if_neg (by rw [hsender]; exact fun heq => hd heq.symm), List.append_nil]
  exact hpeer.publish pub x.toServer hpeer.phase (hcontents ▸ hpeer.published)
    (hcontents ▸ hpeer.pending)

section Serve

variable {c : ℕ} {msg : Str} {msgs : List Str} (hcons : h.network.toServer c = msg :: msgs)

include hcons

theorem serve_server :
    (h.step (.serve c)).network.server = h.network.server.afterMessage c msg := by
  simp [History.step, Network.step, Network.serve, hcons]

theorem serve_log :
    (h.step (.serve c)).log = h.log ++ (h.network.server.published c msg).toList := by
  simp [History.step, Network.published, hcons]

theorem serve_peer (d : ℕ) : (h.step (.serve c)).peer d = { h.peer d with
    toServer := if d = c then msgs else h.network.toServer d
    toClient := h.network.toClient d ++
      received (sentTo ⟨d⟩ (h.network.server.handle (.message c msg)).calls) } := by
  simp [History.peer, History.step, Network.step, Network.serve, hcons, Network.handled,
    Network.reported, Function.update_apply]

theorem serve_sender (hinv : h.Inv) : c < h.network.server.accepted := by
  by_contra hc
  have hnil := (hinv.fresh c (by omega)).toServer
  simp only [History.peer, hcons] at hnil
  cases hnil

/-- A connection that has not been accepted yet, if no frame is sent to it. -/
theorem serve_fresh (hinv : h.Inv) {d : ℕ} (hd : h.network.server.accepted ≤ d)
    (hnone : received (sentTo ⟨d⟩ (h.network.server.handle (.message c msg)).calls) = []) :
    ((h.step (.serve c)).peer d).Fresh := by
  have hc := serve_sender hcons hinv
  have hold := hinv.fresh d hd
  rw [serve_peer hcons d, if_neg (by omega), hnone, List.append_nil]
  exact hold

variable {u : Word} {hd : HeaderTable}

/-- The message is published: it goes into the log, and a frame of it to each subscriber. -/
theorem serve_published (hinv : h.Inv)
    (hself : (h.peer c).Inv h.network.server.connections h.log c u)
    (hread : ReadFrom u.text msg hd) {pub : Publication}
    (hpub : h.network.server.published c msg = some pub) : (h.step (.serve c)).Inv := by
  have hwf := hinv.wellFormed
  obtain ⟨hpublishes, hconn, hframes⟩ := Server.handle_published hwf hinv.ids u.nul hread hpub
  -- the tables of the server stay as they are
  have hconn' : (h.network.server.afterMessage c msg).connections =
      h.network.server.connections := hconn
  have hserver := serve_server hcons
  have hlog := serve_log hcons
  rw [hpub] at hlog
  obtain ⟨husername, hself'⟩ := published_self hself hcons hpub hpublishes
  exact
    { wellFormed := by rw [hserver]; exact hwf.step (.message c msg)
      ids := fun t d id hid => by
        rw [hserver, hconn'] at hid
        exact hinv.ids t d id hid
      authentic := fun p hp => by
        rw [hlog] at hp
        rcases List.mem_append.1 hp with hp | hp
        · exact hinv.authentic p hp
        · obtain rfl : p = pub := List.mem_singleton.1 hp
          refine ⟨⟨u, husername, hpublishes.report⟩, fun d id hid => ?_⟩
          rw [hpublishes.subscribers d] at hid
          exact hinv.ids _ _ _ hid
      senders := fun p hp => by
        rw [hlog] at hp
        rw [hserver]
        rcases List.mem_append.1 hp with hp | hp
        · exact hinv.senders p hp
        · obtain rfl : p = pub := List.mem_singleton.1 hp
          rw [hpublishes.sender]
          exact serve_sender hcons hinv
      peers := fun d => by
        rw [serve_peer hcons, hserver, hconn', hlog, hframes]
        by_cases hdc : d = c
        · subst hdc
          rw [if_pos rfl]
          exact ⟨u, hself'⟩
        · obtain ⟨v, hother⟩ := hinv.peers d
          rw [if_neg hdc]
          exact ⟨v, published_other hother hpublishes.sender hdc⟩
      fresh := fun d hd => by
        have hd : h.network.server.accepted ≤ d := by rw [hserver] at hd; exact hd
        refine serve_fresh hcons hinv hd ?_
        -- who has not connected has not subscribed
        have hentry : pub.frameTo d = none := by
          rw [Publication.frameTo, hpublishes.subscribers d]
          cases hent : h.network.server.connections.entry pub.destination ⟨d⟩ with
          | none => rfl
          | some id => exact absurd (hwf.entered _ _ _ hent) (Nat.not_lt.2 hd)
        rw [hframes, hentry]
        rfl }

/-- The message is not published: its sender may get answers, and nobody else a frame. -/
theorem serve_answered (hinv : h.Inv)
    (hself : (h.peer c).Inv h.network.server.connections h.log c u)
    (hread : ReadFrom u.text msg hd) (hpub : h.network.server.published c msg = none) :
    (h.step (.serve c)).Inv := by
  have hwf := hinv.wellFormed
  have hserver := serve_server hcons
  have hlog := serve_log hcons
  rw [hpub, Option.toList_none, List.append_nil] at hlog
  have hanswers := fun d => Server.answers_of_not_published (d := d) hwf hread hpub
  exact
    { wellFormed := by rw [hserver]; exact hwf.step (.message c msg)
      ids := by
        rw [hserver]
        have heff := act_effect hwf.backed (c := c) (orderMsgInHash_body hread.decoded)
        rw [← Server.handle_decoded hread.decoded] at heff
        intro t d id hid
        -- a new entry is that of the SUBSCRIBE frame
        rcases heff.entry_new hid with hold | ⟨-, hsub⟩
        · exact hinv.ids t d id hold
        · exact (hread.subscribe t id hsub).2
      authentic := by rw [hlog]; exact hinv.authentic
      senders := by rw [hlog, hserver]; exact hinv.senders
      peers := fun d => by
        rw [serve_peer hcons, hserver, hlog]
        by_cases hdc : d = c
        · subst hdc
          rw [if_pos rfl]
          exact ⟨u, answered_self hwf hself hcons hread hpub (hanswers d)⟩
        · obtain ⟨v, hother⟩ := hinv.peers d
          rw [if_neg hdc]
          exact ⟨v, answered_other hwf hother hdc (hanswers d)⟩
      fresh := fun d hd => by
        have hd : h.network.server.accepted ≤ d := by rw [hserver] at hd; exact hd
        have hdc : d ≠ c := (Nat.lt_of_lt_of_le (serve_sender hcons hinv) hd).ne'
        refine serve_fresh hcons hinv hd ?_
        rw [Server.silent_of_not_published hwf hread.decoded hpub hdc]
        rfl }

end Serve

/-- A message is worked off. -/
theorem serve (hinv : h.Inv) (c : ℕ) : (h.step (.serve c)).Inv := by
  cases hcons : h.network.toServer c with
  | nil =>
    have hstep : h.network.step (.serve c) = h.network := by
      simp [Network.step, Network.serve, hcons]
    have hsame : h.step (.serve c) = h := by
      simp [History.step, hstep, Network.published, hcons, Network.handled, Network.reported]
    rw [hsame]
    exact hinv
  | cons msg msgs =>
    obtain ⟨u, hself⟩ := hinv.peers c
    obtain ⟨hd, hread⟩ := hself.exists_readFrom hcons
    cases hpub : h.network.server.published c msg with
    | some pub => exact serve_published hcons hinv hself hread hpub
    | none => exact serve_answered hcons hinv hself hread hpub

/-- A client that a new connection does not concern. -/
theorem accepted_other {s s' : Server} {log : List Publication} {c : ℕ} {u : Word} {x : Peer}
    (hs : s' = s.step .accept) (hpeer : x.Inv s.connections log c u) (hc : c ≠ s.accepted) :
    x.Inv s'.connections log c u := by
  have hreg : s'.connections.idToHandler.lookup c = s.connections.idToHandler.lookup c := by
    rw [hs, Server.step_accept, Dict.lookup_insert, if_neg hc]
  have hrest : s'.connections = { s.connections with
      idToHandler := s'.connections.idToHandler } := by
    rw [hs, Server.step_accept]
  refine { hpeer with phase := hpeer.phase.imp (fun hwait => ?_) fun hserved => ?_, pending := ?_ }
  · rw [hrest]
    exact ⟨hwait.entries, hwait.username, hwait.messages⟩
  · refine ⟨?_, hserved.messages⟩
    rw [hreg, hrest]
    exact hserved.session
  · rw [hreg]
    exact hpeer.pending

/-- A client that has just connected. -/
theorem accepted_self {s s' : Server} {log : List Publication} {c : ℕ} {u u' pw : Word} {x : Peer}
    {p : StompProtocol} (hwf : s.WellFormed) (hs : s' = s.step .accept) (hc : c = s.accepted)
    (hpeer : x.Inv s.connections log c u') (hfresh : x.Fresh) (hp : UserClient u p)
    (hgames : p.gameToEvents = ∅) :
    Peer.Inv s'.connections log c u
      { x with client := .ok p, toServer := [connectMessage u.text pw.text] } := by
  obtain ⟨hd, hread, v, host, hcon⟩ := readFrom_connect u.plain pw.plain
  have hrest : s'.connections = { s.connections with
      idToHandler := s'.connections.idToHandler } := by
    rw [hs, Server.step_accept]
  have hcontents : Publication.contents c log = [] := by
    have hpublished := hpeer.published
    rw [hfresh.reported] at hpublished
    exact List.prefix_nil.1 hpublished
  exact
    { client := fun q hq => by
        obtain rfl := Except.ok.inj hq
        exact hp
      phase := by
        refine .inl ⟨fun t => ?_, ?_, .inr ⟨_, [], hd, v, host, _, rfl, hread, hcon, by simp⟩⟩
        · rw [hrest]
          cases hent : s.connections.entry t ⟨c⟩ with
          | none => exact hent
          | some id => exact absurd (hwf.entered _ _ _ hent) (by simp [hc])
        · rw [hrest]
          cases hname : s.connections.clientToUsername.lookup ⟨c⟩ with
          | none => rfl
          | some name => exact absurd (hwf.named _ _ hname) (by simp [hc])
      frames := hpeer.frames
      arrivals := hpeer.arrivals
      tables := fun q hq _ => by
        obtain rfl := Except.ok.inj hq
        rw [hgames, hfresh.handled]
        exact readFromAll_nil
      published := hpeer.published
      pending := fun _ => by
        have hsend : sendOf (connectMessage u.text pw.text) = none :=
          sendOf_eq_none hread.decoded (by simp [hcon.command])
        exact ⟨[], by simp [hcontents, hsend, hfresh.reported], fun _ _ _ => rfl⟩ }

/-- A login that connects. -/
theorem connects (hinv : h.Inv) {c : ℕ} (hc : c = h.network.server.accepted)
    {hostPort username password : Word} {s : Session} {p' : StompProtocol}
    (hs : s = (h.network.session c).command fun p => p.handleLoginRequest
      [lit "login", hostPort.typed, username.typed, password.typed] true)
    (hclient : s.client = .ok p')
    (hstep : h.network.step (.login hostPort username password) =
      { h.network.put c s with server := h.network.server.step .accept }) :
    (h.step (.login hostPort username password)).Inv := by
  have hfresh := hinv.fresh c hc.ge
  obtain ⟨u', hself⟩ := hinv.peers c
  obtain ⟨p, hp, hlogin, hclosed, -⟩ := hfresh.client
  have hp : h.network.client c = .ok p := hp
  rw [hs] at hclient
  obtain ⟨huser, -, hgames, hlink⟩ :=
    UserClient.login (hself.client p hp) hp hlogin hclosed hclient
  rw [← hs] at hclient hlink
  have hserver : (h.step (.login hostPort username password)).network.server =
      h.network.server.step .accept := by simp [History.step, hstep]
  have hlog : (h.step (.login hostPort username password)).log = h.log := by
    simp [History.step, Network.published]
  have hother : ∀ d, d ≠ c →
      (h.step (.login hostPort username password)).peer d = h.peer d := by
    intro d hd
    simp [History.peer, History.step, hstep, Network.put, Network.handled, Network.reported, hd]
  have hnew : (h.step (.login hostPort username password)).peer c = { h.peer c with
      client := .ok p', toServer := [connectMessage username.text password.text] } := by
    have hnone : h.network.toServer c = [] := hfresh.toServer
    have hto : s.link.toServer = [connectMessage username.text password.text] := by
      rw [hlink, Link.send, Network.session, hnone]
      rfl
    have hfrom : s.link.toClient = h.network.toClient c := by
      rw [hlink]
      rfl
    simp [History.peer, History.step, hstep, Network.put, Network.handled, Network.reported,
      hclient, hto, hfrom]
  exact
    { wellFormed := by rw [hserver]; exact hinv.wellFormed.step .accept
      ids := by
        rw [hserver, Server.step_accept]
        exact hinv.ids
      authentic := by rw [hlog]; exact hinv.authentic
      senders := fun pub hpub => by
        rw [hlog] at hpub
        rw [hserver, Server.step_accept]
        exact Nat.lt_succ_of_lt (hinv.senders pub hpub)
      peers := fun d => by
        rw [hlog]
        by_cases hd : d = c
        · subst hd
          rw [hnew]
          exact ⟨username, accepted_self hinv.wellFormed hserver hc hself hfresh huser hgames⟩
        · obtain ⟨v, hpeer⟩ := hinv.peers d
          rw [hother d hd]
          exact ⟨v, accepted_other hserver hpeer (hc ▸ hd)⟩
      fresh := fun d hd => by
        rw [hserver, Server.step_accept] at hd
        rw [hother d (hc ▸ Nat.ne_of_gt hd)]
        exact hinv.fresh d (Nat.le_of_succ_le hd) }

/-- A user logs in. -/
theorem login (hinv : h.Inv) (hostPort username password : Word) :
    (h.step (.login hostPort username password)).Inv := by
  set c := h.network.server.accepted with hc
  set s := (h.network.session c).command fun p =>
    p.handleLoginRequest [lit "login", hostPort.typed, username.typed, password.typed] true with hs
  cases hclient : s.client with
  | ok p' =>
    refine hinv.connects hc hs hclient ?_
    simp only [Network.step, Network.login, ← hc, ← hs, hclient]
  | error x =>
    -- a command line that ends the process opens no connection
    obtain ⟨p, hp, -⟩ := (hinv.fresh c le_rfl).client
    have hp : h.network.client c = .ok p := hp
    refine hinv.restart (x := x) hc.ge ?_
      ⟨rfl, fun d => rfl, fun d => by simp [Network.reported]⟩
    simp only [Network.step, Network.login, ← hc, ← hs, hclient, Network.typed, lt_irrefl, if_false]

/-- **One step.** -/
theorem step (hinv : h.Inv) {e : Network.Event} (hplain : h.Plain e) : (h.step e).Inv := by
  have hdead : ∀ {c x}, h.network.client c = .error x → ∀ run,
      (h.network.session c).command run = h.network.session c := fun hx run =>
    Session.command_dead (s := h.network.session _) hx run
  cases e with
  | login hostPort username password => exact hinv.login hostPort username password
  | join c w =>
    exact hinv.command [] rfl ⟨rfl, fun d => rfl, fun d => by simp [Network.reported]⟩
      (fun x hx => ⟨hdead hx (·.handleJoinRequest [lit "join", w.typed]), rfl⟩)
      fun p u hp hu => hu.join hp c w
  | exit c w =>
    exact hinv.command [] rfl ⟨rfl, fun d => rfl, fun d => by simp [Network.reported]⟩
      (fun x hx => ⟨hdead hx (·.handleExitRequest [lit "exit", w.typed]), rfl⟩)
      fun p u hp hu => hu.exit hp c w
  | logout c =>
    exact hinv.command [] rfl ⟨rfl, fun d => rfl, fun d => by simp [Network.reported]⟩
      (fun x hx => ⟨hdead hx _, rfl⟩) fun p u hp hu => hu.logout hp
  | report c file =>
    cases file with
    | none =>
      refine hinv.command [] rfl ⟨rfl, fun d => rfl, fun d => by simp [Network.reported]⟩
        (fun x hx => ⟨hdead hx _, rfl⟩) fun p u hp hu => ?_
      have hended : ((h.network.session c).command (Network.handleReportRequest none)).client =
          .error .json := by
        simp [Session.command, Network.session, hp, Network.handleReportRequest]
      have hlink := Session.command_link_of_error (s := h.network.session c) hp hended
      refine ⟨⟨[], by simp [hlink, Link.send], by simp, rfl, fun _ => rfl⟩, fun p' hp' => ?_⟩
      rw [hended] at hp'
      cases hp'
    | some info =>
      have hreported : ∀ d, h.network.reported d (.report c (some info)) =
          if d = c then h.network.reported c (.report c (some info)) else [] := by
        intro d
        by_cases hd : d = c
        · rw [if_pos hd, hd]
        · cases hx : h.network.client d <;> simp [Network.reported, hx, hd, Ne.symm hd]
      refine hinv.command _ rfl ⟨rfl, fun d => rfl, hreported⟩
        (fun x hx => ⟨hdead hx _, by simp [Network.reported, hx]⟩) fun p u hp hu => ?_
      have hreport : Typed u p _ (h.network.session c)
          ((h.network.session c).command (Network.handleReportRequest (some info))) :=
        hu.report hp c hplain
      simpa [Network.reported, hp] using hreport
  | serve c => exact hinv.serve c
  | deliver c => exact hinv.deliver c
  | lose c k => exact hinv.lose c k

/-- **Every run.** -/
theorem after {es : List Network.Event} (hes : Machine.Along History.step History.Plain {} es) :
    (History.after es).Inv :=
  hes.invariant (fun _ _ hinv hplain => hinv.step hplain) start

end Inv

end History

end WorldCupInformer
