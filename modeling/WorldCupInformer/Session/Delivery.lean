import WorldCupInformer.Session.Publications

/-!
# What the clients of a network get

What holds of every run of a `Network` with any number of clients, in which the commands, the
messages, the frames and the losses of connections interleave in any way.

* `History.delivered_once`: a client gets every publication of its topics once, in the order of the
  server's log, and nothing that has not been published;
* `History.published_in_order`: a publication is a report of its sender, and the server publishes
  the reports of a client in the order in which they have been typed;
* `History.published_all`: none is missing, but for a lost connection;
* `History.tables_of_arrivals`: what a client knows of a game is what has arrived;
* `History.unhandled_frameTo`: what has not arrived is on its way;
* `History.subscribers_agree`: so two clients that have got the same publications on a game print
  the same summaries.
-/

namespace WorldCupInformer

open Client (CppException StompProtocol)

namespace Publication

/-- The publications on a game. -/
def onGame (g : Str) (pubs : List Publication) : List Publication :=
  pubs.filter fun pub => Utf8.bytesOf pub.destination = lit "/" ++ g

end Publication

theorem Publication.onGame_append (g : Str) (pubs pubs' : List Publication) :
    onGame g (pubs ++ pubs') = onGame g pubs ++ onGame g pubs' := List.filter_append ..

theorem reportsOn_onGame (g u : Str) (pubs : List Publication) : reportsOn g u pubs =
    ((Publication.onGame g pubs).filter fun pub =>
      pub.username.map Utf8.bytesOf = some u).map fun pub => Utf8.bytesOf pub.body := by
  rw [reportsOn, Publication.onGame, List.filter_filter]
  simp only [Bool.decide_and, Bool.and_comm]

namespace Network

/-- What can be computed of a client of a fixed network. -/
theorem exists_client {α : Type} {n : Network} {c : ℕ} {f : StompProtocol → α} {a : α}
    (h : (n.client c).toOption.map f = some a) : ∃ p, n.client c = .ok p ∧ f p = a :=
  Session.exists_client (s := n.session c) h

def bob : Word := ⟨"bob", by decide, by simp [lit, Client.isSpace], by decide⟩

def eve : Word := ⟨"eve", by decide, by simp [lit, Client.isSpace], by decide⟩

def pass : Word := ⟨"pw", by decide, by simp [lit, Client.isSpace], by decide⟩

def otherGame : Word := ⟨"c_d", by decide, by simp [lit, Client.isSpace], by decide⟩

def address : Word := ⟨"127.0.0.1:7777", by decide, by simp [lit, Client.isSpace], by decide⟩

end Network

namespace History

open Network (bob eve pass otherGame address)

variable {es : List Network.Event}

/-- Bob and Eve log in and join a game, Bob reports a goal, and Eve has handled its frame. -/
def goalRun : List Network.Event :=
  [.login address bob pass, .login address eve pass, .serve 0, .serve 1, .deliver 1, .deliver 0,
    .join 0 Session.game, .join 1 Session.game, .serve 1, .serve 0, .deliver 0, .deliver 1,
    .report 0 (some ⟨"a", "b", [Client.goal "goals" "1"]⟩), .serve 0, .deliver 1]

theorem plain_goal (teamA teamB : Str) :
    Client.NamesAndEvents.Plain ⟨teamA, teamB, [Client.goal "goals" "1"]⟩ := by
  refine List.forall_mem_singleton.2 ⟨?_, by decide⟩
  unfold Client.Event.NulFree
  decide +kernel

theorem along_goalRun : Machine.Along step Plain {} goalRun :=
  ⟨trivial, trivial, trivial, trivial, trivial, trivial, trivial, trivial, trivial, trivial,
    trivial, trivial, plain_goal "a" "b", trivial, trivial, trivial⟩

/-- **Every publication is delivered once.**  The MESSAGE frames a client has handled, followed by
those on their way to it, are those of the publications that go to it, in the order in which the
server has accepted them. -/
theorem delivered_once (hes : Machine.Along step Plain {} es) (c : ℕ) :
    ((after es).handled c ++ (after es).network.toClient c).filter isMessage =
      (after es).log.filterMap (·.frameTo c) := by
  obtain ⟨u, hpeer⟩ := (Inv.after hes).peers c
  exact hpeer.arrivals

/-- Eve has handled the frame of Bob's report, and Bob's copy is on its way. -/
theorem delivered_once_goalRun :
    ((after goalRun).log.length = 1 ∧ ((after goalRun).handled 1).length = 3 ∧
      ((after goalRun).network.toClient 0).length = 1) ∧
    ∀ c, ((after goalRun).handled c ++ (after goalRun).network.toClient c).filter isMessage =
      (after goalRun).log.filterMap (·.frameTo c) :=
  ⟨by decide +kernel, delivered_once along_goalRun⟩

/-- **Reports are published in order, under the name of their user.** -/
theorem published_in_order (hes : Machine.Along step Plain {} es) :
    (∀ pub ∈ (after es).log, ∃ u : Word,
      pub.username = some u.text ∧ IsReport u.text pub.destination pub.body) ∧
    ∀ c, Publication.contents c (after es).log <+: (after es).reported c := by
  have hinv := Inv.after hes
  refine ⟨fun pub hpub => (hinv.authentic pub hpub).report, fun c => ?_⟩
  obtain ⟨u, hpeer⟩ := hinv.peers c
  exact hpeer.published

theorem published_in_order_goalRun :
    (∀ pub ∈ (after goalRun).log, ∃ u : Word,
      pub.username = some u.text ∧ IsReport u.text pub.destination pub.body) ∧
    ∀ c, Publication.contents c (after goalRun).log <+: (after goalRun).reported c :=
  published_in_order along_goalRun

/-- **No report is lost** unless its connection breaks: as long as the server has not dropped a
client, what the client has typed and the server has not published is on its way. -/
theorem published_all (hes : Machine.Along step Plain {} es) {c : ℕ} {p : StompProtocol}
    (hp : (after es).network.client c = .ok p) (hwritable : p.handler.writable = true)
    (hreg : (after es).network.server.connections.idToHandler.lookup c ≠ none) :
    Publication.contents c (after es).log ++ ((after es).network.toServer c).filterMap sendOf =
      (after es).reported c := by
  obtain ⟨u, hpeer⟩ := (Inv.after hes).peers c
  obtain ⟨lost, hlost, hnone⟩ := hpeer.pending hreg
  rw [hnone p hp hwritable, List.append_nil] at hlost
  exact hlost

theorem published_all_goalRun : ∃ p, (after goalRun).network.client 0 = .ok p ∧
    p.handler.writable = true ∧ Publication.contents 0 (after goalRun).log ++
      ((after goalRun).network.toServer 0).filterMap sendOf = (after goalRun).reported 0 := by
  obtain ⟨hbob, hreg⟩ :
      ((after goalRun).network.client 0).toOption.map (·.handler.writable) = some true ∧
      (after goalRun).network.server.connections.idToHandler.lookup 0 ≠ none := by decide +kernel
  obtain ⟨p, hp, hwritable⟩ := Network.exists_client hbob
  exact ⟨p, hp, hwritable, published_all along_goalRun hp hwritable hreg⟩

/-- **What a client knows is what has arrived.**  The entry of every game and user is the one made
of their reports among the publications whose frames the client has handled. -/
theorem tables_of_arrivals (hes : Machine.Along step Plain {} es) {c : ℕ} {p : StompProtocol}
    (hp : (after es).network.client c = .ok p) (hopen : p.handler.connected = true) :
    ReadFromAll p.gameToEvents ((Publication.forClient c (after es).log).take
      (((after es).handled c).filter isMessage).length) := by
  obtain ⟨u, hpeer⟩ := (Inv.after hes).peers c
  exact hpeer.tables p hp hopen

/-- The client has handled all there is for it. -/
theorem take_forClient (hes : Machine.Along step Plain {} es) {c : ℕ}
    (hnone : ∀ frame ∈ (after es).network.toClient c, isMessage frame = false) :
    (Publication.forClient c (after es).log).take (((after es).handled c).filter isMessage).length =
      Publication.forClient c (after es).log := by
  obtain ⟨u, hpeer⟩ := (Inv.after hes).peers c
  refine List.take_of_length_le ?_
  have harrivals : ((after es).handled c ++ (after es).network.toClient c).filter isMessage =
      (after es).log.filterMap (·.frameTo c) := hpeer.arrivals
  have hcount := congrArg List.length harrivals
  have hrest : ((after es).network.toClient c).filter isMessage = [] :=
    List.filter_eq_nil_iff.2 fun frame hframe => by simp [hnone frame hframe]
  rw [List.filter_append, hrest, List.append_nil, length_filterMap] at hcount
  exact hcount.ge

/-- The publications for client `c` whose frames it has not handled. -/
def unhandled (h : History) (c : ℕ) : List Publication :=
  (Publication.forClient c h.log).drop ((h.handled c).filter isMessage).length

theorem filterMap_frameTo_forClient {c : ℕ} {log pubs : List Publication}
    (h : ∀ pub ∈ pubs, pub ∈ Publication.forClient c log) :
    (pubs.filterMap (·.frameTo c)).map some = pubs.map (·.frameTo c) := by
  have hall : (pubs.filter fun pub => (pub.frameTo c).isSome) = pubs :=
    List.filter_eq_self.2 fun pub hpub => (List.mem_filter.1 (h pub hpub)).2
  rw [map_filterMap_some, hall]

/-- **What a client has not handled** are the publications whose frames are on their way to it. -/
theorem unhandled_frameTo (hes : Machine.Along step Plain {} es) (c : ℕ) :
    ((after es).unhandled c).filterMap (·.frameTo c) =
      ((after es).network.toClient c).filter isMessage := by
  obtain ⟨u, hpeer⟩ := (Inv.after hes).peers c
  have harrivals : ((after es).handled c ++ (after es).network.toClient c).filter isMessage =
      (after es).log.filterMap (·.frameTo c) := hpeer.arrivals
  rw [List.filter_append] at harrivals
  refine List.map_injective_iff.2 (Option.some_injective Str) ?_
  rw [unhandled, filterMap_frameTo_forClient fun pub hpub => List.mem_of_mem_drop hpub,
    List.map_drop]
  have hall := map_filterMap_some (f := fun pub : Publication => pub.frameTo c) (after es).log
  rw [← harrivals, List.map_append] at hall
  rw [Publication.forClient, ← hall, ← List.length_map (f := some), List.drop_left]

/-- Of a game none of whose publications is on its way, a client has handled all. -/
theorem onGame_take_forClient {h : History} {c : ℕ} {g : Str}
    (hnone : Publication.onGame g (h.unhandled c) = []) :
    Publication.onGame g ((Publication.forClient c h.log).take
      ((h.handled c).filter isMessage).length) =
        Publication.onGame g (Publication.forClient c h.log) := by
  have hsplit := List.take_append_drop ((h.handled c).filter isMessage).length
    (Publication.forClient c h.log)
  conv_rhs => rw [← hsplit, Publication.onGame_append]
  rw [show Publication.onGame g ((Publication.forClient c h.log).drop _) = [] from hnone,
    List.append_nil]

/-- **Subscribers agree.**  Two connected clients to which the same publications on a game have been
sent, none of which is still on its way, hold the same entries for the game, and they print the same
summaries of it. -/
theorem subscribers_agree (hes : Machine.Along step Plain {} es) {c d : ℕ} {p q : StompProtocol}
    (hp : (after es).network.client c = .ok p) (hq : (after es).network.client d = .ok q)
    (hopen : p.handler.connected = true) (hopen' : q.handler.connected = true) {g : Str}
    (hc : Publication.onGame g ((after es).unhandled c) = [])
    (hd : Publication.onGame g ((after es).unhandled d) = [])
    (hpubs : Publication.onGame g (Publication.forClient c (after es).log) =
      Publication.onGame g (Publication.forClient d (after es).log)) :
    (∀ u, Dict.lookup₂ p.gameToEvents g u = Dict.lookup₂ q.gameToEvents g u) ∧
      ∀ (parameters : List Str) (files : Dict Str Str), parameters[1]? = some g →
        p.handleSummaryRequest parameters files = q.handleSummaryRequest parameters files := by
  have hentries : ∀ u, Dict.lookup₂ p.gameToEvents g u = Dict.lookup₂ q.gameToEvents g u := by
    intro u
    have hpread := tables_of_arrivals hes hp hopen g u
    have hqread := tables_of_arrivals hes hq hopen' g u
    rw [reportsOn_onGame, onGame_take_forClient hc, hpubs] at hpread
    rw [reportsOn_onGame, onGame_take_forClient hd, hpread] at hqread
    exact Except.ok.inj hqread
  refine ⟨hentries, fun parameters files hgame => ?_⟩
  have hat : Client.vectorAt parameters 1 = .ok g := by simp [Client.vectorAt, hgame]
  simp only [handleSummaryRequest_eq, hat, Client.ok_bind, hentries]

/-- Bob handles his copy, and reports on another game.  The frames of that report are on their
way. -/
def otherGameRun : List Network.Event :=
  goalRun ++ [.deliver 0, .join 0 otherGame, .join 1 otherGame, .serve 0, .serve 1, .deliver 0,
    .deliver 1, .report 0 (some ⟨"c", "d", [Client.goal "goals" "1"]⟩), .serve 0]

theorem subscribers_agree_otherGameRun :
    (∀ c < 2, ((after otherGameRun).unhandled c).length = 1) ∧
    ∃ p q, (after otherGameRun).network.client 0 = .ok p ∧
      (after otherGameRun).network.client 1 = .ok q ∧
      (∀ u, Dict.lookup₂ p.gameToEvents "a_b" u = Dict.lookup₂ q.gameToEvents "a_b" u) ∧
      ∀ (parameters : List Str) (files : Dict Str Str), parameters[1]? = some (lit "a_b") →
        p.handleSummaryRequest parameters files = q.handleSummaryRequest parameters files := by
  have hes : Machine.Along step Plain {} otherGameRun :=
    (Machine.along_append ..).2 ⟨along_goalRun, trivial, trivial, trivial, trivial, trivial,
      trivial, trivial, plain_goal "c" "d", trivial, trivial⟩
  obtain ⟨hbob, heve, hall⟩ :
      ((after otherGameRun).network.client 0).toOption.map (·.handler.connected) = some true ∧
      ((after otherGameRun).network.client 1).toOption.map (·.handler.connected) = some true ∧
      ∀ pub ∈ (after otherGameRun).log,
        (pub.frameTo 0).isSome = true ∧ (pub.frameTo 1).isSome = true := by decide +kernel
  obtain ⟨hone, hnone⟩ : (∀ c < 2, ((after otherGameRun).unhandled c).length = 1) ∧
      ∀ c < 2, (Publication.onGame "a_b" ((after otherGameRun).unhandled c)).length = 0 := by
    decide +kernel
  obtain ⟨p, hp, hopen⟩ := Network.exists_client hbob
  obtain ⟨q, hq, hopen'⟩ := Network.exists_client heve
  have hpubs := (List.filter_eq_self.2 fun pub hpub => (hall pub hpub).1).trans
    (List.filter_eq_self.2 fun pub hpub => (hall pub hpub).2).symm
  exact ⟨hone, p, q, hp, hq, subscribers_agree hes hp hq hopen hopen'
    (List.length_eq_zero_iff.1 (hnone 0 (by omega)))
    (List.length_eq_zero_iff.1 (hnone 1 (by omega))) (congrArg _ hpubs)⟩

end History

end WorldCupInformer
