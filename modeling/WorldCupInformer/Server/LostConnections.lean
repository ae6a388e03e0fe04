import WorldCupInformer.Server.BlockingConnectionHandler
import WorldCupInformer.Server.Reactor

/-!
# Connections that are lost

When the byte stream of a client ends or fails, its handler closes the connection and does not
touch the registries: what is left of the session then is what the frames handled before have left.

* `sessionOver_iff`: the session is over exactly when a frame of the connection has called
  `disconnect` and nothing stood in the way of a full clean-up;
* `lost_connection_iff`: after a lost connection this never holds in the thread-per-client server,
  and in the reactor only when the pool had ended the session before.
-/

namespace WorldCupInformer

open Server

/-- Nothing is left of the session of a connection. -/
structure ConnectionsImp.SessionOver (s : ConnectionsImp) (c : ℕ) : Prop where
  unregistered : s.idToHandler.lookup c = none
  unentered : ∀ t, s.entry t ⟨c⟩ = none
  unindexed : s.clientToTopics.lookup ⟨c⟩ = none
  loggedOut : ∀ u, s.clientToUsername.lookup ⟨c⟩ = some u → u ∉ s.loggedInUsers

/-! ### What `disconnect` leaves -/

variable {s : ConnectionsImp} {c : ℕ} {h : ConnectionHandler} {t : Str}

/-- `disconnect` takes the client out of the topics of its own index. -/
theorem ConnectionsImp.entry_drop_eq_none :
    (s.drop c h).entry t h = none ↔ (s.entry t h ≠ none → t ∈ s.topicsOf h) := by
  rw [entry_drop]
  by_cases ht : t ∈ s.topicsOf h
  · simp [ht]
  · simp [ht]

/-- The topics the client is out of after a frame of it was rejected: an UNSUBSCRIBE with an
unknown id takes it out of the empty topic as well. -/
theorem Rejects.entry_eq_none {hd : HeaderTable} {s₁ : ConnectionsImp} {pre : List Call}
    {errors : List Str} (hrej : Rejects s c h hd s₁ pre errors) :
    (s₁.drop c h).entry t h = none ↔
      (s.entry t h ≠ none → t ∈ s.topicsOf h ∨ t = [] ∧ ∃ id, hd.IsUnsubscribe id) := by
  rw [ConnectionsImp.entry_drop_eq_none]
  have hcommand : ∀ {cmd : String}, cmd ≠ "UNSUBSCRIBE" →
      hd.get "COMMAND" = some (lit cmd) → ¬ ∃ id, hd.IsUnsubscribe id := by
    rintro cmd hne hcmd ⟨id, huns⟩
    rw [huns.command] at hcmd
    exact hne (lit_inj.1 (Option.some.inj hcmd)).symm
  cases hrej with
  | connectMalformed hcmd => simp [hcommand (by decide) hcmd]
  | @connect v host u p hcon =>
    have hent : (s.checked u p).entry t h = s.entry t h :=
      (ConnectionsImp.SameClient.checked u p).entry t
    have htopics : (s.checked u p).topicsOf h = s.topicsOf h := by
      unfold ConnectionsImp.checked
      split_ifs <;> rfl
    simp [hent, htopics, hcommand (by decide) hcon.command]
  | disconnect hcmd => simp [hcommand (by decide) hcmd]
  | sendMalformed hcmd => simp [hcommand (by decide) hcmd]
  | send hcmd => simp [hcommand (by decide) hcmd]
  | subscribeMalformed hcmd => simp [hcommand (by decide) hcmd]
  | subscribe hsub => simp [hcommand (by decide) hsub.command]
  | unsubscribeMalformed hcmd hill =>
    have hnot : ¬ ∃ id, hd.IsUnsubscribe id := fun hid =>
      hill ((unsubscribe_legal_iff hcmd).2 hid)
    simp [hnot]
  | unsubscribe huns htop hent =>
    constructor
    · exact fun hall hne => .inl (hall hne)
    · intro hall hne
      refine (hall hne).resolve_right fun hand => ?_
      rw [hand.1] at hne
      exact hne hent
  | unsubscribeEmpty huns =>
    have htopics : (s.dropEntry [] h).topicsOf h = s.topicsOf h := rfl
    rw [ConnectionsImp.entry_dropEntry, htopics]
    by_cases ht : t = []
    · simp [ht, Exists.intro _ huns]
    · simp [ht]

/-- Every topic that has the client is in the client's own index when the message comes, except
perhaps the empty topic, which an UNSUBSCRIBE can clear. -/
def Server.Covered (s : Server) (c : ℕ) (msg : Str) : Prop :=
  ∀ t, s.connections.entry t ⟨c⟩ ≠ none → t ∈ s.connections.topicsOf ⟨c⟩ ∨
    t = [] ∧ Decodes msg fun hd => ∃ id, hd.IsUnsubscribe id

theorem Server.entry_of_disconnect {s : Server} (hs : s.WellFormed) {msg : Str}
    (hcall : Call.disconnect c ∈ (s.handle (.message c msg)).calls) :
    (∀ t, (s.step (.message c msg)).connections.entry t ⟨c⟩ = none) ↔ s.Covered c msg := by
  unfold Server.step Covered
  rcases handle_message hs.backed c msg with ⟨hd, hmsg, he⟩ | heq
  · have hdecodes : Decodes msg (fun hd => ∃ id, hd.IsUnsubscribe id) ↔
        ∃ id, hd.IsUnsubscribe id := by simp [Decodes, hmsg]
    simp only [hdecodes]
    obtain ⟨-, h, hreg, ⟨s₁, pre, errors, hrej, heq⟩ | ⟨r, hdis, heq⟩⟩ := he.ended_of_call hcall
    · obtain ⟨rfl, -⟩ := hs.handlers c h hreg
      rw [heq]
      exact forall_congr' fun t => hrej.entry_eq_none
    · obtain ⟨rfl, -⟩ := hs.handlers c h hreg
      have hnot : ¬ ∃ id, hd.IsUnsubscribe id := fun ⟨id, huns⟩ => by
        have hcmd := huns.command
        rw [hdis.command] at hcmd
        simp at hcmd
      rw [heq]
      simp [ConnectionsImp.entry_drop_eq_none, hnot]
  · rw [heq] at hcall
    exact absurd hcall List.not_mem_nil

theorem Server.unindexed_of_disconnect {s : Server} (hs : s.WellFormed) {msg : Str}
    (hcall : Call.disconnect c ∈ (s.handle (.message c msg)).calls) :
    (s.step (.message c msg)).connections.clientToTopics.lookup ⟨c⟩ = none := by
  unfold Server.step
  rcases handle_message hs.backed c msg with ⟨hd, -, he⟩ | heq
  · obtain ⟨-, h, s₁, hreg, heq, -⟩ := he.dropped_of_call hcall
    obtain ⟨rfl, -⟩ := hs.handlers c h hreg
    rw [heq]
    exact AList.lookup_erase _ _
  · rw [heq] at hcall
    exact absurd hcall List.not_mem_nil

/-! ### When a session is over -/

/-- A frame of the connection has called `disconnect`, at a moment when no topic had the client
that its own index did not have. -/
def EndedCleanly (es : List Event) (c : ℕ) : Prop :=
  ∃ pre msg post, Disconnected es c pre msg post ∧ (atServer pre).Covered c msg

/-- No registered connection is logged in under the username of the connection. -/
def NameFree (es : List Event) (c : ℕ) : Prop :=
  ∀ u, (atServer es).connections.clientToUsername.lookup ⟨c⟩ = some u →
    ∀ i, ¬ (atServer es).connections.SessionOf i u

/-- **A session is over exactly when a frame has ended it cleanly and nobody has taken its
username.** -/
theorem sessionOver_iff {es : List Event} (hlt : c < (atServer es).accepted) :
    (atServer es).connections.SessionOver c ↔ EndedCleanly es c ∧ NameFree es c := by
  have hlogged : ∀ u, u ∉ (atServer es).connections.loggedInUsers ↔
      ∀ i, ¬ (atServer es).connections.SessionOf i u := fun u => by
    rw [(wellFormed_atServer es).logged, not_exists]
  have hentries : ∀ {pre msg post}, Disconnected es c pre msg post →
      ((∀ t, (atServer es).connections.entry t ⟨c⟩ = none) ↔ (atServer pre).Covered c msg) := by
    intro pre msg post hdis
    rw [← entry_of_disconnect (wellFormed_atServer pre) hdis.call, hdis.atServer_eq]
    exact forall_congr' fun t => by rw [(hdis.gone_step.sameClient post).entry t]
  constructor
  · intro hover
    obtain ⟨pre, msg, post, hdis⟩ :=
      (unregistered_iff_disconnected es c).1 ⟨hlt, hover.unregistered⟩
    exact ⟨⟨pre, msg, post, hdis, (hentries hdis).1 hover.unentered⟩,
      fun u hu => (hlogged u).1 (hover.loggedOut u hu)⟩
  · rintro ⟨⟨pre, msg, post, hdis, hcov⟩, hfree⟩
    refine ⟨hdis.gone.unregistered, (hentries hdis).2 hcov, ?_,
      fun u hu => (hlogged u).2 (hfree u hu)⟩
    rw [hdis.atServer_eq, (hdis.gone_step.sameClient post).topics]
    exact unindexed_of_disconnect (wellFormed_atServer pre) hdis.call

/-! ### Lost connections in the two servers -/

/-- The stream of a connection that is being read ends or fails. -/
def BaseServer.Lost (k : BaseServer) (c : ℕ) (e : ThreadEvent) : Prop :=
  k.Reading c ∧ (e = .endOfStream c ∨ e = .ioException c)

/-- `chan.read` returns `-1` or throws. -/
def Reactor.Lost (k : Reactor) (c : ℕ) (result : IoResult) : Prop :=
  (∃ writable rest, k.pc = .read c writable rest) ∧ ∀ buf, result ≠ .bytes buf

theorem BaseServer.lost_server {k : BaseServer} {e : ThreadEvent} (hlost : k.Lost c e) :
    (k.step e).server = k.server := by
  rcases hlost with ⟨hread, rfl | rfl⟩ <;> simp [BaseServer.step, hread]

theorem Reactor.lost_server {k : Reactor} {result : IoResult} (hlost : k.Lost c result) :
    (k.step (.selector result)).server = k.server := by
  obtain ⟨⟨writable, rest, hpc⟩, -⟩ := hlost
  simp [Reactor.step, Reactor.selectorStep, hpc]

/-- **A lost connection does not end its session.**  In the thread-per-client server the session of
a lost connection is never over; in the reactor it is over exactly when the frames that the pool has
handled before had ended it cleanly and nobody has taken its username. -/
theorem lost_connection_iff (c : ℕ) (threads : List ThreadEvent) (es : List ReactorEvent) :
    (∀ e, (BaseServer.run threads).Lost c e →
      ¬ (BaseServer.run (threads ++ [e])).server.connections.SessionOver c) ∧
    (∀ result, (Reactor.run es).Lost c result →
      ((Reactor.run (es ++ [.selector result])).server.connections.SessionOver c ↔
        EndedCleanly (Reactor.serverEvents es) c ∧ NameFree (Reactor.serverEvents es) c)) := by
  constructor
  · intro e hlost hover
    have hreg := BaseServer.registered_of_reading hlost.1
    have hrun : BaseServer.run (threads ++ [e]) = (BaseServer.run threads).step e :=
      Machine.run_append _ _ _
    have hnone := hover.unregistered
    rw [hrun, BaseServer.lost_server hlost, hreg] at hnone
    cases hnone
  · intro result hlost
    have hrun : Reactor.run (es ++ [.selector result]) =
        (Reactor.run es).step (.selector result) := Machine.run_append _ _ _
    obtain ⟨writable, rest, hpc⟩ := hlost.1
    have hmem : c ∈ (Reactor.run es).pc.connections := by simp [hpc, SelectorPc.connections]
    have hlt := Reactor.accepted_of_mem hmem
    rw [Reactor.run_server] at hlt
    rw [hrun, Reactor.lost_server hlost, Reactor.run_server]
    exact sessionOver_iff hlt

/-- A client logs in as `alice`, byte by byte, and is lost. -/
def aliceBytes : List ThreadEvent :=
  .accept :: (LineMessageEncoderDecoder.encode
    "CONNECT\naccept - version :1.2\nhost :h\nlogin :alice\npasscode :pw\n\n").map (.byte 0)

theorem not_forall_sessionOver : ¬ (
    (∀ es c e, (BaseServer.run es).Lost c e →
      (BaseServer.run (es ++ [e])).server.connections.SessionOver c) ∧
    (∀ es c result, (Reactor.run es).Lost c result →
      (Reactor.run (es ++ [.selector result])).server.connections.SessionOver c)) := by
  rintro ⟨hall, -⟩
  have hread : (BaseServer.run aliceBytes).Reading 0 := by decide +kernel
  have hreg : (BaseServer.run
      (aliceBytes ++ [.endOfStream 0])).server.connections.idToHandler.lookup 0 ≠ none := by
    decide +kernel
  exact hreg (hall aliceBytes 0 (.endOfStream 0) ⟨hread, .inl rfl⟩).unregistered

/-- A client of the reactor sends a SEND without a destination, which is rejected, and is lost
after the pool has handled it. -/
def rejectedBytes : List ReactorEvent :=
  [.select [.accept], .selector .ioException, .selector .ioException, .selector .ioException,
    .select [.channel 0 true false], .selector .ioException, .selector .ioException,
    .selector (.bytes (LineMessageEncoderDecoder.encode "SEND\na :b\n\n")), .selector .ioException,
    .selector .ioException] ++ List.replicate 20 (.pool 0) ++
  [.select [.channel 0 true false], .selector .ioException, .selector .ioException,
    .selector .ioException]

theorem rejectedBytes_over :
    (¬ (BaseServer.run ([.accept] ++ [.ioException 0])).server.connections.SessionOver 0) ∧
    ((Reactor.run (rejectedBytes ++ [.selector .endOfStream])).server.connections.SessionOver 0 ↔
      EndedCleanly (Reactor.serverEvents rejectedBytes) 0 ∧
        NameFree (Reactor.serverEvents rejectedBytes) 0) := by
  have hlost : (BaseServer.run [.accept]).Lost 0 (.ioException 0) := ⟨by decide +kernel, .inr rfl⟩
  have hlost' : (Reactor.run rejectedBytes).Lost 0 .endOfStream :=
    ⟨⟨false, [], by decide +kernel⟩, fun _ h => by cases h⟩
  have hiff := lost_connection_iff 0 [.accept] rejectedBytes
  exact ⟨hiff.1 _ hlost, hiff.2 _ hlost'⟩

end WorldCupInformer
