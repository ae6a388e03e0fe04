import WorldCupInformer.Lib.Machine
import WorldCupInformer.Server.Methods

/-!
# A broadcast among subscriptions and their ends

`send(String, T)` takes the clients of a channel from the key set of its map and looks every one up
in the map again.  Other threads change the map in the meantime: `Subscribe` puts a client into it,
`Unsubscribe` and `disconnect` take one out.

The iterator of a `ConcurrentHashMap` is weakly consistent: it hands out every client that is in the
map from the beginning until its turn, and may hand out those that have been in it for some time.

* `alone_eq_broadcastCalls`: a broadcast that is not disturbed sends what `sendToChannel` sends;
* `broadcast_tagged`: every copy has a subscription id of its recipient, as long as no recipient is
  looked up that has left (`StaysForLookup`).
-/

namespace WorldCupInformer

open ConnectionsImp

/-- Where the broadcasting thread is. -/
inductive BroadcastPc
  /-- at the head of the loop -/
  | next
  /-- at `registeredClientsToChannelMap.get(clientConnectionHandler)` -/
  | get (client : ConnectionHandler)
  /-- at `clientConnectionHandler.send(response)` -/
  | send (client : ConnectionHandler) (subscriptionId : Option Str)
  | returned
  deriving DecidableEq

/-- A step of one of the threads. -/
inductive BroadcastEvent
  /-- `topicMap.put(handler, subscriptionID)` in `Subscribe` -/
  | put (client : ConnectionHandler) (subscriptionId : Str)
  /-- `remove(handler)` in `Unsubscribe` and `disconnect` -/
  | remove (client : ConnectionHandler)
  /-- the iterator hands out a client -/
  | next (client : ConnectionHandler)
  /-- the iterator has no more clients -/
  | done
  /-- the next operation of the broadcasting thread on a client -/
  | act
  deriving DecidableEq

/-- The map of the channel, its iterator, and the broadcasting thread. -/
structure Broadcast where
  clients : Dict ConnectionHandler Str
  /-- the clients the iterator may hand out: they have been in the map since it was made -/
  offered : List ConnectionHandler
  /-- the clients the iterator has to hand out: they have always been in the map -/
  due : List ConnectionHandler
  pc : BroadcastPc := .next
  sent : List (ConnectionHandler × Str) := []

namespace Broadcast

/-- The thread has the map of the channel and an iterator of its key set. -/
def start (clients : Dict ConnectionHandler Str) : Broadcast where
  clients := clients
  offered := clients.keys
  due := clients.keys

/-- The next operation on a client: the lookup of its id, or `send` of the message made with it. -/
def act (messageId : ℕ) (channel msg : Str) (b : Broadcast) : Broadcast :=
  match b.pc with
  | .get client => { b with pc := .send client (b.clients.lookup client) }
  | .send client subscriptionId =>
    { b with
      sent := b.sent ++ [(client, buildSendMessage messageId channel subscriptionId msg)]
      pc := .next }
  | _ => b

/-- One step; a step that its thread cannot make changes nothing. -/
def step (messageId : ℕ) (channel msg : Str) (b : Broadcast) : BroadcastEvent → Broadcast
  | .put client subscriptionId =>
    { b with
      clients := b.clients.insert client subscriptionId
      offered := client :: b.offered }
  | .remove client =>
    { b with clients := b.clients.erase client, due := b.due.filter (· ≠ client) }
  | .next client =>
    if b.pc = .next ∧ client ∈ b.offered then
      { b with pc := .get client, due := b.due.filter (· ≠ client) }
    else b
  | .done => if b.pc = .next ∧ b.due = [] then { b with pc := .returned } else b
  | .act => b.act messageId channel msg

variable (messageId : ℕ) (channel msg : Str)

/-- The broadcast after some steps. -/
def run (clients : Dict ConnectionHandler Str) (es : List BroadcastEvent) : Broadcast :=
  Machine.run (step messageId channel msg) (start clients) es

/-- The client was subscribed under the id at some moment of the broadcast. -/
def SubscribedAs (clients : Dict ConnectionHandler Str) (es : List BroadcastEvent)
    (client : ConnectionHandler) (subscriptionId : Str) : Prop :=
  ∃ pre, pre <+: es ∧
    (run messageId channel msg clients pre).clients.lookup client = some subscriptionId

/-- Every copy that has been sent has such an id of its recipient in its subscription header. -/
def Tagged (clients : Dict ConnectionHandler Str) (es : List BroadcastEvent) : Prop :=
  ∀ client frame, (client, frame) ∈ (run messageId channel msg clients es).sent →
    ∃ subscriptionId, SubscribedAs messageId channel msg clients es client subscriptionId ∧
      frame = buildSendMessage messageId channel (some subscriptionId) msg

/-- A recipient that is looked up is in the map. -/
def StaysForLookup (b : Broadcast) (e : BroadcastEvent) : Prop :=
  ∀ client, e = .act → b.pc = .get client → b.clients.lookup client ≠ none

variable {messageId channel msg} {clients : Dict ConnectionHandler Str} {es : List BroadcastEvent}

/-! ### Every copy has an id of its recipient -/

theorem SubscribedAs.append {client : ConnectionHandler} {subscriptionId : Str}
    (h : SubscribedAs messageId channel msg clients es client subscriptionId)
    (es' : List BroadcastEvent) :
    SubscribedAs messageId channel msg clients (es ++ es') client subscriptionId := by
  obtain ⟨pre, hpre, hlookup⟩ := h
  exact ⟨pre, hpre.trans (List.prefix_append es es'), hlookup⟩

/-- The copies that have been sent are tagged, and so is the one that is about to be sent. -/
structure Tagging (messageId : ℕ) (channel msg : Str) (clients : Dict ConnectionHandler Str)
    (es : List BroadcastEvent) : Prop where
  sent : Tagged messageId channel msg clients es
  sending : ∀ client subscriptionId,
    (run messageId channel msg clients es).pc = .send client subscriptionId →
      ∃ id, subscriptionId = some id ∧ SubscribedAs messageId channel msg clients es client id

theorem run_concat (es : List BroadcastEvent) (e : BroadcastEvent) :
    run messageId channel msg clients (es ++ [e]) =
      (run messageId channel msg clients es).step messageId channel msg e :=
  Machine.run_append _ _ _

/-- Only the operations of the broadcasting thread on a client make a copy and send it. -/
theorem step_of_ne_act (messageId : ℕ) (channel msg : Str) (b : Broadcast) {e : BroadcastEvent}
    (he : e ≠ .act) : (b.step messageId channel msg e).sent = b.sent ∧
      ∀ client subscriptionId, (b.step messageId channel msg e).pc = .send client subscriptionId →
        b.pc = .send client subscriptionId := by
  cases e with
  | put => exact ⟨rfl, fun _ _ hpc => hpc⟩
  | remove => exact ⟨rfl, fun _ _ hpc => hpc⟩
  | next client =>
    rw [step]
    split_ifs
    · exact ⟨rfl, fun _ _ hpc => by cases hpc⟩
    · exact ⟨rfl, fun _ _ hpc => hpc⟩
  | done =>
    rw [step]
    split_ifs
    · exact ⟨rfl, fun _ _ hpc => by cases hpc⟩
    · exact ⟨rfl, fun _ _ hpc => hpc⟩
  | act => exact absurd rfl he

/-- A step that sends nothing and makes no copy. -/
theorem Tagging.of_same (h : Tagging messageId channel msg clients es) {e : BroadcastEvent}
    (hsent : (run messageId channel msg clients (es ++ [e])).sent =
      (run messageId channel msg clients es).sent)
    (hsending : ∀ client subscriptionId,
      (run messageId channel msg clients (es ++ [e])).pc = .send client subscriptionId →
        (run messageId channel msg clients es).pc = .send client subscriptionId) :
    Tagging messageId channel msg clients (es ++ [e]) where
  sent client frame hframe := by
    rw [hsent] at hframe
    obtain ⟨id, hid, heq⟩ := h.sent client frame hframe
    exact ⟨id, hid.append [e], heq⟩
  sending client subscriptionId hpc := by
    obtain ⟨id, heq, hid⟩ := h.sending client subscriptionId (hsending client subscriptionId hpc)
    exact ⟨id, heq, hid.append [e]⟩

/-- **One operation of the broadcasting thread.** -/
theorem Tagging.act (h : Tagging messageId channel msg clients es)
    (hstays : StaysForLookup (run messageId channel msg clients es) .act) :
    Tagging messageId channel msg clients (es ++ [.act]) := by
  set b := run messageId channel msg clients es with hb
  have hrun : run messageId channel msg clients (es ++ [.act]) = b.act messageId channel msg :=
    run_concat es .act
  cases hpc : b.pc with
  | next =>
    have hact : b.act messageId channel msg = b := by rw [Broadcast.act, hpc]
    exact h.of_same (by rw [hrun, hact]) (by rw [hrun, hact]; exact fun _ _ h => h)
  | returned =>
    have hact : b.act messageId channel msg = b := by rw [Broadcast.act, hpc]
    exact h.of_same (by rw [hrun, hact]) (by rw [hrun, hact]; exact fun _ _ h => h)
  | get client =>
    have hact : b.act messageId channel msg =
        { b with pc := .send client (b.clients.lookup client) } := by
      rw [Broadcast.act, hpc]
    refine ⟨fun client' frame hframe => ?_, fun client' subscriptionId hsend => ?_⟩
    · rw [hrun, hact] at hframe
      obtain ⟨id, hid, heq⟩ := h.sent client' frame hframe
      exact ⟨id, hid.append _, heq⟩
    · rw [hrun, hact] at hsend
      obtain ⟨rfl, rfl⟩ : client = client' ∧ b.clients.lookup client = subscriptionId := by
        simpa using hsend
      -- the recipient is in the map now
      obtain ⟨id, hid⟩ := Option.ne_none_iff_exists'.1 (hstays client rfl hpc)
      exact ⟨id, hid, es, List.prefix_append _ _, hid⟩
  | send client subscriptionId =>
    have hact : b.act messageId channel msg =
        { b with
          sent := b.sent ++ [(client, buildSendMessage messageId channel subscriptionId msg)]
          pc := .next } := by
      rw [Broadcast.act, hpc]
    refine ⟨fun client' frame hframe => ?_, fun client' subscriptionId hsend => ?_⟩
    · rw [hrun, hact] at hframe
      rcases List.mem_append.1 hframe with hframe | hframe
      · obtain ⟨id, hid, heq⟩ := h.sent client' frame hframe
        exact ⟨id, hid.append _, heq⟩
      · obtain ⟨rfl, rfl⟩ := Prod.mk.inj (List.mem_singleton.1 hframe)
        obtain ⟨id, rfl, hid⟩ := h.sending client' subscriptionId hpc
        exact ⟨id, hid.append _, rfl⟩
    · rw [hrun, hact] at hsend
      cases hsend

/-- **A broadcast tags each copy with its recipient's own subscription** in every run in which the
recipients stay for their lookup. -/
theorem broadcast_tagged (hes : Machine.Along (step messageId channel msg) StaysForLookup
    (start clients) es) : Tagged messageId channel msg clients es := by
  suffices h : Tagging messageId channel msg clients es from h.sent
  induction es using List.reverseRecOn with
  | nil => exact ⟨fun client frame h => absurd h List.not_mem_nil, fun client id h => nomatch h⟩
  | append_singleton es e ih =>
    obtain ⟨hes, hlast, -⟩ := (Machine.along_append _ es [e]).1 hes
    have hold := ih hes
    by_cases he : e = .act
    · subst he
      exact hold.act hlast
    · obtain ⟨hsent, hsending⟩ :=
        step_of_ne_act messageId channel msg (run messageId channel msg clients es) he
      rw [← run_concat] at hsent hsending
      exact hold.of_same hsent hsending

/-- One client is subscribed when the broadcast begins, and is disconnected or unsubscribed between
its turn in the iteration and its lookup. -/
theorem not_forall_tagged : ¬ ∀ (messageId : ℕ) (channel msg : Str)
    (clients : Dict ConnectionHandler Str) (es : List BroadcastEvent),
    Tagged messageId channel msg clients es := by
  intro hall
  set clients : Dict ConnectionHandler Str := AList.insert ⟨1⟩ (lit "0") ∅ with hclients
  set es : List BroadcastEvent := [.next ⟨1⟩, .remove ⟨1⟩, .act, .act] with hes
  have hsent : (⟨1⟩, buildSendMessage 0 (lit "/g") none (lit "goal!")) ∈
      (run 0 (lit "/g") (lit "goal!") clients es).sent := by decide +kernel
  obtain ⟨id, ⟨pre, hpre, hid⟩, heq⟩ := hall 0 (lit "/g") (lit "goal!") clients es _ _ hsent
  -- the id in the header is `null`
  have hnull : id = lit "null" := by
    simp only [buildSendMessage, List.append_assoc, List.append_cancel_left_eq] at heq
    exact (List.append_cancel_right heq).symm
  have hnever : ∀ pre ∈ es.inits, (run 0 (lit "/g") (lit "goal!") clients pre).clients.lookup ⟨1⟩ ≠
      some (lit "null") := by decide +kernel
  exact hnever pre ((List.mem_inits _ _).2 hpre) (hnull ▸ hid)

/-- The client has left and come back with another id before its lookup. -/
theorem rejoined_tagged : Tagged 0 (lit "/g") (lit "goal!") (AList.insert ⟨1⟩ (lit "0") ∅)
    [.next ⟨1⟩, .remove ⟨1⟩, .put ⟨1⟩ (lit "1"), .act, .act, .done] := by
  refine broadcast_tagged ⟨?_, ?_, ?_, ?_, ?_, ?_, trivial⟩
  · exact fun client h => nomatch h
  · exact fun client h => nomatch h
  · exact fun client h => nomatch h
  · rintro client - hpc
    obtain rfl : ⟨1⟩ = client := by simpa [step, start] using hpc
    simp [step, start]
  · rintro client - hpc
    simp [step, start, act] at hpc
  · exact fun client h => nomatch h

/-! ### The registries -/

/-- The turn of a client when no other thread does anything. -/
def turn (client : ConnectionHandler) : List BroadcastEvent := [.next client, .act, .act]

theorem run_turns {b : Broadcast} (hpc : b.pc = .next) {ds : List ConnectionHandler}
    (hds : ds ⊆ b.offered) :
    Machine.run (step messageId channel msg) b (ds.flatMap turn) =
      { b with
        due := b.due.filter (· ∉ ds)
        sent := b.sent ++ ds.map fun d =>
          (d, buildSendMessage messageId channel (b.clients.lookup d) msg) } := by
  induction ds generalizing b with
  | nil => simp
  | cons d ds ih =>
    obtain ⟨hd, hds⟩ := List.cons_subset.1 hds
    set b' : Broadcast :=
      { b with
        due := b.due.filter (· ≠ d)
        sent := b.sent ++ [(d, buildSendMessage messageId channel (b.clients.lookup d) msg)] }
    have hturn : Machine.run (step messageId channel msg) b (turn d) = b' := by
      simp [b', turn, step, act, hpc, hd]
    have hrest := @ih b' hpc hds
    rw [List.flatMap_cons, Machine.run_append, hturn, hrest]
    simp [b', List.filter_filter, Bool.and_comm]

/-- **A broadcast that is not disturbed** sends what `sendToChannel` sends, and returns. -/
theorem alone_eq_broadcastCalls {s : ConnectionsImp} {t : Str}
    (ht : s.topicToClients.lookup t = some clients) (msg : Str) :
    (run s.messageId t msg clients ((s.clientsOf t).flatMap turn ++ [.done])).pc = .returned ∧
      (run s.messageId t msg clients ((s.clientsOf t).flatMap turn ++ [.done])).sent.map
        (fun x => Call.send x.1 x.2) = broadcastCalls s t msg := by
  have hkeys : s.clientsOf t = clients.keys := by simp [clientsOf, ht]
  have hlookup : ∀ d, s.entry t d = clients.lookup d := Dict.lookup₂_of_lookup ht
  have hturns := @run_turns s.messageId t msg (start clients) rfl clients.keys
    (List.Subset.refl _)
  rw [run_concat, hkeys, run, hturns]
  simp [step, broadcastCalls, hkeys, hlookup, start]

/-- The map of the broadcast is that of the channel. -/
def Shows (b : Broadcast) (s : ConnectionsImp) (t : Str) : Prop :=
  ∀ client, b.clients.lookup client = s.entry t client

variable {b : Broadcast} {s : ConnectionsImp} {t : Str}

/-- What `Subscribe` does to the map. -/
theorem Shows.put (hb : b.Shows s t) (h : ConnectionHandler) (id : Str) :
    (b.step messageId channel msg (.put h id)).Shows (s.addSubscription t h id) t := by
  intro client
  rw [entry_addSubscription, ← hb client, step, Dict.lookup_insert]
  simp

/-- What `Unsubscribe` does to it. -/
theorem Shows.remove (hb : b.Shows s t) (h : ConnectionHandler) (id : Str) :
    (b.step messageId channel msg (.remove h)).Shows (s.removeSubscription t h id) t := by
  intro client
  rw [entry_removeSubscription, ← hb client, step, Dict.lookup_erase]
  simp

/-- What `disconnect` does to it. -/
theorem Shows.disconnect (hb : b.Shows s t) (c : ℕ) {h : ConnectionHandler}
    (ht : t ∈ s.topicsOf h) : (b.step messageId channel msg (.remove h)).Shows (s.drop c h) t := by
  intro client
  rw [entry_drop, ← hb client, step, Dict.lookup_erase]
  simp [ht]

end Broadcast

end WorldCupInformer
