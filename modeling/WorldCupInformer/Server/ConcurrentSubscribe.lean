import WorldCupInformer.Lib.Interleaving
import WorldCupInformer.Lib.SharedMaps
import WorldCupInformer.Server.Invariants

/-!
# Subscriptions to one topic at the same time

`Subscribe` is a sequence of operations on concurrent maps.  It keeps a reference to the map of the
topic between two of them, and another thread can put a new map for the topic in the meantime.

* `alone_eq_subscribe`: a thread that is not interrupted does what `subscribe` does;
* `subscriptions_kept_iff`: when all threads have returned `true`, all their subscriptions are in
  place exactly when no thread has put a new map while another one held the map of the topic or had
  entered its client (`PutsFirst`).
-/

namespace WorldCupInformer

open Server Interleaving ConnectionsImp

/-- The maps that `Subscribe` works on; the inner ones are shared by reference. -/
structure SharedMaps where
  idToHandler : Dict ℕ ConnectionHandler
  topicToClients : MapOfMaps ℕ Str ConnectionHandler Str
  clientToTopics : MapOfMaps ℕ ConnectionHandler Str Str

/-- The maps of a server whose threads are at rest. -/
def SharedMaps.ofConnections (s : ConnectionsImp) : SharedMaps where
  idToHandler := s.idToHandler
  topicToClients := .ofDict s.topicToClients
  clientToTopics := .ofDict s.clientToTopics

/-- The next operation of `Subscribe`, with its local variables. -/
inductive SubscribePc
  /-- `IdToHandler.get(connectionID)` -/
  | getHandler
  /-- `topicToClients.get(topic) == null` -/
  | getTopic (handler : Option ConnectionHandler)
  /-- `topicToClients.put(topic, new ConcurrentHashMap<>())` -/
  | putTopic (handler : Option ConnectionHandler)
  /-- `topicToClients.get(topic)` -/
  | getTopicMap (handler : Option ConnectionHandler)
  /-- `topicMap.get(handler) != null` -/
  | getClient (handler : Option ConnectionHandler) (topicMap : Option (MapRef ℕ Str))
  /-- `topicMap.put(handler, subscriptionID)` -/
  | putClient (handler : ConnectionHandler) (topicMap : MapRef ℕ Str)
  /-- `clientToTopics.get(handler) == null` -/
  | getTopics (handler : ConnectionHandler)
  /-- `clientToTopics.put(handler, new ConcurrentHashMap<>())` -/
  | putTopics (handler : ConnectionHandler)
  /-- `clientToTopics.get(handler)` -/
  | getSubToTopic (handler : ConnectionHandler)
  /-- the `put(subscriptionID, topic)` on it -/
  | putSubscription (handler : ConnectionHandler)
      (subToTopic : Option (MapRef ℕ ConnectionHandler))
  | returned (result : Bool)
  /-- ended with a `NullPointerException` -/
  | raised
  deriving DecidableEq

/-- One atomic operation of the thread of `Subscribe(topic, connectionID, subscriptionID)`. -/
def SubscribePc.act (topic : Str) (subscriptionID : ℕ → Str) (connectionID : ℕ) :
    SubscribePc → SharedMaps → SubscribePc × SharedMaps
  | .getHandler, m => (.getTopic (m.idToHandler.lookup connectionID), m)
  | .getTopic handler, m =>
    (if m.topicToClients.table topic = none then .putTopic handler else .getTopicMap handler, m)
  | .putTopic handler, m =>
    (.getTopicMap handler,
      { m with topicToClients := m.topicToClients.putNew connectionID topic })
  | .getTopicMap handler, m => (.getClient handler (m.topicToClients.table topic), m)
  | .getClient (some handler) (some topicMap), m =>
    (if m.topicToClients.contents topicMap handler ≠ none then .returned false
      else .putClient handler topicMap, m)
  | .getClient _ _, m => (.raised, m)
  | .putClient handler topicMap, m =>
    (.getTopics handler, { m with
      topicToClients := m.topicToClients.put topicMap handler (subscriptionID connectionID) })
  | .getTopics handler, m =>
    (if m.clientToTopics.table handler = none then .putTopics handler
      else .getSubToTopic handler, m)
  | .putTopics handler, m =>
    (.getSubToTopic handler,
      { m with clientToTopics := m.clientToTopics.putNew connectionID handler })
  | .getSubToTopic handler, m => (.putSubscription handler (m.clientToTopics.table handler), m)
  | .putSubscription _ (some subToTopic), m =>
    (.returned true, { m with
      clientToTopics := m.clientToTopics.put subToTopic (subscriptionID connectionID) topic })
  | .putSubscription _ none, m => (.raised, m)
  | .returned result, m => (.returned result, m)
  | .raised, m => (.raised, m)

/-- The threads by their connections, and the maps. -/
abbrev Subscribing := Config ℕ SubscribePc SharedMaps

namespace Subscribing

variable (topic : Str) (subscriptionID : ℕ → Str)

/-- The thread of a connection acts. -/
def step : Subscribing → ℕ → Subscribing := Interleaving.step (SubscribePc.act topic subscriptionID)

/-- All threads are about to begin. -/
def start (s : ConnectionsImp) : Subscribing := ⟨fun _ => .getHandler, .ofConnections s⟩

/-- The subscription of the connection is in both indexes. -/
def InPlace (k : Subscribing) (c : ℕ) : Prop :=
  k.shared.topicToClients.entry topic ⟨c⟩ = some (subscriptionID c) ∧
    k.shared.clientToTopics.entry ⟨c⟩ (subscriptionID c) = some topic

instance (k : Subscribing) (c : ℕ) : Decidable (k.InPlace topic subscriptionID c) :=
  inferInstanceAs (Decidable (_ ∧ _))

end Subscribing

/-! ### A thread on its own -/

/-- The shared maps hold what the registries hold. -/
structure SharedMaps.Shows (m : SharedMaps) (s : ConnectionsImp) : Prop where
  idToHandler : m.idToHandler = s.idToHandler
  entry : ∀ t h, m.topicToClients.entry t h = s.entry t h
  topicOf : ∀ h id, m.clientToTopics.entry h id = s.topicOf h id

theorem SharedMaps.shows_ofConnections (s : ConnectionsImp) :
    (SharedMaps.ofConnections s).Shows s where
  idToHandler := rfl
  entry t h := MapOfMaps.entry_ofDict s.topicToClients t h
  topicOf h id := MapOfMaps.entry_ofDict s.clientToTopics h id

/-- **A thread that is not interrupted does what `subscribe` does.** -/
theorem alone_eq_subscribe (s : ConnectionsImp) (topic : Str) (subscriptionID : ℕ → Str) (c : ℕ)
    (r : SubscribePc × SharedMaps)
    (hr : r = Interleaving.alone (SubscribePc.act topic subscriptionID) c .getHandler
      (.ofConnections s) 10) :
    (∃ b e, (subscribe topic c (subscriptionID c)).run ⟨s, []⟩ = .ok b e ∧
      r.1 = .returned b ∧ r.2.Shows e.connections) ∨
    ∃ x e, (subscribe topic c (subscriptionID c)).run ⟨s, []⟩ = .error x e ∧
      r.1 = .raised ∧ r.2.Shows e.connections := by
  subst hr
  have hhandler : (SharedMaps.ofConnections s).idToHandler = s.idToHandler := rfl
  have htopic : ∀ t, (SharedMaps.ofConnections s).topicToClients.table t =
      (s.topicToClients.lookup t).map fun _ => .initial t := fun t => rfl
  have hclient : ∀ h, (SharedMaps.ofConnections s).clientToTopics.table h =
      (s.clientToTopics.lookup h).map fun _ => .initial h := fun h => rfl
  have hcontents : ∀ t h, (SharedMaps.ofConnections s).topicToClients.contents (.initial t) h =
      s.entry t h := fun t h => rfl
  have hshows := SharedMaps.shows_ofConnections s
  cases hreg : s.idToHandler.lookup c with
  | none =>
    refine .inr ⟨_, _, run_subscribe_none hreg topic (subscriptionID c), ?_⟩
    cases ht : s.topicToClients.lookup topic with
    | some clients =>
      simp [Interleaving.alone, SubscribePc.act, hhandler, htopic, ht, hreg, hshows]
    | none =>
      simp only [Interleaving.alone, SubscribePc.act, hhandler, htopic, ht, hreg]
      refine ⟨rfl, hhandler, fun t h => ?_, hshows.topicOf⟩
      refine Eq.trans ?_ (Dict.lookup₂_insert_empty ht t h).symm
      by_cases heq : t = topic
      · subst heq
        simp [MapOfMaps.entry, MapOfMaps.contents_putNew, Dict.lookup₂, ht]
      · exact (MapOfMaps.entry_putNew_of_ne _ _ _ heq (by simp [htopic])).trans (hshows.entry t h)
  | some h =>
    cases hent : s.entry topic h with
    | some id =>
      have ht : s.topicToClients.lookup topic ≠ none := fun ht => by
        simp [entry, Dict.lookup₂, ht] at hent
      refine .inl ⟨_, _, run_subscribe_false hreg (by simp [hent]) (subscriptionID c), ?_⟩
      obtain ⟨clients, ht⟩ := Option.ne_none_iff_exists'.1 ht
      simp [Interleaving.alone, SubscribePc.act, hhandler, htopic, ht, hreg, hcontents, hent,
        hshows]
    | none =>
      refine .inl ⟨_, _, run_subscribe_true hreg hent (subscriptionID c), ?_⟩
      have hcreated : ((SharedMaps.ofConnections s).topicToClients.putNew c topic).contents
          (.created c) h = none := by simp [MapOfMaps.contents_putNew]
      -- the topic and the client's own index are there or not
      cases ht : s.topicToClients.lookup topic <;> cases hh : s.clientToTopics.lookup h <;>
        simp only [Interleaving.alone, SubscribePc.act, hhandler, htopic, hclient, ht, hh, hreg,
          hcontents, hcreated, hent, MapOfMaps.table_putNew, Option.map_some, Option.map_none,
          if_true, reduceCtorEq, ne_eq, not_true_eq_false, if_false]
      · exact ⟨trivial, hhandler, fun t' h' => MapOfMaps.entry_put_created _ _ _ _ _ ht,
          fun h' id => MapOfMaps.entry_put_created _ _ _ _ _ hh⟩
      · exact ⟨trivial, hhandler, fun t' h' => MapOfMaps.entry_put_created _ _ _ _ _ ht,
          fun h' id => MapOfMaps.entry_put_initial _ _ _ _ _ (by simp [hh])⟩
      · exact ⟨trivial, hhandler, fun t' h' => MapOfMaps.entry_put_initial _ _ _ _ _ (by simp [ht]),
          fun h' id => MapOfMaps.entry_put_created _ _ _ _ _ hh⟩
      · exact ⟨trivial, hhandler, fun t' h' => MapOfMaps.entry_put_initial _ _ _ _ _ (by simp [ht]),
          fun h' id => MapOfMaps.entry_put_initial _ _ _ _ _ (by simp [hh])⟩

/-- So does a run in which no other thread acts. -/
theorem Subscribing.run_alone (s : ConnectionsImp) (topic : Str) (subscriptionID : ℕ → Str) (c : ℕ)
    (k : Subscribing)
    (hk : k = Machine.run (step topic subscriptionID) (start s) (List.replicate 10 c)) :
    (∃ b e, (subscribe topic c (subscriptionID c)).run ⟨s, []⟩ = .ok b e ∧
      k.threads c = .returned b ∧ k.shared.Shows e.connections) ∨
    ∃ x e, (subscribe topic c (subscriptionID c)).run ⟨s, []⟩ = .error x e ∧
      k.threads c = .raised ∧ k.shared.Shows e.connections := by
  have halone := alone_eq_subscribe s topic subscriptionID c _ rfl
  rw [hk, step, Interleaving.run_alone]
  dsimp only
  rw [Function.update_self]
  exact halone

/-! ### Where a thread is -/

namespace SubscribePc

/-- The map of the topic the thread is about to use. -/
def topicMap : SubscribePc → Option (MapRef ℕ Str)
  | .getClient _ topicMap => topicMap
  | .putClient _ topicMap => some topicMap
  | _ => none

/-- The thread has entered its client into a map of the topic. -/
def Entered : SubscribePc → Prop
  | .getTopics _ | .putTopics _ | .getSubToTopic _ | .putSubscription _ _ | .returned true => True
  | _ => False

/-- The thread can still put a new map for the topic. -/
def MayPut : SubscribePc → Prop
  | .getHandler | .getTopic _ | .putTopic _ => True
  | _ => False

/-- The local variable `handler` is the registered handler, once it has been read. -/
def Handles (registered : Option ConnectionHandler) : SubscribePc → Prop
  | .getTopic handler | .putTopic handler | .getTopicMap handler | .getClient handler _ =>
    handler = registered
  | .putClient handler _ | .getTopics handler | .putTopics handler | .getSubToTopic handler
  | .putSubscription handler _ => some handler = registered
  | .getHandler | .returned _ | .raised => True

end SubscribePc

attribute [local grind] SubscribePc.topicMap SubscribePc.Entered SubscribePc.MayPut
  SubscribePc.Handles SubscribePc.act
attribute [local grind =] MapOfMaps.table_putNew MapOfMaps.table_put MapOfMaps.contents_putNew
  MapOfMaps.contents_put MapOfMaps.entry_put Function.update_apply

variable {topic : Str} {subscriptionID : ℕ → Str} {k : Subscribing}

theorem Subscribing.step_eq {c : ℕ} {pc : SubscribePc} (hpc : k.threads c = pc) :
    k.step topic subscriptionID c =
      ⟨Function.update k.threads c (pc.act topic subscriptionID c k.shared).1,
        (pc.act topic subscriptionID c k.shared).2⟩ := by
  subst hpc
  rfl

/-! ### The client index -/

/-- What always holds of the handlers and the index of the clients; a client has its entry only from
its own thread. -/
structure IndexInv (topic : Str) (subscriptionID : ℕ → Str) (k : Subscribing) : Prop where
  registered : ∀ c h, k.shared.idToHandler.lookup c = some h → h = ⟨c⟩
  handler : ∀ c, (k.threads c).Handles (k.shared.idToHandler.lookup c)
  own : ∀ h r, k.shared.clientToTopics.table h = some r → r = .initial h ∨ r = .created h.serial
  fetched : ∀ c h, k.threads c = .getSubToTopic h → k.shared.clientToTopics.table h ≠ none
  held : ∀ c h r, k.threads c = .putSubscription h r →
    r = k.shared.clientToTopics.table h ∧ r ≠ none
  recorded : ∀ c, k.threads c = .returned true →
    k.shared.clientToTopics.entry ⟨c⟩ (subscriptionID c) = some topic

theorem IndexInv.step (hk : IndexInv topic subscriptionID k) (c : ℕ) :
    IndexInv topic subscriptionID (k.step topic subscriptionID c) := by
  obtain ⟨hreg, hhandler, hown, hfetched, hheld, hrec⟩ := hk
  have hother : ∀ d, d ≠ c → (k.shared.clientToTopics.putNew c ⟨c⟩).entry ⟨d⟩ (subscriptionID d) =
      k.shared.clientToTopics.entry ⟨d⟩ (subscriptionID d) := fun d hd =>
    MapOfMaps.entry_putNew_of_ne _ _ _ (by simpa using hd) (by grind)
  cases hpc : k.threads c with
  | getClient handler topicMap =>
    rw [Subscribing.step_eq hpc]
    cases handler <;> cases topicMap <;> constructor <;> grind
  | putSubscription handler subToTopic =>
    rw [Subscribing.step_eq hpc]
    cases subToTopic <;> constructor <;> grind
  | _ =>
    rw [Subscribing.step_eq hpc]
    constructor <;> grind

/-! ### The map of the topic -/

/-- What always holds of the map of the topic and its references. -/
structure TopicInv (topic : Str) (k : Subscribing) : Prop where
  unput : ∀ c, (k.threads c).MayPut → ∀ t, k.shared.topicToClients.table t ≠ some (.created c)
  unheld : ∀ c d, (k.threads c).MayPut → (k.threads d).topicMap ≠ some (.created c)
  named : ∀ r, k.shared.topicToClients.table topic = some r →
    r = .initial topic ∨ ∃ c, r = .created c
  existing : k.shared.topicToClients.table topic = some (.initial topic) →
    ∀ c, (∀ h, k.threads c ≠ .putTopic h) ∧
      ∀ r, (k.threads c).topicMap = some r → r = .initial topic
  fetched : ∀ c h, k.threads c = .getTopicMap h → k.shared.topicToClients.table topic ≠ none
  nonNull : ∀ c h, k.threads c ≠ .getClient h none
  absent : ∀ c d, ¬ (k.threads d).Entered →
    k.shared.topicToClients.contents (.created c) ⟨d⟩ = none

theorem TopicInv.step (hi : IndexInv topic subscriptionID k) (hk : TopicInv topic k) (c : ℕ) :
    TopicInv topic (k.step topic subscriptionID c) := by
  obtain ⟨hreg, hhandler, -, -, hheld, -⟩ := hi
  obtain ⟨hunput, hunheld, hnamed, hexisting, hfetched, hnonNull, habsent⟩ := hk
  cases hpc : k.threads c with
  | getClient handler topicMap =>
    rw [Subscribing.step_eq hpc]
    cases topicMap with
    | none => exact absurd hpc (hnonNull c handler)
    | some topicMap => cases handler <;> constructor <;> grind
  | putSubscription handler subToTopic =>
    rw [Subscribing.step_eq hpc]
    cases subToTopic with
    | none => exact absurd rfl (hheld c handler none hpc).2
    | some subToTopic => constructor <;> grind
  | _ =>
    rw [Subscribing.step_eq hpc]
    constructor <;> grind

/-- What holds of the maps and the threads after every run. -/
structure SubscribingInv (topic : Str) (subscriptionID : ℕ → Str) (k : Subscribing) : Prop where
  index : IndexInv topic subscriptionID k
  topic : TopicInv topic k

theorem SubscribingInv.step (hk : SubscribingInv topic subscriptionID k) (c : ℕ) :
    SubscribingInv topic subscriptionID (k.step topic subscriptionID c) :=
  ⟨hk.index.step c, TopicInv.step hk.index hk.topic c⟩

/-- The thread holds the current map of the topic until its client is entered, and then the entry of
its client is found. -/
def Placed (topic : Str) (subscriptionID : ℕ → Str) (k : Subscribing) (c : ℕ) : Prop :=
  (∀ r, (k.threads c).topicMap = some r → k.shared.topicToClients.table topic = some r) ∧
    ((k.threads c).Entered →
      k.shared.topicToClients.entry topic ⟨c⟩ = some (subscriptionID c))

/-- The thread has not been put in its place, or cannot return `true` any more. -/
def Misplaced (topic : Str) (subscriptionID : ℕ → Str) (k : Subscribing) (c : ℕ) : Prop :=
  ¬ Placed topic subscriptionID k c ∨ k.threads c = .returned false ∨ k.threads c = .raised

/-- If the thread is about to put a new map for the topic, no thread holds one or has entered its
client. -/
def Subscribing.PutsFirst (k : Subscribing) (c : ℕ) : Prop :=
  ∀ handler, k.threads c = .putTopic handler →
    ∀ d, (k.threads d).topicMap = none ∧ ¬ (k.threads d).Entered

theorem placed_step (hi : IndexInv topic subscriptionID k) (ht : TopicInv topic k)
    (hk : ∀ d, Placed topic subscriptionID k d) {c : ℕ} (hput : k.PutsFirst c) (d : ℕ) :
    Placed topic subscriptionID (k.step topic subscriptionID c) d := by
  obtain ⟨hreg, hhandler, -, -, hheld, -⟩ := hi
  have hnonNull := ht.nonNull
  have hd := hk d
  have hc := hk c
  unfold Placed at hd hc ⊢
  cases hpc : k.threads c with
  | getClient handler topicMap =>
    rw [Subscribing.step_eq hpc]
    cases topicMap with
    | none => exact absurd hpc (hnonNull c handler)
    | some topicMap => cases handler <;> grind
  | putSubscription handler subToTopic =>
    rw [Subscribing.step_eq hpc]
    cases subToTopic with
    | none => exact absurd rfl (hheld c handler none hpc).2
    | some subToTopic => grind
  | putTopic handler =>
    have hfirst := hput handler hpc d
    rw [Subscribing.step_eq hpc]
    grind
  | _ =>
    rw [Subscribing.step_eq hpc]
    grind

theorem putsFirst_of_placed (ht : TopicInv topic k) {c : ℕ}
    (hk : ∀ d, Placed topic subscriptionID (k.step topic subscriptionID c) d) :
    k.PutsFirst c := by
  intro handler hpc d
  have hunheld := ht.unheld c d
  have hself : (k.shared.topicToClients.putNew c topic).entry topic ⟨d⟩ = none :=
    MapOfMaps.entry_putNew_self _ topic
  have hd := hk d
  rw [Subscribing.step_eq hpc] at hd
  unfold Placed at hd
  cases hmap : (k.threads d).topicMap <;> grind

/-- A thread that holds a map the topic has lost has no entry yet. -/
theorem TopicInv.entry_of_lost (ht : TopicInv topic k) {c : ℕ} {r : MapRef ℕ Str}
    (hheld : (k.threads c).topicMap = some r)
    (hlost : k.shared.topicToClients.table topic ≠ some r) :
    k.shared.topicToClients.entry topic ⟨c⟩ = none := by
  cases htable : k.shared.topicToClients.table topic with
  | none => simp [MapOfMaps.entry, htable]
  | some r' =>
    rcases ht.named r' htable with rfl | ⟨c', rfl⟩
    · have hr := (ht.existing htable c).2 r hheld
      exact absurd (hr ▸ htable) hlost
    · have hentered : ¬ (k.threads c).Entered := by cases hpc : k.threads c <;> grind
      rw [MapOfMaps.entry_eq htable]
      exact ht.absent c' c hentered

theorem misplaced_step (hi : IndexInv topic subscriptionID k) (ht : TopicInv topic k) (c : ℕ)
    {d : ℕ} (hd : Misplaced topic subscriptionID k d) :
    Misplaced topic subscriptionID (k.step topic subscriptionID c) d := by
  have hlost := fun r => ht.entry_of_lost (c := d) (r := r)
  obtain ⟨hreg, hhandler, -, -, hheld, -⟩ := hi
  obtain ⟨hunput, hunheld, hnamed, hexisting, hfetched, hnonNull, habsent⟩ := ht
  have hself : (k.shared.topicToClients.putNew c topic).entry topic ⟨d⟩ = none :=
    MapOfMaps.entry_putNew_self _ topic
  unfold Misplaced Placed at hd ⊢
  cases hpc : k.threads c with
  | getClient handler topicMap =>
    rw [Subscribing.step_eq hpc]
    cases topicMap with
    | none => exact absurd hpc (hnonNull c handler)
    | some topicMap => cases handler <;> grind
  | putSubscription handler subToTopic =>
    rw [Subscribing.step_eq hpc]
    cases subToTopic with
    | none => exact absurd rfl (hheld c handler none hpc).2
    | some subToTopic => grind
  | _ =>
    rw [Subscribing.step_eq hpc]
    grind

/-! ### All threads together -/

theorem Subscribing.indexInv_start (es : List Event) :
    IndexInv topic subscriptionID (start (atServer es).connections) where
  registered c h hreg := ((wellFormed_atServer es).handlers c h hreg).1
  handler c := trivial
  own h r hr := .inl (by
    obtain ⟨_, -, rfl⟩ := Option.map_eq_some_iff.1 hr
    rfl)
  fetched c h hpc := by cases hpc
  held c h r hpc := by cases hpc
  recorded c hpc := by cases hpc

theorem Subscribing.topicInv_start (s : ConnectionsImp) : TopicInv topic (start s) where
  unput c hpc t ht := by
    obtain ⟨_, -, heq⟩ := Option.map_eq_some_iff.1 ht
    cases heq
  unheld c d hpc hr := by cases hr
  named r hr := .inl (by
    obtain ⟨_, -, rfl⟩ := Option.map_eq_some_iff.1 hr
    rfl)
  existing htable c := ⟨fun h hpc => (by cases hpc), fun r hr => (by cases hr)⟩
  fetched c h hpc := by cases hpc
  nonNull c h hpc := by cases hpc
  absent c d hpc := rfl

theorem Subscribing.inv_start (es : List Event) :
    SubscribingInv topic subscriptionID (start (atServer es).connections) :=
  ⟨indexInv_start es, topicInv_start _⟩

/-- **No subscription is lost to a concurrent one** if no thread puts a new map for the topic while
another one has the map of the topic; and if all threads have returned `true`, only if. -/
theorem subscriptions_kept_iff (es : List Event) (topic : Str) (subscriptionID : ℕ → Str)
    (schedule : List ℕ) (k : Subscribing)
    (hk : k = Machine.run (Subscribing.step topic subscriptionID)
      (.start (atServer es).connections) schedule)
    (hall : ∀ c ∈ schedule, k.threads c = .returned true) :
    (∀ c ∈ schedule, k.InPlace topic subscriptionID c) ↔
      Machine.Along (Subscribing.step topic subscriptionID) Subscribing.PutsFirst
        (.start (atServer es).connections) schedule := by
  set start := Subscribing.start (atServer es).connections with hstart
  set step := Subscribing.step topic subscriptionID with hstep
  have hinv : ∀ k c, SubscribingInv topic subscriptionID k →
      SubscribingInv topic subscriptionID (step k c) := fun _ c hk => hk.step c
  have hinv₀ : SubscribingInv topic subscriptionID start := Subscribing.inv_start es
  have hend : SubscribingInv topic subscriptionID k :=
    hk ▸ Machine.run_invariant hinv hinv₀ schedule
  have hplaced₀ : ∀ c, Placed topic subscriptionID start c :=
    fun c => ⟨fun r hr => (by cases hr), fun hentered => absurd hentered id⟩
  have halong := Machine.along_iff_forall_prefix
    (I := fun k => ∀ c, Placed topic subscriptionID k c) hinv
    (fun k c hk hplaced hput => placed_step hk.index hk.topic hplaced hput)
    (fun k c hk _ hplaced => putsFirst_of_placed hk.topic hplaced) hinv₀ hplaced₀ schedule
  rw [halong]
  constructor
  · rintro hkept pre ⟨post, hpost⟩ c
    -- a thread that is misplaced once has lost its entry at the end
    by_contra hnot
    have hrun : k = Machine.run step (Machine.run step start pre) post := by
      rw [hk, ← hpost, Machine.run_append]
    have hmis : Misplaced topic subscriptionID k c := by
      rw [hrun]
      exact (Machine.run_invariant
        (I := fun k => SubscribingInv topic subscriptionID k ∧ Misplaced topic subscriptionID k c)
        (fun k d hk => ⟨hinv k d hk.1, misplaced_step hk.1.index hk.1.topic d hk.2⟩)
        ⟨Machine.run_invariant hinv hinv₀ pre, .inl hnot⟩ post).2
    unfold Misplaced Placed at hmis
    by_cases hc : c ∈ schedule
    · have hpc := hall c hc
      have hentry := (hkept c hc).1
      grind
    · have hpc : k.threads c = .getHandler := hk ▸ run_other hc
      grind
  · intro hplaced c hc
    have hpc := hall c hc
    have hc' := (hk ▸ hplaced schedule (List.prefix_refl _) c)
    refine ⟨hc'.2 ?_, hend.index.recorded c hpc⟩
    rw [hpc]
    trivial

/-- The connections 0 and 1 subscribe with their own numbers. -/
def ownNumber (c : ℕ) : Str := if c = 0 then "0" else "1"

/-- Both threads look for the topic before either of them puts its map. -/
def bothLookFirst : List ℕ :=
  List.replicate 2 0 ++ List.replicate 2 1 ++ List.replicate 8 0 ++ List.replicate 8 1

theorem not_forall_subscriptions_kept : ¬ ∀ (es : List Event) (topic : Str)
    (subscriptionID : ℕ → Str) (schedule : List ℕ) (k : Subscribing),
    k = Machine.run (Subscribing.step topic subscriptionID)
      (.start (atServer es).connections) schedule →
    (∀ c ∈ schedule, k.threads c = .returned true) →
    ∀ c ∈ schedule, k.InPlace topic subscriptionID c := by
  intro hall
  have hplaced := hall [.accept, .accept] "/g" ownNumber bothLookFirst _ rfl
    (by decide +kernel) 0 (by decide)
  revert hplaced
  decide +kernel

/-- One thread after the other. -/
theorem subscriptions_kept_in_turn :
    Machine.Along (Subscribing.step "/g" ownNumber) Subscribing.PutsFirst
      (.start (atServer [.accept, .accept]).connections)
      (List.replicate 10 0 ++ List.replicate 9 1) :=
  (subscriptions_kept_iff [.accept, .accept] "/g" ownNumber
    (List.replicate 10 0 ++ List.replicate 9 1) _ rfl (by decide +kernel)).1 (by decide +kernel)

end WorldCupInformer
