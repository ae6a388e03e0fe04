import WorldCupInformer.Server.StompMessagingProtocolImpl

/-!
# What the methods of the registries do

`entry t h` and `topicOf h id` read the two subscription indexes; `drop`, `register`, `login`,
`addSubscription` and `removeSubscription` are the changes the methods make, and there is one lemma
for each method and each way it can go.  From here on no proof unfolds a method.
-/

namespace WorldCupInformer

namespace ConnectionsImp

/-- `topicToClients[t][h]`. -/
def entry (s : ConnectionsImp) (t : Str) (h : ConnectionHandler) : Option Str :=
  Dict.lookup₂ s.topicToClients t h

/-- `clientToTopics[h][id]`. -/
def topicOf (s : ConnectionsImp) (h : ConnectionHandler) (id : Str) : Option Str :=
  Dict.lookup₂ s.clientToTopics h id

/-- The topics in the client's own index. -/
def topicsOf (s : ConnectionsImp) (h : ConnectionHandler) : List Str :=
  ((s.clientToTopics.lookup h).map Dict.values).getD []

/-- Every topic of the client index has a map in the topic index. -/
def TopicsExist (s : ConnectionsImp) : Prop :=
  ∀ h id t, s.topicOf h id = some t → (s.topicToClients.lookup t).isSome

/-- `disconnect` of a registered connection. -/
def drop (s : ConnectionsImp) (c : ℕ) (h : ConnectionHandler) : ConnectionsImp :=
  { s with
    clientToTopics := s.clientToTopics.erase h
    topicToClients := Dict.removeEach s.topicToClients (s.topicsOf h) h
    idToHandler := s.idToHandler.erase c
    loggedInUsers :=
      ((s.clientToUsername.lookup h).map s.loggedInUsers.erase).getD s.loggedInUsers }

/-- Registering a user with a password. -/
def register (s : ConnectionsImp) (u p : Str) : ConnectionsImp :=
  { s with usernameToPass := s.usernameToPass.insert u p }

/-- `connect` of a registered connection. -/
def login (s : ConnectionsImp) (h : ConnectionHandler) (u p : Str) : ConnectionsImp :=
  { s with
    loggedInUsers := insert u s.loggedInUsers
    usernameToPass := s.usernameToPass.insert u p
    clientToUsername := s.clientToUsername.insert h u }

/-- An empty map for a new topic. -/
def openTopic (s : ConnectionsImp) (t : Str) : ConnectionsImp :=
  { s with topicToClients := s.topicToClients.insert t ∅ }

/-- A successful `Subscribe`. -/
def addSubscription (s : ConnectionsImp) (t : Str) (h : ConnectionHandler) (id : Str) :
    ConnectionsImp :=
  { s with
    topicToClients := Dict.put₂ s.topicToClients t h id
    clientToTopics := Dict.put₂ s.clientToTopics h id t }

/-- Taking the client out of the map of one topic. -/
def dropEntry (s : ConnectionsImp) (t : Str) (h : ConnectionHandler) : ConnectionsImp :=
  { s with topicToClients := Dict.remove₂ s.topicToClients t h }

/-- A successful `Unsubscribe`; the client leaves its own index with its last subscription. -/
def removeSubscription (s : ConnectionsImp) (t : Str) (h : ConnectionHandler) (id : Str) :
    ConnectionsImp :=
  { s with
    topicToClients := Dict.remove₂ s.topicToClients t h
    clientToTopics := Dict.prune₂ s.clientToTopics h id }

theorem mem_topicsOf {s : ConnectionsImp} {h : ConnectionHandler} {t : Str} :
    t ∈ s.topicsOf h ↔ ∃ id, s.topicOf h id = some t := by
  unfold topicsOf topicOf Dict.lookup₂
  cases s.clientToTopics.lookup h with
  | none => simp
  | some m => simp [Dict.mem_values]

/-! ### The two indexes after a change -/

section Reading

variable (s : ConnectionsImp) (c : ℕ) (h h' : ConnectionHandler) (t t' id id' u p : Str)

theorem entry_drop : (s.drop c h).entry t h' =
    if t ∈ s.topicsOf h ∧ h' = h then none else s.entry t h' := by
  refine (Dict.lookup₂_removeEach s.topicToClients (s.topicsOf h) t h h').trans ?_
  split_ifs <;> rfl

theorem topicOf_drop : (s.drop c h).topicOf h' id =
    if h' = h then none else s.topicOf h' id := by
  unfold topicOf Dict.lookup₂ drop
  rw [Dict.lookup_erase]
  split_ifs <;> rfl

theorem entry_addSubscription : (s.addSubscription t h id).entry t' h' =
    if t' = t ∧ h' = h then some id else s.entry t' h' :=
  Dict.lookup₂_put₂ s.topicToClients t t' h h' id

theorem topicOf_addSubscription : (s.addSubscription t h id).topicOf h' id' =
    if h' = h ∧ id' = id then some t else s.topicOf h' id' :=
  Dict.lookup₂_put₂ s.clientToTopics h h' id id' t

theorem entry_removeSubscription : (s.removeSubscription t h id).entry t' h' =
    if t' = t ∧ h' = h then none else s.entry t' h' :=
  Dict.lookup₂_remove₂ s.topicToClients t t' h h'

theorem topicOf_removeSubscription : (s.removeSubscription t h id).topicOf h' id' =
    if h' = h ∧ id' = id then none else s.topicOf h' id' :=
  Dict.lookup₂_prune₂ s.clientToTopics h h' id id'

theorem entry_dropEntry : (s.dropEntry t h).entry t' h' =
    if t' = t ∧ h' = h then none else s.entry t' h' :=
  Dict.lookup₂_remove₂ s.topicToClients t t' h h'

theorem entry_openTopic {s : ConnectionsImp} {t : Str} (ht : s.topicToClients.lookup t = none) :
    (s.openTopic t).entry t' h' = s.entry t' h' :=
  Dict.lookup₂_insert_empty ht t' h'

theorem TopicsExist.drop {s : ConnectionsImp} (hs : s.TopicsExist) :
    (s.drop c h).TopicsExist := by
  intro h' id t ht
  rw [topicOf_drop] at ht
  split_ifs at ht
  exact (Dict.lookup_removeEach_isSome s.topicToClients (s.topicsOf h) t h).trans (hs h' id t ht)

theorem mem_loggedInUsers_drop : u ∈ (s.drop c h).loggedInUsers ↔
    s.clientToUsername.lookup h ≠ some u ∧ u ∈ s.loggedInUsers := by
  unfold drop
  cases hu : s.clientToUsername.lookup h with
  | none => simp
  | some v => simp [eq_comm]

end Reading

end ConnectionsImp

open ConnectionsImp

variable {s : ConnectionsImp} {l : List Call} {c : ℕ} {h : ConnectionHandler}

/-! ### Answers and disconnection -/

theorem run_send (hreg : s.idToHandler.lookup c = some h) (msg : Str) :
    (send c msg).run ⟨s, l⟩ = .ok true ⟨s, l ++ [.send h msg]⟩ := by
  simp [send, hreg]

theorem run_send_none (hreg : s.idToHandler.lookup c = none) (msg : Str) :
    (send c msg).run ⟨s, l⟩ = .ok false ⟨s, l⟩ := by
  simp [send, hreg]

/-- The calls that answer a receipt header. -/
def receiptCalls (h : ConnectionHandler) : Option Str → List Call
  | some r => [.send h (ReceiptFrame.toString r)]
  | none => []

theorem run_sendReceiptFrame (hreg : s.idToHandler.lookup c = some h) (r : Option Str) :
    (sendReceiptFrame c r).run ⟨s, l⟩ = .ok () ⟨s, l ++ receiptCalls h r⟩ := by
  cases r with
  | none => simp [sendReceiptFrame, receiptCalls]
  | some r => simp [sendReceiptFrame, receiptCalls, run_send hreg]

theorem run_removeFromTopics (ts : List Str) (hts : ∀ t ∈ ts, (s.topicToClients.lookup t).isSome) :
    (forM ts (removeFromTopic h)).run ⟨s, l⟩ =
      .ok () ⟨{ s with topicToClients := Dict.removeEach s.topicToClients ts h }, l⟩ := by
  induction ts generalizing s with
  | nil => rfl
  | cons t ts ih =>
    obtain ⟨m, hm⟩ := Option.isSome_iff_exists.1 (hts t List.mem_cons_self)
    have hstep : (removeFromTopic h t).run ⟨s, l⟩ = .ok () ⟨s.dropEntry t h, l⟩ := by
      simp [removeFromTopic, dropEntry, Dict.remove₂, hm]
    have hrest : ∀ t' ∈ ts, ((s.dropEntry t h).topicToClients.lookup t').isSome := fun t' ht' => by
      rw [dropEntry, Dict.lookup_remove₂_isSome]
      exact hts t' (List.mem_cons_of_mem t ht')
    rw [List.forM_cons, EStateM.run_bind, hstep]
    exact ih hrest

theorem run_disconnect (hreg : s.idToHandler.lookup c = some h) (hs : s.TopicsExist) :
    (disconnect c).run ⟨s, l⟩ = .ok () ⟨s.drop c h, l ++ [.disconnect c, .terminate h]⟩ := by
  have hts : ∀ t ∈ s.topicsOf h, (s.topicToClients.lookup t).isSome := fun t ht => by
    obtain ⟨id, hid⟩ := mem_topicsOf.1 ht
    exact hs h id t hid
  have hloop := run_removeFromTopics
    (s := { s with clientToTopics := s.clientToTopics.erase h }) (l := l) (h := h)
    (s.topicsOf h) hts
  unfold topicsOf at hloop
  cases hu : s.clientToUsername.lookup h <;>
    simp [disconnect, hreg, hu, hloop, drop, topicsOf, -EStateM.run_tryCatch]

theorem run_disconnect_none (hreg : s.idToHandler.lookup c = none) :
    (disconnect c).run ⟨s, l⟩ = .error .nullPointer ⟨s, l⟩ := by
  simp [disconnect, hreg]

/-- The calls of a rejection. -/
def rejectCalls (c : ℕ) (h : ConnectionHandler) (errors : List Str) (hd : HeaderTable) :
    List Call :=
  [.send h (ErrorFrame.toString errors hd), .disconnect c, .terminate h]

theorem run_sendErrorFrame (hreg : s.idToHandler.lookup c = some h) (hs : s.TopicsExist)
    (errors : List Str) (hd : HeaderTable) :
    (sendErrorFrame c errors hd).run ⟨s, l⟩ =
      .ok () ⟨s.drop c h, l ++ rejectCalls c h errors hd⟩ := by
  simp [sendErrorFrame, run_send hreg, run_disconnect hreg hs, rejectCalls]

theorem run_sendErrorFrame_none (hreg : s.idToHandler.lookup c = none) (errors : List Str)
    (hd : HeaderTable) : (sendErrorFrame c errors hd).run ⟨s, l⟩ = .error .nullPointer ⟨s, l⟩ := by
  simp [sendErrorFrame, run_send_none hreg, run_disconnect_none hreg]

/-! ### Messages to a channel -/

/-- The clients in the map of the topic, in the order of its key set. -/
def ConnectionsImp.clientsOf (s : ConnectionsImp) (t : Str) : List ConnectionHandler :=
  ((s.topicToClients.lookup t).map AList.keys).getD []

theorem ConnectionsImp.mem_clientsOf {t : Str} : h ∈ s.clientsOf t ↔ s.entry t h ≠ none := by
  unfold clientsOf entry Dict.lookup₂
  cases s.topicToClients.lookup t with
  | none => simp
  | some m => simp [AList.lookup_eq_none, AList.mem_keys]

theorem ConnectionsImp.nodup_clientsOf (t : Str) : (s.clientsOf t).Nodup := by
  unfold clientsOf
  cases s.topicToClients.lookup t with
  | none => simp
  | some m => exact m.nodupKeys

/-- The calls of `send(String, T)`. -/
def broadcastCalls (s : ConnectionsImp) (t msg : Str) : List Call :=
  (s.clientsOf t).map fun d => .send d (buildSendMessage s.messageId t (s.entry t d) msg)

theorem run_sendToClients (t msg : Str) (m : Dict ConnectionHandler Str)
    (ds : List ConnectionHandler) :
    (forM ds (sendToClient t msg m)).run ⟨s, l⟩ =
      .ok () ⟨s, l ++ ds.map fun d =>
        .send d (buildSendMessage s.messageId t (m.lookup d) msg)⟩ := by
  induction ds generalizing l with
  | nil => simp
  | cons d ds ih =>
    rw [List.forM_cons, EStateM.run_bind]
    simp [sendToClient, ih]

theorem run_sendToChannel {t : Str} (ht : (s.topicToClients.lookup t).isSome) (msg : Str) :
    (sendToChannel t msg).run ⟨s, l⟩ = .ok () ⟨s, l ++ broadcastCalls s t msg⟩ := by
  obtain ⟨m, hm⟩ := Option.isSome_iff_exists.1 ht
  have hent : ∀ d, s.entry t d = m.lookup d := Dict.lookup₂_of_lookup hm
  simp [sendToChannel, hm, run_sendToClients, broadcastCalls, clientsOf, hent]

/-! ### Logging in -/

theorem run_connect (hreg : s.idToHandler.lookup c = some h) (u p : Str) :
    (connect c u p).run ⟨s, l⟩ = .ok () ⟨s.login h u p, l⟩ := by
  simp [connect, hreg, login]

theorem run_checkPasswordForUser (u p : Str) :
    (checkPasswordForUser u p).run ⟨s, l⟩ =
      if s.usernameToPass.lookup u = none then .ok true ⟨s.register u p, l⟩
      else .ok (decide (s.usernameToPass.lookup u = some p)) ⟨s, l⟩ := by
  by_cases hu : s.usernameToPass.lookup u = none
  · simp [checkPasswordForUser, hu, register]
  · by_cases hp : s.usernameToPass.lookup u = some p <;> simp [checkPasswordForUser, hu, hp]

/-! ### Subscriptions -/

theorem run_subscribe_none (hreg : s.idToHandler.lookup c = none) (t id : Str) :
    (subscribe t c id).run ⟨s, l⟩ =
      .error .nullPointer ⟨if s.topicToClients.lookup t = none then s.openTopic t else s, l⟩ := by
  cases ht : s.topicToClients.lookup t <;> simp [subscribe, hreg, ht, openTopic]

theorem run_subscribe_false (hreg : s.idToHandler.lookup c = some h) {t : Str}
    (hent : s.entry t h ≠ none) (id : Str) :
    (subscribe t c id).run ⟨s, l⟩ = .ok false ⟨s, l⟩ := by
  cases ht : s.topicToClients.lookup t with
  | none => exact absurd (by simp [entry, Dict.lookup₂, ht]) hent
  | some m =>
    rw [entry, Dict.lookup₂_of_lookup ht] at hent
    simp [subscribe, hreg, ht, hent]

theorem run_subscribe_true (hreg : s.idToHandler.lookup c = some h) {t : Str}
    (hent : s.entry t h = none) (id : Str) :
    (subscribe t c id).run ⟨s, l⟩ = .ok true ⟨s.addSubscription t h id, l⟩ := by
  have hput : ∀ m, s.topicToClients.lookup t = some m → m.lookup h = none := fun m hm => by
    rwa [entry, Dict.lookup₂_of_lookup hm] at hent
  cases ht : s.topicToClients.lookup t with
  | none =>
    cases hh : s.clientToTopics.lookup h <;>
      simp [subscribe, hreg, ht, hh, addSubscription, Dict.put₂]
  | some m =>
    have hm := hput m ht
    cases hh : s.clientToTopics.lookup h <;>
      simp [subscribe, hreg, ht, hh, hm, addSubscription, Dict.put₂]

theorem run_isUserSubscribedToChannel (t : Str) :
    (isUserSubscribedToChannel (some h) t).run ⟨s, l⟩ = .ok (s.entry t h).isSome ⟨s, l⟩ := by
  cases ht : s.topicToClients.lookup t <;>
    simp [isUserSubscribedToChannel, entry, Dict.lookup₂, ht]

/-- On an unregistered connection the test ends with an exception or with `false`. -/
theorem run_isUserSubscribedToChannel_none (t : Str) :
    (isUserSubscribedToChannel none t).run ⟨s, l⟩ =
      if s.topicToClients.lookup t = none then .ok false ⟨s, l⟩
      else .error .nullPointer ⟨s, l⟩ := by
  cases ht : s.topicToClients.lookup t <;> simp [isUserSubscribedToChannel, ht]

theorem run_getTopic (hreg : s.idToHandler.lookup c = some h) (id : Str) :
    (getTopic c id).run ⟨s, l⟩ = .ok ((s.topicOf h id).getD []) ⟨s, l⟩ := by
  cases hh : s.clientToTopics.lookup h <;>
    simp [getTopic, hreg, hh, topicOf, Dict.lookup₂, lit]

theorem run_unsubscribe_none (hreg : s.idToHandler.lookup c = none) (id : Str) :
    (unsubscribe c id).run ⟨s, l⟩ = .error .nullPointer ⟨s, l⟩ := by
  simp [unsubscribe, getTopic, hreg]

theorem run_unsubscribe_true (hreg : s.idToHandler.lookup c = some h) {t id : Str}
    (htop : s.topicOf h id = some t) (hent : s.entry t h ≠ none) :
    (unsubscribe c id).run ⟨s, l⟩ = .ok true ⟨s.removeSubscription t h id, l⟩ := by
  obtain ⟨m, hm, hmid⟩ := Option.bind_eq_some_iff.1 htop
  cases ht : s.topicToClients.lookup t with
  | none => exact absurd (by simp [entry, Dict.lookup₂, ht]) hent
  | some topicMap =>
    rw [entry, Dict.lookup₂_of_lookup ht] at hent
    have hget := run_getTopic (l := l) hreg id
    by_cases hlast : m.keys = [] ∨ m.keys = [id] <;>
      simp [unsubscribe, hreg, hget, htop, ht, hent, hm, hmid, hlast, removeSubscription,
        Dict.remove₂, Dict.prune₂]

/-- What `Unsubscribe` does with an id that is not in the client's index: the topic of the empty
name is taken for its topic. -/
theorem run_unsubscribe_false (hreg : s.idToHandler.lookup c = some h) {id : Str}
    (htop : s.topicOf h id = none) :
    (unsubscribe c id).run ⟨s, l⟩ =
      if s.entry [] h = none then .ok false ⟨s, l⟩
      else if s.clientToTopics.lookup h = none then .error .nullPointer ⟨s, l⟩
      else .ok false ⟨s.dropEntry [] h, l⟩ := by
  have hget := run_getTopic (l := l) hreg id
  cases ht : s.topicToClients.lookup [] with
  | none => simp [unsubscribe, hreg, hget, htop, ht, entry, Dict.lookup₂]
  | some topicMap =>
    have hent : s.entry [] h = topicMap.lookup h := Dict.lookup₂_of_lookup ht h
    by_cases hmem : topicMap.lookup h = none
    · simp [unsubscribe, hreg, hget, htop, ht, hent, hmem]
    · cases hm : s.clientToTopics.lookup h with
      | none => simp [unsubscribe, hreg, hget, htop, ht, hent, hmem, hm]
      | some m =>
        have hmid : m.lookup id = none := by rwa [topicOf, Dict.lookup₂_of_lookup hm] at htop
        simp [unsubscribe, hreg, hget, htop, ht, hent, hmem, hm, hmid, dropEntry, Dict.remove₂]

end WorldCupInformer
