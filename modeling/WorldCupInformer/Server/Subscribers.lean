import WorldCupInformer.Server.Subscriptions

/-!
# The subscription store as a set of triples

What the two indexes are for: a set of triples (connection, topic, subscription id).  `Observed`
runs the server together with the set that the noted calls of `Subscribe`, `Unsubscribe` and
`disconnect` describe.

* `Refines.step`: while no connection subscribes with an id that is active on it, every event
  keeps the registries and the set in the relation `Refines`;
* `subscriptions_refine`: what `Subscribe`, `Unsubscribe` and an accepted SEND do is then read off
  the set.
-/

namespace WorldCupInformer

open Server

/-- A connection, a topic it is subscribed to, the id of the subscription. -/
abbrev Triple := ℕ × Str × Str

/-- The set of triples after a call. -/
def applyCall (subs : Finset Triple) : Call → Finset Triple
  | .subscribe t c id true => insert (c, t, id) subs
  | .unsubscribe c id true => subs.filter fun x => ¬ (x.1 = c ∧ x.2.2 = id)
  | .disconnect c => subs.filter fun x => x.1 ≠ c
  | _ => subs

/-- The server and the set of triples. -/
structure Observed where
  server : Server := {}
  subs : Finset Triple := ∅

namespace Observed

/-- The calls made while an event is handled. -/
def calls (o : Observed) (e : Event) : List Call := (o.server.handle e).calls

/-- One event. -/
def step (o : Observed) (e : Event) : Observed where
  server := o.server.step e
  subs := (o.calls e).foldl applyCall o.subs

/-- The server and the set after the events. -/
def atEnd (es : List Event) : Observed := Machine.run step {} es

/-- The event is not a SUBSCRIBE with an id that is active on its connection. -/
def NotActive (o : Observed) : Event → Prop
  | .accept => True
  | .message c msg => ∀ hd h t id, orderMsgInHash msg = .ok hd → hd.IsSubscribe t id →
      o.server.connections.idToHandler.lookup c = some h → ∀ t', (c, t', id) ∉ o.subs

end Observed

/-! ### The refinement relation -/

/-- The registries `s` implement the set `subs`. -/
structure Refines (s : Server) (subs : Finset Triple) : Prop where
  wellFormed : s.WellFormed
  inverse : s.connections.Inverse
  mem : ∀ c t id, (c, t, id) ∈ subs ↔ s.connections.entry t ⟨c⟩ = some id

section Calls

variable {subs : Finset Triple}

theorem foldl_applyCall_sends {l : List Call} (hl : ∀ x ∈ l, ∃ d m, x = .send d m) :
    l.foldl applyCall subs = subs := by
  induction l with
  | nil => rfl
  | cons x l ih =>
    obtain ⟨d, m, rfl⟩ := hl x List.mem_cons_self
    exact ih fun y hy => hl y (List.mem_cons_of_mem _ hy)

theorem receiptCalls_sends {h : ConnectionHandler} {r : Option Str} :
    ∀ x ∈ receiptCalls h r, ∃ d m, x = .send d m := by
  cases r <;> simp [receiptCalls]

theorem broadcastCalls_sends {s : ConnectionsImp} {t body : Str} :
    ∀ x ∈ broadcastCalls s t body, ∃ d m, x = .send d m := by
  simp [broadcastCalls]

/-- A rejection removes the triples of its sender. -/
theorem foldl_applyCall_rejects {s s₁ : ConnectionsImp} {c : ℕ} {h : ConnectionHandler}
    {hd : HeaderTable} {pre : List Call} {errors : List Str}
    (hrej : Rejects s c h hd s₁ pre errors) :
    (pre ++ rejectCalls c h errors hd).foldl applyCall subs =
      subs.filter fun x => x.1 ≠ c := by
  cases hrej <;> rfl

end Calls

namespace Refines

variable {s : Server} {subs : Finset Triple}

theorem init : Refines {} ∅ where
  wellFormed := wellFormed_init
  inverse h t id := by simp [ConnectionsImp.topicOf, ConnectionsImp.entry]
  mem c t id := by simp [ConnectionsImp.entry]

/-- The triples after the entries of one client have been removed. -/
theorem mem_dropped (hs : Refines s subs) {c : ℕ} {h : ConnectionHandler}
    (hreg : s.connections.idToHandler.lookup c = some h) {s' : ConnectionsImp}
    (hent : ∀ h' t', s'.entry t' h' = if h' = h then none else s.connections.entry t' h')
    (k : ℕ) (t id : Str) :
    (k, t, id) ∈ subs.filter (fun x => x.1 ≠ c) ↔ s'.entry t ⟨k⟩ = some id := by
  obtain ⟨rfl, -⟩ := hs.wellFormed.handlers c h hreg
  rw [Finset.mem_filter, hs.mem, hent]
  by_cases hk : k = c <;> simp [hk]

theorem effect_mem (hs : Refines s subs) {c : ℕ} {hd : HeaderTable} {e : Exec}
    (he : Effect s.connections c hd e) (k : ℕ) (t id : Str) :
    (k, t, id) ∈ e.calls.foldl applyCall subs ↔ e.connections.entry t ⟨k⟩ = some id := by
  cases he with
  | opened hreg hsub ht =>
    rw [ConnectionsImp.entry_openTopic _ _ ht]
    exact hs.mem k t id
  | rejected hreg hrej =>
    rw [foldl_applyCall_rejects hrej]
    exact hs.mem_dropped hreg (hs.inverse.entry_rejects hrej) k t id
  | disconnected hreg hdis hu =>
    exact hs.mem_dropped hreg hs.inverse.entry_drop k t id
  | connected hreg =>
    rw [List.foldl_cons, foldl_applyCall_sends receiptCalls_sends]
    exact hs.mem k t id
  | broadcast =>
    rw [List.foldl_append, foldl_applyCall_sends broadcastCalls_sends,
      foldl_applyCall_sends receiptCalls_sends]
    exact hs.mem k t id
  | @subscribed h t₀ id₀ hreg hsub hent =>
    obtain ⟨rfl, -⟩ := hs.wellFormed.handlers c h hreg
    rw [List.foldl_cons, foldl_applyCall_sends receiptCalls_sends,
      ConnectionsImp.entry_addSubscription]
    simp only [applyCall, Finset.mem_insert, Prod.mk.injEq, hs.mem, ConnectionHandler.mk.injEq]
    by_cases hk : k = c <;> by_cases ht : t = t₀
    · subst hk ht
      simp [hent, eq_comm]
    · simp [ht]
    · simp [hk]
    · simp [hk]
  | @unsubscribed h t₀ id₀ hreg huns htop =>
    obtain ⟨rfl, -⟩ := hs.wellFormed.handlers c h hreg
    rw [List.foldl_cons, foldl_applyCall_sends receiptCalls_sends,
      ConnectionsImp.entry_removeSubscription]
    simp only [applyCall, Finset.mem_filter, hs.mem, ConnectionHandler.mk.injEq]
    have hent := (hs.inverse _ _ _).1 htop
    by_cases hk : k = c
    · subst hk
      by_cases ht : t = t₀
      · subst ht
        simp [hent, eq_comm]
      · have hid : s.connections.entry t ⟨k⟩ = some id → id ≠ id₀ := fun hx heq => by
          subst heq
          rw [(hs.inverse _ _ _).2 hx] at htop
          exact ht (Option.some.inj htop)
        simpa [ht] using hid
    · simp [hk]
  | _ => exact hs.mem k t id

/-- **One event keeps the refinement.** -/
theorem step {o : Observed} (ho : Refines o.server o.subs) {e : Event} (he : o.NotActive e) :
    Refines (o.step e).server (o.step e).subs where
  wellFormed := ho.wellFormed.step e
  inverse := by
    refine inverse_step ho.wellFormed ho.inverse ?_
    cases e with
    | accept => trivial
    | message c msg =>
      intro hd hmsg h t id hreg hsub hent
      by_contra htop
      obtain ⟨t', htop⟩ := Option.ne_none_iff_exists'.1 htop
      obtain ⟨rfl, -⟩ := ho.wellFormed.handlers c h hreg
      exact he hd _ t id hmsg hsub hreg t' ((ho.mem _ _ _).2 ((ho.inverse _ _ _).1 htop))
  mem k t id := by
    cases e with
    | accept => exact ho.mem k t id
    | message c msg =>
      rcases handle_message ho.wellFormed.backed c msg with ⟨hd, -, heff⟩ | heq
      · exact ho.effect_mem heff k t id
      · simp only [Observed.step, Observed.calls, Server.step, heq]
        exact ho.mem k t id

theorem atEnd {es : List Event}
    (hes : Machine.Along Observed.step Observed.NotActive {} es) :
    Refines (Observed.atEnd es).server (Observed.atEnd es).subs :=
  Machine.Along.invariant (I := fun o : Observed => Refines o.server o.subs)
    (fun _ _ ho he => ho.step he) Refines.init hes

end Refines

/-! ### What the methods do, read off the set -/

/-- The method ends normally with this result. -/
def Returns (m : Java Bool) (s : ConnectionsImp) (b : Bool) : Prop :=
  ∃ e, m.run ⟨s, []⟩ = .ok b e

section Delivery

variable {s : ConnectionsImp} {h d : ConnectionHandler}

theorem sentTo_append (l l' : List Call) : sentTo d (l ++ l') = sentTo d l ++ sentTo d l' :=
  List.filterMap_append

theorem sentTo_receiptCalls (r : Option Str) :
    sentTo d (receiptCalls h r) = if d = h then (r.map ReceiptFrame.toString).toList else [] := by
  cases r with
  | none => simp [receiptCalls, sentTo]
  | some r =>
    by_cases hd : d = h
    · simp [receiptCalls, sentTo, hd]
    · simp [receiptCalls, sentTo, hd, Ne.symm hd]

theorem sentTo_map_send (f : ConnectionHandler → Str) {l : List ConnectionHandler}
    (hl : l.Nodup) :
    sentTo d (l.map fun d => .send d (f d)) = if d ∈ l then [f d] else [] := by
  induction l with
  | nil => rfl
  | cons d' l ih =>
    obtain ⟨hd', hl⟩ := List.nodup_cons.1 hl
    have hrec := ih hl
    simp only [sentTo, List.map_cons, List.filterMap_cons] at hrec ⊢
    by_cases heq : d' = d
    · subst heq
      simp [hrec, hd']
    · simp [hrec, heq, Ne.symm heq]

/-- Every client of the topic gets the message once, with the id of its own subscription. -/
theorem sentTo_broadcastCalls (t body : Str) : sentTo d (broadcastCalls s t body) =
    match s.entry t d with
    | some id => [buildSendMessage s.messageId t (some id) body]
    | none => [] := by
  rw [broadcastCalls, sentTo_map_send _ (s.nodup_clientsOf t)]
  cases hent : s.entry t d with
  | none => simp [ConnectionsImp.mem_clientsOf, hent]
  | some id => simp [ConnectionsImp.mem_clientsOf, hent]

end Delivery

/-- What the server does is told by the set: `Subscribe` and `Unsubscribe` return what it says,
and an accepted SEND goes to its triples, which belong to registered connections. -/
structure ToldBy (s : ConnectionsImp) (subs : Finset Triple) : Prop where
  registered : ∀ c t id, (c, t, id) ∈ subs → s.idToHandler.lookup c = some ⟨c⟩
  subscribe : ∀ c h t id, s.idToHandler.lookup c = some h →
    ∃ b, Returns (subscribe t c id) s b ∧ (b = true ↔ ∀ id', (c, t, id') ∉ subs)
  unsubscribe : ∀ c h id, s.idToHandler.lookup c = some h →
    ∃ b, Returns (unsubscribe c id) s b ∧ (b = true ↔ ∃ t, (c, t, id) ∈ subs)
  send : ∀ c h hd t body id, s.idToHandler.lookup c = some h → hd.IsSend t body →
    (c, t, id) ∈ subs → ∀ k,
      (∀ id', (k, t, id') ∈ subs → sentTo ⟨k⟩ (after (act c hd) s).calls =
        buildSendMessage s.messageId t (some id') body ::
          if k = c then ((hd.get "receipt-id").map ReceiptFrame.toString).toList else []) ∧
      ((∀ id', (k, t, id') ∉ subs) → sentTo ⟨k⟩ (after (act c hd) s).calls = [])

namespace Refines

variable {s : Server} {subs : Finset Triple}

theorem toldBy (hs : Refines s subs) : ToldBy s.connections subs where
  registered c t id hmem :=
    hs.wellFormed.indexed _ _ _ ((hs.inverse _ _ _).2 ((hs.mem c t id).1 hmem))
  subscribe c h t id hreg := by
    obtain ⟨rfl, -⟩ := hs.wellFormed.handlers c h hreg
    by_cases hent : s.connections.entry t ⟨c⟩ = none
    · exact ⟨true, ⟨_, run_subscribe_true hreg hent id⟩, by simp [hs.mem, hent]⟩
    · refine ⟨false, ⟨_, run_subscribe_false hreg hent id⟩, ?_⟩
      obtain ⟨id', hid'⟩ := Option.ne_none_iff_exists'.1 hent
      simp [hs.mem, hid']
  unsubscribe c h id hreg := by
    obtain ⟨rfl, -⟩ := hs.wellFormed.handlers c h hreg
    have hmem : (∃ t, (c, t, id) ∈ subs) ↔ ∃ t, s.connections.topicOf ⟨c⟩ id = some t :=
      exists_congr fun t => (hs.mem c t id).trans (hs.inverse _ _ _).symm
    rw [hmem]
    cases htop : s.connections.topicOf ⟨c⟩ id with
    | some t =>
      have hent : s.connections.entry t ⟨c⟩ ≠ none := by simp [(hs.inverse _ _ _).1 htop]
      exact ⟨true, ⟨_, run_unsubscribe_true hreg htop hent⟩, by simp⟩
    | none =>
      have hrun := run_unsubscribe_false (l := []) hreg htop
      refine ⟨false, ?_, by simp⟩
      cases hent : s.connections.entry [] ⟨c⟩ with
      | none => exact ⟨_, by rw [hrun, if_pos hent]⟩
      | some id' =>
        -- the client is in the map of the empty topic, hence also in its own index
        have htop' := (hs.inverse _ _ _).2 hent
        obtain ⟨m, hm, -⟩ := Option.bind_eq_some_iff.1 htop'
        exact ⟨_, by rw [hrun, if_neg (by simp [hent]), if_neg (by simp [hm])]⟩
  send c h hd t body id hreg hsend hmem k := by
    obtain ⟨rfl, -⟩ := hs.wellFormed.handlers c h hreg
    have hent : s.connections.entry t ⟨c⟩ ≠ none := by simp [(hs.mem c t id).1 hmem]
    have hrun := run_sendFrame (l := []) hreg hsend hent
    rw [← run_act_send c hsend.command] at hrun
    have hcalls : sentTo ⟨k⟩ (after (act c hd) s.connections).calls =
        sentTo ⟨k⟩ (broadcastCalls s.connections t body) ++
          if k = c then ((hd.get "receipt-id").map ReceiptFrame.toString).toList else [] := by
      rw [after_of_ok hrun, List.nil_append, sentTo_append, sentTo_receiptCalls]
      simp
    rw [hcalls, sentTo_broadcastCalls]
    constructor
    · intro id' hid'
      rw [(hs.mem k t id').1 hid']
      rfl
    · intro hnone
      have hk : s.connections.entry t ⟨k⟩ = none := by
        by_contra hne
        obtain ⟨id', hid'⟩ := Option.ne_none_iff_exists'.1 hne
        exact hnone id' ((hs.mem k t id').2 hid')
      have hkc : k ≠ c := fun heq => hent (heq ▸ hk)
      simp [hk, hkc]

/-- An unregistered connection has no triples. -/
theorem not_mem_of_unregistered (hs : Refines s subs) {c : ℕ}
    (hreg : s.connections.idToHandler.lookup c = none) (t id : Str) : (c, t, id) ∉ subs := by
  intro hmem
  have hreg' := hs.toldBy.registered c t id hmem
  rw [hreg] at hreg'
  cases hreg'

end Refines

/-! ### Ended subscriptions -/

/-- The event does not subscribe connection `c` to the topic. -/
def Observed.NotSubscribing (c : ℕ) (t : Str) (o : Observed) (e : Event) : Prop :=
  ∀ id, Call.subscribe t c id true ∉ o.calls e

section Ended

variable {o : Observed} {c : ℕ} {t id : Str} {e : Event}

theorem not_mem_applyCall {subs : Finset Triple} (hsubs : ∀ id, (c, t, id) ∉ subs) {x : Call}
    (hx : ∀ id, x ≠ .subscribe t c id true) (id : Str) : (c, t, id) ∉ applyCall subs x := by
  intro hmem
  unfold applyCall at hmem
  split at hmem
  · rename_i t' c' id'
    rcases Finset.mem_insert.1 hmem with heq | hmem
    · cases heq
      exact hx _ rfl
    · exact hsubs id hmem
  · exact hsubs id (Finset.mem_filter.1 hmem).1
  · exact hsubs id (Finset.mem_filter.1 hmem).1
  · exact hsubs id hmem

theorem not_mem_foldl_applyCall {l : List Call} {subs : Finset Triple}
    (hsubs : ∀ id, (c, t, id) ∉ subs) (hl : ∀ id, Call.subscribe t c id true ∉ l) (id : Str) :
    (c, t, id) ∉ l.foldl applyCall subs := by
  induction l generalizing subs with
  | nil => exact hsubs id
  | cons x l ih =>
    refine ih (not_mem_applyCall hsubs fun id heq => ?_) fun id hmem => ?_
    · exact hl id (heq ▸ List.mem_cons_self)
    · exact hl id (List.mem_cons_of_mem x hmem)

/-- A triple that is gone stays away until its connection subscribes to the topic again. -/
theorem not_mem_run (ho : ∀ id, (c, t, id) ∉ o.subs) {es : List Event}
    (hes : Machine.Along Observed.step (Observed.NotSubscribing c t) o es) (id : Str) :
    (c, t, id) ∉ (Machine.run Observed.step o es).subs :=
  Machine.Along.invariant (I := fun o : Observed => ∀ id, (c, t, id) ∉ o.subs)
    (fun _ _ ho he => not_mem_foldl_applyCall ho he) ho hes id

/-- A successful `Unsubscribe` ends the subscription to its topic. -/
theorem not_mem_of_unsubscribe (ho : Refines o.server o.subs) (he : o.NotActive e)
    (hmem : (c, t, id) ∈ o.subs) (hcall : Call.unsubscribe c id true ∈ o.calls e) (id' : Str) :
    (c, t, id') ∉ (o.step e).subs := by
  rw [(ho.step he).mem]
  cases e with
  | accept => simp [Observed.calls, Server.handle, addConnection, after] at hcall
  | message k msg =>
    rcases handle_message ho.wellFormed.backed k msg with ⟨hd, -, heff⟩ | heq
    · obtain ⟨rfl, h, t', hreg, htop, hconn⟩ := heff.unsubscribed_of_call hcall
      obtain ⟨rfl, -⟩ := ho.wellFormed.handlers _ _ hreg
      have htop' := (ho.inverse _ _ _).2 ((ho.mem _ _ _).1 hmem)
      cases htop.symm.trans htop'
      simp [Observed.step, Server.step, hconn, ConnectionsImp.entry_removeSubscription]
    · simp [Observed.calls, heq] at hcall

/-- After `disconnect` a connection has no subscription ever again. -/
theorem unregistered_of_disconnect (ho : Refines o.server o.subs)
    (hcall : Call.disconnect c ∈ o.calls e) (es : List Event) :
    (Machine.run Observed.step (o.step e) es).server.connections.idToHandler.lookup c = none := by
  refine (Machine.run_invariant (I := fun o : Observed => o.server.WellFormed ∧
    c < o.server.accepted ∧ o.server.connections.idToHandler.lookup c = none) ?_ ?_ es).2.2
  · exact fun o e ho => ⟨ho.1.step e, unregistered_step ho.1 ho.2.1 ho.2.2 e⟩
  · exact ⟨ho.wellFormed.step e, Server.unregistered_of_disconnect ho.wellFormed hcall⟩

end Ended

/-- **The store refines the set of triples.**  In every run in which no connection subscribes with
an id that is active on it, the methods and deliveries are those of the set; a client that
unsubscribed gets nothing of the topic until it subscribes again, a disconnected one nothing. -/
theorem subscriptions_refine (es : List Event)
    (hes : Machine.Along Observed.step Observed.NotActive {} es) :
    ToldBy (Observed.atEnd es).server.connections (Observed.atEnd es).subs ∧
    (∀ pre e post c t id, es = pre ++ e :: post → (c, t, id) ∈ (Observed.atEnd pre).subs →
      Call.unsubscribe c id true ∈ (Observed.atEnd pre).calls e →
      Machine.Along Observed.step (Observed.NotSubscribing c t)
        (Observed.atEnd (pre ++ [e])) post →
      ∀ id', (c, t, id') ∉ (Observed.atEnd es).subs) ∧
    (∀ pre e post c, es = pre ++ e :: post →
      Call.disconnect c ∈ (Observed.atEnd pre).calls e →
      ∀ t id, (c, t, id) ∉ (Observed.atEnd es).subs) := by
  have hrefines := Refines.atEnd hes
  refine ⟨hrefines.toldBy, ?_, ?_⟩
  · rintro pre e post c t id rfl hmem hcall hpost
    obtain ⟨hpre, he, -⟩ := (Machine.along_append _ _ _).1 hes
    have hnone := not_mem_of_unsubscribe (Refines.atEnd hpre) he hmem hcall
    have hlast : Observed.atEnd (pre ++ [e]) = (Observed.atEnd pre).step e := by
      simp [Observed.atEnd]
    rw [hlast] at hpost
    simpa [Observed.atEnd] using not_mem_run hnone hpost
  · rintro pre e post c rfl hcall
    obtain ⟨hpre, -⟩ := (Machine.along_append _ _ _).1 hes
    have hreg := unregistered_of_disconnect (Refines.atEnd hpre) hcall post
    refine hrefines.not_mem_of_unregistered ?_
    simpa [Observed.atEnd] using hreg

/-- Two clients subscribe to one topic with the same id, each on its own connection. -/
def subscribingRun : List Event :=
  [.accept, .accept, .message 0 "SUBSCRIBE\ndestination :/a\nid :1\n\n\x00",
    .message 1 "SUBSCRIBE\ndestination :/a\nid :1\n\n\x00"]

theorem subscribingRun_refines : ToldBy (Observed.atEnd subscribingRun).server.connections
    (Observed.atEnd subscribingRun).subs := by
  refine (subscriptions_refine subscribingRun ⟨trivial, trivial, ?_, ?_, trivial⟩).1
  · intro hd h t id _ _ _ t' hmem
    have hsubs : (Observed.atEnd (subscribingRun.take 2)).subs = ∅ := by decide +kernel
    exact Finset.notMem_empty _ (hsubs ▸ hmem)
  · intro hd h t id _ _ _ t' hmem
    have hsubs : (Observed.atEnd (subscribingRun.take 3)).subs = {(0, lit "/a", lit "1")} := by
      decide +kernel
    have heq := Finset.mem_singleton.1 (hsubs ▸ hmem)
    cases heq

end WorldCupInformer
