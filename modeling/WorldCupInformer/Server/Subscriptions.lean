import WorldCupInformer.Server.Invariants

/-!
# The two subscription indexes

`topicToClients` and `clientToTopics` are inverse to each other as long as no client subscribes to
a second topic with an id it still uses (`FreshId`); a single such SUBSCRIBE breaks them apart.

* `inverse_iff_freshId`: the indexes are inverse in every state of a run exactly when every
  event of the run is fresh;
* `Subscribers`, `subscriptions_refine`: as long as they are inverse, the indexes implement a
  set of (connection, topic, subscription id) triples.
-/

namespace WorldCupInformer

open Server

namespace ConnectionsImp

/-- The two indexes are inverse to each other. -/
def Inverse (s : ConnectionsImp) : Prop :=
  ∀ h t id, s.topicOf h id = some t ↔ s.entry t h = some id

variable {s : ConnectionsImp} {c : ℕ} {h : ConnectionHandler} {t id : Str}

/-- `disconnect` finds all entries of the client. -/
theorem Inverse.entry_drop (hs : s.Inverse) (h' : ConnectionHandler) (t' : Str) :
    (s.drop c h).entry t' h' = if h' = h then none else s.entry t' h' := by
  rw [ConnectionsImp.entry_drop]
  by_cases hh : h' = h
  · subst hh
    by_cases ht : t' ∈ s.topicsOf h'
    · simp [ht]
    · cases hent : s.entry t' h' with
      | none => simp
      | some id => exact absurd (mem_topicsOf.2 ⟨id, (hs h' t' id).2 hent⟩) ht
  · simp [hh]

theorem Inverse.entry_dropEntry_drop (hs : s.Inverse) (t : Str) (h' : ConnectionHandler)
    (t' : Str) : ((s.dropEntry t h).drop c h).entry t' h' =
      if h' = h then none else s.entry t' h' := by
  have hdrop := hs.entry_drop (c := c) (h := h) h' t'
  rw [ConnectionsImp.entry_drop] at hdrop ⊢
  have htopics : (s.dropEntry t h).topicsOf h = s.topicsOf h := rfl
  rw [htopics, entry_dropEntry]
  by_cases hh : h' = h
  · subst hh
    by_cases ht : t' = t
    · simp [ht]
    · simpa [ht] using hdrop
  · simp [hh]

/-- Whatever the checks of a rejected frame did, its sender is gone from both indexes. -/
theorem Inverse.entry_rejects (hs : s.Inverse) {hd : HeaderTable} {s₁ : ConnectionsImp}
    {pre : List Call} {errors : List Str} (hrej : Rejects s c h hd s₁ pre errors)
    (h' : ConnectionHandler) (t' : Str) :
    (s₁.drop c h).entry t' h' = if h' = h then none else s.entry t' h' := by
  cases hrej with
  | unsubscribeEmpty => exact hs.entry_dropEntry_drop [] h' t'
  | @connect v host u p =>
    have hent : (s.checked u p).entry = s.entry := by unfold checked; split_ifs <;> rfl
    have hinv : (s.checked u p).Inverse := by unfold checked; split_ifs <;> exact hs
    rw [hinv.entry_drop, hent]
  | _ => exact hs.entry_drop h' t'

theorem topicOf_rejects {hd : HeaderTable} {s₁ : ConnectionsImp} {pre : List Call}
    {errors : List Str} (hrej : Rejects s c h hd s₁ pre errors) (h' : ConnectionHandler)
    (id' : Str) : (s₁.drop c h).topicOf h' id' = if h' = h then none else s.topicOf h' id' := by
  rw [topicOf_drop]
  cases hrej with
  | @connect v host u p =>
    have htop : (s.checked u p).topicOf = s.topicOf := by unfold checked; split_ifs <;> rfl
    rw [htop]
  | _ => rfl

theorem Inverse.of_dropped (hs : s.Inverse) {s' : ConnectionsImp}
    (hent : ∀ h' t', s'.entry t' h' = if h' = h then none else s.entry t' h')
    (htop : ∀ h' id', s'.topicOf h' id' = if h' = h then none else s.topicOf h' id') :
    s'.Inverse := by
  intro h' t' id'
  rw [hent, htop]
  split_ifs
  · simp
  · exact hs h' t' id'

theorem Inverse.entry_ne (hs : s.Inverse) (htop : s.topicOf h id ≠ some t) :
    s.entry t h ≠ some id := mt (hs h t id).2 htop

theorem Inverse.topicOf_ne (hs : s.Inverse) (hent : s.entry t h ≠ some id) :
    s.topicOf h id ≠ some t := mt (hs h t id).1 hent

theorem Inverse.addSubscription (hs : s.Inverse) (hent : s.entry t h = none)
    (htop : s.topicOf h id = none) : (s.addSubscription t h id).Inverse := by
  intro h' t' id'
  rw [topicOf_addSubscription, entry_addSubscription]
  by_cases hh : h' = h
  · subst hh
    by_cases hid : id' = id <;> by_cases ht : t' = t
    · simp [hid, ht]
    · subst hid
      have hne : s.entry t' h' ≠ some id' := hs.entry_ne (by simp [htop])
      simp [ht, hne, Ne.symm ht]
    · subst ht
      have hne : s.topicOf h' id' ≠ some t' := hs.topicOf_ne (by simp [hent])
      simp [hid, hne, Ne.symm hid]
    · simpa [hid, ht] using hs h' t' id'
  · simpa [hh] using hs h' t' id'

theorem Inverse.removeSubscription (hs : s.Inverse) (htop : s.topicOf h id = some t) :
    (s.removeSubscription t h id).Inverse := by
  intro h' t' id'
  rw [topicOf_removeSubscription, entry_removeSubscription]
  by_cases hh : h' = h
  · subst hh
    have hent := (hs h' t id).1 htop
    by_cases hid : id' = id <;> by_cases ht : t' = t
    · simp [hid, ht]
    · subst hid
      have hne : s.entry t' h' ≠ some id' := hs.entry_ne (by simp [htop, Ne.symm ht])
      simp [ht, hne]
    · subst ht
      have hne : s.topicOf h' id' ≠ some t' := hs.topicOf_ne (by simp [hent, Ne.symm hid])
      simp [hid, hne]
    · simpa [hid, ht] using hs h' t' id'
  · simpa [hh] using hs h' t' id'

theorem Inverse.openTopic (hs : s.Inverse) (ht : s.topicToClients.lookup t = none) :
    (s.openTopic t).Inverse := by
  intro h' t' id'
  rw [entry_openTopic h' t' ht]
  exact hs h' t' id'

end ConnectionsImp

variable {s : ConnectionsImp} {c : ℕ} {h : ConnectionHandler} {hd : HeaderTable} {e : Exec}

/-- The frame does not subscribe its sender with an id that is still in the sender's index. -/
def FreshFrame (s : ConnectionsImp) (c : ℕ) (hd : HeaderTable) : Prop :=
  ∀ h t id, s.idToHandler.lookup c = some h → hd.IsSubscribe t id → s.entry t h = none →
    s.topicOf h id = none

/-- The event is not a SUBSCRIBE that reuses an id. -/
def Server.FreshId (s : Server) : Event → Prop
  | .accept => True
  | .message c msg => ∀ hd, orderMsgInHash msg = .ok hd → FreshFrame s.connections c hd

theorem ConnectionsImp.Inverse.effect (hs : s.Inverse) (he : Effect s c hd e)
    (hfresh : FreshFrame s c hd) : e.connections.Inverse := by
  cases he with
  | opened hreg hsub ht => exact hs.openTopic ht
  | rejected hreg hrej =>
    exact hs.of_dropped (hs.entry_rejects hrej) (ConnectionsImp.topicOf_rejects hrej)
  | disconnected hreg hdis hu =>
    exact hs.of_dropped hs.entry_drop (fun h' id' => ConnectionsImp.topicOf_drop _ _ _ _ _)
  | subscribed hreg hsub hent => exact hs.addSubscription hent (hfresh _ _ _ hreg hsub hent)
  | unsubscribed hreg huns htop => exact hs.removeSubscription htop
  | connected => exact hs
  | _ => exact hs

/-- A SUBSCRIBE that reuses an id leaves an entry in the topic index that the client index does
not have. -/
theorem not_inverse_of_reused {t t₀ id : Str} (hs : s.Inverse) (hent : s.entry t h = none)
    (htop : s.topicOf h id = some t₀) : ¬ (s.addSubscription t h id).Inverse := by
  intro hinv
  have hent₀ : s.entry t₀ h = some id := (hs h t₀ id).1 htop
  have hne : t₀ ≠ t := fun heq => by
    rw [heq, hent] at hent₀
    cases hent₀
  have hent₁ : (s.addSubscription t h id).entry t₀ h = some id := by
    rw [ConnectionsImp.entry_addSubscription, if_neg (fun hand => hne hand.1)]
    exact hent₀
  have htop₁ := (hinv h t₀ id).2 hent₁
  rw [ConnectionsImp.topicOf_addSubscription, if_pos ⟨rfl, rfl⟩] at htop₁
  exact hne (Option.some.inj htop₁).symm

theorem inverse_step {s : Server} (hwf : s.WellFormed) (hs : s.connections.Inverse) {e : Event}
    (he : s.FreshId e) : (s.step e).connections.Inverse := by
  cases e with
  | accept => exact hs
  | message c msg =>
    exact step_message hwf.backed hs fun hd e hmsg heff => hs.effect heff (he hd hmsg)

theorem freshId_of_inverse_step {s : Server} (hs : s.connections.Inverse) {e : Event}
    (he : (s.step e).connections.Inverse) : s.FreshId e := by
  cases e with
  | accept => trivial
  | message c msg =>
    intro hd hmsg h t id hreg hsub hent
    by_contra htop
    obtain ⟨t₀, htop⟩ := Option.ne_none_iff_exists'.1 htop
    rw [Server.step_subscribed hmsg hreg hsub hent] at he
    exact not_inverse_of_reused hs hent htop he

/-- **The indexes are inverse to each other in every state of a run exactly when no event of the
run is a SUBSCRIBE that reuses an id.** -/
theorem inverse_iff_freshId (es : List Event) :
    (∀ pre, pre <+: es → (atServer pre).connections.Inverse) ↔
      Machine.Along Server.step Server.FreshId {} es := by
  have hinit : ({} : Server).connections.Inverse := fun h t id => by
    simp [ConnectionsImp.topicOf, ConnectionsImp.entry]
  exact (Machine.along_iff_forall_prefix (J := Server.WellFormed)
    (I := fun s => s.connections.Inverse) (fun _ e hwf => hwf.step e)
    (fun _ _ hwf hs he => inverse_step hwf hs he) (fun _ _ _ hs he => freshId_of_inverse_step hs he)
    wellFormed_init hinit es).symm

/-- One client subscribes to two topics with the same id. -/
def reusingRun : List Event :=
  [.accept, .message 0 "SUBSCRIBE\ndestination :/a\nid :1\n\n\x00",
    .message 0 "SUBSCRIBE\ndestination :/b\nid :1\n\n\x00"]

theorem not_forall_inverse : ¬ ∀ es, (atServer es).connections.Inverse := by
  intro hall
  have hent : (atServer reusingRun).connections.entry "/a" ⟨0⟩ = some (lit "1") := by decide +kernel
  have htop : (atServer reusingRun).connections.topicOf ⟨0⟩ "1" = some (lit "/b") := by
    decide +kernel
  rw [(hall reusingRun ⟨0⟩ "/a" "1").2 hent] at htop
  exact absurd htop (by decide)

end WorldCupInformer
