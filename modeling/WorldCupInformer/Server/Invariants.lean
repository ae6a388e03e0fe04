import WorldCupInformer.Server.Server

/-!
# The registries in every reachable state

`WellFormed s n` relates the six registries after `n` accepted connections: the ids and their
handlers, the two subscription indexes as far as they always agree, the sessions.

* one lemma for each change a frame can make, assembled in `WellFormed.effect`;
* `wellFormed_atServer`: the registries are well formed after every run.
-/

namespace WorldCupInformer

namespace ConnectionsImp

/-- Connection `i` is registered and logged in as `u`. -/
def SessionOf (s : ConnectionsImp) (i : ℕ) (u : Str) : Prop :=
  ∃ h, s.idToHandler.lookup i = some h ∧ s.clientToUsername.lookup h = some u

end ConnectionsImp

/-- What always holds of the registries after `n` accepted connections. -/
structure WellFormed (s : ConnectionsImp) (n : ℕ) : Prop where
  handlers : ∀ i h, s.idToHandler.lookup i = some h → h = ⟨i⟩ ∧ i < n
  backed : s.Backed
  indexed : ∀ h id t, s.topicOf h id = some t → s.idToHandler.lookup h.serial = some h
  entered : ∀ t h id, s.entry t h = some id → h.serial < n
  named : ∀ h u, s.clientToUsername.lookup h = some u → h.serial < n
  known : ∀ h u, s.clientToUsername.lookup h = some u → s.usernameToPass.lookup u ≠ none
  logged : ∀ u, u ∈ s.loggedInUsers ↔ ∃ i, s.SessionOf i u
  unique : ∀ i j u, s.SessionOf i u → s.SessionOf j u → i = j

namespace WellFormed

variable {s : ConnectionsImp} {n c : ℕ} {h : ConnectionHandler}

theorem empty : WellFormed {} 0 where
  handlers i h hreg := by simp at hreg
  backed h id t ht := by simp [ConnectionsImp.topicOf] at ht
  indexed h id t ht := by simp [ConnectionsImp.topicOf] at ht
  entered t h id ht := by simp [ConnectionsImp.entry] at ht
  named h u hu := by simp at hu
  known h u hu := by simp at hu
  logged u := by simp [ConnectionsImp.SessionOf]
  unique i j u hi := by simp [ConnectionsImp.SessionOf] at hi

/-- A handler is registered under one id only. -/
theorem eq_serial (hs : WellFormed s n) (hreg : s.idToHandler.lookup c = some h) :
    c = h.serial := by
  obtain ⟨rfl, -⟩ := hs.handlers c h hreg
  rfl

theorem sessionOf_iff (hreg : s.idToHandler.lookup c = some h) (u : Str) :
    s.SessionOf c u ↔ s.clientToUsername.lookup h = some u := by
  constructor
  · rintro ⟨h', hreg', hu⟩
    rw [hreg] at hreg'
    cases hreg'
    exact hu
  · exact fun hu => ⟨h, hreg, hu⟩

/-! ### One lemma for each change -/

theorem accept (hs : WellFormed s n) :
    WellFormed { s with idToHandler := s.idToHandler.insert n ⟨n⟩ } (n + 1) := by
  have hold : ∀ h : ConnectionHandler, h.serial < n →
      (s.idToHandler.insert n ⟨n⟩).lookup h.serial = s.idToHandler.lookup h.serial :=
    fun h hlt => by rw [Dict.lookup_insert, if_neg (by omega)]
  have hsession : ∀ i u, ConnectionsImp.SessionOf
      { s with idToHandler := s.idToHandler.insert n ⟨n⟩ } i u ↔ s.SessionOf i u := by
    intro i u
    constructor
    · rintro ⟨h, hreg, hu⟩
      have hlt := hs.named h u hu
      simp only [Dict.lookup_insert] at hreg
      split_ifs at hreg with hi
      · cases hreg
        simp at hlt
      · exact ⟨h, hreg, hu⟩
    · rintro ⟨h, hreg, hu⟩
      obtain ⟨rfl, hlt⟩ := hs.handlers i h hreg
      exact ⟨_, (hold _ hlt).trans hreg, hu⟩
  refine { hs with
    handlers := ?_, indexed := ?_, entered := ?_, named := ?_, logged := ?_, unique := ?_ }
  · intro i h hreg
    simp only [Dict.lookup_insert] at hreg
    split_ifs at hreg with hi
    · cases hreg
      exact ⟨by rw [hi], by omega⟩
    · obtain ⟨hh, hlt⟩ := hs.handlers i h hreg
      exact ⟨hh, by omega⟩
  · intro h id t ht
    have hlt := hs.entered t h id (hs.backed h id t ht)
    exact (hold h hlt).trans (hs.indexed h id t ht)
  · intro t h id ht
    exact Nat.lt_succ_of_lt (hs.entered t h id ht)
  · intro h u hu
    exact Nat.lt_succ_of_lt (hs.named h u hu)
  · intro u
    simp only [hsession]
    exact hs.logged u
  · intro i j u hi hj
    exact hs.unique i j u ((hsession i u).1 hi) ((hsession j u).1 hj)

theorem openTopic (hs : WellFormed s n) {t : Str} (ht : s.topicToClients.lookup t = none) :
    WellFormed (s.openTopic t) n :=
  { hs with
    backed := fun h id t' ht' =>
      (ConnectionsImp.entry_openTopic h t' ht).trans (hs.backed h id t' ht')
    entered := fun t' h id ht' =>
      hs.entered t' h id ((ConnectionsImp.entry_openTopic h t' ht).symm.trans ht') }

theorem checked (hs : WellFormed s n) (u p : Str) : WellFormed (s.checked u p) n := by
  unfold ConnectionsImp.checked
  split_ifs
  · refine { hs with known := fun h v hv => ?_ }
    simp only [ConnectionsImp.register, Dict.lookup_insert]
    split_ifs
    · simp
    · exact hs.known h v hv
  · exact hs

theorem sessionOf_drop (s : ConnectionsImp) (c : ℕ) (h : ConnectionHandler) (i : ℕ) (u : Str) :
    (s.drop c h).SessionOf i u ↔ i ≠ c ∧ s.SessionOf i u := by
  unfold ConnectionsImp.SessionOf ConnectionsImp.drop
  simp only [Dict.lookup_erase]
  by_cases hi : i = c <;> simp [hi]

theorem drop (hs : WellFormed s n) (hreg : s.idToHandler.lookup c = some h) :
    WellFormed (s.drop c h) n := by
  have hidx : ∀ h' id t, (s.drop c h).topicOf h' id = some t →
      h' ≠ h ∧ s.topicOf h' id = some t := by
    intro h' id t ht
    rw [ConnectionsImp.topicOf_drop] at ht
    split_ifs at ht with hh
    exact ⟨hh, ht⟩
  refine { hs with
    handlers := ?_, backed := ?_, indexed := ?_, entered := ?_, logged := ?_, unique := ?_ }
  · intro i h' hreg'
    simp only [ConnectionsImp.drop, Dict.lookup_erase] at hreg'
    split_ifs at hreg'
    exact hs.handlers i h' hreg'
  · intro h' id t ht
    obtain ⟨hne, ht⟩ := hidx h' id t ht
    rw [ConnectionsImp.entry_drop, if_neg (fun hand => hne hand.2)]
    exact hs.backed h' id t ht
  · intro h' id t ht
    obtain ⟨hne, ht⟩ := hidx h' id t ht
    have hreg' := hs.indexed h' id t ht
    simp only [ConnectionsImp.drop, Dict.lookup_erase]
    rw [if_neg]
    · exact hreg'
    · intro heq
      rw [heq, hreg] at hreg'
      cases hreg'
      exact hne rfl
  · intro t h' id ht
    rw [ConnectionsImp.entry_drop] at ht
    split_ifs at ht
    exact hs.entered t h' id ht
  · intro u
    simp only [ConnectionsImp.mem_loggedInUsers_drop, hs.logged, sessionOf_drop,
      ← sessionOf_iff hreg, ne_eq]
    constructor
    · rintro ⟨hne, i, hi⟩
      exact ⟨i, fun hic => hne (hic ▸ hi), hi⟩
    · rintro ⟨i, hne, hi⟩
      exact ⟨fun hc => hne (hs.unique i c u hi hc), i, hi⟩
  · intro i j u hi hj
    rw [sessionOf_drop] at hi hj
    exact hs.unique i j u hi.2 hj.2

/-- Taking the client out of one more topic before it is dropped is no harm. -/
theorem dropEntry_drop (hs : WellFormed s n) (hreg : s.idToHandler.lookup c = some h) (t : Str) :
    WellFormed ((s.dropEntry t h).drop c h) n := by
  have hdrop := hs.drop hreg
  refine { hdrop with backed := ?_, entered := ?_ }
  · intro h' id t' ht'
    rw [ConnectionsImp.topicOf_drop] at ht'
    split_ifs at ht' with hh
    rw [ConnectionsImp.entry_drop, if_neg (fun hand => hh hand.2),
      ConnectionsImp.entry_dropEntry, if_neg (fun hand => hh hand.2)]
    exact hs.backed h' id t' ht'
  · intro t' h' id ht'
    rw [ConnectionsImp.entry_drop, ConnectionsImp.entry_dropEntry] at ht'
    split_ifs at ht'
    exact hs.entered t' h' id ht'

theorem sessionOf_login (hs : WellFormed s n) (hreg : s.idToHandler.lookup c = some h)
    (hh : s.clientToUsername.lookup h = none) (u p : Str) (i : ℕ) (v : Str) :
    (s.login h u p).SessionOf i v ↔ s.SessionOf i v ∨ i = c ∧ v = u := by
  have hserial := hs.eq_serial hreg
  unfold ConnectionsImp.SessionOf ConnectionsImp.login
  simp only [Dict.lookup_insert]
  constructor
  · rintro ⟨h', hreg', hv⟩
    split_ifs at hv with heq
    · subst heq
      cases hv
      exact .inr ⟨(hs.eq_serial hreg').trans hserial.symm, rfl⟩
    · exact .inl ⟨h', hreg', hv⟩
  · rintro (⟨h', hreg', hv⟩ | ⟨rfl, rfl⟩)
    · refine ⟨h', hreg', ?_⟩
      rw [if_neg (fun heq => by rw [heq, hh] at hv; cases hv)]
      exact hv
    · exact ⟨h, hreg, if_pos rfl⟩

theorem login (hs : WellFormed s n) (hreg : s.idToHandler.lookup c = some h) {u p : Str}
    (herr : s.connectErrors h u p = []) : WellFormed (s.login h u p) n := by
  obtain ⟨hh, hu, -⟩ := ConnectionsImp.connectErrors_eq_nil.1 herr
  have hsession := sessionOf_login hs hreg hh u p
  have hnone : ∀ i, ¬ s.SessionOf i u := fun i hi => hu ((hs.logged u).2 ⟨i, hi⟩)
  refine { hs with named := ?_, known := ?_, logged := ?_, unique := ?_ }
  · intro h' v hv
    simp only [ConnectionsImp.login, Dict.lookup_insert] at hv
    split_ifs at hv with heq
    · obtain ⟨rfl, hlt⟩ := hs.handlers c h hreg
      rw [heq]
      exact hlt
    · exact hs.named h' v hv
  · intro h' v hv
    simp only [ConnectionsImp.login, Dict.lookup_insert] at hv ⊢
    split_ifs at hv with heq <;> split_ifs with hvu
    · simp
    · exact absurd (Option.some.inj hv).symm hvu
    · simp
    · exact hs.known h' v hv
  · intro v
    simp only [hsession, exists_or, ← hs.logged, exists_eq_left]
    simp [ConnectionsImp.login, or_comm]
  · intro i j v hi hj
    rcases (hsession i v).1 hi with hi | ⟨rfl, rfl⟩ <;>
      rcases (hsession j v).1 hj with hj | ⟨rfl, hv⟩
    · exact hs.unique i j v hi hj
    · exact absurd (hv ▸ hi) (hnone i)
    · exact absurd hj (hnone j)
    · rfl

theorem addSubscription (hs : WellFormed s n) (hreg : s.idToHandler.lookup c = some h) {t : Str}
    (hent : s.entry t h = none) (id : Str) : WellFormed (s.addSubscription t h id) n := by
  obtain ⟨hh, hlt⟩ := hs.handlers c h hreg
  refine { hs with backed := ?_, indexed := ?_, entered := ?_ }
  · intro h' id' t' ht'
    rw [ConnectionsImp.topicOf_addSubscription] at ht'
    rw [ConnectionsImp.entry_addSubscription]
    split_ifs at ht' with hnew
    · cases ht'
      rw [if_pos ⟨rfl, hnew.1⟩, hnew.2]
    · have hback := hs.backed h' id' t' ht'
      rw [if_neg]
      · exact hback
      · rintro ⟨rfl, rfl⟩
        rw [hent] at hback
        cases hback
  · intro h' id' t' ht'
    rw [ConnectionsImp.topicOf_addSubscription] at ht'
    split_ifs at ht' with hnew
    · rw [hnew.1, ← hs.eq_serial hreg]
      exact hreg
    · exact hs.indexed h' id' t' ht'
  · intro t' h' id' ht'
    rw [ConnectionsImp.entry_addSubscription] at ht'
    split_ifs at ht' with hnew
    · rw [hnew.2, hh]
      exact hlt
    · exact hs.entered t' h' id' ht'

theorem removeSubscription (hs : WellFormed s n) {t id : Str} (htop : s.topicOf h id = some t) :
    WellFormed (s.removeSubscription t h id) n := by
  refine { hs with backed := ?_, indexed := ?_, entered := ?_ }
  · intro h' id' t' ht'
    rw [ConnectionsImp.topicOf_removeSubscription] at ht'
    rw [ConnectionsImp.entry_removeSubscription]
    split_ifs at ht' with hold
    have hback := hs.backed h' id' t' ht'
    rw [if_neg]
    · exact hback
    · rintro ⟨rfl, rfl⟩
      -- the topic has one entry for the client, which is the one of `id`
      rw [hs.backed h' id t' htop] at hback
      exact hold ⟨rfl, (Option.some.inj hback).symm⟩
  · intro h' id' t' ht'
    rw [ConnectionsImp.topicOf_removeSubscription] at ht'
    split_ifs at ht'
    exact hs.indexed h' id' t' ht'
  · intro t' h' id' ht'
    rw [ConnectionsImp.entry_removeSubscription] at ht'
    split_ifs at ht'
    exact hs.entered t' h' id' ht'

/-! ### Every frame, every run -/

theorem rejects (hs : WellFormed s n) (hreg : s.idToHandler.lookup c = some h) {hd : HeaderTable}
    {s₁ : ConnectionsImp} {pre : List Call} {errors : List Str}
    (hrej : Rejects s c h hd s₁ pre errors) : WellFormed (s₁.drop c h) n := by
  cases hrej with
  | connect hcon herr =>
    refine (hs.checked _ _).drop ?_
    unfold ConnectionsImp.checked
    split_ifs <;> exact hreg
  | unsubscribeEmpty huns htop hent hidx => exact hs.dropEntry_drop hreg []
  | connectMalformed => exact hs.drop hreg
  | disconnect => exact hs.drop hreg
  | sendMalformed => exact hs.drop hreg
  | send => exact hs.drop hreg
  | subscribeMalformed => exact hs.drop hreg
  | subscribe => exact hs.drop hreg
  | unsubscribeMalformed => exact hs.drop hreg
  | unsubscribe => exact hs.drop hreg

theorem effect (hs : WellFormed s n) {hd : HeaderTable} {e : Exec} (he : Effect s c hd e) :
    WellFormed e.connections n := by
  cases he with
  | opened hreg hsub ht => exact hs.openTopic ht
  | rejected hreg hrej => exact hs.rejects hreg hrej
  | connected hreg hcon herr => exact hs.login hreg herr
  | disconnected hreg hdis hu => exact hs.drop hreg
  | subscribed hreg hsub hent => exact hs.addSubscription hreg hent _
  | unsubscribed hreg huns htop => exact hs.removeSubscription htop
  | ignored => exact hs
  | unregistered => exact hs
  | anonymous => exact hs
  | broadcast => exact hs
  | unindexed => exact hs

end WellFormed

/-- A frame registers no connection. -/
theorem Effect.unregistered_mono {s : ConnectionsImp} {c : ℕ} {hd : HeaderTable} {e : Exec}
    (he : Effect s c hd e) {k : ℕ} (hk : s.idToHandler.lookup k = none) :
    e.connections.idToHandler.lookup k = none := by
  have hdrop : ∀ (s₁ : ConnectionsImp) h, s₁.idToHandler = s.idToHandler →
      (s₁.drop c h).idToHandler.lookup k = none := by
    intro s₁ h heq
    simp only [ConnectionsImp.drop, Dict.lookup_erase, heq]
    split_ifs <;> simp [hk]
  cases he with
  | rejected hreg hrej => exact hdrop _ _ hrej.same_sessions.1
  | disconnected => exact hdrop _ _ rfl
  | _ => exact hk

namespace Server

/-- The well-formedness of a server. -/
def WellFormed (s : Server) : Prop := WorldCupInformer.WellFormed s.connections s.accepted

theorem WellFormed.step {s : Server} (hs : s.WellFormed) (e : Event) : (s.step e).WellFormed := by
  cases e with
  | accept => exact hs.accept
  | message c msg =>
    exact step_message (P := fun conns => WorldCupInformer.WellFormed conns s.accepted) hs.backed hs
      fun hd e _ he => hs.effect he

/-- An id that has been given out and is not registered stays so: ids are not reused. -/
theorem unregistered_step {s : Server} (hs : s.WellFormed) {k : ℕ} (hlt : k < s.accepted)
    (hk : s.connections.idToHandler.lookup k = none) (e : Event) :
    k < (s.step e).accepted ∧ (s.step e).connections.idToHandler.lookup k = none := by
  cases e with
  | accept =>
    rw [step_accept]
    refine ⟨Nat.lt_succ_of_lt hlt, ?_⟩
    simp only [Dict.lookup_insert]
    rw [if_neg (by omega)]
    exact hk
  | message c msg =>
    exact ⟨hlt, step_message (P := fun conns => conns.idToHandler.lookup k = none) hs.backed hk
      fun hd e _ he => he.unregistered_mono hk⟩

/-- A connection that a frame disconnects was registered and is not any more. -/
theorem unregistered_of_disconnect {s : Server} (hs : s.WellFormed) {k : ℕ} {e : Event}
    (hk : Call.disconnect k ∈ (s.handle e).calls) : k < (s.step e).accepted ∧
      (s.step e).connections.idToHandler.lookup k = none := by
  cases e with
  | accept => simp [handle, addConnection, after] at hk
  | message c msg =>
    rcases handle_message hs.backed c msg with ⟨hd, -, he⟩ | heq
    · obtain ⟨rfl, h, s₁, hreg, hconn, -⟩ := he.dropped_of_call hk
      refine ⟨(hs.handlers _ _ hreg).2, ?_⟩
      unfold Server.step
      rw [hconn]
      simp [ConnectionsImp.drop]
    · rw [heq] at hk
      simp at hk

theorem wellFormed_init : WellFormed {} := WorldCupInformer.WellFormed.empty

/-- **The registries are well formed after every run.** -/
theorem wellFormed_atServer (es : List Event) : (atServer es).WellFormed :=
  Machine.run_invariant (fun _ e hs => hs.step e) wellFormed_init es

end Server

end WorldCupInformer
