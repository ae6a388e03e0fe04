import WorldCupInformer.Server.Invariants

/-!
# What a frame leaves alone

A frame acts on the connection it came from: the other clients keep their entries, and only the
sender can lose its registration, through `disconnect`.

* `Effect.sameClient`: the clients that are not the sender keep their entries in every registry;
* `Effect.kept_or_dropped`: a frame keeps all registrations, or disconnects its sender;
* `unregistered_iff_disconnected`: an accepted connection is not registered any more exactly when
  an earlier frame of it has called `disconnect`;
* `frames_isolated`: a message leaves every other registered connection as it is.
-/

namespace WorldCupInformer

namespace ConnectionsImp

/-- The client has the same entries in both states. -/
structure SameClient (s s' : ConnectionsImp) (d : ConnectionHandler) : Prop where
  entry : ∀ t, s'.entry t d = s.entry t d
  topics : s'.clientToTopics.lookup d = s.clientToTopics.lookup d
  username : s'.clientToUsername.lookup d = s.clientToUsername.lookup d

namespace SameClient

variable {s s' s'' : ConnectionsImp} {c : ℕ} {h d : ConnectionHandler}

theorem refl (s : ConnectionsImp) (d : ConnectionHandler) : s.SameClient s d :=
  ⟨fun _ => rfl, rfl, rfl⟩

theorem trans (h₁ : s.SameClient s' d) (h₂ : s'.SameClient s'' d) : s.SameClient s'' d :=
  ⟨fun t => (h₂.entry t).trans (h₁.entry t), h₂.topics.trans h₁.topics,
    h₂.username.trans h₁.username⟩

theorem drop (hne : d ≠ h) : s.SameClient (s.drop c h) d where
  entry t := by rw [entry_drop, if_neg fun hand => hne hand.2]
  topics := AList.lookup_erase_ne hne
  username := rfl

theorem dropEntry (hne : d ≠ h) (t : Str) : s.SameClient (s.dropEntry t h) d where
  entry t' := by rw [entry_dropEntry, if_neg fun hand => hne hand.2]
  topics := rfl
  username := rfl

theorem openTopic {t : Str} (ht : s.topicToClients.lookup t = none) :
    s.SameClient (s.openTopic t) d where
  entry t' := entry_openTopic d t' ht
  topics := rfl
  username := rfl

theorem checked (u p : Str) : s.SameClient (s.checked u p) d := by
  unfold ConnectionsImp.checked
  split_ifs <;> exact ⟨fun _ => rfl, rfl, rfl⟩

theorem login (hne : d ≠ h) (u p : Str) : s.SameClient (s.login h u p) d where
  entry _ := rfl
  topics := rfl
  username := AList.lookup_insert_ne hne

theorem addSubscription (hne : d ≠ h) (t id : Str) : s.SameClient (s.addSubscription t h id) d where
  entry t' := by rw [entry_addSubscription, if_neg fun hand => hne hand.2]
  topics := AList.lookup_insert_ne hne
  username := rfl

theorem removeSubscription (hne : d ≠ h) (t id : Str) :
    s.SameClient (s.removeSubscription t h id) d where
  entry t' := by rw [entry_removeSubscription, if_neg fun hand => hne hand.2]
  topics := by
    unfold ConnectionsImp.removeSubscription Dict.prune₂
    cases s.clientToTopics.lookup h with
    | none => rfl
    | some m =>
      dsimp only
      split_ifs
      · rw [AList.lookup_erase_ne hne, AList.lookup_insert_ne hne]
      · rw [AList.lookup_insert_ne hne]
  username := rfl

end SameClient

end ConnectionsImp

open ConnectionsImp

variable {s : ConnectionsImp} {c : ℕ} {h d : ConnectionHandler} {hd : HeaderTable} {e : Exec}

/-- The checks of a rejected frame touch its sender only. -/
theorem Rejects.sameClient {s₁ : ConnectionsImp} {pre : List Call} {errors : List Str}
    (hrej : Rejects s c h hd s₁ pre errors) (hne : d ≠ h) : s.SameClient s₁ d := by
  cases hrej with
  | connect => exact .checked _ _
  | unsubscribeEmpty => exact .dropEntry hne []
  | _ => exact .refl s d

/-- **The clients that are not the sender keep their entries.** -/
theorem Effect.sameClient (he : Effect s c hd e) (hne : s.idToHandler.lookup c ≠ some d) :
    s.SameClient e.connections d := by
  have hsender : ∀ {h}, s.idToHandler.lookup c = some h → d ≠ h := fun hreg heq =>
    hne (heq ▸ hreg)
  cases he with
  | opened hreg hsub ht => exact .openTopic ht
  | rejected hreg hrej => exact (hrej.sameClient (hsender hreg)).trans (.drop (hsender hreg))
  | connected hreg hcon => exact .login (hsender hreg) _ _
  | disconnected hreg => exact .drop (hsender hreg)
  | subscribed hreg => exact .addSubscription (hsender hreg) _ _
  | unsubscribed hreg => exact .removeSubscription (hsender hreg) _ _
  | ignored => exact .refl s d
  | unregistered => exact .refl s d
  | anonymous => exact .refl s d
  | broadcast => exact .refl s d
  | unindexed => exact .refl s d

/-- **A frame keeps all registrations, or disconnects its sender.** -/
theorem Effect.kept_or_dropped (he : Effect s c hd e) :
    (e.connections.idToHandler = s.idToHandler ∧ (∀ k, Call.disconnect k ∉ e.calls) ∧
      ∀ d, Call.terminate d ∉ e.calls) ∨
    ∃ h, s.idToHandler.lookup c = some h ∧ e.connections.idToHandler = s.idToHandler.erase c ∧
      (∀ k, Call.disconnect k ∈ e.calls ↔ k = c) ∧ ∀ d, Call.terminate d ∈ e.calls ↔ d = h := by
  have hreceipt : ∀ x, (∀ d m, x ≠ Call.send d m) → ∀ h r, x ∉ receiptCalls h r := by
    intro x hx h r
    cases r with
    | none => exact List.not_mem_nil
    | some r => exact fun hmem => hx _ _ (List.mem_singleton.1 hmem)
  cases he with
  | rejected hreg hrej =>
    have hpre : ∀ x, (∀ t id, x ≠ Call.subscribe t c id false) →
        (∀ id, x ≠ Call.unsubscribe c id false) → x ∉ _ := fun x hsub huns hx => by
      rcases hrej.mem_pre hx with ⟨t, id, heq⟩ | ⟨id, heq⟩
      · exact hsub t id heq
      · exact huns id heq
    refine .inr ⟨_, hreg, ?_, fun k => ?_, fun d => ?_⟩
    · simp [drop, hrej.same_sessions.1]
    · simp [rejectCalls, hpre (.disconnect k)]
    · simp [rejectCalls, hpre (.terminate d)]
  | disconnected hreg => exact .inr ⟨_, hreg, rfl, by simp, by simp⟩
  | connected => exact .inl ⟨rfl, by simp [hreceipt], by simp [hreceipt]⟩
  | broadcast => exact .inl ⟨rfl, by simp [broadcastCalls, hreceipt],
      by simp [broadcastCalls, hreceipt]⟩
  | subscribed => exact .inl ⟨rfl, by simp [hreceipt], by simp [hreceipt]⟩
  | unsubscribed => exact .inl ⟨rfl, by simp [hreceipt], by simp [hreceipt]⟩
  | _ => exact .inl ⟨rfl, by simp, by simp⟩

namespace Server

variable {s : Server} {k : ℕ} {msg : Str}

/-- A message ends registrations by `terminate` calls only. -/
theorem registered_message (hs : s.WellFormed) (c : ℕ) (msg : Str) (k : ℕ) :
    (s.step (.message c msg)).connections.idToHandler.lookup k = some ⟨k⟩ ↔
      s.connections.idToHandler.lookup k = some ⟨k⟩ ∧
        Call.terminate ⟨k⟩ ∉ (s.handle (.message c msg)).calls := by
  unfold Server.step
  rcases handle_message hs.backed c msg with ⟨hd, -, he⟩ | heq
  · rcases he.kept_or_dropped with ⟨hids, -, hterm⟩ | ⟨h, hreg, hids, -, hterm⟩
    · simp [hids, hterm]
    · obtain ⟨rfl, -⟩ := hs.handlers c h hreg
      rw [hids, Dict.lookup_erase, hterm]
      by_cases hk : k = c <;> simp [hk]
  · simp [heq]

/-- Only its own frame, on a registered connection, changes a client. -/
theorem sameClient_step (hs : s.WellFormed) (e : Event)
    (he : ∀ msg, e = .message k msg → s.connections.idToHandler.lookup k = none) :
    s.connections.SameClient (s.step e).connections ⟨k⟩ := by
  cases e with
  | accept =>
    rw [step_accept]
    exact ⟨fun _ => rfl, rfl, rfl⟩
  | message c msg =>
    refine step_message (P := (s.connections.SameClient · ⟨k⟩)) hs.backed (.refl _ _)
      fun hd e _ heff => heff.sameClient fun hreg => ?_
    obtain ⟨hk, -⟩ := hs.handlers c _ hreg
    cases hk
    rw [he msg rfl] at hreg
    cases hreg

/-- The connection has been accepted and is not registered any more. -/
structure Gone (s : Server) (k : ℕ) : Prop where
  wellFormed : s.WellFormed
  accepted : k < s.accepted
  unregistered : s.connections.idToHandler.lookup k = none

theorem Gone.step (hs : s.Gone k) (e : Event) : (s.step e).Gone k :=
  have h := unregistered_step hs.wellFormed hs.accepted hs.unregistered e
  ⟨hs.wellFormed.step e, h.1, h.2⟩

theorem Gone.run (hs : s.Gone k) (es : List Event) : (Machine.run Server.step s es).Gone k :=
  Machine.run_invariant (I := (Gone · k)) (fun _ e hs => hs.step e) hs es

/-- A client that is not registered any more keeps its entries for good. -/
theorem Gone.sameClient (hs : s.Gone k) (es : List Event) :
    s.connections.SameClient (Machine.run Server.step s es).connections ⟨k⟩ := by
  have hstep : ∀ (s' : Server) (e : Event),
      s'.Gone k ∧ s.connections.SameClient s'.connections ⟨k⟩ →
      (s'.step e).Gone k ∧ s.connections.SameClient (s'.step e).connections ⟨k⟩ :=
    fun s' e ⟨hgone, hsame⟩ => ⟨hgone.step e,
      hsame.trans (sameClient_step hgone.wellFormed e fun _ _ => hgone.unregistered)⟩
  exact (Machine.run_invariant hstep ⟨hs, .refl _ _⟩ es).2

/-- A frame of the connection, in the run, that called `disconnect`. -/
structure Disconnected (es : List Event) (k : ℕ) (pre : List Event) (msg : Str)
    (post : List Event) : Prop where
  split : es = pre ++ .message k msg :: post
  call : Call.disconnect k ∈ ((atServer pre).handle (.message k msg)).calls

theorem Disconnected.atServer_eq {es pre post : List Event}
    (hdis : Disconnected es k pre msg post) :
    atServer es = Machine.run Server.step ((atServer pre).step (.message k msg)) post := by
  rw [hdis.split]
  exact Machine.run_append _ _ _

theorem Disconnected.gone_step {es pre post : List Event} (hdis : Disconnected es k pre msg post) :
    ((atServer pre).step (.message k msg)).Gone k :=
  have hwf := wellFormed_atServer pre
  have h := unregistered_of_disconnect hwf hdis.call
  ⟨hwf.step _, h.1, h.2⟩

theorem Disconnected.gone {es pre post : List Event} (hdis : Disconnected es k pre msg post) :
    (atServer es).Gone k := by
  rw [hdis.atServer_eq]
  exact hdis.gone_step.run post

/-- **An accepted connection is not registered any more exactly when an earlier frame of it has
called `disconnect`.** -/
theorem unregistered_iff_disconnected (es : List Event) (k : ℕ) :
    (k < (atServer es).accepted ∧ (atServer es).connections.idToHandler.lookup k = none) ↔
      ∃ pre msg post, Disconnected es k pre msg post := by
  constructor
  · induction es using List.reverseRecOn with
    | nil => rintro ⟨hlt, -⟩; exact absurd hlt (Nat.not_lt_zero k)
    | append_singleton es e ih =>
      have hrun : atServer (es ++ [e]) = (atServer es).step e := Machine.run_append _ _ _
      have hwf := wellFormed_atServer es
      rw [hrun]
      rintro ⟨hlt, hnone⟩
      by_cases hold : k < (atServer es).accepted ∧
          (atServer es).connections.idToHandler.lookup k = none
      · obtain ⟨pre, msg, post, hdis⟩ := ih hold
        exact ⟨pre, msg, post ++ [e], by simp [hdis.split], hdis.call⟩
      cases e with
      | accept =>
        -- the new connection is registered, the others are as before
        rw [step_accept] at hlt hnone
        simp only [Dict.lookup_insert] at hlt hnone
        split_ifs at hnone with hk
        exact absurd ⟨by omega, hnone⟩ hold
      | message c msg =>
        have hreg : (atServer es).connections.idToHandler.lookup k ≠ none :=
          fun hk => hold ⟨hlt, hk⟩
        unfold Server.step at hnone
        rcases handle_message hwf.backed c msg with ⟨hd, -, he⟩ | heq
        · rcases he.kept_or_dropped with ⟨hids, -⟩ | ⟨h, hc, hids, hcall, -⟩
          · rw [hids] at hnone
            exact absurd hnone hreg
          · rw [hids, Dict.lookup_erase] at hnone
            split_ifs at hnone with hkc
            · subst hkc
              exact ⟨es, msg, [], rfl, (hcall k).2 rfl⟩
            · exact absurd hnone hreg
        · rw [heq] at hnone
          exact absurd hnone hreg
  · rintro ⟨pre, msg, post, hdis⟩
    have hgone := hdis.gone
    exact ⟨hgone.accepted, hgone.unregistered⟩

/-! ### Other connections -/

/-- Whether the protocol object of the handler has been asked to terminate. -/
def shouldTerminate (es : List Event) (d : ConnectionHandler) : Bool :=
  (Machine.trace step (fun s e => some (s.handle e).calls) {} es).any (Call.terminate d ∈ ·)

theorem atServer_concat (es : List Event) (e : Event) :
    atServer (es ++ [e]) = (atServer es).step e := Machine.run_append _ _ _

theorem shouldTerminate_concat (es : List Event) (e : Event) (d : ConnectionHandler) :
    shouldTerminate (es ++ [e]) d =
      (shouldTerminate es d || decide (Call.terminate d ∈ ((atServer es).handle e).calls)) := by
  have hlast : ∀ s : Server, Machine.trace step (fun s e => some (s.handle e).calls) s [e] =
      [(s.handle e).calls] := fun _ => rfl
  rw [shouldTerminate, Machine.trace_append, List.any_append, hlast, List.any_cons, List.any_nil,
    Bool.or_false]
  rfl

/-- What the server knows of connection `j` and its handler `h`. -/
structure Undisturbed (s s' : ConnectionsImp) (j : ℕ) (h : ConnectionHandler) : Prop
    extends s.SameClient s' h where
  registration : s'.idToHandler.lookup j = s.idToHandler.lookup j
  loggedIn : ∀ u, s.clientToUsername.lookup h = some u →
    (u ∈ s'.loggedInUsers ↔ u ∈ s.loggedInUsers)

/-- A message of another connection does not touch the registration. -/
theorem registration_message (s : Server) (hs : s.WellFormed) {i j : ℕ} (hij : i ≠ j) (msg : Str) :
    (s.step (.message i msg)).connections.idToHandler.lookup j =
        s.connections.idToHandler.lookup j ∧
      Call.terminate ⟨j⟩ ∉ (s.handle (.message i msg)).calls := by
  unfold Server.step
  rcases handle_message hs.backed i msg with ⟨hd, -, he⟩ | heq
  · rcases he.kept_or_dropped with ⟨hids, -, hterm⟩ | ⟨h, hreg, hids, -, hterm⟩
    · exact ⟨by rw [hids], hterm _⟩
    · obtain ⟨rfl, -⟩ := hs.handlers i h hreg
      rw [hids, Dict.lookup_erase, if_neg hij.symm, hterm]
      exact ⟨rfl, fun heq => hij (congrArg ConnectionHandler.serial heq).symm⟩
  · simp [heq]

/-- **A message leaves every other registered connection as it is**, whether its sender is still
registered or not. -/
theorem frames_isolated (es : List Event) (i j : ℕ) (msg : Str) (h : ConnectionHandler)
    (hij : i ≠ j)
    (hj : (atServer es).connections.idToHandler.lookup j = some h) :
    Undisturbed (atServer es).connections (atServer (es ++ [.message i msg])).connections j h ∧
      shouldTerminate (es ++ [.message i msg]) h = shouldTerminate es h := by
  have hwf := wellFormed_atServer es
  obtain ⟨rfl, -⟩ := hwf.handlers j h hj
  have hwf' := hwf.step (.message i msg)
  obtain ⟨hreg, hterm⟩ := registration_message _ hwf hij msg
  have hsame : (atServer es).connections.SameClient
      ((atServer es).step (.message i msg)).connections ⟨j⟩ :=
    sameClient_step hwf _ fun _ heq => absurd (Event.message.inj heq).1 hij
  rw [shouldTerminate_concat, atServer_concat]
  refine ⟨{ toSameClient := hsame, registration := hreg, loggedIn := fun u hu => ?_ },
    by simp [hterm]⟩
  -- the user has its session before and after, and sessions are what `loggedInUsers` lists
  have hbefore : (atServer es).connections.SessionOf j u := ⟨_, hj, hu⟩
  have hafter : ((atServer es).step (.message i msg)).connections.SessionOf j u :=
    ⟨_, hreg.trans hj, hsame.username.trans hu⟩
  exact iff_of_true ((hwf'.logged u).2 ⟨j, hafter⟩) ((hwf.logged u).2 ⟨j, hbefore⟩)

/-- Two clients are accepted, and the second logs in. -/
def bobRun : List Event :=
  [.accept, .accept, .message 1
    "CONNECT\naccept - version :1.2\nhost :h\nlogin :bob\npasscode :pw\n\n\x00"]

theorem bobRun_isolated : Undisturbed (atServer bobRun).connections
      (atServer (bobRun ++ [.message 0 "DISCONNECT\nreceipt :0\n\n\x00"])).connections 1 ⟨1⟩ ∧
    shouldTerminate (bobRun ++ [.message 0 "DISCONNECT\nreceipt :0\n\n\x00"]) ⟨1⟩ =
      shouldTerminate bobRun ⟨1⟩ :=
  frames_isolated bobRun 0 1 _ ⟨1⟩ (by decide) (by decide +kernel)

end Server

end WorldCupInformer
