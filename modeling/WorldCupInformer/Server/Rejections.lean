import WorldCupInformer.Server.Logins

/-!
# What a rejected frame leaves behind

A frame that is answered with ERROR ought to do no more than `disconnect` its sender.  Two checks
do more: the password check of CONNECT registers an unknown user, and an UNSUBSCRIBE with an unknown
id takes its sender out of the map of the empty topic, which stands for "no such subscription".

* `rejected_iff`: the registries after a rejected frame are those of a plain `disconnect` exactly
  when the frame is neither (`Harmless`).
-/

namespace WorldCupInformer

open Server

/-- The two states have the same registries, the topic maps up to empty ones. -/
structure SameRegistries (s s' : ConnectionsImp) : Prop where
  usernameToPass : ∀ u, s.usernameToPass.lookup u = s'.usernameToPass.lookup u
  loggedInUsers : s.loggedInUsers = s'.loggedInUsers
  clientToUsername : ∀ h, s.clientToUsername.lookup h = s'.clientToUsername.lookup h
  topicToClients : ∀ t h, s.entry t h = s'.entry t h
  clientToTopics : ∀ h, s.clientToTopics.lookup h = s'.clientToTopics.lookup h
  idToHandler : ∀ i, s.idToHandler.lookup i = s'.idToHandler.lookup i

/-- The frame is not a CONNECT with its four headers for an unknown user, and not an UNSUBSCRIBE
of a client that is in the map of the empty topic but does not have it in its own index. -/
structure Harmless (s : ConnectionsImp) (h : ConnectionHandler) (hd : HeaderTable) : Prop where
  connect : ∀ v host u p, hd.IsConnect v host u p → s.usernameToPass.lookup u ≠ none
  unsubscribe : ∀ id, hd.IsUnsubscribe id → s.entry [] h ≠ none → [] ∈ s.topicsOf h

variable {s s₁ : ConnectionsImp} {c : ℕ} {h : ConnectionHandler} {hd : HeaderTable}
  {pre : List Call} {errors : List Str}

theorem SameRegistries.refl (s : ConnectionsImp) : SameRegistries s s :=
  ⟨fun _ => rfl, rfl, fun _ => rfl, fun _ _ => rfl, fun _ => rfl, fun _ => rfl⟩

/-- Taking the client out of a topic it is going to be taken out of anyway makes no difference. -/
theorem SameRegistries.dropEntry_drop {t : Str} (ht : t ∈ s.topicsOf h) :
    SameRegistries ((s.dropEntry t h).drop c h) (s.drop c h) := by
  refine { SameRegistries.refl _ with topicToClients := fun t' h' => ?_ }
  have htopics : (s.dropEntry t h).topicsOf h = s.topicsOf h := rfl
  rw [ConnectionsImp.entry_drop, ConnectionsImp.entry_drop, ConnectionsImp.entry_dropEntry, htopics]
  by_cases hh : h' = h
  · by_cases htt : t' = t
    · subst htt
      simp [hh, ht]
    · simp [htt]
  · simp [hh]

theorem Rejects.of_connect (hrej : Rejects s c h hd s₁ pre errors) {v host u p : Str}
    (hcon : hd.IsConnect v host u p) : s₁ = s.checked u p := by
  have hcmd := hcon.command
  cases hrej with
  | connect hcon' =>
    cases hcon.login.symm.trans hcon'.login
    cases hcon.passcode.symm.trans hcon'.passcode
    rfl
  | connectMalformed _ hmiss => exact absurd ⟨v, host, u, p, hcon⟩ hmiss
  | subscribe hsub => simp [hsub.command] at hcmd
  | unsubscribe huns => simp [huns.command] at hcmd
  | unsubscribeEmpty huns => simp [huns.command] at hcmd
  | _ => simp_all

theorem Rejects.of_unsubscribe (hrej : Rejects s c h hd s₁ pre errors) {id : Str}
    (huns : hd.IsUnsubscribe id) (hent : s.entry [] h ≠ none) : s₁ = s.dropEntry [] h := by
  have hcmd := huns.command
  cases hrej with
  | unsubscribeEmpty => rfl
  | unsubscribe _ _ hent' => exact absurd hent' hent
  | unsubscribeMalformed _ hill => exact absurd ((unsubscribe_legal_iff hcmd).2 ⟨id, huns⟩) hill
  | connect hcon => simp [hcon.command] at hcmd
  | subscribe hsub => simp [hsub.command] at hcmd
  | _ => simp_all

theorem Rejects.same_iff (hrej : Rejects s c h hd s₁ pre errors) :
    SameRegistries (s₁.drop c h) (s.drop c h) ↔ Harmless s h hd := by
  constructor
  · intro hsame
    constructor
    · intro v host u p hcon hu
      have hpass := hsame.usernameToPass u
      rw [hrej.of_connect hcon] at hpass
      simp [ConnectionsImp.drop, ConnectionsImp.checked, ConnectionsImp.register, hu] at hpass
    · intro id huns hent
      have hentry := hsame.topicToClients [] h
      rw [hrej.of_unsubscribe huns hent, ConnectionsImp.entry_drop, ConnectionsImp.entry_drop,
        ConnectionsImp.entry_dropEntry] at hentry
      by_contra ht
      simp [ht] at hentry
      exact hent hentry.symm
  · intro hharm
    cases hrej with
    | connect hcon =>
      unfold ConnectionsImp.checked
      rw [if_neg (hharm.connect _ _ _ _ hcon)]
      exact SameRegistries.refl _
    | unsubscribeEmpty huns htop hent =>
      exact SameRegistries.dropEntry_drop (hharm.unsubscribe _ huns hent)
    | _ => exact SameRegistries.refl _

/-- **A message that is answered with ERROR has the effect of `disconnect` alone exactly when its
frame is harmless.** -/
theorem rejected_iff (es : List Event) (c : ℕ) (msg : Str) (h : ConnectionHandler)
    (hans : (atServer es).Answers (.message c msg) "ERROR" h) :
    SameRegistries ((atServer es).step (.message c msg)).connections
      (after (disconnect c) (atServer es).connections).connections ↔
    ∀ hd, orderMsgInHash msg = .ok hd → Harmless (atServer es).connections h hd := by
  have hwf := wellFormed_atServer es
  obtain ⟨m, hm, hp⟩ := hans
  unfold Server.step
  rcases handle_message hwf.backed c msg with ⟨hd, hmsg, he⟩ | heq
  · obtain ⟨s₁, pre, errors, hreg, hrej, hexec⟩ := he.rejected_of_error (mem_sentTo.1 hm) hp
    rw [hexec, after_of_ok (run_disconnect hreg hwf.backed.topicsExist)]
    simp only [hmsg, Except.ok.injEq, forall_eq']
    exact hrej.same_iff
  · rw [heq] at hm
    exact absurd hm List.not_mem_nil

/-- `alice`'s connection asks to log in as `bob`, whom nobody knows. -/
def bobMessage : Str :=
  "CONNECT\naccept - version :1.2\nhost :h\nlogin :bob\npasscode :x\n\n\x00"

theorem bobMessage_rejected : (atServer aliceRun).Answers (.message 0 bobMessage) "ERROR" ⟨0⟩ := by
  decide +kernel

/-- The rejected CONNECT registers `bob`. -/
theorem not_forall_sameRegistries : ¬ ∀ es c msg h,
    (atServer es).Answers (.message c msg) "ERROR" h →
    SameRegistries ((atServer es).step (.message c msg)).connections
      (after (disconnect c) (atServer es).connections).connections := by
  intro hall
  have hpass := (hall aliceRun 0 bobMessage ⟨0⟩ bobMessage_rejected).usernameToPass "bob"
  revert hpass
  decide +kernel

theorem bobMessage_iff :
    SameRegistries ((atServer aliceRun).step (.message 0 bobMessage)).connections
      (after (disconnect 0) (atServer aliceRun).connections).connections ↔
    ∀ hd, orderMsgInHash bobMessage = .ok hd →
      Harmless (atServer aliceRun).connections ⟨0⟩ hd :=
  rejected_iff aliceRun 0 bobMessage ⟨0⟩ bobMessage_rejected

end WorldCupInformer
