import WorldCupInformer.Server.ReactorSteps

/-!
# Keys on the selector thread

The key of a channel is looked up on a pool thread and used later on the selector thread, which
ends with an exception when the key is `null` or has been cancelled by then.

* `Careful`: the step neither closes a channel whose key is still to be used nor looks up the key
  of a closed channel;
* `selector_survives`: a run of careful steps never ends the selector thread, and a run after which
  no key is left to be used and the selector thread is alive consists of careful steps.
-/

namespace WorldCupInformer

namespace Reactor

variable {k : Reactor} {c d : ℕ} {key : Option ℕ} {ops : Ops}

/-- A task with the key is posted, or a pool thread is about to post one. -/
def Awaits (k : Reactor) (key : Option ℕ) : Prop :=
  (∃ task ∈ k.selectorTasks, task.key = key) ∨ ∃ c, .post key ∈ (k.handlers c).todo

/-- The step closes the channel. -/
def Closes (k : Reactor) (e : ReactorEvent) (d : ℕ) : Prop :=
  (k.handlers d).isOpen = true ∧ ((k.step e).handlers d).isOpen = false

/-- The step is `chan.keyFor(selector)` on a pool thread. -/
def LooksUp (k : Reactor) (e : ReactorEvent) (d : ℕ) : Prop :=
  ∃ c todo, e = .pool c ∧ (k.handlers c).todo = .keyFor d :: todo

/-- No channel is closed whose key is still to be used, and no key of a closed channel is looked
up. -/
structure Careful (k : Reactor) (e : ReactorEvent) : Prop where
  closes : ∀ d, k.Closes e d → ¬ k.Awaits (some d)
  looksUp : ∀ d, k.LooksUp e d → (k.handlers d).isOpen = true

/-- Every key that is still to be used can be used. -/
def KeysValid (k : Reactor) : Prop := ∀ key, k.Awaits key → k.ValidKey key

/-- A key that is still to be used after a step of a pool thread has just been looked up, or was
still to be used before. -/
theorem awaits_of_poolStep (h : (k.poolStep c).Awaits key) : k.Awaits key ∨
    ∃ e todo, (k.handlers c).todo = .keyFor e :: todo ∧ key = k.keyFor e := by
  cases k.poolMove c with
  | op op todo htodo heq =>
    rcases h with ⟨task, hmem, hkey⟩ | ⟨d, hpost⟩
    · rw [heq, selectorTasks_runOp] at hmem
      cases op with
      | post key' =>
        rcases List.mem_append.1 hmem with hmem | hmem
        · exact .inl (.inl ⟨task, hmem, hkey⟩)
        · rw [List.mem_singleton.1 hmem] at hkey
          subst hkey
          exact .inl (.inr ⟨c, htodo ▸ List.mem_cons_self⟩)
      | _ => exact .inl (.inl ⟨task, hmem, hkey⟩)
    · rw [heq, todo_runOp] at hpost
      by_cases hd : d = c
      · subst hd
        rw [if_pos rfl, modify_self] at hpost
        cases op with
        | keyFor e =>
          rcases List.mem_cons.1 hpost with hlooked | hpost
          · refine .inr ⟨e, todo, htodo, ?_⟩
            rw [← keyFor_todo k d e todo]
            exact PoolOp.post.inj hlooked
          · exact .inl (.inr ⟨d, htodo ▸ List.mem_cons_of_mem _ hpost⟩)
        | _ => exact .inl (.inr ⟨d, htodo ▸ List.mem_cons_of_mem _ hpost⟩)
      · rw [if_neg hd, modify_other _ _ hd] at hpost
        exact .inl (.inr ⟨d, hpost⟩)
  | task htodo htasks hothers hopen hderegistered hqueue hposts =>
    rcases h with ⟨task, hmem, hkey⟩ | ⟨d, hpost⟩
    · exact .inl (.inl ⟨task, htasks ▸ hmem, hkey⟩)
    · by_cases hd : d = c
      · subst hd
        exact absurd hpost (hposts key)
      · rw [hothers d hd] at hpost
        exact .inl (.inr ⟨d, hpost⟩)

/-- A pool thread leaves what is still to be used. -/
theorem Awaits.poolStep (h : k.Awaits key) (c : ℕ) : (k.poolStep c).Awaits key := by
  unfold Awaits
  cases k.poolMove c with
  | op op todo htodo heq =>
    rw [heq, selectorTasks_runOp]
    rcases h with ⟨task, hmem, hkey⟩ | ⟨d, hpost⟩
    · refine .inl ⟨task, ?_, hkey⟩
      cases op with
      | post key' => exact List.mem_append_left _ hmem
      | _ => exact hmem
    · by_cases hd : d = c
      · subst hd
        rw [htodo] at hpost
        rcases List.mem_cons.1 hpost with rfl | htail
        · exact .inl ⟨⟨key, opReadWrite⟩, List.mem_append_right _ List.mem_cons_self, rfl⟩
        · refine .inr ⟨d, ?_⟩
          rw [todo_runOp, if_pos rfl, modify_self]
          cases op with
          | keyFor e => exact List.mem_cons_of_mem _ htail
          | _ => exact htail
      · refine .inr ⟨d, ?_⟩
        rwa [todo_runOp, if_neg hd, modify_other _ _ hd]
  | task htodo htasks hothers =>
    rw [htasks]
    refine h.imp_right ?_
    rintro ⟨d, hpost⟩
    refine ⟨d, ?_⟩
    by_cases hd : d = c
    · subst hd
      rw [htodo] at hpost
      exact absurd hpost List.not_mem_nil
    · rwa [hothers d hd]

/-! ### Careful steps -/

/-- The selector thread posts nothing. -/
theorem awaits_of_selectorStep {result : IoResult} (h : (k.selectorStep result).Awaits key) :
    k.Awaits key := by
  unfold Awaits at h
  cases k.selectorMove result with
  | accept hhandlers htasks =>
    rw [htasks, hhandlers] at h
    refine h.imp_right ?_
    rintro ⟨d, hpost⟩
    refine ⟨d, ?_⟩
    rw [Function.update_apply] at hpost
    split_ifs at hpost
    · exact absurd hpost List.not_mem_nil
    · exact hpost
  | task task tasks selected hpc htasks heq =>
    simp only [heq, interestOps_selectorTasks, interestOps_todo, setTasks_selectorTasks,
      setTasks_handlers] at h
    refine h.imp_left ?_
    rintro ⟨task', hmem, hkey⟩
    refine ⟨task', ?_, hkey⟩
    exact htasks ▸ List.mem_cons_of_mem _ hmem
  | interestRead c rest hpc heq => simpa [heq, Awaits] using h
  | steady hhandlers htasks =>
    rw [htasks] at h
    refine h.imp_right ?_
    rintro ⟨d, hpost⟩
    exact ⟨d, (hhandlers d).todo ▸ hpost⟩

theorem awaits_select {selected : List SelectedKey} :
    (k.step (.select selected)).Awaits key ↔ k.Awaits key := by
  simp only [Reactor.step]
  split_ifs <;> rfl

/-- **A careful step keeps every key that is still to be used valid.** -/
theorem KeysValid.step (hk : k.KeysValid) (hch : k.Channels) {e : ReactorEvent}
    (hcare : k.Careful e) : (k.step e).KeysValid := by
  have hstill : ∀ key, k.Awaits key → (k.step e).ValidKey key := by
    intro key hawaits
    obtain ⟨d, rfl, hopen⟩ := hk key hawaits
    refine ⟨d, rfl, ?_⟩
    by_contra hclosed
    exact hcare.closes d ⟨hopen, Bool.not_eq_true _ ▸ hclosed⟩ hawaits
  intro key hawaits
  cases e with
  | select selected => exact hstill key (awaits_select.1 hawaits)
  | selector result => exact hstill key (awaits_of_selectorStep hawaits)
  | pool c =>
    rcases awaits_of_poolStep hawaits with hawaits | ⟨e, todo, htodo, rfl⟩
    · exact hstill key hawaits
    · have hopen := hcare.looksUp e ⟨c, todo, rfl, htodo⟩
      have hreg : (k.handlers e).deregistered ≠ true := fun hd => by
        rw [hch.closed e hd] at hopen
        cases hopen
      refine ⟨e, if_neg hreg, ?_⟩
      rw [Reactor.step, (k.poolStep_kept c e).isOpen]
      exact hopen

/-- As long as the keys are valid, the selector thread does not fail. -/
theorem KeysValid.not_failed (hk : k.KeysValid) (hch : k.Channels) (hpc : k.pc ≠ .failed)
    (e : ReactorEvent) : (k.step e).pc ≠ .failed := by
  cases e with
  | select selected =>
    simp only [Reactor.step]
    split_ifs
    · exact SelectorPc.noConfusion
    · exact hpc
  | pool c => rwa [Reactor.step, poolStep_pc]
  | selector result =>
    rw [Reactor.step]
    cases k.selectorMove result with
    | accept _ _ hnot => exact hnot
    | task task tasks selected hpc' htasks heq =>
      have hvalid : (k.setTasks tasks).ValidKey task.key :=
        hk task.key (.inl ⟨task, htasks ▸ List.mem_cons_self, rfl⟩)
      rwa [heq, interestOps_pc_valid _ hvalid]
    | interestRead c rest hpc' heq =>
      have hopen := hch.ofPc
      rw [hpc'] at hopen
      have hreg : (k.handlers c).deregistered ≠ true := fun hd => by
        rw [ChannelOfPc, hch.closed c hd] at hopen
        cases hopen
      have hvalid : (k.setPc (.keys rest)).ValidKey (k.keyFor c) := ⟨c, if_neg hreg, hopen⟩
      rw [heq, interestOps_pc_valid _ hvalid]
      exact SelectorPc.noConfusion
    | steady _ _ hfail => exact fun h => hpc (hfail h)

/-! ### Steps that are not careful -/

/-- The selector thread uses no key in a step that closes a channel. -/
theorem Closes.awaits {result : IoResult} (hcloses : k.Closes (.selector result) d)
    (h : k.Awaits key) : (k.selectorStep result).Awaits key := by
  obtain ⟨hopen, hclosed⟩ := hcloses
  rw [Reactor.step] at hclosed
  cases k.selectorMove result with
  | accept hhandlers =>
    rw [hhandlers, Function.update_apply] at hclosed
    split_ifs at hclosed
    rw [hopen] at hclosed
    cases hclosed
  | task task tasks selected hpc htasks heq =>
    simp [heq, hopen] at hclosed
  | interestRead c rest hpc heq =>
    simp [heq, hopen] at hclosed
  | steady hhandlers htasks =>
    unfold Awaits
    rw [htasks]
    refine h.imp_right ?_
    rintro ⟨c, hpost⟩
    exact ⟨c, (hhandlers c).todo ▸ hpost⟩

/-- A step that leaves the keys valid was careful. -/
theorem careful_of_keysValid {e : ReactorEvent} (hk : (k.step e).KeysValid) : k.Careful e := by
  constructor
  · intro d hcloses hawaits
    have hinvalid : ¬ (k.step e).ValidKey (some d) := by
      rintro ⟨d', hd, hopen⟩
      cases hd
      rw [hcloses.2] at hopen
      cases hopen
    cases e with
    | select selected =>
      have hopen : ((k.step (.select selected)).handlers d).isOpen = (k.handlers d).isOpen := by
        simp only [Reactor.step]
        split_ifs <;> rfl
      rw [Closes, hopen] at hcloses
      rw [hcloses.1] at hcloses
      cases hcloses.2
    | pool c =>
      have hopen : ((k.step (.pool c)).handlers d).isOpen = (k.handlers d).isOpen :=
        (k.poolStep_kept c d).isOpen
      rw [Closes, hopen] at hcloses
      rw [hcloses.1] at hcloses
      cases hcloses.2
    | selector result =>
      exact hinvalid (hk _ (hcloses.awaits hawaits))
  · rintro d ⟨c, todo, rfl, htodo⟩
    have hpost : .post (k.keyFor d) ∈ ((k.poolStep c).handlers c).todo := by
      unfold poolStep
      rw [htodo]
      simp [todo_runOp]
    obtain ⟨d', hkey, hopen⟩ := hk _ (.inr ⟨c, hpost⟩)
    have hd : d = d' := by
      unfold Reactor.keyFor at hkey
      split_ifs at hkey
      exact Option.some.inj hkey
    rw [Reactor.step, (k.poolStep_kept c d').isOpen] at hopen
    rwa [hd]

/-- A key that cannot be used can never be used again. -/
theorem Fresh.validKey (hk : k.Fresh) {e : ReactorEvent} (hvalid : (k.step e).ValidKey key) :
    k.ValidKey key := by
  obtain ⟨d, rfl, hopen⟩ := hvalid
  refine ⟨d, rfl, ?_⟩
  cases e with
  | select selected =>
    simp only [Reactor.step] at hopen
    split_ifs at hopen <;> exact hopen
  | pool c => exact (k.poolStep_kept c d).isOpen.symm.trans hopen
  | selector result =>
    rw [Reactor.step] at hopen
    cases k.selectorMove result with
    | accept hhandlers =>
      rw [hhandlers, Function.update_apply] at hopen
      split_ifs at hopen with hd
      · exact (hk.idle d hd.ge).1
      · exact hopen
    | task task tasks selected hpc htasks heq => simpa [heq] using hopen
    | interestRead c rest hpc heq => simpa [heq] using hopen
    | steady hhandlers => exact (hhandlers d).isOpen hopen

/-- An invalid key that is still to be used stays so until it ends the selector thread. -/
theorem Fresh.stuck (hk : k.Fresh) (hbad : ¬ k.KeysValid ∨ k.pc = .failed) (e : ReactorEvent) :
    ¬ (k.step e).KeysValid ∨ (k.step e).pc = .failed := by
  rcases hbad with hbad | hfail
  · obtain ⟨key, hkey⟩ := not_forall.1 hbad
    obtain ⟨hawaits, hinvalid⟩ := Classical.not_imp.1 hkey
    have hstill : (k.step e).Awaits key → ¬ (k.step e).KeysValid := fun hawaits' hvalid =>
      hinvalid (hk.validKey (hvalid key hawaits'))
    cases e with
    | select selected => exact .inl (hstill (awaits_select.2 hawaits))
    | pool c => exact .inl (hstill (hawaits.poolStep c))
    | selector result =>
      rw [Reactor.step] at hstill ⊢
      unfold Awaits at hstill
      cases k.selectorMove result with
      | accept hhandlers htasks =>
        refine .inl (hstill ?_)
        rw [htasks, hhandlers]
        refine hawaits.imp_right ?_
        rintro ⟨d, hpost⟩
        refine ⟨d, ?_⟩
        have hd : d ≠ k.server.accepted := fun hd => by
          rw [(hk.idle d hd.ge).2.1] at hpost
          exact List.not_mem_nil hpost
        rwa [Function.update_of_ne hd]
      | task task tasks selected hpc htasks heq =>
        by_cases htask : (k.setTasks tasks).ValidKey task.key
        · refine .inl (hstill ?_)
          simp only [heq, interestOps_selectorTasks, interestOps_todo, setTasks_selectorTasks,
            setTasks_handlers]
          refine hawaits.imp_left ?_
          rintro ⟨task', hmem, hkey'⟩
          refine ⟨task', ?_, hkey'⟩
          rw [htasks] at hmem
          refine (List.mem_cons.1 hmem).resolve_left fun hsame => hinvalid ?_
          rw [← hkey', hsame]
          exact htask
        · rw [heq]
          exact .inr (interestOps_pc_invalid _ htask)
      | interestRead c rest hpc heq =>
        refine .inl (hstill ?_)
        simpa [heq, Awaits] using hawaits
      | steady hhandlers htasks =>
        refine .inl (hstill ?_)
        rw [htasks]
        refine hawaits.imp_right ?_
        rintro ⟨d, hpost⟩
        exact ⟨d, (hhandlers d).todo.symm ▸ hpost⟩
  · refine .inr ?_
    cases e with
    | select selected =>
      simp only [Reactor.step]
      rw [if_neg fun hand => by rw [hfail] at hand; exact SelectorPc.noConfusion hand.1]
      exact hfail
    | pool c => rwa [Reactor.step, poolStep_pc]
    | selector result =>
      simp only [Reactor.step, selectorStep, hfail]

/-! ### Every run -/

/-- No key is still to be used. -/
def Quiet (k : Reactor) : Prop := k.selectorTasks = [] ∧ ∀ c, (k.handlers c).todo = []

/-- **The selector thread survives careful steps.**  It does not use a `null` or cancelled key in a
run whose steps are all careful; and once no key is left to be used, it has survived exactly when
they were. -/
theorem selector_survives (es : List ReactorEvent) :
    (Machine.Along step Careful {} es → ∀ pre, pre <+: es → (run pre).pc ≠ .failed) ∧
    ((run es).Quiet → ((∀ pre, pre <+: es → (run pre).pc ≠ .failed) ↔
      Machine.Along step Careful {} es)) := by
  have hinit : KeysValid {} := by
    rintro key (⟨task, hmem, -⟩ | ⟨c, hmem⟩) <;> exact absurd hmem List.not_mem_nil
  have hiff : Machine.Along step Careful {} es ↔ ∀ pre, pre <+: es → (run pre).KeysValid :=
    Machine.along_iff_forall_prefix (J := Channels) (I := KeysValid) (fun _ e hch => hch.step e)
      (fun _ _ hch hk hcare => hk.step hch hcare)
      (fun _ _ _ _ hk => careful_of_keysValid hk) channels_init hinit es
  have hsafe : Machine.Along step Careful {} es → ∀ pre, pre <+: es → (run pre).pc ≠ .failed := by
    rintro halong pre ⟨post, rfl⟩
    have hpre := ((Machine.along_append _ pre post).1 halong).1
    exact (Machine.Along.invariant
      (I := fun k => k.Channels ∧ k.KeysValid ∧ k.pc ≠ .failed)
      (fun k e ⟨hch, hk, hpc⟩ hcare => ⟨hch.step e, hk.step hch hcare, hk.not_failed hch hpc e⟩)
      ⟨channels_init, hinit, SelectorPc.noConfusion⟩ hpre).2.2
  refine ⟨hsafe, fun hquiet => ⟨fun halive => hiff.2 ?_, hsafe⟩⟩
  rintro pre ⟨post, rfl⟩
  by_contra hbad
  have hend : ¬ (run (pre ++ post)).KeysValid ∨ (run (pre ++ post)).pc = .failed := by
    have hrun : run (pre ++ post) = Machine.run step (run pre) post := Machine.run_append _ _ _
    rw [hrun]
    exact (Machine.run_invariant
      (I := fun k : Reactor => k.Fresh ∧ (¬ k.KeysValid ∨ k.pc = .failed))
      (fun k e ⟨hf, hb⟩ => ⟨hf.step e, hf.stuck hb e⟩) ⟨fresh_run pre, .inl hbad⟩ post).2
  refine hend.elim (fun hinvalid => hinvalid ?_) (halive _ (List.prefix_refl _))
  rintro key (⟨task, hmem, -⟩ | ⟨c, hmem⟩)
  · rw [hquiet.1] at hmem
    exact absurd hmem List.not_mem_nil
  · rw [hquiet.2 c] at hmem
    exact absurd hmem List.not_mem_nil

/-- A connection is accepted, and a frame of it is read that will be answered with ERROR. -/
def frameRead : List ReactorEvent :=
  [.select [.accept], .selector .ioException, .selector .ioException, .selector .ioException,
    .select [.channel 0 true false], .selector .ioException, .selector .ioException,
    .selector (.bytes (LineMessageEncoderDecoder.encode "SEND\na :b\n\n")), .selector .ioException,
    .selector .ioException]

/-- The client goes away before the pool has handled the frame. -/
def answeredTooLate : List ReactorEvent :=
  frameRead ++
    [.select [.channel 0 true false], .selector .ioException, .selector .ioException,
      .selector .endOfStream, .selector .ioException, .selector .ioException] ++
    List.replicate 15 (.pool 0) ++ [.select [], .selector .ioException]

/-- The client waits for the answer. -/
def answeredInTime : List ReactorEvent :=
  frameRead ++ List.replicate 16 (.pool 0) ++ [.select [], .selector .ioException]

theorem answeredInTime_survives :
    (∀ pre, pre <+: answeredInTime → (run pre).pc ≠ .failed) ↔
      Machine.Along step Careful {} answeredInTime := by
  refine (selector_survives answeredInTime).2 ⟨by decide +kernel, fun c => ?_⟩
  by_cases hc : c = 0
  · subst hc
    decide +kernel
  · have haccepted : (run answeredInTime).server.accepted = 1 := by decide +kernel
    exact ((fresh_run answeredInTime).idle c (by omega)).2.1

theorem not_forall_survives : ¬ ∀ es, (run es).pc ≠ .failed := by
  intro hall
  exact hall answeredTooLate (by decide +kernel)

end Reactor

end WorldCupInformer
