import WorldCupInformer.Lib.Interleaving
import WorldCupInformer.Server.Invariants

/-!
# Two CONNECT frames at the same time

Frames of different connections are handled on different threads, and a CONNECT frame first looks
at the collections and then writes to them.  A handler is a thread whose actions are the
operations on the concurrent collections, in the order of `ConnectFrame.act`.

* `alone_eq_act`: a handler that is not interrupted does what `ConnectFrame.act` does;
* `single_login_iff`: of two handlers for one user at most one is answered with CONNECTED exactly
  when no handler adds the user to `loggedInUsers` after the other one has (`AddsFirst`).
-/

namespace WorldCupInformer

open Server Interleaving ConnectionsImp

/-- A CONNECT frame with its four headers and its connection. -/
structure ConnectRequest where
  connectionId : ℕ
  headersToValue : HeaderTable
  accept_version : Str
  host : Str
  userName : Str
  passcode : Str
  isConnect : headersToValue.IsConnect accept_version host userName passcode

/-- The next operation of a handler, with the errors found so far. -/
inductive ConnectPc
  | isTheClientConnected
  | isloggedInUser (errorList : List Str)
  /-- `usernameToPass.get(userName) == null` -/
  | getPassword (errorList : List Str)
  /-- the `put` of `checkPasswordForUser` -/
  | registerUser (errorList : List Str)
  /-- `usernameToPass.get(userName).equals(password)` -/
  | comparePassword (errorList : List Str)
  | sendErrorFrame (errorList : List Str)
  /-- the three writes of `connect` -/
  | addLoggedIn
  | putPassword
  | putUsername
  | sendConnected
  /-- answered with CONNECTED -/
  | connected
  /-- answered with ERROR, or ended by an exception -/
  | rejected
  deriving DecidableEq

namespace ConnectRequest

/-- After the last check: the ERROR frame, or `connect`. -/
def afterChecks (errorList : List Str) : ConnectPc :=
  if errorList.length > 0 then .sendErrorFrame errorList else .addLoggedIn

/-- One atomic operation of the handler. -/
def step (r : ConnectRequest) : ConnectPc → Java ConnectPc
  | .isTheClientConnected => do
    if ← isTheClientConnected (← convertIdToConnectionHandler r.connectionId) then
      return .isloggedInUser [lit "The client is already logged in, log out before trying again"]
    return .isloggedInUser []
  | .isloggedInUser errorList => do
    if ← isloggedInUser r.userName then
      return .getPassword (errorList ++ [lit "User already logged in."])
    return .getPassword errorList
  | .getPassword errorList => do
    if (← connections).usernameToPass.lookup r.userName = none then
      return .registerUser errorList
    return .comparePassword errorList
  | .registerUser errorList => do
    update fun s => s.register r.userName r.passcode
    return afterChecks errorList
  | .comparePassword errorList => do
    let password ← nonNull ((← connections).usernameToPass.lookup r.userName)
    if password = r.passcode then
      return afterChecks errorList
    return afterChecks (errorList ++ [lit "Wrong password"])
  | .sendErrorFrame errorList => do
    sendErrorFrame r.connectionId errorList r.headersToValue
    return .rejected
  | .addLoggedIn => do
    update fun s => { s with loggedInUsers := insert r.userName s.loggedInUsers }
    return .putPassword
  | .putPassword => do
    update fun s => s.register r.userName r.passcode
    return .putUsername
  | .putUsername => do
    let clientHandler ← nonNull ((← connections).idToHandler.lookup r.connectionId)
    update fun s =>
      { s with clientToUsername := s.clientToUsername.insert clientHandler r.userName }
    return .sendConnected
  | .sendConnected => do
    let _ ← send r.connectionId (ConnectFrame.buildResponseFrame (some r.accept_version))
    sendReceiptFrame r.connectionId (r.headersToValue.get "receipt-id")
    return .connected
  | .connected => return .connected
  | .rejected => return .rejected

/-- The action of the thread; an exception ends it. -/
def act (r : ConnectRequest) (pc : ConnectPc) (e : Exec) : ConnectPc × Exec :=
  match (r.step pc).run e with
  | .ok pc' e' => (pc', e')
  | .error _ e' => (.rejected, e')

end ConnectRequest

variable {s : ConnectionsImp} {l : List Call} {r : ConnectRequest} {h : ConnectionHandler}

/-! ### What an action does -/

section Actions

variable {errorList : List Str}

theorem act_isTheClientConnected (hreg : s.idToHandler.lookup r.connectionId = some h) :
    r.act .isTheClientConnected ⟨s, l⟩ = (.isloggedInUser
      (if s.clientToUsername.lookup h ≠ none then
        [lit "The client is already logged in, log out before trying again"] else []),
      ⟨s, l⟩) := by
  cases hh : s.clientToUsername.lookup h <;>
    simp [ConnectRequest.act, ConnectRequest.step, convertIdToConnectionHandler,
      isTheClientConnected, hreg, hh]

theorem act_isTheClientConnected_none (hreg : s.idToHandler.lookup r.connectionId = none) :
    r.act .isTheClientConnected ⟨s, l⟩ = (.rejected, ⟨s, l⟩) := by
  simp [ConnectRequest.act, ConnectRequest.step, convertIdToConnectionHandler,
    isTheClientConnected, hreg]

theorem act_isloggedInUser : r.act (.isloggedInUser errorList) ⟨s, l⟩ = (.getPassword
    (errorList ++ if r.userName ∈ s.loggedInUsers then [lit "User already logged in."] else []),
    ⟨s, l⟩) := by
  by_cases hu : r.userName ∈ s.loggedInUsers <;>
    simp [ConnectRequest.act, ConnectRequest.step, isloggedInUser, hu]

theorem act_getPassword : r.act (.getPassword errorList) ⟨s, l⟩ =
    (if s.usernameToPass.lookup r.userName = none then .registerUser errorList
      else .comparePassword errorList, ⟨s, l⟩) := by
  by_cases hp : s.usernameToPass.lookup r.userName = none <;>
    simp [ConnectRequest.act, ConnectRequest.step, hp]

theorem act_registerUser : r.act (.registerUser errorList) ⟨s, l⟩ =
    (ConnectRequest.afterChecks errorList, ⟨s.register r.userName r.passcode, l⟩) := by
  simp [ConnectRequest.act, ConnectRequest.step]

theorem act_comparePassword {password : Str}
    (hp : s.usernameToPass.lookup r.userName = some password) :
    r.act (.comparePassword errorList) ⟨s, l⟩ = (ConnectRequest.afterChecks
      (errorList ++ if password ≠ r.passcode then [lit "Wrong password"] else []), ⟨s, l⟩) := by
  by_cases heq : password = r.passcode <;>
    simp [ConnectRequest.act, ConnectRequest.step, hp, heq]

theorem act_comparePassword_none (hp : s.usernameToPass.lookup r.userName = none) :
    r.act (.comparePassword errorList) ⟨s, l⟩ = (.rejected, ⟨s, l⟩) := by
  simp [ConnectRequest.act, ConnectRequest.step, hp]

theorem act_sendErrorFrame (errorList : List Str)
    (hreg : s.idToHandler.lookup r.connectionId = some h) (hs : s.TopicsExist) :
    r.act (.sendErrorFrame errorList) ⟨s, l⟩ = (.rejected,
      ⟨s.drop r.connectionId h, l ++ rejectCalls r.connectionId h errorList r.headersToValue⟩) := by
  simp [ConnectRequest.act, ConnectRequest.step, run_sendErrorFrame hreg hs]

theorem act_addLoggedIn : r.act .addLoggedIn ⟨s, l⟩ =
    (.putPassword, ⟨{ s with loggedInUsers := insert r.userName s.loggedInUsers }, l⟩) := by
  simp [ConnectRequest.act, ConnectRequest.step]

theorem act_putPassword : r.act .putPassword ⟨s, l⟩ =
    (.putUsername, ⟨s.register r.userName r.passcode, l⟩) := by
  simp [ConnectRequest.act, ConnectRequest.step]

theorem act_putUsername (hreg : s.idToHandler.lookup r.connectionId = some h) :
    r.act .putUsername ⟨s, l⟩ = (.sendConnected,
      ⟨{ s with clientToUsername := s.clientToUsername.insert h r.userName }, l⟩) := by
  simp [ConnectRequest.act, ConnectRequest.step, hreg]

theorem act_sendConnected (hreg : s.idToHandler.lookup r.connectionId = some h) :
    r.act .sendConnected ⟨s, l⟩ = (.connected,
      ⟨s, l ++ Call.send h (ConnectFrame.buildResponseFrame (some r.accept_version)) ::
        receiptCalls h (r.headersToValue.get "receipt-id")⟩) := by
  simp [ConnectRequest.act, ConnectRequest.step, run_send hreg, run_sendReceiptFrame hreg]

theorem act_ended {e : Exec} {pc : ConnectPc} (hpc : pc = .connected ∨ pc = .rejected) :
    r.act pc e = (pc, e) := by
  rcases hpc with rfl | rfl <;> rfl

end Actions

section Alone

/-- The handler run on its own. -/
abbrev ConnectRequest.alone (r : ConnectRequest) (pc : ConnectPc) (e : Exec) (n : ℕ) :
    ConnectPc × Exec :=
  Interleaving.alone (fun _ : Unit => r.act) () pc e n

/-- The checks, uninterrupted, are those of `isLegalFrame`. -/
theorem alone_checks (hreg : s.idToHandler.lookup r.connectionId = some h) :
    r.alone .isTheClientConnected ⟨s, []⟩ 4 =
      (ConnectRequest.afterChecks (s.connectErrors h r.userName r.passcode),
        ⟨s.checked r.userName r.passcode, []⟩) := by
  simp only [ConnectRequest.alone, Interleaving.alone, act_isTheClientConnected hreg,
    act_isloggedInUser, act_getPassword]
  cases hp : s.usernameToPass.lookup r.userName with
  | none => simp [act_registerUser, connectErrors, checked, hp]
  | some password => simp [act_comparePassword hp, connectErrors, checked, hp]

/-- The writes, uninterrupted, are those of `connect`. -/
theorem alone_connect (hreg : s.idToHandler.lookup r.connectionId = some h) :
    r.alone .addLoggedIn ⟨s, l⟩ 4 = (.connected, ⟨s.login h r.userName r.passcode,
      l ++ Call.send h (ConnectFrame.buildResponseFrame (some r.accept_version)) ::
        receiptCalls h (r.headersToValue.get "receipt-id")⟩) := by
  have hput : r.act .putUsername ⟨ConnectionsImp.register
      { s with loggedInUsers := insert r.userName s.loggedInUsers } r.userName r.passcode, l⟩ =
      (.sendConnected, ⟨s.login h r.userName r.passcode, l⟩) := act_putUsername hreg
  have hsend := act_sendConnected (s := s.login h r.userName r.passcode) (l := l) hreg
  simp only [ConnectRequest.alone, Interleaving.alone, act_addLoggedIn, act_putPassword, hput,
    hsend]

/-- **A handler that is not interrupted does what `ConnectFrame.act` does.** -/
theorem alone_eq_act (hs : s.TopicsExist) : (r.alone .isTheClientConnected ⟨s, []⟩ 8).2 =
    after (ConnectFrame.act r.connectionId r.headersToValue) s := by
  cases hreg : s.idToHandler.lookup r.connectionId with
  | none =>
    rw [after, run_connectFrame_none hreg r.isConnect]
    simp [ConnectRequest.alone, Interleaving.alone, act_isTheClientConnected_none hreg, act_ended]
  | some h =>
    have hreg' : (s.checked r.userName r.passcode).idToHandler.lookup r.connectionId = some h := by
      unfold checked; split_ifs <;> exact hreg
    have hsplit : r.alone .isTheClientConnected ⟨s, []⟩ 8 =
        r.alone (r.alone .isTheClientConnected ⟨s, []⟩ 4).1
          (r.alone .isTheClientConnected ⟨s, []⟩ 4).2 4 := Interleaving.alone_add _ _ 4 4
    rw [hsplit, alone_checks hreg]
    by_cases herr : s.connectErrors h r.userName r.passcode = []
    · rw [after_of_ok (run_connectFrame hreg r.isConnect herr)]
      have hnext : ConnectRequest.afterChecks (s.connectErrors h r.userName r.passcode) =
          .addLoggedIn := by simp [ConnectRequest.afterChecks, herr]
      rw [hnext, alone_connect hreg', checked_login]
    · rw [after_of_ok (run_connectFrame_errors hs hreg r.isConnect herr)]
      have hpos : 0 < (s.connectErrors h r.userName r.passcode).length := List.length_pos_iff.2 herr
      simp [ConnectRequest.alone, Interleaving.alone, ConnectRequest.afterChecks, hpos,
        act_sendErrorFrame _ hreg' (hs.checked _ _), act_ended]

end Alone

theorem afterChecks_cases (errorList : List Str) :
    ConnectRequest.afterChecks errorList = .sendErrorFrame errorList ∨
      ConnectRequest.afterChecks errorList = .addLoggedIn := by
  unfold ConnectRequest.afterChecks
  split_ifs <;> simp

/-! ### Two handlers -/

/-- The handler has added the user to `loggedInUsers`. -/
def ConnectPc.PastAdd : ConnectPc → Prop
  | .putPassword | .putUsername | .sendConnected | .connected => True
  | _ => False

/-- Two handlers and the registries. -/
abbrev Race := Config Bool ConnectPc Exec

/-- One of the handlers acts. -/
def Race.step (r : Bool → ConnectRequest) : Race → Bool → Race :=
  Interleaving.step fun i => (r i).act

/-- Both handlers are about to begin. -/
def Race.start (s : ConnectionsImp) : Race := ⟨fun _ => .isTheClientConnected, ⟨s, []⟩⟩

/-- The connection of the handler has been sent CONNECTED. -/
def Race.Answered (r : Bool → ConnectRequest) (k : Race) (i : Bool) : Prop :=
  ∃ m ∈ sentTo ⟨(r i).connectionId⟩ k.shared.calls, HasCommand "CONNECTED" m

instance (r : Bool → ConnectRequest) (k : Race) (i : Bool) : Decidable (k.Answered r i) :=
  inferInstanceAs (Decidable (∃ m ∈ sentTo ⟨(r i).connectionId⟩ k.shared.calls, _))

/-- If the handler is about to add the user, the user is not in `loggedInUsers` (any more). -/
def Race.AddsFirst (r : Bool → ConnectRequest) (k : Race) (i : Bool) : Prop :=
  k.threads i = .addLoggedIn → (r i).userName ∉ k.shared.connections.loggedInUsers

instance (r : Bool → ConnectRequest) (k : Race) (i : Bool) : Decidable (k.AddsFirst r i) :=
  inferInstanceAs (Decidable (_ → _))

/-- What holds throughout a race for the user `u`. -/
structure RaceInv (r : Bool → ConnectRequest) (u : Str) (k : Race) : Prop where
  topics : k.shared.connections.TopicsExist
  handlers : ∀ i h, k.shared.connections.idToHandler.lookup (r i).connectionId = some h →
    h = ⟨(r i).connectionId⟩
  registered : ∀ i, k.threads i ≠ .isTheClientConnected → k.threads i ≠ .rejected →
    k.shared.connections.idToHandler.lookup (r i).connectionId = some ⟨(r i).connectionId⟩
  named : ∀ i h, k.shared.connections.idToHandler.lookup (r i).connectionId = some h →
    k.shared.connections.clientToUsername.lookup h = some u →
    k.threads i = .sendConnected ∨ k.threads i = .connected
  logged : u ∈ k.shared.connections.loggedInUsers ↔ ∃ i, (k.threads i).PastAdd
  answered : ∀ i, k.Answered r i ↔ k.threads i = .connected

namespace RaceInv

variable {r : Bool → ConnectRequest} {u : Str} {k : Race} {i : Bool}

/-- What an action of handler `i` has to respect. -/
theorem of_act (hk : RaceInv r u k) {pc : ConnectPc} {s' : ConnectionsImp} {l l' : List Call}
    (hact : (r i).act (k.threads i) k.shared = (pc, ⟨s', l⟩)) (hl : l = k.shared.calls ++ l')
    (htopics : s'.TopicsExist)
    (hids : ∀ j h, s'.idToHandler.lookup (r j).connectionId = some h →
      k.shared.connections.idToHandler.lookup (r j).connectionId = some h)
    (hother : ∀ j, j ≠ i → s'.idToHandler.lookup (r j).connectionId =
      k.shared.connections.idToHandler.lookup (r j).connectionId)
    (hreg : pc ≠ .rejected →
      s'.idToHandler.lookup (r i).connectionId = some ⟨(r i).connectionId⟩)
    (hnamed : ∀ j h, s'.idToHandler.lookup (r j).connectionId = some h →
      s'.clientToUsername.lookup h = some u →
      k.shared.connections.clientToUsername.lookup h = some u ∨ j = i ∧ pc = .sendConnected)
    (hlogged : u ∈ s'.loggedInUsers ↔ u ∈ k.shared.connections.loggedInUsers ∨ pc.PastAdd)
    (hanswered : ∀ j, (∃ m ∈ sentTo ⟨(r j).connectionId⟩ l', HasCommand "CONNECTED" m) ↔
      j = i ∧ pc = .connected ∧ k.threads i ≠ .connected)
    (hpast : (k.threads i).PastAdd → pc.PastAdd)
    (hmono : k.threads i = .sendConnected ∨ k.threads i = .connected →
      pc = .sendConnected ∨ pc = .connected)
    (hend : k.threads i = .connected → pc = .connected) : RaceInv r u (k.step r i) := by
  subst hl
  have hshared : (k.step r i).shared = ⟨s', k.shared.calls ++ l'⟩ := congrArg Prod.snd hact
  have hself : (k.step r i).threads i = pc := step_self.trans (congrArg Prod.fst hact)
  have hrest : ∀ j, j ≠ i → (k.step r i).threads j = k.threads j := fun j hj => step_other hj
  constructor
  · rw [hshared]
    exact htopics
  · intro j h
    rw [hshared]
    exact fun hj => hk.handlers j h (hids j h hj)
  · intro j
    rw [hshared]
    by_cases hj : j = i
    · subst hj
      rw [hself]
      exact fun _ => hreg
    · rw [hrest j hj]
      exact fun h1 h2 => (hother j hj).trans (hk.registered j h1 h2)
  · intro j h
    rw [hshared]
    intro hj hu
    rcases hnamed j h hj hu with hold | ⟨rfl, hpc⟩
    · have hthread := hk.named j h (hids j h hj) hold
      by_cases hji : j = i
      · subst hji
        rw [hself]
        exact hmono hthread
      · rw [hrest j hji]
        exact hthread
    · rw [hself]
      exact .inl hpc
  · rw [hshared]
    refine hlogged.trans ?_
    rw [hk.logged]
    constructor
    · rintro (⟨j, hj⟩ | hpc)
      · by_cases hji : j = i
        · subst hji
          exact ⟨j, by rw [hself]; exact hpast hj⟩
        · exact ⟨j, by rw [hrest j hji]; exact hj⟩
      · exact ⟨i, by rw [hself]; exact hpc⟩
    · rintro ⟨j, hj⟩
      by_cases hji : j = i
      · subst hji
        rw [hself] at hj
        exact .inr hj
      · rw [hrest j hji] at hj
        exact .inl ⟨j, hj⟩
  · intro j
    have hcalls : (k.step r i).Answered r j ↔
        k.Answered r j ∨ j = i ∧ pc = .connected ∧ k.threads i ≠ .connected := by
      rw [← hanswered j]
      unfold Race.Answered
      rw [hshared]
      simp only [sentTo, List.filterMap_append, List.mem_append, or_and_right, exists_or]
    rw [hcalls, hk.answered]
    by_cases hji : j = i
    · subst hji
      rw [hself]
      by_cases hc : k.threads j = .connected
      · simp [hc, hend hc]
      · simp [hc]
    · rw [hrest j hji]
      simp [hji]

/-- An action that changes the password table at most, and says nothing. -/
theorem quiet (hk : RaceInv r u k) {pc : ConnectPc} {passwords : Dict Str Str}
    (hact : (r i).act (k.threads i) k.shared =
      (pc, ⟨{ k.shared.connections with usernameToPass := passwords }, k.shared.calls⟩))
    (hreg : pc ≠ .rejected →
      k.shared.connections.idToHandler.lookup (r i).connectionId = some ⟨(r i).connectionId⟩)
    (hpast : pc.PastAdd ↔ (k.threads i).PastAdd)
    (hmono : k.threads i = .sendConnected ∨ k.threads i = .connected →
      pc = .sendConnected ∨ pc = .connected)
    (hend : pc = .connected ↔ k.threads i = .connected) : RaceInv r u (k.step r i) := by
  refine hk.of_act hact (List.append_nil _).symm hk.topics (fun _ _ h => h) (fun _ _ => rfl) hreg
    (fun _ _ _ h => .inl h) ?_ ?_ hpast.2 hmono hend.2
  · rw [hpast]
    exact ⟨.inl, fun h => h.elim id fun hi => hk.logged.2 ⟨i, hi⟩⟩
  · intro j
    simp only [sentTo, List.filterMap_nil, List.not_mem_nil, false_and, exists_false, false_iff]
    rintro ⟨-, hpc, hne⟩
    exact hne (hend.1 hpc)

theorem step_isTheClientConnected (hk : RaceInv r u k)
    (hpc : k.threads i = .isTheClientConnected) : RaceInv r u (k.step r i) := by
  cases hreg : k.shared.connections.idToHandler.lookup (r i).connectionId with
  | none =>
    refine hk.quiet ((congrArg (fun pc => (r i).act pc k.shared) hpc).trans
      (act_isTheClientConnected_none hreg)) ?_ ?_ ?_ ?_
    all_goals simp [hpc, ConnectPc.PastAdd]
  | some h =>
    have hh := hk.handlers i h hreg
    refine hk.quiet ((congrArg (fun pc => (r i).act pc k.shared) hpc).trans
      (act_isTheClientConnected hreg)) ?_ ?_ ?_ ?_
    · rw [← hh]
      exact fun _ => hreg
    all_goals simp [hpc, ConnectPc.PastAdd]

theorem step_sendErrorFrame (hk : RaceInv r u k)
    (hne : ∀ j, j ≠ i → (r j).connectionId ≠ (r i).connectionId) {errorList : List Str}
    (hpc : k.threads i = .sendErrorFrame errorList) : RaceInv r u (k.step r i) := by
  have hreg := hk.registered i (by simp [hpc]) (by simp [hpc])
  have hact := act_sendErrorFrame (l := k.shared.calls) errorList hreg hk.topics
  rw [← hpc] at hact
  refine hk.of_act hact rfl (TopicsExist.drop _ _ hk.topics) ?_ ?_ ?_ ?_ ?_ ?_ ?_ ?_ ?_
  · intro j h
    simp only [drop, Dict.lookup_erase]
    split_ifs <;> simp
  · intro j hj
    simp [drop, hne j hj]
  · simp
  · exact fun j h _ hu => .inl hu
  · -- the sender does not carry the name of the user
    have hname : k.shared.connections.clientToUsername.lookup ⟨(r i).connectionId⟩ ≠ some u :=
      fun hu => by simpa [hpc] using hk.named i _ hreg hu
    simp [mem_loggedInUsers_drop, hname, ConnectPc.PastAdd]
  · intro j
    simp only [mem_sentTo, rejectCalls, reduceCtorEq, false_and, and_false, iff_false]
    rintro ⟨m, hm, hp⟩
    have hhead : m.head? = some 'C' := head_eq_of_prefix hp
    simp only [List.mem_cons, Call.send.injEq, reduceCtorEq, List.not_mem_nil, or_false] at hm
    simp [hm.2] at hhead
  all_goals simp [hpc, ConnectPc.PastAdd]

theorem step_addLoggedIn (hk : RaceInv r u k) (huser : (r i).userName = u)
    (hpc : k.threads i = .addLoggedIn) : RaceInv r u (k.step r i) := by
  have hreg := hk.registered i (by simp [hpc]) (by simp [hpc])
  have hact := act_addLoggedIn (r := r i) (s := k.shared.connections) (l := k.shared.calls)
  rw [← hpc] at hact
  refine hk.of_act hact (List.append_nil _).symm hk.topics (fun _ _ h => h) (fun _ _ => rfl)
    (fun _ => hreg) (fun _ _ _ h => .inl h) ?_ ?_ ?_ ?_ ?_
  · simp [huser, ConnectPc.PastAdd]
  · simp [sentTo]
  all_goals simp [hpc, ConnectPc.PastAdd]

theorem step_putUsername (hk : RaceInv r u k)
    (hne : ∀ j, j ≠ i → (r j).connectionId ≠ (r i).connectionId)
    (hpc : k.threads i = .putUsername) : RaceInv r u (k.step r i) := by
  have hreg := hk.registered i (by simp [hpc]) (by simp [hpc])
  have hact := act_putUsername (l := k.shared.calls) hreg
  rw [← hpc] at hact
  refine hk.of_act hact (List.append_nil _).symm hk.topics (fun _ _ h => h) (fun _ _ => rfl)
    (fun _ => hreg) ?_ ?_ ?_ ?_ ?_ ?_
  · intro j h hj
    rw [Dict.lookup_insert]
    split_ifs with hh
    · intro _
      refine .inr ⟨?_, rfl⟩
      by_contra hji
      have hjh := hk.handlers j h hj
      rw [hh] at hjh
      exact hne j hji (ConnectionHandler.mk.inj hjh).symm
    · exact .inl
  · have hin := hk.logged.2 ⟨i, by simp [hpc, ConnectPc.PastAdd]⟩
    simp [hin]
  · simp [sentTo]
  all_goals simp [hpc, ConnectPc.PastAdd]

theorem step_sendConnected (hk : RaceInv r u k)
    (hne : ∀ j, j ≠ i → (r j).connectionId ≠ (r i).connectionId)
    (hpc : k.threads i = .sendConnected) : RaceInv r u (k.step r i) := by
  have hreg := hk.registered i (by simp [hpc]) (by simp [hpc])
  have hact := act_sendConnected (l := k.shared.calls) hreg
  rw [← hpc] at hact
  refine hk.of_act hact rfl hk.topics (fun _ _ h => h) (fun _ _ => rfl) (fun _ => hreg)
    (fun _ _ _ h => .inl h) ?_ ?_ ?_ ?_ ?_
  · have hin := hk.logged.2 ⟨i, by simp [hpc, ConnectPc.PastAdd]⟩
    simp [hin]
  · intro j
    constructor
    · rintro ⟨m, hm, -⟩
      refine ⟨?_, rfl, by simp [hpc]⟩
      by_contra hji
      have hd : ∀ {d m'} {l : Option Str}, Call.send d m' ∈
          receiptCalls ⟨(r i).connectionId⟩ l → d = ⟨(r i).connectionId⟩ := fun {d m' l} hmem => by
        cases l <;> simp_all [receiptCalls]
      rcases List.mem_cons.1 (mem_sentTo.1 hm) with heq | hm
      · exact hne j hji (ConnectionHandler.mk.inj (Call.send.inj heq).1)
      · exact hne j hji (ConnectionHandler.mk.inj (hd hm))
    · rintro ⟨rfl, -, -⟩
      exact ⟨_, mem_sentTo.2 List.mem_cons_self, hasCommand_connectedFrame _⟩
  all_goals simp [hpc, ConnectPc.PastAdd]

/-- **One action keeps the invariant.** -/
theorem step (hk : RaceInv r u k) (huser : ∀ i, (r i).userName = u)
    (hne : ∀ i j, j ≠ i → (r j).connectionId ≠ (r i).connectionId) (i : Bool) :
    RaceInv r u (k.step r i) := by
  have hreg := hk.registered i
  have hact : ∀ {pc out}, k.threads i = pc → (r i).act pc k.shared = out →
      (r i).act (k.threads i) k.shared = out := fun hpc hact => by rw [hpc, hact]
  cases hpc : k.threads i with
  | isTheClientConnected => exact hk.step_isTheClientConnected hpc
  | sendErrorFrame errorList => exact hk.step_sendErrorFrame (hne i) hpc
  | addLoggedIn => exact hk.step_addLoggedIn (huser i) hpc
  | putUsername => exact hk.step_putUsername (hne i) hpc
  | sendConnected => exact hk.step_sendConnected (hne i) hpc
  | isloggedInUser errorList =>
    refine hk.quiet (hact hpc act_isloggedInUser) ?_ ?_ ?_ ?_
    all_goals simp_all [ConnectPc.PastAdd]
  | getPassword errorList =>
    refine hk.quiet (hact hpc act_getPassword) ?_ ?_ ?_ ?_
    all_goals split_ifs <;> simp_all [ConnectPc.PastAdd]
  | registerUser errorList =>
    refine hk.quiet (hact hpc act_registerUser) ?_ ?_ ?_ ?_
    all_goals
      rcases afterChecks_cases errorList with h | h <;> simp_all [ConnectPc.PastAdd]
  | comparePassword errorList =>
    cases hp : k.shared.connections.usernameToPass.lookup (r i).userName with
    | none =>
      refine hk.quiet (hact hpc (act_comparePassword_none hp)) ?_ ?_ ?_ ?_
      all_goals simp_all [ConnectPc.PastAdd]
    | some password =>
      refine hk.quiet (hact hpc (act_comparePassword hp)) ?_ ?_ ?_ ?_
      all_goals
        rcases afterChecks_cases (errorList ++ if password ≠ (r i).passcode then
          [lit "Wrong password"] else []) with h | h <;> simp_all [ConnectPc.PastAdd]
  | putPassword =>
    refine hk.quiet (hact hpc act_putPassword) ?_ ?_ ?_ ?_
    all_goals simp_all [ConnectPc.PastAdd]
  | connected =>
    refine hk.quiet (hact hpc (act_ended (.inl rfl))) ?_ ?_ ?_ ?_
    all_goals simp_all [ConnectPc.PastAdd]
  | rejected =>
    refine hk.quiet (hact hpc (act_ended (.inr rfl))) ?_ ?_ ?_ ?_
    all_goals simp_all [ConnectPc.PastAdd]

theorem start (es : List Event) (hu : u ∉ (atServer es).connections.loggedInUsers) :
    RaceInv r u (Race.start (atServer es).connections) := by
  have hwf := wellFormed_atServer es
  refine ⟨hwf.backed.topicsExist, fun i h hreg => (hwf.handlers _ h hreg).1,
    fun i hpc => absurd rfl hpc, fun i h hreg hname => ?_, ?_, fun i => ?_⟩
  · exact absurd ((hwf.logged u).2 ⟨_, h, hreg, hname⟩) hu
  · exact iff_of_false hu fun ⟨i, hi⟩ => hi
  · simp [Race.Answered, Race.start, sentTo]

/-- A handler gets past the `add` by adding only. -/
theorem past_of_step (hk : RaceInv r u k) (hpast : ((k.step r i).threads i).PastAdd) :
    (k.threads i).PastAdd ∨ k.threads i = .addLoggedIn := by
  rw [Race.step, step_self] at hpast
  have hreg := hk.registered i
  have hafter : ∀ errorList, ¬ (ConnectRequest.afterChecks errorList).PastAdd := fun errorList => by
    rcases afterChecks_cases errorList with h | h <;> simp [h, ConnectPc.PastAdd]
  cases hpc : k.threads i with
  | isTheClientConnected =>
    rw [hpc] at hpast
    cases hreg : k.shared.connections.idToHandler.lookup (r i).connectionId with
    | none => simp [act_isTheClientConnected_none hreg, ConnectPc.PastAdd] at hpast
    | some h => simp [act_isTheClientConnected hreg, ConnectPc.PastAdd] at hpast
  | isloggedInUser errorList =>
    rw [hpc, act_isloggedInUser] at hpast
    exact absurd hpast id
  | getPassword errorList =>
    rw [hpc, act_getPassword] at hpast
    split_ifs at hpast <;> simp [ConnectPc.PastAdd] at hpast
  | registerUser errorList =>
    rw [hpc, act_registerUser] at hpast
    exact absurd hpast (hafter _)
  | comparePassword errorList =>
    rw [hpc] at hpast
    cases hp : k.shared.connections.usernameToPass.lookup (r i).userName with
    | none => simp [act_comparePassword_none hp, ConnectPc.PastAdd] at hpast
    | some password =>
      rw [act_comparePassword hp] at hpast
      exact absurd hpast (hafter _)
  | sendErrorFrame errorList =>
    have hact := act_sendErrorFrame (l := k.shared.calls) errorList
      (hreg (by simp [hpc]) (by simp [hpc])) hk.topics
    rw [hpc, hact] at hpast
    exact absurd hpast id
  | rejected => simp [hpc, act_ended, ConnectPc.PastAdd] at hpast
  | addLoggedIn => exact .inr rfl
  | putPassword => exact .inl trivial
  | putUsername => exact .inl trivial
  | sendConnected => exact .inl trivial
  | connected => exact .inl trivial

theorem past_step (hk : RaceInv r u k) (j : Bool)
    (hpast : (k.threads i).PastAdd ∨ j = i ∧ k.threads i = .addLoggedIn) :
    ((k.step r j).threads i).PastAdd := by
  by_cases hij : i = j
  · subst hij
    rw [Race.step, step_self]
    have hreg := hk.registered i
    cases hpc : k.threads i with
    | addLoggedIn =>
      rw [act_addLoggedIn]
      trivial
    | putPassword =>
      rw [act_putPassword]
      trivial
    | putUsername =>
      have hact := act_putUsername (l := k.shared.calls) (hreg (by simp [hpc]) (by simp [hpc]))
      rw [hact]
      trivial
    | sendConnected =>
      have hact := act_sendConnected (l := k.shared.calls) (hreg (by simp [hpc]) (by simp [hpc]))
      rw [hact]
      trivial
    | connected => trivial
    | _ => simp [hpc, ConnectPc.PastAdd] at hpast
  · rw [Race.step, step_other hij]
    exact hpast.resolve_right fun h => hij h.1.symm

/-- Both handlers have added the user. -/
def BothPast (k : Race) : Prop := ∀ i, (k.threads i).PastAdd

theorem not_bothPast_step (hk : RaceInv r u k) (huser : ∀ i, (r i).userName = u)
    (hboth : ¬ BothPast k) (hadd : k.AddsFirst r i) : ¬ BothPast (k.step r i) := by
  intro hpast
  have hother : (k.threads !i).PastAdd := by
    have h := hpast !i
    rwa [Race.step, step_other (by simp)] at h
  rcases hk.past_of_step (hpast i) with hi | hpc
  · exact hboth fun j => by
      rcases Bool.eq_or_eq_not j i with rfl | rfl
      · exact hi
      · exact hother
  · refine hadd hpc ?_
    rw [huser i]
    exact hk.logged.2 ⟨_, hother⟩

theorem addsFirst_of_step (hk : RaceInv r u k) (huser : ∀ i, (r i).userName = u)
    (hboth : ¬ BothPast (k.step r i)) : k.AddsFirst r i := by
  intro hpc hu
  rw [huser i] at hu
  obtain ⟨j, hj⟩ := hk.logged.1 hu
  have hji : j ≠ i := fun h => by
    rw [h, hpc] at hj
    exact hj
  refine hboth fun j' => ?_
  rcases Bool.eq_or_eq_not j' i with rfl | rfl
  · exact hk.past_step _ (.inr ⟨rfl, hpc⟩)
  · rw [← Bool.eq_not_of_ne hji]
    exact hk.past_step _ (.inl hj)

end RaceInv

/-- The handler has come to its end. -/
def Race.Ended (k : Race) (i : Bool) : Prop :=
  k.threads i = .connected ∨ k.threads i = .rejected

/-- **Single login under concurrency.**  Of two handlers of CONNECT frames for a user that is not
logged in, at most one is answered with CONNECTED if no handler adds the user while it is in
`loggedInUsers`; and if both have come to their ends, only if. -/
theorem single_login_iff (es : List Event) (u : Str)
    (hu : u ∉ (atServer es).connections.loggedInUsers) (r : Bool → ConnectRequest)
    (huser : ∀ i, (r i).userName = u) (hne : (r true).connectionId ≠ (r false).connectionId)
    (schedule : List Bool) (k : Race)
    (hk : k = Machine.run (Race.step r) (Race.start (atServer es).connections) schedule) :
    (Machine.Along (Race.step r) (Race.AddsFirst r) (Race.start (atServer es).connections)
        schedule → ¬ (k.Answered r true ∧ k.Answered r false)) ∧
    (k.Ended true → k.Ended false → (¬ (k.Answered r true ∧ k.Answered r false) ↔
      Machine.Along (Race.step r) (Race.AddsFirst r) (Race.start (atServer es).connections)
        schedule)) := by
  have hids : ∀ i j, j ≠ i → (r j).connectionId ≠ (r i).connectionId := by
    intro i j hji
    cases i <;> cases j <;> first | exact absurd rfl hji | exact hne | exact hne.symm
  have hstart : RaceInv r u (Race.start (atServer es).connections) := RaceInv.start es hu
  have hboth₀ : ¬ RaceInv.BothPast (Race.start (atServer es).connections) := fun h => h true
  have hstep : ∀ k i, RaceInv r u k → RaceInv r u (k.step r i) :=
    fun k i hk => hk.step huser hids i
  have hinv : RaceInv r u k := hk ▸ Machine.run_invariant hstep hstart schedule
  have hiff : Machine.Along (Race.step r) (Race.AddsFirst r)
      (Race.start (atServer es).connections) schedule ↔ ∀ pre, pre <+: schedule →
        ¬ RaceInv.BothPast
          (Machine.run (Race.step r) (Race.start (atServer es).connections) pre) :=
    Machine.along_iff_forall_prefix (I := fun k => ¬ RaceInv.BothPast k) hstep
    (fun k i hk hboth hadd => hk.not_bothPast_step huser hboth hadd)
    (fun k i hk _ hboth => hk.addsFirst_of_step huser hboth) hstart hboth₀ schedule
  have hanswered : k.Answered r true ∧ k.Answered r false → RaceInv.BothPast k := by
    rintro ⟨htrue, hfalse⟩ i
    cases i
    · rw [(hinv.answered false).1 hfalse]
      trivial
    · rw [(hinv.answered true).1 htrue]
      trivial
  have hsafe : Machine.Along (Race.step r) (Race.AddsFirst r)
      (Race.start (atServer es).connections) schedule →
      ¬ (k.Answered r true ∧ k.Answered r false) := by
    intro halong hans
    have hend := hiff.1 halong schedule (List.prefix_refl _)
    rw [← hk] at hend
    exact hend (hanswered hans)
  refine ⟨hsafe, fun htrue hfalse => ⟨fun hnot => hiff.2 ?_, hsafe⟩⟩
  rintro pre ⟨post, rfl⟩ hboth
  -- both handlers are past the `add` from then on, so both are answered at their ends
  have hpast : RaceInv.BothPast k := by
    rw [hk, Machine.run_append]
    exact (Machine.run_invariant (I := fun k => RaceInv r u k ∧ RaceInv.BothPast k)
      (fun k i hk => ⟨hstep k i hk.1, fun j => hk.1.past_step i (.inl (hk.2 j))⟩)
      ⟨Machine.run_invariant hstep hstart pre, hboth⟩ post).2
  have hconnected : ∀ i, k.Ended i → k.Answered r i := by
    rintro i (hi | hi)
    · exact (hinv.answered i).2 hi
    · have hi' := hpast i
      rw [hi] at hi'
      exact absurd hi' id
  exact hnot ⟨hconnected true htrue, hconnected false hfalse⟩

/-- The connections 0 and 1 log in as `alice`. -/
def aliceRace (i : Bool) : ConnectRequest where
  connectionId := if i then 1 else 0
  headersToValue := (((HeaderTable.put {} "COMMAND" "CONNECT").put "accept - version" "1.2").put
    "host" "h").put "login" "alice" |>.put "passcode" "pw"
  accept_version := "1.2"
  host := "h"
  userName := "alice"
  passcode := "pw"
  isConnect := by constructor <;> decide +kernel

/-- Both handlers check before either of them writes. -/
def bothCheckFirst : List Bool :=
  List.replicate 4 false ++ List.replicate 4 true ++ List.replicate 4 false ++ List.replicate 4 true

theorem not_forall_single_login : ¬ ∀ (es : List Event) (u : Str),
    u ∉ (atServer es).connections.loggedInUsers → ∀ r : Bool → ConnectRequest,
    (∀ i, (r i).userName = u) → (r true).connectionId ≠ (r false).connectionId →
    ∀ schedule, ¬ ∀ i,
      (Machine.run (Race.step r) (Race.start (atServer es).connections) schedule).Answered r i := by
  intro hall
  refine hall [.accept, .accept] "alice" (by decide +kernel) aliceRace (fun _ => rfl)
    (by decide) bothCheckFirst ?_
  decide +kernel

/-- One handler after the other: the second one finds the user logged in. -/
theorem aliceRace_sequential :
    let k := Machine.run (Race.step aliceRace)
      (Race.start (atServer [.accept, .accept]).connections)
      (List.replicate 8 false ++ List.replicate 8 true)
    ¬ (k.Answered aliceRace true ∧ k.Answered aliceRace false) :=
  (single_login_iff [.accept, .accept] "alice" (by decide +kernel) aliceRace (fun _ => rfl)
    (by decide) (List.replicate 8 false ++ List.replicate 8 true) _ rfl).1 (by decide +kernel)

end WorldCupInformer
