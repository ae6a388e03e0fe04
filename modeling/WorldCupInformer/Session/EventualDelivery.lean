import WorldCupInformer.Lib.Fairness
import WorldCupInformer.Session.Delivery

/-!
# What every subscriber gets in the end

The users stop typing, and the server goes on working off messages and the clients go on handling
frames.  `Network.Fair` says that each of them takes its turn again and again; connections may still
break.

* `Network.eventually_idle`: then all messages are worked off and all frames handled, but for those
  of clients that have logged out or whose connections have broken;
* `History.eventually_settled`: so the reports are published and known to every subscriber.
-/

namespace WorldCupInformer

open Client (CppException StompProtocol)
open Filter (atTop)

/-- A frame does not open a connection. -/
theorem connected_of_processFrame {p p' : StompProtocol} {frame : Str}
    (h : p.processFrame frame = .ok p') (hopen : p'.handler.connected = true) :
    p.handler.connected = true := by
  rcases StompProtocol.processFrame_cases h with rfl | rfl | ⟨receipts, command, rfl⟩ |
    ⟨games, -, rfl⟩
  · exact hopen
  · cases hopen
  · rcases StompProtocol.receiptOf_cases { p with receiptToMsg := receipts } command with
      heq | ⟨subs, heq⟩
    · rw [heq] at hopen
      cases hopen
    · rw [heq] at hopen
      exact hopen
  · exact hopen

namespace Network

/-- No user types the event. -/
def Untyped : Event → Prop
  | .serve _ | .deliver _ | .lose _ _ => True
  | _ => False

instance : DecidablePred Untyped
  | .serve _ | .deliver _ | .lose _ _ => isTrue trivial
  | .login _ _ _ | .join _ _ | .exit _ _ | .report _ _ | .logout _ => isFalse id

/-- The server takes a message of every connection, and every client a frame, again and again. -/
structure Fair (w : ℕ → Event) : Prop where
  untyped : ∀ i, Untyped (w i)
  serve : ∀ c, ∃ᶠ i in atTop, w i = .serve c
  deliver : ∀ c, ∃ᶠ i in atTop, w i = .deliver c

/-- The client is logged in over a connection that works. -/
def Open (n : Network) (c : ℕ) : Prop :=
  c ∉ n.broken ∧ ∃ p, n.client c = .ok p ∧ p.handler.connected = true

variable {n : Network} {e : Event} {c : ℕ}

/-! ### One step -/

theorem toServer_untyped (he : Untyped e) (c : ℕ) :
    ((n.step e).toServer c).length ≤ (n.toServer c).length := by
  cases e with
  | serve d =>
    simp only [step, serve]
    cases hmsgs : n.toServer d with
    | nil => exact le_rfl
    | cons msg msgs =>
      by_cases hc : c = d
      · subst hc
        simp [hmsgs]
      · simp [hc]
  | deliver d =>
    rcases n.deliver_cases d with ⟨hsame, -⟩ | ⟨p, frame, frames, -, -, -, hstep, -⟩
    · rw [hsame]
    · rw [hstep]
      simp [put]
  | lose d k =>
    simp only [step, lose]
    split_ifs
    · by_cases hc : c = d
      · subst hc
        simp
      · simp [hc]
    · exact le_rfl
  | _ => exact absurd he id

theorem toServer_serve (hne : n.toServer c ≠ []) :
    ((n.step (.serve c)).toServer c).length < (n.toServer c).length := by
  obtain ⟨msg, msgs, hmsgs⟩ := List.exists_cons_of_ne_nil hne
  simp [step, serve, hmsgs]

theorem toClient_untyped (hidle : ∀ d, n.toServer d = []) (he : Untyped e) (c : ℕ) :
    ((n.step e).toClient c).length ≤ (n.toClient c).length := by
  cases e with
  | serve d => simp [step, serve, hidle]
  | deliver d =>
    rcases n.deliver_cases d with ⟨hsame, -⟩ | ⟨p, frame, frames, -, -, hcons, hstep, -⟩
    · rw [hsame]
    · rw [hstep]
      by_cases hc : c = d
      · subst hc
        simp [put, hcons]
      · simp [put, hc]
  | lose d k =>
    simp only [step, lose]
    split_ifs <;> exact le_rfl
  | _ => exact absurd he id

theorem toClient_deliver (hopen : n.Open c) (hne : n.toClient c ≠ []) :
    ((n.step (.deliver c)).toClient c).length < (n.toClient c).length := by
  obtain ⟨hbroken, p, hp, hconnected⟩ := hopen
  obtain ⟨frame, frames, hcons⟩ := List.exists_cons_of_ne_nil hne
  have hstep : n.step (.deliver c) = n.put c (n.session c).deliver := if_neg hbroken
  rw [hstep]
  simp [put, Session.deliver, session, hp, hcons, hconnected, Link.receive]

theorem open_untyped (he : Untyped e) (hopen : (n.step e).Open c) : n.Open c := by
  obtain ⟨hbroken, p', hp', hconnected⟩ := hopen
  cases e with
  | serve d =>
    have hsame : (n.step (.serve d)).broken = n.broken ∧
        (n.step (.serve d)).client c = n.client c := by
      simp only [step, serve]
      cases n.toServer d <;> exact ⟨rfl, rfl⟩
    exact ⟨hsame.1 ▸ hbroken, p', hsame.2 ▸ hp', hconnected⟩
  | deliver d =>
    rcases n.deliver_cases d with ⟨hsame, -⟩ | ⟨p, frame, frames, hp, -, -, hstep, -⟩
    · rw [hsame] at hbroken hp'
      exact ⟨hbroken, p', hp', hconnected⟩
    · rw [hstep] at hbroken hp'
      refine ⟨hbroken, ?_⟩
      by_cases hc : c = d
      · subst hc
        rw [put_client_self] at hp'
        exact ⟨p, hp, connected_of_processFrame hp' hconnected⟩
      · rw [put_client_of_ne _ hc] at hp'
        exact ⟨p', hp', hconnected⟩
  | lose d k =>
    simp only [step, lose] at hbroken hp'
    split_ifs at hbroken hp'
    · refine ⟨fun hmem => hbroken (Finset.mem_insert_of_mem hmem), ?_⟩
      by_cases hc : c = d
      · exact absurd (hc ▸ Finset.mem_insert_self d n.broken) hbroken
      · simp only [Function.update_of_ne hc] at hp'
        exact ⟨p', hp', hconnected⟩
    · exact ⟨hbroken, p', hp', hconnected⟩
  | _ => exact absurd he id

/-! ### Unending runs -/

section Unending

variable {w : ℕ → Event}

/-- The messages of a client are worked off in the end. -/
theorem Fair.toServer (hw : Fair w) (n : Network) (c : ℕ) :
    ∀ᶠ i in atTop, (Machine.along step n w i).toServer c = [] := by
  have hzero : ∀ᶠ i in atTop, ((Machine.along step n w i).toServer c).length = 0 := by
    refine Machine.eventually_zero_along (fun _ => True) (fun n : Network => (n.toServer c).length)
      (.of_forall fun _ => trivial) (fun n i _ => toServer_untyped (hw.untyped i) c)
      (fun n _ hne => ?_) (hw.serve c)
    exact toServer_serve fun hnil => hne (by rw [hnil, List.length_nil])
  exact hzero.mono fun i => List.length_eq_zero_iff.1

open Classical in
/-- How many frames a client has still to handle. -/
noncomputable def waiting (c : ℕ) (n : Network) : ℕ := if n.Open c then (n.toClient c).length else 0

/-- The frames of a client are handled in the end, when there are no messages any more. -/
theorem Fair.toClient (hw : Fair w) {n : Network}
    (hidle : ∀ᶠ i in atTop, ∀ d, (Machine.along step n w i).toServer d = []) (c : ℕ) :
    ∀ᶠ i in atTop, (Machine.along step n w i).Open c →
      (Machine.along step n w i).toClient c = [] := by
  have hzero : ∀ᶠ i in atTop, waiting c (Machine.along step n w i) = 0 := by
    refine Machine.eventually_zero_along (fun n => ∀ d, n.toServer d = []) (waiting c) hidle
      (fun n i hnone => ?_) (fun n hnone hne => ?_) (hw.deliver c)
    · -- a client that is not open stays so
      unfold waiting
      split_ifs with hopen' hopen hopen
      · exact toClient_untyped hnone (hw.untyped i) c
      · exact absurd (open_untyped (hw.untyped i) hopen') hopen
      · exact Nat.zero_le _
      · exact le_rfl
    · have hopen : n.Open c := by
        by_contra hclosed
        exact hne (if_neg hclosed)
      have hwaiting : waiting c n = (n.toClient c).length := if_pos hopen
      rw [hwaiting] at hne ⊢
      have hlt := toClient_deliver hopen fun hnil => hne (by rw [hnil, List.length_nil])
      unfold waiting
      split_ifs
      · exact hlt
      · exact Nat.pos_of_ne_zero hne
  refine hzero.mono fun i hi hopen => List.length_eq_zero_iff.1 ?_
  rwa [waiting, if_pos hopen] at hi

/-- **The network comes to rest.** -/
theorem eventually_idle (hw : Fair w) {n : Network}
    (hfresh : ∀ c, n.server.accepted ≤ c → n.toServer c = [] ∧ ¬ n.Open c) :
    ∀ᶠ i in atTop, (∀ c, (Machine.along step n w i).toServer c = []) ∧
      ∀ c, (Machine.along step n w i).Open c → (Machine.along step n w i).toClient c = [] := by
  have hunborn : ∀ c, n.server.accepted ≤ c → ∀ i,
      (Machine.along step n w i).toServer c = [] ∧ ¬ (Machine.along step n w i).Open c := by
    intro c hc i
    induction i with
    | zero => exact hfresh c hc
    | succ i ih =>
      rw [Machine.along_succ]
      have hle := toServer_untyped (n := Machine.along step n w i) (hw.untyped i) c
      rw [ih.1] at hle
      exact ⟨List.length_eq_zero_iff.1 (Nat.le_zero.1 hle),
        fun hopen => ih.2 (open_untyped (hw.untyped i) hopen)⟩
  -- the messages first: while there are any, new frames come
  have hidle : ∀ᶠ i in atTop, ∀ c, (Machine.along step n w i).toServer c = [] := by
    have hborn := (Filter.eventually_all_finset (Finset.range n.server.accepted)).2 fun c _ =>
      hw.toServer n c
    refine hborn.mono fun i hi c => ?_
    by_cases hc : c < n.server.accepted
    · exact hi c (Finset.mem_range.2 hc)
    · exact (hunborn c (not_lt.1 hc) i).1
  have hhandled : ∀ᶠ i in atTop, ∀ c, (Machine.along step n w i).Open c →
      (Machine.along step n w i).toClient c = [] := by
    have hborn := (Filter.eventually_all_finset (Finset.range n.server.accepted)).2 fun c _ =>
      hw.toClient hidle c
    refine hborn.mono fun i hi c hopen => ?_
    by_cases hc : c < n.server.accepted
    · exact hi c (Finset.mem_range.2 hc) hopen
    · exact absurd hopen (hunborn c (not_lt.1 hc) i).2
  exact hidle.and hhandled

end Unending

end Network

namespace History

open Machine (firstEvents along)
open Network (Fair Open)

variable {es : List Network.Event} {w : ℕ → Network.Event}

theorem along_firstEvents (hes : Machine.Along step Plain {} es) (hw : Fair w) (i : ℕ) :
    Machine.Along step Plain {} (es ++ firstEvents w i) := by
  refine (Machine.along_append _ _ _).2 ⟨hes, ?_⟩
  induction i with
  | zero => exact trivial
  | succ i ih =>
    rw [Machine.firstEvents_succ, Machine.along_append]
    refine ⟨ih, ?_, trivial⟩
    have huntyped := hw.untyped i
    cases hevent : w i with
    | report => rw [hevent] at huntyped; exact absurd huntyped id
    | _ => trivial

theorem network_along (i : ℕ) : (after (es ++ firstEvents w i)).network =
    along Network.step (after es).network w i := by
  rw [network_after, Machine.run_append, ← network_after]
  rfl

/-- Everything has arrived.  A client that the server has not dropped, and whose connection works,
has published all it has reported; a client that is logged in over a working connection has handled
the frame of every publication for it once, in order, and knows of every game what these
publications say. -/
structure Settled (h : History) : Prop where
  messages : ∀ c, h.network.toServer c = []
  published : ∀ c p, h.network.client c = .ok p → p.handler.writable = true →
    h.network.server.connections.idToHandler.lookup c ≠ none →
    Publication.contents c h.log = h.reported c
  handled : ∀ c p, h.network.client c = .ok p → p.handler.connected = true → c ∉ h.network.broken →
    (h.handled c).filter isMessage = h.log.filterMap (·.frameTo c)
  tables : ∀ c p, h.network.client c = .ok p → p.handler.connected = true → c ∉ h.network.broken →
    ReadFromAll p.gameToEvents (Publication.forClient c h.log)

theorem settled (hes : Machine.Along step Plain {} es)
    (hidle : ∀ c, (after es).network.toServer c = [])
    (hhandled : ∀ c, (after es).network.Open c → (after es).network.toClient c = []) :
    (after es).Settled where
  messages := hidle
  published c p hp hwritable hreg := by
    obtain ⟨u, hpeer⟩ := (Inv.after hes).peers c
    obtain ⟨lost, hlost, hnone⟩ := hpeer.pending hreg
    have hsent : (peer (after es) c).toServer = [] := hidle c
    rw [hnone p hp hwritable, hsent, List.filterMap_nil, List.append_nil, List.append_nil] at hlost
    exact hlost
  handled c p hp hconnected hbroken := by
    obtain ⟨u, hpeer⟩ := (Inv.after hes).peers c
    have harrivals := hpeer.arrivals
    have hempty : (peer (after es) c).toClient = [] := hhandled c ⟨hbroken, p, hp, hconnected⟩
    rw [hempty, List.append_nil] at harrivals
    exact harrivals
  tables c p hp hconnected hbroken := by
    have hempty := hhandled c ⟨hbroken, p, hp, hconnected⟩
    have hall := take_forClient hes (c := c) fun frame hframe => by
      rw [hempty] at hframe
      cases hframe
    have htables := tables_of_arrivals hes hp hconnected
    rwa [hall] at htables

/-- **Everything arrives** when the users have stopped typing. -/
theorem eventually_settled (hes : Machine.Along step Plain {} es) (hw : Fair w) :
    ∀ᶠ i in atTop, (after (es ++ firstEvents w i)).Settled := by
  have hfresh : ∀ c, (after es).network.server.accepted ≤ c →
      (after es).network.toServer c = [] ∧ ¬ (after es).network.Open c := by
    intro c hc
    refine ⟨((Inv.after hes).fresh c hc).toServer, ?_⟩
    rintro ⟨-, p, hp, hconnected⟩
    exact absurd ((Inv.after hes).accepted_of_connected hp hconnected) (Nat.not_lt.2 hc)
  refine (Network.eventually_idle hw hfresh).mono fun i hidle => ?_
  rw [← network_along] at hidle
  exact settled (along_firstEvents hes hw i) hidle.1 hidle.2

/-- A schedule: the number `i` codes a turn and a connection, and the turns alternate. -/
def alternating (i : ℕ) : Network.Event :=
  if i.unpair.1 % 2 = 0 then .serve i.unpair.2 else .deliver i.unpair.2

theorem fair_alternating : Fair alternating where
  untyped i := by
    unfold alternating
    split_ifs <;> trivial
  serve c := by
    refine Filter.frequently_atTop.2 fun N => ⟨Nat.pair (2 * N) c, ?_, ?_⟩
    · have hle := Nat.left_le_pair (2 * N) c
      omega
    · simp [alternating, Nat.unpair_pair]
  deliver c := by
    refine Filter.frequently_atTop.2 fun N => ⟨Nat.pair (2 * N + 1) c, ?_, ?_⟩
    · have hle := Nat.left_le_pair (2 * N + 1) c
      omega
    · simp [alternating, Nat.unpair_pair]

/-- Bob's copy of his report arrives, too. -/
theorem eventually_settled_goalRun :
    ∀ᶠ i in atTop, (after (goalRun ++ firstEvents alternating i)).Settled :=
  eventually_settled along_goalRun fair_alternating

end History

end WorldCupInformer
