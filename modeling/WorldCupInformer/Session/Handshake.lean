import WorldCupInformer.Session.Commands

/-!
# Requests between the client and the server

A request about a game is outstanding from the command until the client has handled its RECEIPT.
As long as the client has at most one outstanding request for each game, the request says what both
sides hold for its game: the client's entry before the RECEIPT, and the server's entry after the
request, which will be the client's as well.  For every other game both hold the same.  The server
is thought to have worked off everything on its way (`Link.settled`, `Link.coming`).

* `Serves`: what the server keeps of the client's connection;
* `Tracks`: the two sides, with the outstanding requests;
* `Tracks.subscribe`, `Tracks.unsubscribe`: a command makes a request;
* `Tracks.receipt`: the client handles the RECEIPT of a request.
-/

namespace WorldCupInformer

open ConnectionsImp
open Client (natToString StompProtocol)

/-- A request of the client, with the number of its subscription and that of its receipt. -/
inductive Request
  | subscribe (gameName : Str) (subID receiptID : ℕ)
  | unsubscribe (gameName : Str) (subID receiptID : ℕ)
  deriving DecidableEq

namespace Request

def gameName : Request → Str
  | .subscribe g _ _ | .unsubscribe g _ _ => g

def subID : Request → ℕ
  | .subscribe _ n _ | .unsubscribe _ n _ => n

def receiptID : Request → ℕ
  | .subscribe _ _ k | .unsubscribe _ _ k => k

/-- The client's entry for the game while the request is outstanding. -/
def entry : Request → Str
  | .subscribe _ n _ => '*' :: natToString n
  | .unsubscribe _ n _ => natToString n

/-- The server's entry for the game after the request, and the client's after the RECEIPT. -/
def after : Request → Option Str
  | .subscribe _ n _ => some (natToString n)
  | .unsubscribe _ _ _ => none

theorem after_cases (q : Request) : q.after = none ∨ q.after = some (natToString q.subID) := by
  cases q with
  | subscribe => exact .inr rfl
  | unsubscribe => exact .inl rfl

/-- The entry of an exit has no mark. -/
theorem head_entry_of_unsubscribe {q : Request} (h : q.after = none) :
    q.entry.head? ≠ some '*' := by
  cases q with
  | subscribe => cases h
  | unsubscribe g n k =>
    intro heq
    have hstar : '*' ∈ natToString n := List.mem_of_mem_head? heq
    exact Client.notMem_natToString (by decide) hstar

/-- The RECEIPT as the client gets it. -/
def answer (q : Request) : Str := Client.receiptText (natToString q.receiptID)

end Request

/-- The server's entry for a game of connection `c`. -/
def Server.gameEntry (s : Server) (c : ℕ) (g : Str) : Option Str :=
  s.connections.entry (lit "/" ++ g) ⟨c⟩

theorem append_slash_inj {g g' : Str} : lit "/" ++ g = lit "/" ++ g' ↔ g = g' :=
  List.append_right_inj _

theorem append_slash_ne_nil (g : Str) : lit "/" ++ g ≠ [] := by simp [lit]

/-- The server knows connection `c`; its subscriptions are to games, and have numbers below
`bound`. -/
structure Serves (c : ℕ) (s : Server) (bound : ℕ) : Prop where
  wellFormed : s.WellFormed
  registered : s.connections.idToHandler.lookup c = some ⟨c⟩
  indexed : ∀ t id, s.connections.entry t ⟨c⟩ = some id → s.connections.topicOf ⟨c⟩ id = some t
  numbered : ∀ t id, s.connections.entry t ⟨c⟩ = some id → ∃ n < bound, id = natToString n
  topics : ∀ t id, s.connections.entry t ⟨c⟩ = some id → ∃ w : Word, t = lit "/" ++ w.text

namespace Serves

variable {c bound n : ℕ} {s s' : Server} {g : Str}

theorem root (hs : Serves c s bound) : s.connections.entry [] ⟨c⟩ = none := by
  cases hent : s.connections.entry [] ⟨c⟩ with
  | none => rfl
  | some id =>
    obtain ⟨w, hw⟩ := hs.topics [] id hent
    exact absurd hw.symm (append_slash_ne_nil w.text)

/-- The new entries, and those that stay, after a change of the entry of one game. -/
theorem gameEntry_eq {sub : Option Str}
    (hent : ∀ t, s'.connections.entry t ⟨c⟩ =
      if t = lit "/" ++ g then sub else s.connections.entry t ⟨c⟩) (g' : Str) :
    s'.gameEntry c g' = if g' = g then sub else s.gameEntry c g' := by
  rw [Server.gameEntry, hent]
  simp only [append_slash_inj, Server.gameEntry]

/-- The server has subscribed the client. -/
theorem subscribe (hs : Serves c s bound) (w : Word) (hwf : s'.WellFormed)
    (hconn : s'.connections =
      s.connections.addSubscription (lit "/" ++ w.text) ⟨c⟩ (natToString bound)) :
    Serves c s' (bound + 1) ∧ ∀ t, s'.connections.entry t ⟨c⟩ =
      if t = lit "/" ++ w.text then some (natToString bound) else s.connections.entry t ⟨c⟩ := by
  have hent : ∀ t, s'.connections.entry t ⟨c⟩ =
      if t = lit "/" ++ w.text then some (natToString bound) else s.connections.entry t ⟨c⟩ := by
    intro t
    rw [hconn, entry_addSubscription]
    simp
  refine
    ⟨{ wellFormed := hwf
       registered := by rw [hconn]; exact hs.registered
       indexed := fun t id ht => ?_
       numbered := fun t id ht => ?_
       topics := fun t id ht => ?_ }, hent⟩
  · rw [hent] at ht
    rw [hconn, topicOf_addSubscription]
    split_ifs at ht with hnew
    · cases ht
      simp [hnew]
    · obtain ⟨n, hn, rfl⟩ := hs.numbered t id ht
      have hne : natToString n ≠ natToString bound := fun heq =>
        hn.ne (Client.natToString_injective heq)
      rw [if_neg fun hand => hne hand.2]
      exact hs.indexed t _ ht
  · rw [hent] at ht
    split_ifs at ht
    · exact ⟨bound, Nat.lt_succ_self _, (Option.some.inj ht).symm⟩
    · obtain ⟨n, hn, hid⟩ := hs.numbered t id ht
      exact ⟨n, hn.trans (Nat.lt_succ_self _), hid⟩
  · rw [hent] at ht
    split_ifs at ht with hnew
    · exact ⟨w, hnew⟩
    · exact hs.topics t id ht

/-- The server has taken the client off a game. -/
theorem unsubscribe (hs : Serves c s bound)
    (hbefore : s.gameEntry c g = some (natToString n)) (hwf : s'.WellFormed)
    (hconn : s'.connections =
      s.connections.removeSubscription (lit "/" ++ g) ⟨c⟩ (natToString n)) :
    Serves c s' bound ∧ ∀ t, s'.connections.entry t ⟨c⟩ =
      if t = lit "/" ++ g then none else s.connections.entry t ⟨c⟩ := by
  have hent : ∀ t, s'.connections.entry t ⟨c⟩ =
      if t = lit "/" ++ g then none else s.connections.entry t ⟨c⟩ := by
    intro t
    rw [hconn, entry_removeSubscription]
    simp
  have hold : ∀ t id, s'.connections.entry t ⟨c⟩ = some id →
      t ≠ lit "/" ++ g ∧ s.connections.entry t ⟨c⟩ = some id := by
    intro t id ht
    rw [hent] at ht
    split_ifs at ht with hg
    exact ⟨hg, ht⟩
  have htop := hs.indexed _ _ hbefore
  refine
    ⟨{ wellFormed := hwf
       registered := by rw [hconn]; exact hs.registered
       indexed := fun t id ht => ?_
       numbered := fun t id ht => hs.numbered t id (hold t id ht).2
       topics := fun t id ht => hs.topics t id (hold t id ht).2 }, hent⟩
  obtain ⟨hne, ht⟩ := hold t id ht
  have htop' := hs.indexed t id ht
  rw [hconn, topicOf_removeSubscription, if_neg]
  · exact htop'
  · rintro ⟨-, rfl⟩
    exact hne (Option.some.inj (htop'.symm.trans htop))

/-- The subscription with this number is gone. -/
theorem topicOf_eq_none (hs : Serves c s bound) {id : Str}
    (hid : ∀ t, s.connections.entry t ⟨c⟩ ≠ some id) : s.connections.topicOf ⟨c⟩ id = none := by
  cases htop : s.connections.topicOf ⟨c⟩ id with
  | none => rfl
  | some t => exact absurd (hs.wellFormed.backed ⟨c⟩ id t htop) (hid t)

end Serves

/-- The open client and the settled server of connection `c`, with the outstanding requests, oldest
first. -/
structure Tracks (c : ℕ) (p : StompProtocol) (s : Server) (qs : List Request) : Prop where
  rest : AtRest p
  connected : p.handler.connected = true
  writable : p.handler.writable = true
  username : ∃ u, p.username = Utf8.bytesOf u ∧ '\x00' ∉ u
  serves : Serves c s p.subscriptionID
  keys : ∀ key sub, p.gameToSubID.lookup key = some sub → ∃ w : Word, key = w.typed
  distinct : (qs.map Request.gameName).Nodup
  noted : ∀ q ∈ qs,
    p.receiptToMsg.lookup (natToString q.receiptID) = some (Utf8.bytesOf q.gameName)
  pending : ∀ q ∈ qs, p.gameToSubID.lookup (Utf8.bytesOf q.gameName) = some q.entry
  answered : ∀ q ∈ qs, s.gameEntry c q.gameName = q.after
  /-- an exit leaves its number unused -/
  left : ∀ q ∈ qs, q.after = none → q.subID < p.subscriptionID ∧
    ∀ t, s.connections.entry t ⟨c⟩ ≠ some (natToString q.subID)
  settled : ∀ g, (∀ q ∈ qs, q.gameName ≠ g) →
    p.gameToSubID.lookup (Utf8.bytesOf g) = s.gameEntry c g

/-- The client has made the request `q` with the message `msg`, which the settled server fulfils. -/
structure Fulfills (c : ℕ) (s : Server) (qs : List Request) (p' : StompProtocol) (msg : Str)
    (q : Request) : Prop where
  answer : s.answer c msg = [q.answer]
  gameEntry : ∀ g, (s.afterMessage c msg).gameEntry c g =
    if g = q.gameName then q.after else s.gameEntry c g
  tracks : Tracks c p' (s.afterMessage c msg) (qs ++ [q])

namespace Tracks

variable {c : ℕ} {p p' : StompProtocol} {s s' : Server} {q : Request} {qs : List Request}

/-- What the client's entry for a game tells. -/
theorem entry_cases (h : Tracks c p s qs) {g sub : Str}
    (hsub : p.gameToSubID.lookup (Utf8.bytesOf g) = some sub) :
    (∃ q ∈ qs, q.gameName = g ∧ sub = q.entry) ∨
      (∀ q ∈ qs, q.gameName ≠ g) ∧ s.gameEntry c g = some sub := by
  by_cases hq : ∃ q ∈ qs, q.gameName = g
  · obtain ⟨q, hq, rfl⟩ := hq
    exact .inl ⟨q, hq, rfl, Option.some.inj (hsub.symm.trans (h.pending q hq))⟩
  · have hnone : ∀ q ∈ qs, q.gameName ≠ g := fun q hmem heq => hq ⟨q, hmem, heq⟩
    exact .inr ⟨hnone, (h.settled g hnone).symm.trans hsub⟩

/-- A game without an entry has no outstanding request, and the server has no entry for it. -/
theorem entry_none (h : Tracks c p s qs) {g : Str}
    (hnone : p.gameToSubID.lookup (Utf8.bytesOf g) = none) :
    (∀ q ∈ qs, q.gameName ≠ g) ∧ s.gameEntry c g = none := by
  have hfree : ∀ q ∈ qs, q.gameName ≠ g := by
    rintro q hq rfl
    exact absurd (hnone.symm.trans (h.pending q hq)) (by simp)
  exact ⟨hfree, (h.settled g hfree).symm.trans hnone⟩

/-- A command has made the request `q` about a game without an outstanding one, and the settled
server has fulfilled it. -/
theorem ask (h : Tracks c p s qs) (hfree : ∀ q' ∈ qs, q'.gameName ≠ q.gameName)
    (hrest : AtRest p') (hhandler : p'.handler = p.handler) (husername : p'.username = p.username)
    (hserves : Serves c s' p'.subscriptionID) (hbound : p.subscriptionID ≤ p'.subscriptionID)
    (hreceipts : p'.receiptToMsg =
      p.receiptToMsg.insert (natToString q.receiptID) (Utf8.bytesOf q.gameName))
    (hnew : p.receiptToMsg.lookup (natToString q.receiptID) = none)
    (hentries : ∀ key, p'.gameToSubID.lookup key =
      if key = Utf8.bytesOf q.gameName then some q.entry else p.gameToSubID.lookup key)
    (hgame : ∃ w : Word, q.gameName = w.text)
    (hserver : ∀ t, s'.connections.entry t ⟨c⟩ =
      if t = lit "/" ++ q.gameName then q.after else s.connections.entry t ⟨c⟩)
    (hsub : q.after ≠ none → p.subscriptionID ≤ q.subID)
    (hleft : q.after = none → q.subID < p'.subscriptionID ∧
      ∀ t, s'.connections.entry t ⟨c⟩ ≠ some (natToString q.subID)) :
    Tracks c p' s' (qs ++ [q]) := by
  have hother : ∀ q' ∈ qs, Utf8.bytesOf q'.gameName ≠ Utf8.bytesOf q.gameName := fun q' hq' heq =>
    hfree q' hq' (Utf8.bytesOf_injective heq)
  have hgameEntry := Serves.gameEntry_eq hserver
  have hforall : ∀ {P : Request → Prop}, (∀ q' ∈ qs, P q') → P q → ∀ q' ∈ qs ++ [q], P q' := by
    intro P hqs hq q' hmem
    rcases List.mem_append.1 hmem with hmem | hmem
    · exact hqs q' hmem
    · exact List.mem_singleton.1 hmem ▸ hq
  exact
    { rest := hrest
      connected := by rw [hhandler]; exact h.connected
      writable := by rw [hhandler]; exact h.writable
      username := by rw [husername]; exact h.username
      serves := hserves
      keys := fun key sub hkey => by
        rw [hentries] at hkey
        split_ifs at hkey with heq
        · obtain ⟨w, hw⟩ := hgame
          exact ⟨w, by rw [heq, hw]; rfl⟩
        · exact h.keys key sub hkey
      distinct := by
        rw [List.map_append, List.map_singleton]
        refine List.nodup_append.2 ⟨h.distinct, List.nodup_singleton _, ?_⟩
        rintro g hg g' hg' rfl
        obtain ⟨q', hq', rfl⟩ := List.mem_map.1 hg
        exact hfree q' hq' (List.mem_singleton.1 hg')
      noted := hforall (fun q' hq' => by
          have hid : natToString q'.receiptID ≠ natToString q.receiptID := fun heq => by
            have hknown := h.noted q' hq'
            rw [heq, hnew] at hknown
            cases hknown
          rw [hreceipts, Dict.lookup_insert, if_neg hid]
          exact h.noted q' hq')
        (by rw [hreceipts, Dict.lookup_insert, if_pos rfl])
      pending := hforall (fun q' hq' => by
          rw [hentries, if_neg (hother q' hq')]
          exact h.pending q' hq')
        (by rw [hentries, if_pos rfl])
      answered := hforall (fun q' hq' => by
          rw [hgameEntry, if_neg (hfree q' hq')]
          exact h.answered q' hq')
        (by rw [hgameEntry, if_pos rfl])
      left := hforall (fun q' hq' hafter => by
          obtain ⟨hlt, hunused⟩ := h.left q' hq' hafter
          refine ⟨hlt.trans_le hbound, fun t => ?_⟩
          rw [hserver]
          split_ifs
          · -- a new subscription has a new number
            rcases q.after_cases with hnone | hsome
            · simp [hnone]
            · rw [hsome]
              intro heq
              have hnum := Client.natToString_injective (Option.some.inj heq)
              have hle := hsub (by simp [hsome])
              omega
          · exact hunused t)
        hleft
      settled := fun g hg => by
        have hne : g ≠ q.gameName := fun heq => hg q (by simp) heq.symm
        have hold := h.settled g fun q' hq' => hg q' (List.mem_append_left _ hq')
        rw [hentries, if_neg fun heq => hne (Utf8.bytesOf_injective heq), hgameEntry, if_neg hne]
        exact hold }

/-! ### Commands -/

/-- The next receipt id is new. -/
theorem lookup_receiptID (h : Tracks c p s qs) :
    p.receiptToMsg.lookup p.getReceiptID = none := h.rest.numbered.lookup_size

/-- A join of a game without an entry is fulfilled. -/
theorem subscribe (h : Tracks c p s qs) (w : Word)
    (hnone : p.gameToSubID.lookup w.typed = none) :
    ∃ q, q.gameName = w.text ∧ q.after ≠ none ∧
      Fulfills c s qs ((p.addSubscription w.typed).addMsg w.typed)
        (subscribeMessage w.text p.getSubId p.getReceiptID) q := by
  obtain ⟨hfree, hgame⟩ := h.entry_none hnone
  obtain ⟨hconn, hanswer⟩ := Server.answer_subscribe h.serves.registered w.plain
    (plain_natToString p.subscriptionID) (plain_natToString (Dict.size p.receiptToMsg)) hgame
  have hwf := h.serves.wellFormed.step
    (.message c (subscribeMessage w.text p.getSubId p.getReceiptID))
  obtain ⟨hserves, hserver⟩ := h.serves.subscribe w hwf hconn
  have hreceipts : ((p.addSubscription w.typed).addMsg w.typed).receiptToMsg =
      p.receiptToMsg.insert p.getReceiptID w.typed :=
    Dict.insertNew_of_none h.lookup_receiptID w.typed
  have hentries : ((p.addSubscription w.typed).addMsg w.typed).gameToSubID =
      p.gameToSubID.insert w.typed ('*' :: natToString p.subscriptionID) :=
    Dict.insertNew_of_none hnone _
  refine ⟨.subscribe w.text p.subscriptionID (Dict.size p.receiptToMsg), rfl,
    Option.some_ne_none _, ?_, Serves.gameEntry_eq hserver, ?_⟩
  · rw [Utf8.bytesOf_of_ascii (ascii_natToString _)] at hanswer
    exact hanswer
  · refine h.ask hfree ?_ rfl rfl hserves (Nat.le_succ _) hreceipts h.lookup_receiptID
      (fun key => ?_) ⟨w, rfl⟩ hserver (fun _ => le_rfl) (fun hafter => by cases hafter)
    · refine ⟨by rw [hreceipts]; exact h.rest.numbered.insert _, fun g sub hsub => ?_,
        h.rest.written, h.rest.connected⟩
      rcases isEntry_of_addSubscription hsub with hold | hentry
      · exact h.rest.entries g sub hold
      · exact hentry
    · rw [hentries, Dict.lookup_insert]
      rfl

/-- An exit of a game that the server knows is fulfilled if nothing is outstanding about it. -/
theorem unsubscribe (h : Tracks c p s qs) (w : Word) {sub : Str}
    (hsub : p.gameToSubID.lookup w.typed = some sub) (hfree : ∀ q ∈ qs, q.gameName ≠ w.text) :
    ∃ q, q.gameName = w.text ∧ q.after = none ∧
      Fulfills c s qs (p.addMsg w.typed) (unsubscribeMessage sub p.getReceiptID) q := by
  have hbefore : s.gameEntry c w.text = some sub := (h.settled _ hfree).symm.trans hsub
  obtain ⟨n, hn, rfl⟩ := h.serves.numbered _ _ hbefore
  obtain ⟨hconn, hanswer⟩ := Server.answer_unsubscribe h.serves.registered h.serves.wellFormed
    (plain_natToString n) (plain_natToString (Dict.size p.receiptToMsg))
    (h.serves.indexed _ _ hbefore)
  have hwf := h.serves.wellFormed.step
    (.message c (unsubscribeMessage (natToString n) p.getReceiptID))
  obtain ⟨hserves, hserver⟩ := h.serves.unsubscribe hbefore hwf hconn
  have hreceipts : (p.addMsg w.typed).receiptToMsg =
      p.receiptToMsg.insert p.getReceiptID w.typed :=
    Dict.insertNew_of_none h.lookup_receiptID w.typed
  refine ⟨.unsubscribe w.text n (Dict.size p.receiptToMsg), rfl, rfl, ?_,
    Serves.gameEntry_eq hserver, ?_⟩
  · rw [Utf8.bytesOf_of_ascii (ascii_natToString _)] at hanswer
    exact hanswer
  · refine h.ask hfree ?_ rfl rfl hserves le_rfl hreceipts h.lookup_receiptID (fun key => ?_)
      ⟨w, rfl⟩ hserver (fun hafter => absurd rfl hafter) (fun _ => ⟨hn, fun t ht => ?_⟩)
    · exact ⟨by rw [hreceipts]; exact h.rest.numbered.insert _, h.rest.entries, h.rest.written,
        h.rest.connected⟩
    · by_cases hkey : key = w.typed
      · subst hkey
        exact (if_pos rfl).symm ▸ hsub
      · exact (if_neg hkey).symm
    · -- the number belonged to this game only
      have ht := (hserver t).symm.trans ht
      split_ifs at ht with hgame
      have hindex := h.serves.indexed t _ ht
      exact hgame (Option.some.inj (hindex.symm.trans (h.serves.indexed _ _ hbefore)))

/-- A join of a game that the server knows is refused. -/
theorem refuses_subscribe (h : Tracks c p s qs) (w : Word) (hgame : s.gameEntry c w.text ≠ none) :
    s.Refuses c (subscribeMessage w.text p.getSubId p.getReceiptID) :=
  Server.refuses_subscribe h.serves.registered h.serves.wellFormed w.plain (plain_natToString _)
    (plain_natToString _) hgame

/-- An exit of a game about which a request is outstanding is refused. -/
theorem refuses_unsubscribe (h : Tracks c p s qs) (hq : q ∈ qs) :
    s.Refuses c (unsubscribeMessage q.entry p.getReceiptID) := by
  have hentry : IsEntry q.entry := h.rest.entries _ _ (h.pending q hq)
  have hunused : ∀ t, s.connections.entry t ⟨c⟩ ≠ some q.entry := by
    cases q with
    | subscribe g n k =>
      intro t ht
      obtain ⟨m, -, hm⟩ := h.serves.numbered t _ ht
      have hstar : '*' ∈ natToString m := hm ▸ List.mem_cons_self
      exact Client.notMem_natToString (by decide) hstar
    | unsubscribe g n k => exact (h.left _ hq rfl).2
  exact Server.refuses_unsubscribe h.serves.registered h.serves.wellFormed hentry.plain
    (plain_natToString _) (h.serves.topicOf_eq_none hunused) h.serves.root

/-! ### RECEIPTs -/

/-- What a RECEIPT makes of the client's entries. -/
theorem lookup_receiptOf (h : Tracks c p s (q :: qs))
    (hgame : Utf8.bytesOf q.gameName ≠ "DISCONNECT")
    (key : Str) : (p.receiptOf (Utf8.bytesOf q.gameName)).gameToSubID.lookup key =
      if key = Utf8.bytesOf q.gameName then q.after else p.gameToSubID.lookup key := by
  have hsub := h.pending q List.mem_cons_self
  rw [StompProtocol.receiptOf_game hgame hsub]
  cases q with
  | subscribe g n k =>
    have hmark : (Request.subscribe g n k).entry.head? = some '*' := rfl
    rw [if_pos hmark, StompProtocol.confirmSub, hsub]
    exact Dict.lookup_insert _ _ _ _
  | unsubscribe g n k =>
    rw [if_neg (Request.head_entry_of_unsubscribe rfl)]
    exact Dict.lookup_erase _ _ _

/-- **The client handles the RECEIPT of its oldest request.** -/
theorem receipt (h : Tracks c p s (q :: qs)) :
    p.processFrame q.answer = .ok (p.receiptOf (Utf8.bytesOf q.gameName)) ∧
      ((p.receiptOf (Utf8.bytesOf q.gameName)).handler.connected = true →
        Tracks c (p.receiptOf (Utf8.bytesOf q.gameName)) s qs) := by
  have hnoted := h.noted q List.mem_cons_self
  refine ⟨StompProtocol.processFrame_receipt (plain_natToString _).newline hnoted, fun hopen => ?_⟩
  have hgame : Utf8.bytesOf q.gameName ≠ "DISCONNECT" := fun heq => by
    rw [heq, StompProtocol.receiptOf_disconnect] at hopen
    cases hopen
  have hlookup := h.lookup_receiptOf hgame
  have hrest := h.rest.receiptOf (Utf8.bytesOf q.gameName)
  obtain ⟨hnew, hdistinct⟩ := List.nodup_cons.1 h.distinct
  have hne : ∀ q' ∈ qs, q'.gameName ≠ q.gameName := fun q' hq' heq =>
    hnew (heq ▸ List.mem_map_of_mem hq')
  rcases p.receiptOf_cases (Utf8.bytesOf q.gameName) with hlogout | ⟨subs, hsubs⟩
  · rw [hlogout] at hopen
    cases hopen
  · rw [hsubs] at hlookup hrest ⊢
    exact
      { rest := hrest
        connected := h.connected
        writable := h.writable
        username := h.username
        serves := h.serves
        keys := fun key sub hkey => by
          rw [hlookup] at hkey
          split_ifs at hkey with heq
          · exact h.keys key _ (heq ▸ h.pending q List.mem_cons_self)
          · exact h.keys key sub hkey
        distinct := hdistinct
        noted := fun q' hq' => h.noted q' (List.mem_cons_of_mem q hq')
        pending := fun q' hq' => by
          rw [hlookup, if_neg fun heq => hne q' hq' (Utf8.bytesOf_injective heq)]
          exact h.pending q' (List.mem_cons_of_mem q hq')
        answered := fun q' hq' => h.answered q' (List.mem_cons_of_mem q hq')
        left := fun q' hq' => h.left q' (List.mem_cons_of_mem q hq')
        settled := fun g hg => by
          rw [hlookup]
          split_ifs with heq
          · obtain rfl := Utf8.bytesOf_injective heq
            exact (h.answered q List.mem_cons_self).symm
          · refine h.settled g (List.forall_mem_cons.2 ⟨fun hq => heq (by rw [hq]), hg⟩) }

/-- A MESSAGE changes nothing of this. -/
theorem message (h : Tracks c p s qs) (games : Dict Str (Dict Str Client.Game)) :
    Tracks c { p with gameToEvents := games } s qs :=
  { h with rest := ⟨h.rest.numbered, h.rest.entries, h.rest.written, h.rest.connected⟩ }

end Tracks

end WorldCupInformer
