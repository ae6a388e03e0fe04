import WorldCupInformer.Server.BlockingConnectionHandler
import WorldCupInformer.Server.ReactorSteps

/-!
# The messages of a stream in the two server modes

A client sends a stream of bytes and nobody else does anything.  The thread of
`BlockingConnectionHandler` reads the stream byte by byte, until its protocol asks to terminate or
`process` throws.  The read tasks of `NonBlockingConnectionHandler` work off the buffers the channel
has split the stream into; they do not ask the protocol, and an exception costs the rest of its
buffer only.

* `same_messages_iff`: the same messages are processed in both modes exactly when nothing is
  completed after the message that ends the loop of the blocking handler (`NothingAfterEnd`).
-/

namespace WorldCupInformer

/-! ### Decoding a stream -/

namespace LineMessageEncoderDecoder

/-- The decoder after the bytes, and the messages they complete. -/
def decodeBytes (d : LineMessageEncoderDecoder) :
    List UInt8 → LineMessageEncoderDecoder × List Str
  | [] => (d, [])
  | b :: bytes =>
    let decoded := d.decodeNextByte b
    let rest := decodeBytes decoded.1 bytes
    (rest.1, decoded.2.toList ++ rest.2)

variable (d : LineMessageEncoderDecoder)

@[simp] theorem decodeBytes_nil : d.decodeBytes [] = (d, []) := rfl

theorem decodeBytes_append (xs ys : List UInt8) : d.decodeBytes (xs ++ ys) =
    (((d.decodeBytes xs).1.decodeBytes ys).1,
      (d.decodeBytes xs).2 ++ ((d.decodeBytes xs).1.decodeBytes ys).2) := by
  induction xs generalizing d with
  | nil => rfl
  | cons b xs ih => simp [decodeBytes, ih]

/-- A message is completed by a NUL. -/
theorem decodeNextByte_eq_none {b : UInt8} : (d.decodeNextByte b).2 = none ↔ b ≠ 0 := by
  unfold decodeNextByte
  by_cases hb : b = 0 <;> simp [hb]

/-- The bytes up to the one that completes a message. -/
theorem exists_of_messages {bytes : List UInt8} {ms ms' : List Str} {m : Str}
    (h : (d.decodeBytes bytes).2 = ms ++ m :: ms') :
    ∃ xs ys, bytes = xs ++ 0 :: ys ∧ (d.decodeBytes (xs ++ [0])).2 = ms ++ [m] := by
  induction bytes generalizing d ms with
  | nil => simp at h
  | cons b bytes ih =>
    simp only [decodeBytes] at h
    cases hdec : (d.decodeNextByte b).2 with
    | none =>
      rw [hdec] at h
      obtain ⟨xs, ys, rfl, hxs⟩ := ih _ h
      refine ⟨b :: xs, ys, rfl, ?_⟩
      simp [decodeBytes, hdec, hxs]
    | some m' =>
      have hb : b = 0 := by
        by_contra hb
        simp [(d.decodeNextByte_eq_none).2 hb] at hdec
      subst hb
      rw [hdec, Option.toList_some, List.singleton_append] at h
      cases ms with
      | nil =>
        obtain ⟨rfl, -⟩ := List.cons.inj h
        exact ⟨[], bytes, rfl, by simp [decodeBytes, hdec]⟩
      | cons m₀ ms =>
        obtain ⟨rfl, htail⟩ := List.cons.inj h
        obtain ⟨xs, ys, rfl, hxs⟩ := ih _ htail
        exact ⟨0 :: xs, ys, rfl, by simp [decodeBytes, hdec, hxs]⟩

end LineMessageEncoderDecoder

open LineMessageEncoderDecoder

namespace Server

variable {s : Server} {c : ℕ} {d : LineMessageEncoderDecoder}

/-- `process` throws. -/
def Raises (s : Server) (c : ℕ) (message : Str) : Prop :=
  raised (WorldCupInformer.process c message) s.connections ≠ none

instance (s : Server) (c : ℕ) (message : Str) : Decidable (s.Raises c message) :=
  inferInstanceAs (Decidable (_ ≠ _))

theorem isSome_raised (s : Server) (c : ℕ) (message : Str) :
    (raised (WorldCupInformer.process c message) s.connections).isSome =
      decide (s.Raises c message) := by
  rw [Bool.eq_iff_iff, decide_eq_true_iff, Option.isSome_iff_ne_none]
  rfl

/-- The message ends the loop of the blocking handler: the protocol asks to terminate, or `process`
throws. -/
def EndsLoop (s : Server) : Event → Prop
  | .accept => False
  | .message c message =>
    Call.terminate ⟨c⟩ ∈ (s.handle (.message c message)).calls ∨ s.Raises c message

/-- None of the messages ends the loop. -/
def GoesOn (s : Server) (c : ℕ) (messages : List Str) : Prop :=
  Machine.Along step (fun s e => ¬ s.EndsLoop e) s (messages.map (.message c))

/-- The server after the messages. -/
def afterMessages (s : Server) (c : ℕ) (messages : List Str) : Server :=
  Machine.run step s (messages.map (.message c))

@[simp] theorem afterMessages_nil : s.afterMessages c [] = s := rfl

@[simp] theorem afterMessages_cons (m : Str) (ms : List Str) :
    s.afterMessages c (m :: ms) = (s.step (.message c m)).afterMessages c ms := rfl

@[simp] theorem goesOn_nil : s.GoesOn c [] := trivial

@[simp] theorem goesOn_cons (m : Str) (ms : List Str) : s.GoesOn c (m :: ms) ↔
    ¬ s.EndsLoop (.message c m) ∧ (s.step (.message c m)).GoesOn c ms := Iff.rfl

theorem afterMessages_append (ms ms' : List Str) :
    s.afterMessages c (ms ++ ms') = (s.afterMessages c ms).afterMessages c ms' := by
  rw [afterMessages, List.map_append, Machine.run_append]
  rfl

theorem goesOn_append (ms ms' : List Str) : s.GoesOn c (ms ++ ms') ↔
    s.GoesOn c ms ∧ (s.afterMessages c ms).GoesOn c ms' := by
  rw [GoesOn, List.map_append, Machine.along_append]
  rfl

/-- In the stream of the buffers, the message `m` comes after the messages `ms` and is the first
that ends the loop; its last byte is the last one of `buf`. -/
structure FirstEnd (s : Server) (c : ℕ) (d : LineMessageEncoderDecoder)
    (before : List (List UInt8)) (buf : List UInt8) (ms : List Str) (m : Str) : Prop where
  nul : buf.getLast? = some 0
  messages : (d.decodeBytes (before.flatten ++ buf)).2 = ms ++ [m]
  goesOn : s.GoesOn c ms
  ends : (s.afterMessages c ms).EndsLoop (.message c m)

/-- No message is completed after the first that ends the loop; if that one throws, in the buffers
after its own. -/
def NothingAfterEnd (s : Server) (c : ℕ) (d : LineMessageEncoderDecoder)
    (buffers : List (List UInt8)) : Prop :=
  ∀ before buf rest after ms m, buffers = before ++ (buf ++ rest) :: after →
    s.FirstEnd c d before buf ms m →
    0 ∉ after.flatten ∧ (0 ∉ rest ∨ (s.afterMessages c ms).Raises c m)

/-- The buffer of a byte. -/
theorem exists_buffer {buffers : List (List UInt8)} {b : UInt8} {xs ys : List UInt8}
    (h : buffers.flatten = xs ++ b :: ys) : ∃ before buf rest after,
      buffers = before ++ (buf ++ b :: rest) :: after ∧ xs = before.flatten ++ buf := by
  rcases List.flatten_eq_append_iff.1 h with ⟨as, bs, rfl, rfl, hys⟩ |
    ⟨as, bs, c, cs, ds, rfl, rfl, hys⟩
  · obtain ⟨es, rest, after, rfl, hempty, -⟩ := List.flatten_eq_cons_iff.1 hys.symm
    refine ⟨as ++ es, [], rest, after, by simp, ?_⟩
    simp [List.flatten_eq_nil_iff.2 hempty]
  · rw [List.cons_append] at hys
    obtain ⟨rfl, -⟩ := List.cons.inj hys
    exact ⟨as, bs, cs, ds, rfl, rfl⟩

/-- A stream goes on, or some message of it is the first that ends the loop. -/
theorem goesOn_or_firstEnd (s : Server) (c : ℕ) (d : LineMessageEncoderDecoder)
    (buffers : List (List UInt8)) :
    s.GoesOn c (d.decodeBytes buffers.flatten).2 ∨
      ∃ before buf rest after ms m, buffers = before ++ (buf ++ rest) :: after ∧
        s.FirstEnd c d before buf ms m := by
  have hfirst : s.GoesOn c (d.decodeBytes buffers.flatten).2 ∨ _ :=
    Machine.along_or_exists_first s _
  refine hfirst.imp_right ?_
  rintro ⟨pre, e, post, heq, hpre, he⟩
  obtain ⟨ms, tail, hmessages, rfl, htail⟩ := List.map_eq_append_iff.1 heq
  obtain ⟨m, ms', rfl, rfl, -⟩ := List.map_eq_cons_iff.1 htail
  obtain ⟨xs, ys, hbytes, hxs⟩ := d.exists_of_messages hmessages
  obtain ⟨before, buf, rest, after, rfl, rfl⟩ := exists_buffer hbytes
  refine ⟨before, buf ++ [0], rest, after, ms, m, by simp, ?_⟩
  exact ⟨by simp, by rw [← List.append_assoc, hxs], hpre, not_not.1 he⟩

end Server

variable {s : Server} {c : ℕ} {d : LineMessageEncoderDecoder} {b : UInt8} {m : Str}

/-! ### The blocking handler -/

namespace BaseServer

/-- What the thread of the next connection processes, if the client sends the stream. -/
def streamEvents (s : Server) (stream : List UInt8) : List Event :=
  Machine.trace step serverEvent { server := s.step .accept } (stream.map (.byte s.accepted))

/-- The thread of the connection reads its next byte. -/
structure AtByte (k : BaseServer) (c : ℕ) (d : LineMessageEncoderDecoder) (s : Server) : Prop where
  server : k.server = s
  encdec : (k.handlers c).encdec = d
  reading : k.Reading c

variable {k : BaseServer}

theorem AtByte.step_none (hk : k.AtByte c d s) (hm : (d.decodeNextByte b).2 = none) :
    (k.step (.byte c b)).AtByte c (d.decodeNextByte b).1 s ∧
      k.serverEvent (.byte c b) = none := by
  obtain ⟨rfl, rfl, hread⟩ := hk
  refine ⟨?_, by simp [serverEvent, hread, hm]⟩
  simp only [step, if_pos hread, read, hm]
  exact ⟨rfl, by simp [BaseServer.set], by simpa [Reading, Running, BaseServer.set] using hread⟩

/-- The handler of the connection after `process`. -/
theorem process_handler (k : BaseServer) (c : ℕ) (message : Str) :
    (k.process c message).handlers c =
      let h := (k.handlers c).afterCalls c (k.server.handle (.message c message)).calls
      if k.server.Raises c message then h.abort else h := by
  unfold process Server.Raises
  by_cases hraised : raised (WorldCupInformer.process c message) k.server.connections = none
  · simp [hraised]
  · simp [hraised, BaseServer.set]

theorem AtByte.step_some (hk : k.AtByte c d s) (hm : (d.decodeNextByte b).2 = some m) :
    k.serverEvent (.byte c b) = some (.message c m) ∧
    (¬ s.EndsLoop (.message c m) →
      (k.step (.byte c b)).AtByte c (d.decodeNextByte b).1 (s.step (.message c m))) ∧
    (s.EndsLoop (.message c m) → ¬ (k.step (.byte c b)).Reading c) := by
  obtain ⟨rfl, rfl, hread⟩ := hk
  refine ⟨by simp [serverEvent, hread, hm], ?_⟩
  simp only [step, if_pos hread, read, hm]
  obtain ⟨⟨hlt, hrunning⟩, hflag, hconnected⟩ := hread
  refine ⟨fun hgoes => ?_, fun hends hread' => ?_⟩
  · obtain ⟨hterm, hraises⟩ := not_or.1 hgoes
    constructor
    · simp
    · simp [process_handler, hraises, BaseServer.set, BlockingConnectionHandler.afterCalls]
    · simp [Reading, Running, process_handler, hraises, BaseServer.set,
        BlockingConnectionHandler.afterCalls, hlt, hrunning, hflag, hconnected, hterm]
  · simp only [Reading, Running, process_handler, set_server] at hread'
    by_cases hraises : k.server.Raises c m
    · simp [hraises, BlockingConnectionHandler.abort] at hread'
    · have hterm := hends.resolve_right hraises
      simp [hraises, BlockingConnectionHandler.afterCalls, hterm] at hread'

/-- A thread that has left its loop reads nothing. -/
theorem trace_not_reading (hk : ¬ k.Reading c) (bytes : List UInt8) :
    Machine.trace step serverEvent k (bytes.map (.byte c)) = [] := by
  induction bytes with
  | nil => rfl
  | cons b bytes ih => simpa [serverEvent, step, hk] using ih

/-- As long as its messages do not end the loop, the thread processes all of them. -/
theorem AtByte.goesOn (hk : k.AtByte c d s) (bytes : List UInt8)
    (hgoes : s.GoesOn c (d.decodeBytes bytes).2) :
    (Machine.run step k (bytes.map (.byte c))).AtByte c (d.decodeBytes bytes).1
        (s.afterMessages c (d.decodeBytes bytes).2) ∧
      Machine.trace step serverEvent k (bytes.map (.byte c)) =
        (d.decodeBytes bytes).2.map (.message c) := by
  induction bytes generalizing k d s with
  | nil => exact ⟨hk, rfl⟩
  | cons b bytes ih =>
    simp only [decodeBytes] at hgoes ⊢
    cases hm : (d.decodeNextByte b).2 with
    | none =>
      rw [hm] at hgoes
      obtain ⟨hstep, hevent⟩ := hk.step_none hm
      simpa [hevent] using ih hstep hgoes
    | some m =>
      rw [hm] at hgoes
      obtain ⟨hevent, hstep, -⟩ := hk.step_some hm
      obtain ⟨hends, hgoes⟩ := hgoes
      simpa [hevent] using ih (hstep hends) hgoes

/-- The message that ends the loop is the last that is processed. -/
theorem AtByte.ends (hk : k.AtByte c d s) (hm : (d.decodeNextByte b).2 = some m)
    (hends : s.EndsLoop (.message c m)) (bytes : List UInt8) :
    Machine.trace step serverEvent k ((b :: bytes).map (.byte c)) = [.message c m] := by
  obtain ⟨hevent, -, hstep⟩ := hk.step_some hm
  rw [List.map_cons, Machine.trace_cons, hevent, trace_not_reading (hstep hends)]
  rfl

theorem atByte_accept (s : Server) :
    AtByte { server := s.step .accept } s.accepted {} (s.step .accept) :=
  ⟨rfl, rfl, ⟨Nat.lt_succ_self _, rfl⟩, rfl, rfl⟩

end BaseServer

/-! ### The read tasks -/

namespace Reactor

/-- The next connection has been accepted, and its channel has split the stream into the buffers. -/
def withBuffers (s : Server) (buffers : List (List UInt8)) : Reactor :=
  ({ server := s.step .accept } : Reactor).modify s.accepted fun h => { h with tasks := buffers }

/-- What the pool thread of that connection processes in `n` steps. -/
def taskEvents (s : Server) (buffers : List (List UInt8)) (n : ℕ) : List Event :=
  Machine.trace step serverEvent (withBuffers s buffers) (List.replicate n (.pool s.accepted))

/-- The pool thread of the connection decodes the next byte of its buffers. -/
structure AtTask (k : Reactor) (c : ℕ) (d : LineMessageEncoderDecoder) (s : Server)
    (buffers : List (List UInt8)) : Prop where
  server : k.server = s
  encdec : (k.handlers c).encdec = d
  tasks : (k.handlers c).tasks = buffers
  todo : (k.handlers c).todo = []
  throws : (k.handlers c).throws = false

/-- In the end the pool thread of the connection will have processed the events. -/
def Yields (k : Reactor) (c : ℕ) (events : List Event) : Prop :=
  ∃ N, ∀ n, N ≤ n → Machine.trace step serverEvent k (List.replicate n (.pool c)) = events

variable {k : Reactor} {buffers : List (List UInt8)} {buf : List UInt8}
  {events events' : List Event}

theorem Yields.unique (h : k.Yields c events) (h' : k.Yields c events') : events = events' := by
  obtain ⟨N, hN⟩ := h
  obtain ⟨N', hN'⟩ := h'
  rw [← hN (max N N') (le_max_left ..), hN' (max N N') (le_max_right ..)]

theorem Yields.pool (h : (k.poolStep c).Yields c events) :
    k.Yields c ((k.serverEvent (.pool c)).toList ++ events) := by
  obtain ⟨N, hN⟩ := h
  refine ⟨N + 1, fun n hn => ?_⟩
  obtain ⟨n, rfl⟩ : ∃ n', n = n' + 1 := ⟨n - 1, by omega⟩
  rw [List.replicate_succ, Machine.trace_cons, ← hN n (by omega)]
  rfl

/-- A step that processes nothing. -/
theorem Yields.silent (hevent : k.serverEvent (.pool c) = none)
    (h : (k.poolStep c).Yields c events) : k.Yields c events := by
  have hpool := h.pool
  rwa [hevent] at hpool

/-- Some steps of the thread first. -/
theorem Yields.after (n : ℕ)
    (h : (Machine.run step k (List.replicate n (.pool c))).Yields c events) :
    k.Yields c (Machine.trace step serverEvent k (List.replicate n (.pool c)) ++ events) := by
  induction n generalizing k with
  | zero => exact h
  | succ n ih =>
    rw [List.replicate_succ, Machine.trace_cons, List.append_assoc]
    exact (ih h).pool

/-- Without buffers the thread does nothing. -/
theorem AtTask.yields_nil (hk : k.AtTask c d s []) : k.Yields c [] := by
  refine ⟨0, fun n _ => ?_⟩
  have hstep : k.step (.pool c) = k := by
    rw [step, poolStep_nil hk.todo, continueTask, hk.throws, hk.tasks]
    rfl
  have hevent : k.serverEvent (.pool c) = none := by
    simp [serverEvent, hk.todo, hk.throws, hk.tasks]
  induction n with
  | zero => rfl
  | succ n ih =>
    rw [List.replicate_succ, Machine.trace_cons, hstep, hevent, ih (Nat.zero_le n)]
    rfl

/-- The end of a buffer. -/
theorem AtTask.next (hk : k.AtTask c d s ([] :: buffers)) :
    (k.poolStep c).AtTask c d s buffers ∧ k.serverEvent (.pool c) = none := by
  obtain ⟨rfl, rfl, htasks, htodo, hthrows⟩ := hk
  refine ⟨?_, by simp [serverEvent, htodo, hthrows, htasks]⟩
  rw [poolStep_nil htodo, continueTask, hthrows, htasks]
  exact ⟨rfl, by simp, by simp, by simpa using htodo, by simpa using hthrows⟩

/-- A byte that completes no message. -/
theorem AtTask.byte (hk : k.AtTask c d s ((b :: buf) :: buffers))
    (hm : (d.decodeNextByte b).2 = none) :
    (k.poolStep c).AtTask c (d.decodeNextByte b).1 s (buf :: buffers) ∧
      k.serverEvent (.pool c) = none := by
  obtain ⟨rfl, rfl, htasks, htodo, hthrows⟩ := hk
  refine ⟨?_, by simp [serverEvent, htodo, hthrows, htasks, hm]⟩
  simp only [poolStep_nil htodo, continueTask, hthrows, htasks, hm]
  exact ⟨rfl, by simp, by simp, by simpa using htodo, by simpa using hthrows⟩

/-- The thread makes the calls of a frame. -/
structure Working (k : Reactor) (c : ℕ) (d : LineMessageEncoderDecoder) (s : Server)
    (buffers : List (List UInt8)) (throws : Bool) : Prop where
  server : k.server = s
  encdec : (k.handlers c).encdec = d
  tasks : (k.handlers c).tasks = buffers
  throws : (k.handlers c).throws = throws

variable {throws : Bool}

theorem Working.poolStep (hk : k.Working c d s buffers throws) {op : PoolOp} {todo : List PoolOp}
    (htodo : (k.handlers c).todo = op :: todo) : (k.poolStep c).Working c d s buffers throws := by
  obtain ⟨rfl, rfl, rfl, rfl⟩ := hk
  rw [poolStep_cons htodo]
  refine ⟨?_, ?_, ?_, ?_⟩
  · rw [runOp_server, modify_server]
  all_goals
    refine (runOp_field (fun _ _ => rfl) (fun _ _ => rfl) (fun _ _ => rfl) _ c c op).trans ?_
    rw [modify_self]

/-- The calls of a frame come to an end; an exception ends the task after them. -/
theorem Working.reaches (hk : k.Working c d s buffers throws) :
    ∃ k', AtTask k' c d s (if throws then buffers.tail else buffers) ∧
      ∀ events, k'.Yields c events → k.Yields c events := by
  generalize htodo : (k.handlers c).todo = todo
  have hbusy : ∀ {k : Reactor} {op : PoolOp} {todo : List PoolOp},
      (k.handlers c).todo = op :: todo → k.serverEvent (.pool c) = none := fun htodo => by
    simp [serverEvent, htodo]
  induction todo generalizing k with
  | nil =>
    cases throws with
    | false => exact ⟨k, ⟨hk.server, hk.encdec, hk.tasks, htodo, hk.throws⟩, fun _ h => h⟩
    | true =>
      refine ⟨k.poolStep c, ?_, fun events h => .silent (by simp [serverEvent, htodo, hk.throws]) h⟩
      obtain ⟨rfl, rfl, rfl, hthrows⟩ := hk
      rw [poolStep_nil htodo, continueTask, hthrows]
      exact ⟨rfl, by simp, by simp, by simpa using htodo, by simp⟩
  | cons op todo ih =>
    have hstep := hk.poolStep htodo
    have hnew := todo_poolStep htodo
    cases op with
    | keyFor e =>
      -- the task that has been looked up is posted next
      have hpost : (((k.poolStep c).poolStep c).handlers c).todo = todo := by
        rw [poolStep_cons hnew, todo_runOp, if_pos rfl, modify_self]
      obtain ⟨k', hk', hyields⟩ := ih (hstep.poolStep hnew) hpost
      exact ⟨k', hk', fun events h =>
        .silent (hbusy htodo) (.silent (hbusy hnew) (hyields events h))⟩
    | _ =>
      obtain ⟨k', hk', hyields⟩ := ih hstep hnew
      exact ⟨k', hk', fun events h => .silent (hbusy htodo) (hyields events h)⟩

/-- A byte that completes a message. -/
theorem AtTask.message (hk : k.AtTask c d s ((b :: buf) :: buffers))
    (hm : (d.decodeNextByte b).2 = some m) :
    ∃ k', AtTask k' c (d.decodeNextByte b).1 (s.step (.message c m))
        (if s.Raises c m then buffers else buf :: buffers) ∧
      ∀ events, k'.Yields c events → k.Yields c (.message c m :: events) := by
  obtain ⟨rfl, rfl, htasks, htodo, hthrows⟩ := hk
  have hevent : k.serverEvent (.pool c) = some (.message c m) := by
    simp [serverEvent, htodo, hthrows, htasks, hm]
  have hworking : (k.poolStep c).Working c ((k.handlers c).encdec.decodeNextByte b).1
      (k.server.step (.message c m)) (buf :: buffers) (decide (k.server.Raises c m)) := by
    simp only [poolStep_nil htodo, continueTask, hthrows, htasks, hm]
    exact ⟨by simp [process], by simp [process], by simp [process],
      by simp [process, Server.isSome_raised]⟩
  obtain ⟨k', hk', hyields⟩ := hworking.reaches
  refine ⟨k', by simpa using hk', fun events h => ?_⟩
  have hpool := (hyields events h).pool
  rwa [hevent] at hpool

/-- The messages of a part of a buffer. -/
theorem AtTask.part {rest : List UInt8} (hk : k.AtTask c d s ((buf ++ rest) :: buffers))
    (hgoes : s.GoesOn c (d.decodeBytes buf).2) :
    ∃ k', AtTask k' c (d.decodeBytes buf).1 (s.afterMessages c (d.decodeBytes buf).2)
        (rest :: buffers) ∧
      ∀ events, k'.Yields c events →
        k.Yields c ((d.decodeBytes buf).2.map (.message c) ++ events) := by
  induction buf generalizing k d s with
  | nil => exact ⟨k, hk, fun _ h => h⟩
  | cons b buf ih =>
    simp only [decodeBytes] at hgoes ⊢
    cases hm : (d.decodeNextByte b).2 with
    | none =>
      rw [hm] at hgoes
      obtain ⟨hstep, hevent⟩ := hk.byte hm
      obtain ⟨k', hk', hyields⟩ := ih hstep hgoes
      exact ⟨k', hk', fun events h => .silent hevent (hyields events h)⟩
    | some m =>
      rw [hm] at hgoes
      obtain ⟨hends, hgoes⟩ := hgoes
      obtain ⟨k₁, hk₁, hyields₁⟩ := hk.message hm
      rw [if_neg fun hraises => hends (.inr hraises)] at hk₁
      obtain ⟨k', hk', hyields⟩ := ih hk₁ hgoes
      exact ⟨k', hk', fun events h => hyields₁ _ (hyields events h)⟩

/-- The messages of whole buffers. -/
theorem AtTask.wholes {after : List (List UInt8)} (hk : k.AtTask c d s (buffers ++ after))
    (hgoes : s.GoesOn c (d.decodeBytes buffers.flatten).2) :
    ∃ k', AtTask k' c (d.decodeBytes buffers.flatten).1
        (s.afterMessages c (d.decodeBytes buffers.flatten).2) after ∧
      ∀ events, k'.Yields c events →
        k.Yields c ((d.decodeBytes buffers.flatten).2.map (.message c) ++ events) := by
  induction buffers generalizing k d s with
  | nil => exact ⟨k, hk, fun _ h => h⟩
  | cons buf buffers ih =>
    rw [List.flatten_cons, d.decodeBytes_append] at hgoes ⊢
    obtain ⟨hfirst, hgoes⟩ := (Server.goesOn_append _ _).1 hgoes
    have hk₀ : k.AtTask c d s ((buf ++ []) :: (buffers ++ after)) := by
      rwa [List.append_nil]
    obtain ⟨k₁, hk₁, hyields₁⟩ := hk₀.part hfirst
    obtain ⟨hk₂, hevent⟩ := hk₁.next
    obtain ⟨k', hk', hyields⟩ := ih hk₂ hgoes
    rw [← Server.afterMessages_append] at hk'
    refine ⟨k', hk', fun events h => ?_⟩
    rw [List.map_append, List.append_assoc]
    exact hyields₁ _ (.silent hevent (hyields events h))

/-- All buffers are worked off; something is processed exactly when one of them has a NUL. -/
theorem AtTask.drains (hk : k.AtTask c d s buffers) :
    ∃ events, k.Yields c events ∧ (events = [] ↔ 0 ∉ buffers.flatten) := by
  induction buffers generalizing k d s with
  | nil => exact ⟨[], hk.yields_nil, by simp⟩
  | cons buf buffers ih =>
    induction buf generalizing k d s with
    | nil =>
      obtain ⟨hstep, hevent⟩ := hk.next
      obtain ⟨events, hyields, hnil⟩ := ih hstep
      exact ⟨events, .silent hevent hyields, by simpa using hnil⟩
    | cons b buf ihbuf =>
      cases hm : (d.decodeNextByte b).2 with
      | none =>
        obtain ⟨hstep, hevent⟩ := hk.byte hm
        obtain ⟨events, hyields, hnil⟩ := ihbuf hstep
        have hb := (d.decodeNextByte_eq_none).1 hm
        exact ⟨events, .silent hevent hyields, by simpa [Ne.symm hb] using hnil⟩
      | some m =>
        have hb : b = 0 := by
          by_contra hb
          simp [(d.decodeNextByte_eq_none).2 hb] at hm
        obtain ⟨k', hk', hyields'⟩ := hk.message hm
        have hrest : ∃ events, k'.Yields c events := by
          split_ifs at hk'
          · exact (ih hk').imp fun _ h => h.1
          · exact (ihbuf hk').imp fun _ h => h.1
        obtain ⟨events, hyields⟩ := hrest
        exact ⟨_, hyields' events hyields, by simp [hb]⟩

theorem atTask_withBuffers (s : Server) (buffers : List (List UInt8)) :
    (withBuffers s buffers).AtTask s.accepted {} (s.step .accept) buffers :=
  ⟨rfl, by simp [withBuffers], by simp [withBuffers], by simp [withBuffers], by simp [withBuffers]⟩

end Reactor

/-! ### The comparison -/

section Modes

variable {k : Reactor} {k' : BaseServer} {buffers : List (List UInt8)}

/-- A stream that never ends the loop. -/
theorem same_of_goesOn (hk : k.AtTask c d s buffers) (hk' : k'.AtByte c d s)
    (hgoes : s.GoesOn c (d.decodeBytes buffers.flatten).2) :
    k.Yields c (Machine.trace BaseServer.step BaseServer.serverEvent k'
      (buffers.flatten.map (.byte c))) := by
  have hk₀ : k.AtTask c d s (buffers ++ []) := by rwa [List.append_nil]
  obtain ⟨k₁, hk₁, hyields⟩ := hk₀.wholes hgoes
  rw [(hk'.goesOn _ hgoes).2]
  simpa using hyields [] hk₁.yields_nil

/-- The read tasks after the message that ends the loop. -/
theorem same_iff_of_firstEnd {before after : List (List UInt8)} {buf rest : List UInt8}
    {ms : List Str} (hk : k.AtTask c d s (before ++ (buf ++ rest) :: after)) (hk' : k'.AtByte c d s)
    (hfirst : s.FirstEnd c d before buf ms m) : ∃ events,
      k.Yields c (Machine.trace BaseServer.step BaseServer.serverEvent k'
        ((before ++ (buf ++ rest) :: after).flatten.map (.byte c)) ++ events) ∧
      (events = [] ↔ 0 ∉ after.flatten ∧ (0 ∉ rest ∨ (s.afterMessages c ms).Raises c m)) := by
  obtain ⟨hnul, hmessages, hgoes, hends⟩ := hfirst
  obtain ⟨buf, rfl⟩ := List.getLast?_eq_some_iff.1 hnul
  -- `m` is completed by the NUL, and `ms` before it
  obtain ⟨hms, hm⟩ : (d.decodeBytes (before.flatten ++ buf)).2 = ms ∧
      ((d.decodeBytes (before.flatten ++ buf)).1.decodeNextByte 0).2 = some m := by
    rw [← List.append_assoc, decodeBytes_append] at hmessages
    cases hm : ((d.decodeBytes (before.flatten ++ buf)).1.decodeNextByte 0).2 with
    | none => exact absurd rfl ((decodeNextByte_eq_none _).1 hm)
    | some m' =>
      simp only [decodeBytes, hm, Option.toList_some, List.append_nil] at hmessages
      obtain ⟨hms, hm'⟩ := List.append_inj' hmessages rfl
      exact ⟨hms, congrArg some (List.singleton_inj.1 hm')⟩
  have hblocking : Machine.trace BaseServer.step BaseServer.serverEvent k'
      ((before ++ (buf ++ [0] ++ rest) :: after).flatten.map (.byte c)) =
        ms.map (.message c) ++ [.message c m] := by
    have hstream : (before ++ (buf ++ [0] ++ rest) :: after).flatten =
        (before.flatten ++ buf) ++ 0 :: (rest ++ after.flatten) := by simp
    obtain ⟨hat, htrace⟩ := hk'.goesOn (before.flatten ++ buf) (hms ▸ hgoes)
    rw [hms] at hat htrace
    rw [hstream, List.map_append, Machine.trace_append, htrace, hat.ends hm hends]
  rw [decodeBytes_append] at hms hm
  subst hms
  rw [Server.afterMessages_append] at hends ⊢
  obtain ⟨hwholes, hpart⟩ := (Server.goesOn_append _ _).1 hgoes
  obtain ⟨k₁, hk₁, hyields₁⟩ := hk.wholes hwholes
  rw [List.append_assoc] at hk₁
  obtain ⟨k₂, hk₂, hyields₂⟩ := hk₁.part hpart
  obtain ⟨k₃, hk₃, hyields₃⟩ := hk₂.message hm
  obtain ⟨events, hyields, hnil⟩ := hk₃.drains
  refine ⟨events, ?_, hnil.trans ?_⟩
  · rw [hblocking, List.map_append]
    simpa using hyields₁ _ (hyields₂ _ (hyields₃ _ hyields))
  · split_ifs with hraises
    · simp [hraises]
    · simp [hraises, not_or, and_comm]

/-- The two modes, from any server and with a decoder in any state. -/
theorem yields_iff (hk : k.AtTask c d s buffers) (hk' : k'.AtByte c d s) :
    ∃ events, k.Yields c events ∧
      (events = Machine.trace BaseServer.step BaseServer.serverEvent k'
          (buffers.flatten.map (.byte c)) ↔ s.NothingAfterEnd c d buffers) := by
  rcases Server.goesOn_or_firstEnd s c d buffers with hgoes |
    ⟨before, buf, rest, after, ms, m, rfl, hfirst⟩
  · refine ⟨_, same_of_goesOn hk hk' hgoes, iff_of_true rfl ?_⟩
    rintro before buf rest after ms m rfl hfirst
    -- the message that ends the loop would be one of those that do not
    have hall : (before ++ (buf ++ rest) :: after).flatten =
        (before.flatten ++ buf) ++ (rest ++ after.flatten) := by simp
    rw [hall, decodeBytes_append, hfirst.messages, List.append_assoc,
      List.singleton_append] at hgoes
    exact absurd hfirst.ends ((Server.goesOn_append _ _).1 hgoes).2.1
  · obtain ⟨events, hyields, hnil⟩ := same_iff_of_firstEnd hk hk' hfirst
    refine ⟨_, hyields, ?_⟩
    rw [List.append_right_eq_self, hnil]
    constructor
    · intro h before' buf' rest' after' ms' m' hbuffers hfirst'
      rw [hbuffers] at hk
      obtain ⟨events', hyields', hnil'⟩ := same_iff_of_firstEnd hk hk' hfirst'
      have heq := hyields.unique (hbuffers ▸ hyields')
      rw [List.append_cancel_left_eq] at heq
      exact hnil'.1 (heq ▸ hnil.2 h)
    · exact fun h => h before buf rest after ms m rfl hfirst

/-- **The two server modes.**  When the pool has worked off the buffers, it has processed the same
messages as a blocking handler of the same stream if and only if nothing is completed after the
message that ends the loop. -/
theorem same_messages_iff (s : Server) (buffers : List (List UInt8)) :
    ∃ N, ∀ n, N ≤ n →
      (Reactor.taskEvents s buffers n = BaseServer.streamEvents s buffers.flatten ↔
        (s.step .accept).NothingAfterEnd s.accepted {} buffers) := by
  obtain ⟨events, ⟨N, hN⟩, hiff⟩ :=
    yields_iff (Reactor.atTask_withBuffers s buffers) (BaseServer.atByte_accept s)
  exact ⟨N, fun n hn => by rw [Reactor.taskEvents, hN n hn, BaseServer.streamEvents, hiff]⟩

/-- A frame that is answered with ERROR, and another one behind it. -/
def twoFrames : List UInt8 :=
  LineMessageEncoderDecoder.encode "SEND\na :b\n\n" ++
    LineMessageEncoderDecoder.encode "SEND\na :b\n\n"

theorem not_forall_same_messages : ¬ ∀ (s : Server) (buffers : List (List UInt8)),
    ∃ N, ∀ n, N ≤ n →
      Reactor.taskEvents s buffers n = BaseServer.streamEvents s buffers.flatten := by
  intro hall
  have hdone : (Machine.run Reactor.step (Reactor.withBuffers {} [twoFrames])
      (List.replicate 29 (.pool 0))).Yields 0 [] :=
    Reactor.AtTask.yields_nil
      ⟨rfl, rfl, by decide +kernel, by decide +kernel, by decide +kernel⟩
  have hlength := congrArg List.length (hdone.after.unique (hall {} [twoFrames]))
  revert hlength
  decide +kernel

end Modes

end WorldCupInformer
