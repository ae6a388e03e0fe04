import WorldCupInformer.Server.Reactor

/-!
# `continueWrite`, statement by statement

The writing half of one `NonBlockingConnectionHandler`.  `send` appends a buffer to the queue, from
any thread and at any moment; the selector thread runs `continueWrite`, one statement a step.  The
queue holds references: the head stays in it while the channel moves its position.

* `written_in_order`: what has been written and what remains in the queue is what has been sent;
* `continueWrite_returns_iff`: `continueWrite` returns if the first write that does not take the
  whole of its buffer does not throw, and loops for ever if it does;
* `Matches.send`, `writeTop_refined`: `send` and the steps from `peek` on are steps of the reactor.
-/

namespace WorldCupInformer

/-- The fields of a `ByteBuffer`; `wrap` sets the position to 0 and the limit to the length. -/
structure ByteBuffer where
  bytes : List UInt8 := []
  position : ℕ := 0

namespace ByteBuffer

/-- The bytes from the position to the limit. -/
def remaining (b : ByteBuffer) : List UInt8 := b.bytes.drop b.position

/-- A channel takes some of the remaining bytes. -/
def advance (b : ByteBuffer) (count : ℕ) : ByteBuffer := { b with position := b.position + count }

@[simp] theorem remaining_advance (b : ByteBuffer) (count : ℕ) :
    (b.advance count).remaining = b.remaining.drop count := by
  simp [advance, remaining]

end ByteBuffer

/-- A `SocketChannel`, the bytes it has taken, and what its next writes do: take up to so many
bytes, or throw an `IOException`. -/
structure SocketChannel where
  isOpen : Bool := true
  written : List UInt8 := []
  writes : ℕ → Option ℕ

/-- Where the selector thread is in `continueWrite`. -/
inductive WriterPc
  /-- not in `continueWrite` -/
  | outside
  /-- at the condition of the loop -/
  | loop
  /-- at `writeQueue.peek()` -/
  | peek
  /-- at `chan.write(top)` -/
  | write (top : ℕ)
  /-- at `top.hasRemaining()` -/
  | hasRemaining (top : ℕ)
  /-- at `writeQueue.remove()` -/
  | remove
  /-- at `close()` in the handler of the exception -/
  | close
  /-- at the emptiness check after the loop -/
  | checkEmpty
  /-- at `protocol.shouldTerminate()` -/
  | checkTerminate
  /-- at `reactor.updateInterestedOps(chan, SelectionKey.OP_READ)` -/
  | interestRead
  /-- `continueWrite` has ended with an exception -/
  | failed
  deriving DecidableEq

/-- The writing half of a handler; a buffer is known by its number. -/
structure Writer where
  heap : ℕ → ByteBuffer := fun _ => {}
  fresh : ℕ := 0
  writeQueue : List ℕ := []
  chan : SocketChannel
  shouldTerminate : Bool := false
  pc : WriterPc := .outside

/-- A step of one of the threads. -/
inductive WriterEvent
  /-- `send` of some thread -/
  | send (msg : Str)
  /-- `protocol.terminate()` -/
  | terminate
  /-- the selector thread calls `continueWrite` -/
  | ready
  /-- the selector thread goes on in `continueWrite` -/
  | next

namespace Writer

/-- `chan.write(top)`. -/
def write (w : Writer) (top : ℕ) : Writer :=
  match w.chan.isOpen, w.chan.writes 0 with
  | true, some count =>
    let taken := (w.heap top).remaining.take count
    { w with
      heap := Function.update w.heap top ((w.heap top).advance taken.length)
      chan := { w.chan with written := w.chan.written ++ taken, writes := (w.chan.writes <| · + 1) }
      pc := .hasRemaining top }
  | true, none =>
    { w with chan := { w.chan with writes := (w.chan.writes <| · + 1) }, pc := .close }
  -- `ClosedChannelException`
  | false, _ => { w with pc := .close }

/-- The next statement of `continueWrite`. -/
def next (w : Writer) : Writer :=
  match w.pc with
  | .outside | .failed => w
  | .loop => if w.writeQueue = [] then { w with pc := .checkEmpty } else { w with pc := .peek }
  | .peek =>
    match w.writeQueue with
    | top :: _ => { w with pc := .write top }
    | [] => { w with pc := .failed }
  | .write top => w.write top
  | .hasRemaining top =>
    if (w.heap top).remaining = [] then { w with pc := .remove } else { w with pc := .outside }
  | .remove =>
    match w.writeQueue with
    | _ :: queue => { w with writeQueue := queue, pc := .loop }
    | [] => { w with pc := .failed }
  | .close => { w with chan := { w.chan with isOpen := false }, pc := .loop }
  | .checkEmpty =>
    if w.writeQueue = [] then { w with pc := .checkTerminate } else { w with pc := .outside }
  | .checkTerminate =>
    if w.shouldTerminate then { w with chan := { w.chan with isOpen := false }, pc := .outside }
    else { w with pc := .interestRead }
  -- the key of a closed channel is cancelled
  | .interestRead => if w.chan.isOpen then { w with pc := .outside } else { w with pc := .failed }

/-- `send`: a new buffer goes to the end of the queue. -/
def send (w : Writer) (msg : Str) : Writer :=
  { w with
    heap := Function.update w.heap w.fresh { bytes := LineMessageEncoderDecoder.encode msg }
    fresh := w.fresh + 1
    writeQueue := w.writeQueue ++ [w.fresh] }

/-- One step.  `handleReadWrite` calls `continueWrite` for a valid key. -/
def step (w : Writer) : WriterEvent → Writer
  | .send msg => w.send msg
  | .terminate => { w with shouldTerminate := true }
  | .ready => if w.pc = .outside ∧ w.chan.isOpen = true then { w with pc := .loop } else w
  | .next => w.next

/-- The handler after some steps, on a channel that behaves so. -/
def run (writes : ℕ → Option ℕ) (es : List WriterEvent) : Writer :=
  Machine.run step { chan := { writes := writes } } es

/-- What remains of the buffers in the queue. -/
def remainders (w : Writer) : List (List UInt8) := w.writeQueue.map fun b => (w.heap b).remaining

/-- The buffers in the queue are different ones, and what the selector thread holds is the head. -/
structure Sound (w : Writer) : Prop where
  nodup : w.writeQueue.Nodup
  lt_fresh : ∀ b ∈ w.writeQueue, b < w.fresh
  peek : w.pc = .peek → w.writeQueue ≠ []
  write : ∀ top, w.pc = .write top ∨ w.pc = .hasRemaining top → w.writeQueue.head? = some top
  remove : w.pc = .remove → ∃ top, w.writeQueue.head? = some top ∧ (w.heap top).remaining = []

variable {w : Writer}

/-- What `chan.write(top)` does: it throws, or it takes some bytes of the buffer. -/
theorem write_cases (w : Writer) (top : ℕ) :
    (∃ writes, w.write top =
      { w with chan := { w.chan with writes := writes }, pc := .close }) ∨
    ∃ count writes, w.write top =
      { w with
        heap := Function.update w.heap top
          ((w.heap top).advance ((w.heap top).remaining.take count).length)
        chan := { w.chan with
          written := w.chan.written ++ (w.heap top).remaining.take count
          writes := writes }
        pc := .hasRemaining top } := by
  unfold write
  split
  · exact .inr ⟨_, _, rfl⟩
  · exact .inl ⟨_, rfl⟩
  · exact .inl ⟨w.chan.writes, rfl⟩

/-! ### What the selector thread holds is the head -/

theorem Sound.next (hw : w.Sound) : w.next.Sound := by
  unfold Writer.next
  cases hpc : w.pc with
  | outside => simpa using hw
  | failed => simpa using hw
  | loop =>
    dsimp only
    split_ifs with hqueue
    · exact { hw with peek := by simp, write := by simp, remove := by simp }
    · exact { hw with peek := fun _ => hqueue, write := by simp, remove := by simp }
  | peek =>
    dsimp only
    split
    next top queue hqueue =>
      refine { hw with peek := by simp, write := fun top' htop' => ?_, remove := by simp }
      obtain rfl : top = top' := by simpa using htop'
      simp [hqueue]
    next hqueue => exact absurd hqueue (hw.peek hpc)
  | write top =>
    have hhead := hw.write top (.inl hpc)
    rcases w.write_cases top with ⟨writes, heq⟩ | ⟨count, writes, heq⟩
    · dsimp only
      rw [heq]
      exact { hw with peek := by simp, write := by simp, remove := by simp }
    · dsimp only
      rw [heq]
      refine { hw with peek := by simp, write := fun top' htop' => ?_, remove := by simp }
      obtain rfl : top = top' := by simpa using htop'
      exact hhead
  | hasRemaining top =>
    have hhead := hw.write top (.inr hpc)
    dsimp only
    split_ifs with hempty
    · exact { hw with peek := by simp, write := by simp, remove := fun _ => ⟨top, hhead, hempty⟩ }
    · exact { hw with peek := by simp, write := by simp, remove := by simp }
  | remove =>
    dsimp only
    split
    next top queue hqueue =>
      have hnodup := hw.nodup
      have hlt := hw.lt_fresh
      rw [hqueue] at hnodup hlt
      exact
        { nodup := hnodup.of_cons
          lt_fresh := fun b hb => hlt b (List.mem_cons_of_mem top hb)
          peek := by simp
          write := by simp
          remove := by simp }
    next hqueue =>
      obtain ⟨top, htop, -⟩ := hw.remove hpc
      simp [hqueue] at htop
  | close => exact { hw with peek := by simp, write := by simp, remove := by simp }
  | checkEmpty =>
    dsimp only
    split_ifs
    all_goals exact { hw with peek := by simp, write := by simp, remove := by simp }
  | checkTerminate =>
    dsimp only
    split_ifs
    all_goals exact { hw with peek := by simp, write := by simp, remove := by simp }
  | interestRead =>
    dsimp only
    split_ifs
    all_goals exact { hw with peek := by simp, write := by simp, remove := by simp }

theorem heap_send {msg : Str} {b : ℕ} (h : b ≠ w.fresh) : (w.send msg).heap b = w.heap b :=
  Function.update_of_ne h ..

theorem Sound.send (hw : w.Sound) (msg : Str) : (w.send msg).Sound := by
  have hhead : ∀ top, w.writeQueue.head? = some top →
      (w.writeQueue ++ [w.fresh]).head? = some top := by
    intro top htop
    rw [List.head?_append, htop]
    rfl
  have hfresh : w.fresh ∉ w.writeQueue := fun hmem => (hw.lt_fresh _ hmem).false
  refine
    { nodup := hw.nodup.append (List.nodup_singleton _) (by simpa using hfresh)
      lt_fresh := fun b hb => ?_
      peek := fun _ => by simp [Writer.send]
      write := fun top htop => hhead top (hw.write top htop)
      remove := fun hpc => ?_ }
  · rcases List.mem_append.1 hb with hb | hb
    · exact (hw.lt_fresh b hb).trans w.fresh.lt_succ_self
    · obtain rfl := List.mem_singleton.1 hb
      exact w.fresh.lt_succ_self
  · obtain ⟨top, htop, hempty⟩ := hw.remove hpc
    refine ⟨top, hhead top htop, ?_⟩
    have hne : top ≠ w.fresh := (hw.lt_fresh top (List.mem_of_mem_head? htop)).ne
    rw [heap_send hne]
    exact hempty

theorem Sound.step (hw : w.Sound) (e : WriterEvent) : (w.step e).Sound := by
  cases e with
  | send msg => exact hw.send msg
  | terminate => exact { hw with }
  | ready =>
    unfold Writer.step
    split_ifs
    · exact { hw with peek := by simp, write := by simp, remove := by simp }
    · exact hw
  | next => exact hw.next

theorem sound_run (writes : ℕ → Option ℕ) (es : List WriterEvent) : (run writes es).Sound := by
  have hinit : Sound { chan := { writes := writes } } :=
    { nodup := List.nodup_nil
      lt_fresh := by simp
      peek := by simp
      write := by simp
      remove := by simp }
  exact Machine.run_invariant (fun _ e hw => hw.step e) hinit es

/-! ### Nothing is lost, repeated or reordered -/

/-- What has been written, and then what remains in the queue. -/
def output (w : Writer) : List UInt8 := w.chan.written ++ w.remainders.flatten

/-- The messages that have been sent, in the order of the calls of `add`. -/
def sent (es : List WriterEvent) : List Str :=
  es.filterMap fun
    | .send msg => some msg
    | _ => none

/-- Another buffer changes nothing in the queue. -/
theorem map_remaining_update {top : ℕ} {queue : List ℕ} (h : top ∉ queue) (buffer : ByteBuffer) :
    queue.map (fun b => (Function.update w.heap top buffer b).remaining) =
      queue.map fun b => (w.heap b).remaining := by
  refine List.map_congr_left fun b hb => ?_
  have hne : b ≠ top := fun heq => h (heq ▸ hb)
  rw [Function.update_of_ne hne]

/-- A write takes what it writes off the head. -/
theorem Sound.output_write (hw : w.Sound) {top : ℕ} (hhead : w.writeQueue.head? = some top) :
    (w.write top).output = w.output := by
  obtain ⟨queue, hqueue⟩ := List.head?_eq_some_iff.1 hhead
  have hnodup := hw.nodup
  rw [hqueue, List.nodup_cons] at hnodup
  rcases w.write_cases top with ⟨writes, heq⟩ | ⟨count, writes, heq⟩
  · rw [heq]
    rfl
  · rw [heq]
    set taken := (w.heap top).remaining.take count with htaken
    have hrest := map_remaining_update (w := w) hnodup.1 ((w.heap top).advance taken.length)
    have htop : taken ++ (w.heap top).remaining.drop taken.length = (w.heap top).remaining :=
      List.prefix_iff_eq_append.1 (List.take_prefix count _)
    simp only [output, remainders, hqueue, List.map_cons, List.flatten_cons, hrest,
      Function.update_self, ByteBuffer.remaining_advance, List.append_assoc]
    rw [← List.append_assoc taken, htop]

theorem Sound.output_next (hw : w.Sound) : w.next.output = w.output := by
  unfold Writer.next
  cases hpc : w.pc with
  | write top => exact hw.output_write (hw.write top (.inl hpc))
  | remove =>
    obtain ⟨top, hhead, hempty⟩ := hw.remove hpc
    obtain ⟨queue, hqueue⟩ := List.head?_eq_some_iff.1 hhead
    dsimp only
    split
    next top' queue' hqueue' =>
      obtain ⟨rfl, rfl⟩ := List.cons.inj (hqueue'.symm.trans hqueue)
      simp [output, remainders, hqueue, hempty]
    next => rfl
  | peek => dsimp only; split <;> rfl
  | loop => dsimp only; split_ifs <;> rfl
  | hasRemaining top => dsimp only; split_ifs <;> rfl
  | checkEmpty => dsimp only; split_ifs <;> rfl
  | checkTerminate => dsimp only; split_ifs <;> rfl
  | interestRead => dsimp only; split_ifs <;> rfl
  | outside => rfl
  | failed => rfl
  | close => rfl

theorem Sound.remainders_send (hw : w.Sound) (msg : Str) :
    (w.send msg).remainders = w.remainders ++ [LineMessageEncoderDecoder.encode msg] := by
  have hold : w.writeQueue.map (fun b => ((w.send msg).heap b).remaining) = w.remainders :=
    List.map_congr_left fun b hb => by rw [heap_send (hw.lt_fresh b hb).ne]
  have hnew : ((w.send msg).heap w.fresh).remaining = LineMessageEncoderDecoder.encode msg := by
    have hheap : (w.send msg).heap w.fresh = { bytes := LineMessageEncoderDecoder.encode msg } :=
      Function.update_self ..
    rw [hheap]
    rfl
  rw [← hold, ← hnew]
  exact List.map_append

theorem Sound.output_send (hw : w.Sound) (msg : Str) :
    (w.send msg).output = w.output ++ LineMessageEncoderDecoder.encode msg := by
  have hwritten : (w.send msg).chan.written = w.chan.written := rfl
  rw [output, output, hw.remainders_send, hwritten]
  simp

/-- **Partial writes neither lose, repeat nor reorder bytes**: at every moment what has been written
and what remains of the buffers in the queue are the encoded messages in the order in which they
were enqueued. -/
theorem written_in_order (writes : ℕ → Option ℕ) (es : List WriterEvent) :
    (run writes es).chan.written ++ (run writes es).remainders.flatten =
      (sent es).flatMap LineMessageEncoderDecoder.encode := by
  change (run writes es).output = _
  induction es using List.reverseRecOn with
  | nil => rfl
  | append_singleton es e ih =>
    have hsound := sound_run writes es
    have hrun : run writes (es ++ [e]) = (run writes es).step e := Machine.run_append _ _ _
    rw [hrun, sent, List.filterMap_append, List.flatMap_append, ← sent, ← ih]
    cases e with
    | send msg =>
      refine (hsound.output_send msg).trans ?_
      simp
    | terminate => simp [step, output, remainders]
    | ready =>
      unfold step
      split_ifs <;> simp [output, remainders]
    | next => simpa [step] using hsound.output_next

/-! ### Whether `continueWrite` returns -/

/-- The selector thread leaves `continueWrite` after some steps, while no other thread does
anything. -/
def Returns (w : Writer) : Prop := Machine.Reaches next (fun w => w.pc = .outside) w

theorem next_of_outside (h : w.pc = .outside) : w.next = w := by
  unfold next
  rw [h]

theorem returns_iterate (n : ℕ) : Returns (next^[n] w) ↔ Returns w :=
  Machine.reaches_iterate (fun _ => next_of_outside) n

/-- The first write that does not take the whole of its buffer throws. -/
def MeetsException (remainders : List (List UInt8)) (writes : ℕ → Option ℕ) : Prop :=
  ∃ n < remainders.length, writes n = none ∧
    ∀ i < n, ∃ count, writes i = some count ∧ (remainders.getD i []).length ≤ count

theorem not_meetsException_nil (writes : ℕ → Option ℕ) : ¬ MeetsException [] writes :=
  fun ⟨n, hn, _⟩ => absurd hn n.not_lt_zero

theorem meetsException_cons {top : List UInt8} {remainders : List (List UInt8)}
    {writes : ℕ → Option ℕ} : MeetsException (top :: remainders) writes ↔
      writes 0 = none ∨ ∃ count, writes 0 = some count ∧ top.length ≤ count ∧
        MeetsException remainders (writes <| · + 1) := by
  constructor
  · rintro ⟨n, hn, hnone, hbefore⟩
    cases n with
    | zero => exact .inl hnone
    | succ n =>
      obtain ⟨count, hcount, hle⟩ := hbefore 0 n.succ_pos
      refine .inr ⟨count, hcount, hle, n, Nat.lt_of_succ_lt_succ hn, hnone, fun i hi => ?_⟩
      exact hbefore (i + 1) (Nat.succ_lt_succ hi)
  · rintro (hnone | ⟨count, hcount, hle, n, hn, hnone, hbefore⟩)
    · exact ⟨0, Nat.succ_pos _, hnone, fun i hi => absurd hi i.not_lt_zero⟩
    · refine ⟨n + 1, Nat.succ_lt_succ hn, hnone, fun i hi => ?_⟩
      cases i with
      | zero => exact ⟨count, hcount, hle⟩
      | succ i => exact hbefore i (Nat.lt_of_succ_lt_succ hi)

/-- `continueWrite` of a closed channel with something to write: the exception of every write leads
back to the condition of the loop. -/
structure Stuck (w : Writer) : Prop where
  closed : w.chan.isOpen = false
  queue : w.writeQueue ≠ []
  pc : w.pc = .loop ∨ w.pc = .peek ∨ (∃ top, w.pc = .write top) ∨ w.pc = .close

theorem Stuck.next (hw : w.Stuck) : w.next.Stuck := by
  obtain ⟨hclosed, hqueue, hpc⟩ := hw
  obtain ⟨top, queue, hcons⟩ := List.exists_cons_of_ne_nil hqueue
  unfold Writer.next
  rcases hpc with hpc | hpc | ⟨top', hpc⟩ | hpc
  · simp only [hpc, if_neg hqueue]
    exact ⟨hclosed, hqueue, by simp⟩
  · simp only [hpc, hcons]
    exact ⟨hclosed, by simp, by simp⟩
  · simp only [hpc, write, hclosed]
    exact ⟨hclosed, hqueue, by simp⟩
  · simp only [hpc]
    exact ⟨rfl, hqueue, by simp⟩

theorem Stuck.not_returns (hw : w.Stuck) : ¬ w.Returns := by
  refine Machine.not_reaches (I := Stuck) (fun _ => Stuck.next) (fun w' hw' houtside => ?_) hw
  rcases hw'.pc with hpc | hpc | ⟨top, hpc⟩ | hpc <;> simp [hpc] at houtside

theorem returns_of_empty (hpc : w.pc = .loop) (hopen : w.chan.isOpen = true)
    (hqueue : w.writeQueue = []) : w.Returns := by
  refine ⟨4, ?_⟩
  cases hflag : w.shouldTerminate <;> simp [next, hpc, hopen, hqueue, hflag]

/-- The first write throws. -/
theorem not_returns_of_throws (hpc : w.pc = .loop) (hqueue : w.writeQueue ≠ [])
    (hopen : w.chan.isOpen = true) (hthrows : w.chan.writes 0 = none) : ¬ w.Returns := by
  obtain ⟨top, queue, hcons⟩ := List.exists_cons_of_ne_nil hqueue
  rw [← returns_iterate 4]
  refine Stuck.not_returns ⟨?_, ?_, .inl ?_⟩
  all_goals simp [next, write, hpc, hcons, hopen, hthrows]

/-- The first write takes a part of the head. -/
theorem returns_of_part {top count : ℕ} {queue : List ℕ} (hpc : w.pc = .loop)
    (hqueue : w.writeQueue = top :: queue) (hopen : w.chan.isOpen = true)
    (hcount : w.chan.writes 0 = some count) (hpart : count < (w.heap top).remaining.length) :
    w.Returns := by
  refine ⟨4, ?_⟩
  have hleft : ¬ (w.heap top).remaining.length ≤ count := not_le.2 hpart
  simp [next, write, hpc, hqueue, hopen, hcount, hleft]

/-- The first write takes the whole of the head, and the loop goes on with the rest of the queue. -/
theorem iterate_of_whole {top count : ℕ} {queue : List ℕ} (hpc : w.pc = .loop)
    (hqueue : w.writeQueue = top :: queue) (hopen : w.chan.isOpen = true)
    (hcount : w.chan.writes 0 = some count) (hwhole : (w.heap top).remaining.length ≤ count) :
    next^[5] w =
      { w with
        heap := Function.update w.heap top
          ((w.heap top).advance (w.heap top).remaining.length)
        writeQueue := queue
        chan :=
          { w.chan with
            written := w.chan.written ++ (w.heap top).remaining
            writes := (w.chan.writes <| · + 1) }
        pc := .loop } := by
  simp [next, write, hpc, hqueue, hopen, hcount, List.take_of_length_le hwhole]

/-- **Whether `continueWrite` returns**: exactly when the first write that does not take the whole
of its buffer, if there is one, does not throw. -/
theorem continueWrite_returns_iff (hw : w.Sound) (hpc : w.pc = .loop)
    (hopen : w.chan.isOpen = true) :
    w.Returns ↔ ¬ MeetsException w.remainders w.chan.writes := by
  induction hqueue : w.writeQueue generalizing w with
  | nil =>
    have hremainders : w.remainders = [] := by simp [remainders, hqueue]
    rw [hremainders]
    exact iff_of_true (returns_of_empty hpc hopen hqueue) (not_meetsException_nil _)
  | cons top queue ih =>
    have hremainders : w.remainders =
        (w.heap top).remaining :: queue.map fun b => (w.heap b).remaining := by
      simp [remainders, hqueue]
    rw [hremainders, meetsException_cons]
    cases hcount : w.chan.writes 0 with
    | none =>
      have hne : w.writeQueue ≠ [] := by simp [hqueue]
      simpa using not_returns_of_throws hpc hne hopen hcount
    | some count =>
      by_cases hwhole : (w.heap top).remaining.length ≤ count
      · have hturn := iterate_of_whole hpc hqueue hopen hcount hwhole
        have hsound : (next^[5] w).Sound :=
          hw.next.next.next.next.next
        have hrest := ih (w := next^[5] w) hsound (by rw [hturn]) (by rw [hturn]; exact hopen)
          (by rw [hturn])
        have hnodup := hw.nodup
        rw [hqueue, List.nodup_cons] at hnodup
        have hothers : (next^[5] w).remainders = queue.map fun b => (w.heap b).remaining := by
          rw [hturn]
          exact map_remaining_update hnodup.1 _
        have hwrites : (next^[5] w).chan.writes = (w.chan.writes <| · + 1) := by rw [hturn]
        rw [← returns_iterate 5, hrest, hothers, hwrites]
        simp [hwhole]
      · simpa [hwhole] using
          returns_of_part hpc hqueue hopen hcount (not_le.1 hwhole)

/-- A frame is to be sent to a client that has reset its connection. -/
def brokenPipe : Writer := run (fun _ => none) [.send "RECEIPT\nreceipt - id :0\n\n\x00", .ready]

/-- `continueWrite` does not return. -/
theorem not_forall_continueWrite_returns : ¬ ∀ w : Writer, w.Sound → w.pc = .loop →
    w.chan.isOpen = true → w.Returns := by
  intro hall
  have hsound : brokenPipe.Sound := sound_run _ _
  have hreturns := hall brokenPipe hsound rfl rfl
  refine (continueWrite_returns_iff hsound rfl rfl).1 hreturns ⟨0, ?_, rfl, fun i hi => ?_⟩
  · decide
  · exact absurd hi i.not_lt_zero

/-- A frame that is written in two parts. -/
def slowClient : Writer :=
  run (fun _ => some 20) [.send "RECEIPT\nreceipt - id :0\n\n\x00", .ready]

theorem slowClient_returns : slowClient.Returns :=
  (continueWrite_returns_iff (sound_run _ _) rfl rfl).2 fun ⟨_, _, hnone, _⟩ => nomatch hnone

/-! ### The reactor's step -/

/-- The handler of the reactor is in the same state. -/
structure Matches (w : Writer) (h : NonBlockingConnectionHandler) : Prop where
  written : h.written = w.chan.written
  writeQueue : h.writeQueue = w.remainders
  isOpen : h.isOpen = w.chan.isOpen

theorem Matches.send (hw : w.Sound) {k : Reactor} {c : ℕ} (h : w.Matches (k.handlers c)) (d : ℕ)
    (msg : Str) : (w.send msg).Matches ((k.runOp d (.enqueue c msg)).handlers c) where
  written := by simpa [Reactor.runOp, Writer.send] using h.written
  writeQueue := by
    rw [hw.remainders_send, ← h.writeQueue]
    simp [Reactor.runOp]
  isOpen := by simpa [Reactor.runOp, Writer.send] using h.isOpen

/-- What the next write does, as the reactor sees it. -/
def nextResult (w : Writer) : IoResult :=
  match w.chan.writes 0 with
  | some count => .written count
  | none => .ioException

/-- **The steps from `peek` on are one step of the reactor**, to the condition of the loop or out of
`continueWrite`. -/
theorem writeTop_refined (hw : w.Sound) (hpc : w.pc = .peek) {k : Reactor} {c : ℕ}
    (hmatch : w.Matches (k.handlers c)) (rest : List SelectedKey) :
    ∃ n, (next^[n] w).Matches ((k.writeTop c rest w.nextResult).handlers c) ∧
      ((next^[n] w).pc = .loop ∧ (k.writeTop c rest w.nextResult).pc = .checkQueue c rest ∨
        (next^[n] w).pc = .outside ∧ (k.writeTop c rest w.nextResult).pc = .keys rest) := by
  obtain ⟨hwritten, hbuffers, hopen⟩ := hmatch
  obtain ⟨top, queue, hqueue⟩ := List.exists_cons_of_ne_nil (hw.peek hpc)
  have hnodup := hw.nodup
  rw [hqueue, List.nodup_cons] at hnodup
  have hremainders : w.remainders =
      (w.heap top).remaining :: queue.map fun b => (w.heap b).remaining := by
    simp [remainders, hqueue]
  rw [hremainders] at hbuffers
  cases hchan : w.chan.isOpen with
  | false =>
    have hwriteTop : k.writeTop c rest w.nextResult = (k.close c).setPc (.checkQueue c rest) := by
      unfold Reactor.writeTop
      rw [hopen, hchan]
      split <;> simp_all
    rw [hwriteTop]
    refine ⟨3, ⟨?_, ?_, ?_⟩, .inl ⟨?_, rfl⟩⟩
    all_goals
      simp [next, write, hpc, hqueue, hchan, Reactor.close, hwritten, hbuffers, remainders]
  | true =>
    cases hcount : w.chan.writes 0 with
    | none =>
      have hwriteTop : k.writeTop c rest w.nextResult =
          (k.close c).setPc (.checkQueue c rest) := by
        unfold Reactor.writeTop nextResult
        rw [hcount]
        split <;> simp_all
      rw [hwriteTop]
      refine ⟨3, ⟨?_, ?_, ?_⟩, .inl ⟨?_, rfl⟩⟩
      all_goals
        simp [next, write, hpc, hqueue, hchan, hcount, Reactor.close, hwritten, hbuffers,
          remainders]
    | some count =>
      have hresult : w.nextResult = .written count := by simp [nextResult, hcount]
      by_cases hwhole : (w.heap top).remaining.length ≤ count
      · refine ⟨4, ⟨?_, ?_, ?_⟩, .inl ⟨?_, ?_⟩⟩
        all_goals
          simp [next, write, hpc, hqueue, hchan, hcount, hresult, Reactor.writeTop, hwritten,
            hbuffers, hopen, hwhole, remainders, map_remaining_update hnodup.1]
      · refine ⟨3, ⟨?_, ?_, ?_⟩, .inr ⟨?_, ?_⟩⟩
        all_goals
          simp [next, write, hpc, hqueue, hchan, hcount, hresult, Reactor.writeTop, hwritten,
            hbuffers, hopen, hwhole, remainders, map_remaining_update hnodup.1]

end Writer

end WorldCupInformer
