import WorldCupInformer.Lib.Owners
import WorldCupInformer.Server.ReactorStreams
import WorldCupInformer.Server.SelectorKeys

/-!
# The buffers of the read tasks (`leaseBuffer`, `releaseBuffer`, `ByteBuffer`)

All handlers share `BUFFER_POOL`.  `continueRead` takes a buffer from it, or allocates one, and
fills it from the channel; the task that it submits decodes the bytes one at a time and gives the
buffer back, also when it ends with an exception.  The reactor's tasks are lists of bytes; here they
are the buffers themselves, which are used again and again.

* `BufferPool.step`: the operations on the pool and the buffers;
* `Reactor.bufferEvent`: the operation that a step of the reactor makes;
* `Reactor.buffers_recycled`: the buffers of the tasks hold the bytes of the tasks, no buffer is in
  two hands, and none is lost.
-/

namespace WorldCupInformer

open Owners

/-- `BUFFER_ALLOCATION_SIZE`. -/
def bufferAllocationSize : ℕ := 1 <<< 13

/-- A `ByteBuffer` with all its marks. -/
structure DirectByteBuffer where
  bytes : List UInt8
  position : ℕ
  limit : ℕ

namespace DirectByteBuffer

/-- `ByteBuffer.allocateDirect`. -/
def allocateDirect (capacity : ℕ) : DirectByteBuffer :=
  { bytes := List.replicate capacity 0, position := 0, limit := capacity }

/-- `clear`; the bytes stay. -/
def clear (buf : DirectByteBuffer) : DirectByteBuffer :=
  { buf with position := 0, limit := buf.bytes.length }

/-- `flip`. -/
def flip (buf : DirectByteBuffer) : DirectByteBuffer :=
  { buf with limit := buf.position, position := 0 }

/-- What `chan.read` does with the buffer: no more bytes than there is room for. -/
def put (buf : DirectByteBuffer) (data : List UInt8) : DirectByteBuffer :=
  let taken := data.take (buf.limit - buf.position)
  { buf with
    bytes := buf.bytes.take buf.position ++ taken ++ buf.bytes.drop (buf.position + taken.length)
    position := buf.position + taken.length }

/-- `hasRemaining`. -/
def hasRemaining (buf : DirectByteBuffer) : Bool := buf.position < buf.limit

/-- `get`: the next byte, and the buffer after it. -/
def get (buf : DirectByteBuffer) : Option UInt8 × DirectByteBuffer :=
  if buf.hasRemaining then (buf.bytes[buf.position]?, { buf with position := buf.position + 1 })
  else (none, buf)

/-- The bytes that `get` has still to return. -/
def remaining (buf : DirectByteBuffer) : List UInt8 := (buf.bytes.take buf.limit).drop buf.position

/-- The buffer has the size of the pool's buffers, and its marks are in order. -/
structure Sound (buf : DirectByteBuffer) : Prop where
  length : buf.bytes.length = bufferAllocationSize
  position_le : buf.position ≤ buf.limit
  limit_le : buf.limit ≤ bufferAllocationSize

variable {buf : DirectByteBuffer} {data : List UInt8}

theorem sound_allocateDirect : (allocateDirect bufferAllocationSize).Sound :=
  ⟨List.length_replicate, Nat.zero_le _, le_rfl⟩

theorem Sound.clear (h : buf.Sound) : buf.clear.Sound :=
  ⟨h.length, Nat.zero_le _, h.length.le⟩

/-- The buffer is empty and has room for as many bytes as it can. -/
structure Leased (buf : DirectByteBuffer) : Prop where
  length : buf.bytes.length = bufferAllocationSize
  position : buf.position = 0
  limit : buf.limit = bufferAllocationSize

theorem leased_allocateDirect : (allocateDirect bufferAllocationSize).Leased :=
  ⟨List.length_replicate, rfl, rfl⟩

theorem Sound.leased (h : buf.Sound) : buf.clear.Leased := ⟨h.length, rfl, h.length⟩

theorem Leased.sound (h : buf.Leased) : buf.Sound where
  length := h.length
  position_le := by
    rw [h.position]
    exact Nat.zero_le _
  limit_le := h.limit.le

/-- **Reading into a leased buffer**: after `flip` it holds the bytes that have been read, and none
of those it held before. -/
theorem Leased.remaining_put (h : buf.Leased) (hdata : data.length ≤ bufferAllocationSize) :
    (buf.put data).flip.Sound ∧ (buf.put data).flip.remaining = data := by
  have htake : data.take (buf.limit - 0) = data := by
    rw [h.limit, Nat.sub_zero, List.take_of_length_le hdata]
  have hput : (buf.put data).flip =
      { bytes := data ++ buf.bytes.drop data.length, position := 0, limit := data.length } := by
    simp only [put, flip, h.position, htake, List.take_zero, List.nil_append, Nat.zero_add]
  rw [hput]
  refine ⟨⟨?_, Nat.zero_le _, hdata⟩, ?_⟩
  · rw [List.length_append, List.length_drop, h.length]
    omega
  · simp [remaining]

/-- `get` returns the first of the remaining bytes. -/
theorem Sound.get_cons (h : buf.Sound) {b : UInt8} {rest : List UInt8}
    (hremaining : buf.remaining = b :: rest) :
    buf.get.1 = some b ∧ buf.get.2.Sound ∧ buf.get.2.remaining = rest := by
  have hlt : buf.position < buf.limit := by
    by_contra hle
    have hnil : buf.remaining = [] := by
      refine List.drop_eq_nil_of_le ?_
      rw [List.length_take]
      omega
    rw [hnil] at hremaining
    cases hremaining
  have hmore : buf.hasRemaining = true := decide_eq_true hlt
  have hnext : (buf.bytes.take buf.limit)[buf.position]? = some b := by
    have hhead := congrArg List.head? hremaining
    rwa [remaining, List.head?_drop] at hhead
  rw [List.getElem?_take_of_lt hlt] at hnext
  rw [get, if_pos hmore]
  refine ⟨hnext, ⟨h.length, hlt, h.limit_le⟩, ?_⟩
  have htail := congrArg List.tail hremaining
  rwa [remaining, List.tail_drop] at htail

end DirectByteBuffer

/-- Who can hold a buffer. -/
inductive BufferOwner
  /-- `BUFFER_POOL` -/
  | pool
  /-- the selector thread, in `continueRead` -/
  | selector
  /-- the tasks submitted for the handler of this connection -/
  | tasks (c : ℕ)
  deriving DecidableEq

/-- The buffers, by their addresses, and who holds them. -/
structure BufferPool where
  buffers : ℕ → DirectByteBuffer := fun _ => DirectByteBuffer.allocateDirect bufferAllocationSize
  allocated : ℕ := 0
  held : BufferOwner → List ℕ := fun _ => []

/-- The bytes that a `chan.read` has put into its buffer. -/
def IoResult.data : IoResult → Option (List UInt8)
  | .bytes data => some data
  | _ => none

/-- An operation on the buffers. -/
inductive BufferEvent
  /-- `leaseBuffer` -/
  | lease
  /-- `chan.read(buf)`, and what becomes of the buffer -/
  | read (c : ℕ) (result : IoResult)
  /-- `buf.get()` in the first task of the handler -/
  | get (c : ℕ)
  /-- `releaseBuffer(buf)` at the end of that task -/
  | release (c : ℕ)
  deriving DecidableEq

namespace BufferPool

/-- Change one buffer. -/
def modify (s : BufferPool) (a : ℕ) (f : DirectByteBuffer → DirectByteBuffer) : BufferPool :=
  { s with buffers := Function.update s.buffers a (f (s.buffers a)) }

def setHeld (s : BufferPool) (held : BufferOwner → List ℕ) : BufferPool := { s with held := held }

/-- `leaseBuffer`. -/
def leaseBuffer (s : BufferPool) : BufferPool :=
  match s.held .pool with
  -- `poll` takes the oldest buffer
  | a :: _ => (s.modify a DirectByteBuffer.clear).setHeld (move s.held .pool .selector)
  | [] =>
    { buffers := Function.update s.buffers s.allocated
        (DirectByteBuffer.allocateDirect bufferAllocationSize)
      allocated := s.allocated + 1
      held := give s.held .selector s.allocated }

/-- `chan.read(buf)` in `continueRead`, and what follows up to its end. -/
def continueRead (s : BufferPool) (c : ℕ) : IoResult → BufferPool
  | .bytes data =>
    match s.held .selector with
    | a :: _ => (s.modify a fun buf => (buf.put data).flip).setHeld
        (move s.held .selector (.tasks c))
    | [] => s
  -- the end of the stream, or an `IOException`: `releaseBuffer(buf)` at once
  | _ => s.setHeld (move s.held .selector .pool)

/-- One operation. -/
def step (s : BufferPool) : BufferEvent → BufferPool
  | .lease => s.leaseBuffer
  | .read c result => s.continueRead c result
  | .get c =>
    match s.held (.tasks c) with
    | a :: _ => s.modify a fun buf => buf.get.2
    | [] => s
  | .release c => s.setHeld (move s.held (.tasks c) .pool)

/-- What the tasks of a handler have still to decode. -/
def contents (s : BufferPool) (c : ℕ) : List (List UInt8) :=
  (s.held (.tasks c)).map fun a => (s.buffers a).remaining

/-- What holds of the buffers between two operations. -/
structure Inv (s : BufferPool) : Prop where
  exclusive : Exclusive s.held
  owned : ∀ a, (∃ i, a ∈ s.held i) ↔ a < s.allocated
  sound : ∀ a, (s.buffers a).Sound
  leased : ∀ a ∈ s.held .selector, (s.buffers a).Leased

variable {s : BufferPool}

theorem inv_init : Inv {} where
  exclusive := .empty
  owned a := by simp
  sound _ := DirectByteBuffer.sound_allocateDirect
  leased _ ha := absurd ha List.not_mem_nil

@[simp] theorem modify_held (a : ℕ) (f : DirectByteBuffer → DirectByteBuffer) :
    (s.modify a f).held = s.held := rfl

@[simp] theorem modify_allocated (a : ℕ) (f : DirectByteBuffer → DirectByteBuffer) :
    (s.modify a f).allocated = s.allocated := rfl

theorem buffers_modify (a b : ℕ) (f : DirectByteBuffer → DirectByteBuffer) :
    (s.modify a f).buffers b = if b = a then f (s.buffers a) else s.buffers b :=
  Function.update_apply ..

/-- A buffer of someone else is changed. -/
theorem map_remaining_modify {a : ℕ} {as : List ℕ} (h : a ∉ as)
    (f : DirectByteBuffer → DirectByteBuffer) :
    (as.map fun b => ((s.modify a f).buffers b).remaining) =
      as.map fun b => (s.buffers b).remaining := by
  refine List.map_congr_left fun b hb => ?_
  have hne : b ≠ a := fun heq => h (heq ▸ hb)
  rw [buffers_modify, if_neg hne]

/-- The first buffer of an owner is in no other hands. -/
theorem Inv.notMem (h : s.Inv) {i j : BufferOwner} {a : ℕ} {as : List ℕ} (hi : s.held i = a :: as)
    (hne : j ≠ i) : a ∉ s.held j := by
  intro hmem
  have hhead : a ∈ s.held i := by rw [hi]; exact List.mem_cons_self
  exact hne (h.exclusive.eq hmem hhead)

/-- A buffer goes from one owner to another. -/
theorem Inv.move (h : s.Inv) (i j : BufferOwner) {f : DirectByteBuffer → DirectByteBuffer} {a : ℕ}
    {as : List ℕ} (hi : s.held i = a :: as) (hsound : (f (s.buffers a)).Sound)
    (hleased : j = .selector → (f (s.buffers a)).Leased) :
    ((s.modify a f).setHeld (Owners.move s.held i j)).Inv where
  exclusive := h.exclusive.move i j
  owned b := (mem_move i j).trans (h.owned b)
  sound b := by
    have hbuffer := buffers_modify (s := s) a b f
    rw [setHeld, hbuffer]
    split_ifs
    · exact hsound
    · exact h.sound b
  leased b hb := by
    have hbuffer := buffers_modify (s := s) a b f
    rw [setHeld, hbuffer]
    simp only [setHeld, move_cons hi] at hb
    rcases mem_give.1 hb with hb | ⟨hj, rfl⟩
    · have hne : b ≠ a := fun heq => h.exclusive.notMem_drop hi .selector (heq ▸ hb)
      rw [if_neg hne]
      exact h.leased b (subset_of_drop _ hb)
    · rw [if_pos rfl]
      exact hleased hj.symm

/-- `leaseBuffer`: the selector thread has a buffer, and the tasks keep what they hold. -/
theorem Inv.leaseBuffer (h : s.Inv) (hnone : s.held .selector = []) :
    s.leaseBuffer.Inv ∧ (∃ a, s.leaseBuffer.held .selector = [a]) ∧
      s.leaseBuffer.contents = s.contents := by
  unfold BufferPool.leaseBuffer
  cases hpool : s.held .pool with
  | cons a as =>
    dsimp only
    refine ⟨h.move .pool .selector hpool (h.sound a).clear fun _ => (h.sound a).leased, ⟨a, ?_⟩, ?_⟩
    · simp only [setHeld, move_cons hpool]
      rw [give_self, drop_of_ne (by decide), hnone, List.nil_append]
    · funext c
      have hheld : Owners.move s.held .pool .selector (.tasks c) = s.held (.tasks c) := by
        rw [move_cons hpool, give_of_ne (by simp), drop_of_ne (by simp)]
      simp only [contents, setHeld, hheld]
      exact map_remaining_modify (h.notMem hpool (by simp)) _
  | nil =>
    dsimp only
    -- the pool is empty: a new buffer, which nobody holds yet
    have hnew : ∀ i, s.allocated ∉ s.held i := fun i hmem =>
      absurd ((h.owned _).1 ⟨i, hmem⟩) (lt_irrefl _)
    refine ⟨?_, ⟨s.allocated, by rw [give_self, hnone, List.nil_append]⟩, ?_⟩
    · exact
        { exclusive := h.exclusive.give hnew .selector
          owned := fun b => by
            simp only [mem_give]
            have hold := h.owned b
            constructor
            · rintro ⟨i, hi | ⟨-, rfl⟩⟩
              · exact Nat.lt_succ_of_lt (hold.1 ⟨i, hi⟩)
              · exact Nat.lt_succ_self _
            · intro hlt
              rcases Nat.lt_succ_iff_lt_or_eq.1 hlt with hlt | rfl
              · obtain ⟨i, hi⟩ := hold.2 hlt
                exact ⟨i, .inl hi⟩
              · exact ⟨.selector, .inr ⟨rfl, rfl⟩⟩
          sound := fun b => by
            simp only [Function.update_apply]
            split_ifs
            · exact DirectByteBuffer.sound_allocateDirect
            · exact h.sound b
          leased := fun b hb => by
            have hb' : b = s.allocated := by
              dsimp only at hb
              rw [give_self, hnone] at hb
              exact List.mem_singleton.1 hb
            simp only [hb', Function.update_self]
            exact DirectByteBuffer.leased_allocateDirect }
    · funext c
      have hheld : give s.held .selector s.allocated (.tasks c) = s.held (.tasks c) :=
        give_of_ne (by simp)
      simp only [contents, hheld]
      exact map_remaining_modify (hnew _) fun _ =>
        DirectByteBuffer.allocateDirect bufferAllocationSize

/-- The buffer of the selector thread goes back. -/
theorem Inv.giveBack (h : s.Inv) (i : BufferOwner) :
    (s.setHeld (Owners.move s.held i .pool)).Inv where
  exclusive := h.exclusive.move i .pool
  owned b := (mem_move i .pool).trans (h.owned b)
  sound := h.sound
  leased b hb := by
    cases hi : s.held i with
    | nil =>
      simp only [setHeld, move_nil hi] at hb
      exact h.leased b hb
    | cons a as =>
      simp only [setHeld, move_cons hi, mem_give] at hb
      exact h.leased b (subset_of_drop _ (hb.resolve_right fun hpool => by cases hpool.1))

/-- `chan.read(buf)`: the bytes become a task of the handler, or the buffer goes back. -/
theorem Inv.continueRead (h : s.Inv) {a : ℕ} (hselector : s.held .selector = [a]) (c : ℕ)
    {result : IoResult} (hfits : ∀ data ∈ result.data, data.length ≤ bufferAllocationSize) :
    (s.continueRead c result).Inv ∧ (s.continueRead c result).held .selector = [] ∧
      ∀ d, (s.continueRead c result).contents d =
        s.contents d ++ if d = c then result.data.toList else [] := by
  have hback : (s.setHeld (Owners.move s.held .selector .pool)).Inv ∧
      (s.setHeld (Owners.move s.held .selector .pool)).held .selector = [] ∧
      ∀ d, (s.setHeld (Owners.move s.held .selector .pool)).contents d = s.contents d := by
    refine ⟨h.giveBack .selector, ?_, fun d => ?_⟩
    · simp only [setHeld, move_cons hselector]
      rw [give_of_ne (by decide), drop_self hselector]
    · simp only [contents, setHeld, move_cons hselector]
      rw [give_of_ne (by simp), drop_of_ne (by simp)]
  cases result with
  | bytes data =>
    obtain ⟨hsound, hremaining⟩ := (h.leased a (by simp [hselector])).remaining_put (hfits data rfl)
    have hstep : s.continueRead c (.bytes data) =
        (s.modify a fun buf => (buf.put data).flip).setHeld
          (Owners.move s.held .selector (.tasks c)) := by
      simp only [BufferPool.continueRead, hselector]
    rw [hstep]
    refine ⟨h.move .selector (.tasks c) hselector hsound (fun hj => by cases hj), ?_, fun d => ?_⟩
    · simp only [setHeld, move_cons hselector]
      rw [give_of_ne (by simp), drop_self hselector]
    · have hothers : ((s.held (.tasks d)).map fun b =>
          ((s.modify a fun buf => (buf.put data).flip).buffers b).remaining) = s.contents d :=
        map_remaining_modify (h.notMem hselector (by simp)) _
      simp only [contents, setHeld, move_cons hselector]
      by_cases hd : d = c
      · subst hd
        have hbuffer := buffers_modify (s := s) a a fun buf => (buf.put data).flip
        rw [if_pos rfl] at hbuffer
        rw [give_self, drop_of_ne (by simp), List.map_append, hothers, if_pos rfl,
          List.map_singleton, hbuffer, hremaining]
        rfl
      · rw [give_of_ne (by simpa using hd), drop_of_ne (by simp), hothers, if_neg hd,
          List.append_nil]
        rfl
  | _ =>
    refine ⟨hback.1, hback.2.1, fun d => (hback.2.2 d).trans ?_⟩
    simp [IoResult.data]

/-- `buf.get()` in the first task of a handler returns the next byte. -/
theorem Inv.get (h : s.Inv) {c : ℕ} {b : UInt8} {rest : List UInt8} {cs : List (List UInt8)}
    (hcontents : s.contents c = (b :: rest) :: cs) :
    (s.step (.get c)).Inv ∧ (s.step (.get c)).held = s.held ∧
      (∃ a as, s.held (.tasks c) = a :: as ∧ (s.buffers a).get.1 = some b) ∧
      (s.step (.get c)).contents c = rest :: cs ∧
      ∀ d, d ≠ c → (s.step (.get c)).contents d = s.contents d := by
  obtain ⟨a, as, hheld, hfirst, hrest⟩ := List.map_eq_cons_iff.1 hcontents
  obtain ⟨hbyte, hsound, hremaining⟩ := (h.sound a).get_cons hfirst
  have hstep : s.step (.get c) = s.modify a fun buf => buf.get.2 := by
    simp only [step, hheld]
  have hnodup := h.exclusive.nodup (.tasks c)
  rw [hheld] at hnodup
  rw [hstep]
  refine ⟨?_, rfl, ⟨a, as, hheld, hbyte⟩, ?_, fun d hd => ?_⟩
  · exact
      { exclusive := h.exclusive
        owned := h.owned
        sound := fun b' => by
          rw [buffers_modify]
          split_ifs
          · exact hsound
          · exact h.sound b'
        leased := fun b' hb' => by
          have hne : b' ≠ a := fun heq => h.notMem hheld (j := .selector) (by simp) (heq ▸ hb')
          rw [buffers_modify, if_neg hne]
          exact h.leased b' hb' }
  · rw [contents, modify_held, hheld, List.map_cons,
      map_remaining_modify (List.nodup_cons.1 hnodup).1, hrest, buffers_modify, if_pos rfl,
      hremaining]
  · exact map_remaining_modify (h.notMem hheld (by simpa using hd)) _

/-- `releaseBuffer(buf)` at the end of a task. -/
theorem Inv.release (h : s.Inv) (c : ℕ) :
    (s.step (.release c)).Inv ∧
      (s.step (.release c)).held .selector = s.held .selector ∧
      (s.step (.release c)).contents c = (s.contents c).tail ∧
      ∀ d, d ≠ c → (s.step (.release c)).contents d = s.contents d := by
  have hstep : s.step (.release c) = s.setHeld (Owners.move s.held (.tasks c) .pool) := rfl
  rw [hstep]
  refine ⟨h.giveBack (.tasks c), ?_⟩
  simp only [contents, setHeld]
  cases hheld : s.held (.tasks c) with
  | nil => simp [move_nil hheld, hheld]
  | cons a as =>
    rw [move_cons hheld]
    refine ⟨?_, ?_, fun d hd => ?_⟩
    · rw [give_of_ne (by decide), drop_of_ne (by simp)]
    · rw [give_of_ne (by simp), drop_self hheld]
      rfl
    · rw [give_of_ne (by simp), drop_of_ne (by simpa using hd)]

/-- A buffer is allocated only when the pool is empty. -/
theorem allocated_step (s : BufferPool) (event : BufferEvent) :
    (s.step event).allocated = s.allocated ∨ (s.step event).held .pool = [] := by
  cases event with
  | lease =>
    simp only [step, leaseBuffer]
    cases hpool : s.held .pool with
    | nil =>
      right
      dsimp only
      rw [give_of_ne (by decide), hpool]
    | cons a as => exact .inl rfl
  | read c result =>
    cases result with
    | bytes data =>
      simp only [step, BufferPool.continueRead]
      cases s.held .selector <;> exact .inl rfl
    | _ => exact .inl rfl
  | get c =>
    simp only [step]
    cases s.held (.tasks c) <;> exact .inl rfl
  | release c => exact .inl rfl

end BufferPool

/-- The buffers that `continueRead` has in its hands. -/
def SelectorPc.leases : SelectorPc → ℕ
  | .read _ _ _ => 1
  | _ => 0

namespace Reactor

/-- What a step does with the buffers. -/
def bufferEvent (k : Reactor) : ReactorEvent → Option BufferEvent
  | .select _ => none
  | .selector result =>
    match k.pc with
    | .keys (.channel c true _ :: _) => if (k.handlers c).isOpen then some .lease else none
    | .read c _ _ => some (.read c result)
    | _ => none
  | .pool c =>
    match (k.handlers c).todo, (k.handlers c).throws, (k.handlers c).tasks with
    | [], true, _ => some (.release c)
    | [], false, [] :: _ => some (.release c)
    | [], false, (_ :: _) :: _ => some (.get c)
    | _, _, _ => none

/-- The operations of a run on the buffers, in order. -/
def bufferEvents (es : List ReactorEvent) : List BufferEvent :=
  Machine.trace step bufferEvent {} es

/-- The buffers after the events. -/
def buffersOf (es : List ReactorEvent) : BufferPool :=
  Machine.run BufferPool.step {} (bufferEvents es)

/-- The buffers of the reactor: the selector thread has one while it reads, and the others that are
not in the pool hold what the tasks have to decode. -/
structure Buffering (k : Reactor) (s : BufferPool) : Prop where
  fresh : k.Fresh
  inv : s.Inv
  contents : ∀ c, s.contents c = (k.handlers c).tasks
  leases : (s.held .selector).length = k.pc.leases

variable {k : Reactor} {s : BufferPool} {c : ℕ}

theorem buffering_init : Buffering {} {} :=
  ⟨fresh_init, BufferPool.inv_init, fun _ => rfl, rfl⟩

/-- A step of the selector thread reads into a buffer, leases one, or does neither. -/
theorem selectorStep_leases (k : Reactor) (result : IoResult) :
    (∃ c writable rest, k.pc = .read c writable rest ∧
      k.bufferEvent (.selector result) = some (.read c result) ∧
      (k.selectorStep result).pc.leases = 0) ∨
    (k.pc.leases = 0 ∧
      (k.bufferEvent (.selector result) = some .lease ∧ (k.selectorStep result).pc.leases = 1 ∨
        k.bufferEvent (.selector result) = none ∧ (k.selectorStep result).pc.leases = 0)) := by
  cases hpc : k.pc with
  | read c writable rest =>
    exact .inl ⟨c, writable, rest, rfl, by simp [bufferEvent, hpc],
      by simp [selectorStep, hpc, SelectorPc.leases]⟩
  | keys selected =>
    refine .inr ⟨rfl, ?_⟩
    rcases selected with - | ⟨- | ⟨c, - | -, writable⟩, rest⟩
    · exact .inr (by simp [bufferEvent, selectorStep, hpc, SelectorPc.leases])
    · exact .inr (by simp [bufferEvent, selectorStep, hpc, SelectorPc.leases])
    · refine .inr ⟨by simp [bufferEvent, hpc], ?_⟩
      simp only [selectorStep, hpc, Bool.false_eq_true, if_false]
      split_ifs <;> rfl
    · cases hopen : (k.handlers c).isOpen with
      | true => exact .inl (by simp [bufferEvent, selectorStep, hpc, hopen, SelectorPc.leases])
      | false => exact .inr (by simp [bufferEvent, selectorStep, hpc, hopen, SelectorPc.leases])
  | tasks selected =>
    refine .inr ⟨rfl, .inr ⟨by simp [bufferEvent, hpc], ?_⟩⟩
    simp only [selectorStep, hpc]
    cases k.selectorTasks with
    | nil => rfl
    | cons task tasks =>
      rcases interestOps_pc (k.setTasks tasks) task.key task.ops with h | h <;>
        simp [h, hpc, SelectorPc.leases]
  | write c rest =>
    refine .inr ⟨rfl, .inr ⟨by simp [bufferEvent, hpc], ?_⟩⟩
    simp only [selectorStep, hpc]
    rcases k.writeTop_pc c rest result with h | h <;> simp [h, SelectorPc.leases]
  | interestRead c rest =>
    refine .inr ⟨rfl, .inr ⟨by simp [bufferEvent, hpc], ?_⟩⟩
    simp only [selectorStep, hpc]
    rcases (k.setPc (.keys rest)).interestOps_pc (k.keyFor c) opRead with h | h <;>
      simp [h, SelectorPc.leases]
  | select => exact .inr ⟨rfl, .inr (by simp [bufferEvent, selectorStep, hpc, SelectorPc.leases])⟩
  | failed => exact .inr ⟨rfl, .inr (by simp [bufferEvent, selectorStep, hpc, SelectorPc.leases])⟩
  | _ =>
    refine .inr ⟨rfl, .inr ⟨by simp [bufferEvent, hpc], ?_⟩⟩
    simp only [selectorStep, hpc]
    split_ifs <;> rfl

/-- The tasks of a connection after a step of the selector thread. -/
theorem Fresh.tasks_selectorStep (hk : k.Fresh) (result : IoResult) (c : ℕ) :
    ((k.selectorStep result).handlers c).tasks =
      (k.handlers c).tasks ++ (k.readBuffer c (.selector result)).toList := by
  rcases k.selectorStep_reading result c with ⟨hc, hnew, hread⟩ | hsame
  · obtain ⟨-, -, hidle⟩ := hk.idle c hc.ge
    rw [hnew, hread, hidle]
    rfl
  · simp only [reading, Prod.mk.injEq] at hsame
    exact hsame.2.2

theorem readBuffer_of_leases (h : k.pc.leases = 0) (result : IoResult) (c : ℕ) :
    k.readBuffer c (.selector result) = none := by
  cases result with
  | bytes buf =>
    cases hpc : k.pc with
    | read d writable rest => simp [hpc, SelectorPc.leases] at h
    | _ => simp [readBuffer, hpc]
  | _ => rfl

theorem readBuffer_of_pc {d : ℕ} {writable : Bool} {rest : List SelectedKey}
    (hpc : k.pc = .read d writable rest) (result : IoResult) (c : ℕ) :
    (k.readBuffer c (.selector result)).toList = if c = d then result.data.toList else [] := by
  cases result with
  | bytes buf =>
    by_cases hc : c = d
    · simp [readBuffer, hpc, hc, IoResult.data]
    · simp [readBuffer, hpc, hc, Ne.symm hc]
  | _ => simp [readBuffer, IoResult.data]

theorem Buffering.selector (h : Buffering k s) {result : IoResult}
    (hfits : ∀ data ∈ result.data, data.length ≤ bufferAllocationSize) :
    Buffering (k.step (.selector result))
      (Machine.run BufferPool.step s (k.bufferEvent (.selector result)).toList) := by
  have hleases := h.leases
  have hstep : k.step (.selector result) = k.selectorStep result := rfl
  have htasks := h.fresh.tasks_selectorStep result
  rcases k.selectorStep_leases result with
    ⟨c, writable, rest, hpc, hevent, hnone⟩ | ⟨hpc, ⟨hevent, hone⟩ | ⟨hevent, hnone⟩⟩
  · -- the buffer that has been leased becomes a task
    rw [hpc] at hleases
    obtain ⟨a, ha⟩ := List.length_eq_one_iff.1 hleases
    obtain ⟨hinv, hheld, hcontents⟩ := h.inv.continueRead ha c hfits
    refine ⟨h.fresh.step _, by rw [hevent]; exact hinv, fun d => ?_, ?_⟩
    · have hd := hcontents d
      rw [← readBuffer_of_pc hpc, h.contents d, ← htasks] at hd
      rw [hevent]
      exact hd
    · rw [hstep, hnone, hevent]
      exact congrArg List.length hheld
  · rw [hpc] at hleases
    obtain ⟨hinv, ⟨a, ha⟩, hcontents⟩ := h.inv.leaseBuffer (List.length_eq_zero_iff.1 hleases)
    refine ⟨h.fresh.step _, by rw [hevent]; exact hinv, fun d => ?_, ?_⟩
    · have hd := congrFun hcontents d
      rw [h.contents d] at hd
      have hsame := htasks d
      rw [readBuffer_of_leases hpc, Option.toList_none, List.append_nil] at hsame
      rw [hstep, hsame, ← hd, hevent]
      rfl
    · rw [hstep, hone, hevent]
      exact congrArg List.length ha
  · refine ⟨h.fresh.step _, by simpa [hevent] using h.inv, fun d => ?_, ?_⟩
    · have hsame := htasks d
      rw [readBuffer_of_leases hpc, Option.toList_none, List.append_nil] at hsame
      rw [hstep, hsame, hevent]
      exact h.contents d
    · rw [hstep, hnone, hevent, ← hpc]
      exact hleases

/-- A step of a pool thread for another connection. -/
theorem tasks_poolStep_other (k : Reactor) {d : ℕ} (h : d ≠ c) :
    ((k.poolStep c).handlers d).tasks = (k.handlers d).tasks := by
  cases k.poolMove c with
  | op op todo htodo heq =>
    have hsame := runOp_reading (k.modify c fun h => { h with todo := todo }) c d op
    rw [← heq, modify_other _ _ h] at hsame
    simp only [reading, Prod.mk.injEq] at hsame
    exact hsame.2.2
  | task htodo htasks hothers => rw [hothers d h]

/-- The tasks of a connection after a step of its pool thread. -/
theorem tasks_poolStep (k : Reactor) (c : ℕ) :
    (k.bufferEvent (.pool c) = none ∧
      ((k.poolStep c).handlers c).tasks = (k.handlers c).tasks) ∨
    (k.bufferEvent (.pool c) = some (.release c) ∧
      ((k.poolStep c).handlers c).tasks = (k.handlers c).tasks.tail) ∨
    ∃ b buf tasks, (k.handlers c).tasks = (b :: buf) :: tasks ∧
      k.bufferEvent (.pool c) = some (.get c) ∧
      ((k.poolStep c).handlers c).tasks = buf :: tasks := by
  cases htodo : (k.handlers c).todo with
  | cons op todo =>
    refine .inl ⟨by simp [bufferEvent, htodo], ?_⟩
    have hsame := runOp_reading (k.modify c fun h => { h with todo := todo }) c c op
    rw [← poolStep_cons htodo, modify_self] at hsame
    simp only [reading, Prod.mk.injEq] at hsame
    exact hsame.2.2
  | nil =>
    rw [poolStep_nil htodo]
    cases hthrows : (k.handlers c).throws with
    | true =>
      exact .inr (.inl ⟨by simp [bufferEvent, htodo, hthrows], by simp [continueTask, hthrows]⟩)
    | false =>
      cases htasks : (k.handlers c).tasks with
      | nil =>
        exact .inl ⟨by simp [bufferEvent, htodo, hthrows, htasks],
          by simp [continueTask, hthrows, htasks]⟩
      | cons buf tasks =>
        cases buf with
        | nil =>
          exact .inr (.inl ⟨by simp [bufferEvent, htodo, hthrows, htasks],
            by simp [continueTask, hthrows, htasks]⟩)
        | cons b buf =>
          refine .inr (.inr ⟨b, buf, tasks, rfl, by simp [bufferEvent, htodo, hthrows, htasks], ?_⟩)
          cases hmsg : ((k.handlers c).encdec.decodeNextByte b).2 <;>
            simp [continueTask, hthrows, htasks, hmsg, process]

theorem Buffering.pool (h : Buffering k s) (c : ℕ) :
    Buffering (k.step (.pool c))
      (Machine.run BufferPool.step s (k.bufferEvent (.pool c)).toList) := by
  have hstep : k.step (.pool c) = k.poolStep c := rfl
  have hpc : (k.step (.pool c)).pc = k.pc := k.poolStep_pc c
  have hothers : ∀ d, d ≠ c → ((k.step (.pool c)).handlers d).tasks = s.contents d := fun d hd =>
    (k.tasks_poolStep_other hd).trans (h.contents d).symm
  rcases k.tasks_poolStep c with
    ⟨hevent, hself⟩ | ⟨hevent, hself⟩ | ⟨b, buf, tasks, htasks, hevent, hself⟩
  · refine ⟨h.fresh.step _, by simpa [hevent] using h.inv, fun d => ?_, ?_⟩
    · rw [hevent]
      by_cases hd : d = c
      · subst hd
        exact (h.contents d).trans hself.symm
      · exact (hothers d hd).symm
    · rw [hpc, hevent]
      exact h.leases
  · obtain ⟨hinv, hheld, hcontents, hrest⟩ := h.inv.release c
    refine ⟨h.fresh.step _, by simpa [hevent] using hinv, fun d => ?_, ?_⟩
    · rw [hevent]
      by_cases hd : d = c
      · subst hd
        rw [hstep, hself, ← h.contents d]
        exact hcontents
      · exact (hrest d hd).trans (hothers d hd).symm
    · rw [hpc, hevent, ← h.leases]
      exact congrArg List.length hheld
  · obtain ⟨hinv, hheld, -, hcontents, hrest⟩ := h.inv.get ((h.contents c).trans htasks)
    refine ⟨h.fresh.step _, by simpa [hevent] using hinv, fun d => ?_, ?_⟩
    · rw [hevent]
      by_cases hd : d = c
      · subst hd
        rw [hstep, hself]
        exact hcontents
      · exact (hrest d hd).trans (hothers d hd).symm
    · rw [hpc, hevent, ← h.leases]
      exact congrArg List.length (congrFun hheld .selector)

/-- What `chan.read` puts into a buffer has room in it. -/
def Fits (_ : Reactor) : ReactorEvent → Prop
  | .selector (.bytes data) => data.length ≤ bufferAllocationSize
  | _ => True

instance (k : Reactor) : DecidablePred k.Fits
  | .selector (.bytes _) => inferInstanceAs (Decidable (_ ≤ _))
  | .selector .endOfStream | .selector (.written _) | .selector .ioException => isTrue trivial
  | .select _ | .pool _ => isTrue trivial

theorem Buffering.step (h : Buffering k s) (e : ReactorEvent) (hfits : k.Fits e) :
    Buffering (k.step e) (Machine.run BufferPool.step s (k.bufferEvent e).toList) := by
  cases e with
  | select selected =>
    refine ⟨h.fresh.step _, h.inv, fun d => (h.contents d).trans ?_, h.leases.trans ?_⟩
    · simp only [Reactor.step]
      split_ifs <;> rfl
    · simp only [Reactor.step]
      split_ifs with hsel
      · rw [hsel.1]
        rfl
      · rfl
  | selector result =>
    refine h.selector fun data hdata => ?_
    cases result with
    | bytes data' =>
      cases hdata
      exact hfits
    | _ => cases hdata
  | pool c => exact h.pool c

theorem buffering_run {es : List ReactorEvent} (hes : Machine.Along step Fits {} es) :
    Buffering (run es) (buffersOf es) := by
  have hinit : Buffering {} (Machine.run BufferPool.step {} []) := buffering_init
  refine Machine.Along.trace_invariant
    (I := fun k events => Buffering k (Machine.run BufferPool.step {} events)) ?_ hinit hes
  intro k events e h hfits
  rw [Machine.run_append]
  exact h.step e hfits

theorem buffersOf_concat (es : List ReactorEvent) (e : ReactorEvent) : buffersOf (es ++ [e]) =
    Machine.run BufferPool.step (buffersOf es) ((run es).bufferEvent e).toList := by
  simp [buffersOf, bufferEvents, run, Machine.trace_append]

/-- As many buffers have been allocated as were in use at one time. -/
theorem exists_allInUse (es : List ReactorEvent) : ∃ pre, pre <+: es ∧
    (buffersOf pre).allocated = (buffersOf es).allocated ∧ (buffersOf pre).held .pool = [] := by
  induction es using List.reverseRecOn with
  | nil => exact ⟨[], List.prefix_rfl, rfl, rfl⟩
  | append_singleton es e ih =>
    obtain ⟨pre, hpre, hallocated, hpool⟩ := ih
    have hstep : (buffersOf (es ++ [e])).allocated = (buffersOf es).allocated ∨
        (buffersOf (es ++ [e])).held .pool = [] := by
      rw [buffersOf_concat]
      cases (run es).bufferEvent e with
      | none => exact .inl rfl
      | some event => exact (buffersOf es).allocated_step event
    rcases hstep with hsame | hempty
    · exact ⟨pre, hpre.trans (List.prefix_append ..), hallocated.trans hsame.symm, hpool⟩
    · exact ⟨es ++ [e], List.prefix_rfl, rfl, hempty⟩

/-- **The buffers can be used again.**  After every run, the buffers in the hands of the tasks of a
connection hold exactly the bytes these tasks have to decode, and `buf.get()` gives the next one;
no buffer is in two hands, and every buffer that has been allocated is in some; no more buffers have
been allocated than were out of the pool at one time. -/
theorem buffers_recycled {es : List ReactorEvent} (hes : Machine.Along step Fits {} es) :
    (∀ c, (buffersOf es).contents c = ((run es).handlers c).tasks) ∧
    (∀ c b buf tasks, ((run es).handlers c).tasks = (b :: buf) :: tasks →
      ∃ a as, (buffersOf es).held (.tasks c) = a :: as ∧
        ((buffersOf es).buffers a).get.1 = some b) ∧
    Exclusive (buffersOf es).held ∧
    (∀ a, (∃ i, a ∈ (buffersOf es).held i) ↔ a < (buffersOf es).allocated) ∧
    ∃ pre, pre <+: es ∧ (buffersOf pre).allocated = (buffersOf es).allocated ∧
      (buffersOf pre).held .pool = [] := by
  have hrun := buffering_run hes
  refine ⟨hrun.contents, fun c b buf tasks htasks => ?_, hrun.inv.exclusive, hrun.inv.owned,
    exists_allInUse es⟩
  obtain ⟨-, -, hbyte, -⟩ := hrun.inv.get ((hrun.contents c).trans htasks)
  exact hbyte

/-- The buffer of the first frame is given back, and the next bytes are read into it. -/
def readAgain : List ReactorEvent :=
  answeredInTime ++ [.pool 0, .selector .ioException, .selector .ioException,
    .select [.channel 0 true false], .selector .ioException, .selector .ioException,
    .selector (.bytes (Utf8.encode "SEND\n"))]

theorem buffers_recycled_readAgain :
    (buffersOf readAgain).contents 0 = [Utf8.encode "SEND\n"] ∧
      ∃ pre, pre <+: readAgain ∧ (buffersOf pre).allocated = 1 ∧
        (buffersOf pre).held .pool = [] := by
  have hfits : Machine.Along step Fits {} readAgain := by decide +kernel
  obtain ⟨hcontents, -, -, -, hpeak⟩ := buffers_recycled hfits
  have hallocated : (buffersOf readAgain).allocated = 1 := by decide +kernel
  have htasks : ((run readAgain).handlers 0).tasks = [Utf8.encode "SEND\n"] := by decide +kernel
  exact ⟨(hcontents 0).trans htasks, hallocated ▸ hpeak⟩

end Reactor

end WorldCupInformer
