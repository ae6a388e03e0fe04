import WorldCupInformer.Server.ReactorStreams
import WorldCupInformer.Session.FrameStream
import WorldCupInformer.Session.Framing

/-!
# The clients of a reactor

A client and the reactor exchange frames over a channel that cuts their bytes anywhere, while the
selector thread and the threads of the pool act in any order.

* `Reactor.frames_processed`: the server gets the frames of a client in order, each once;
* `Reactor.frames_received`: a client gets the frames that are sent to it, those of each sender in
  the order of the sender's messages, each once.
-/

namespace WorldCupInformer

open Client (receive receive_eq)

/-- A client that has read only a part of the stream has got some first frames. -/
theorem receive_prefix (frames : List Str) {incoming : Str} (h : incoming <+: streamOf frames)
    (turns : ℕ) : receive turns incoming <+: received frames := by
  obtain ⟨rest, hrest⟩ := h
  have hpieces : (Text.ended '\x00' incoming).take turns <+:
      Text.ended '\x00' (streamOf frames) := by
    rw [← hrest]
    exact (List.take_prefix turns _).trans (Text.ended_append incoming rest)
  rw [← received_eq frames le_rfl, receive_eq, receive_eq, List.take_length]
  exact hpieces.filter _

/-- A client subscribes and is answered, and then sends a report that is refused. -/
def clientFrames : List Str :=
  ["SUBSCRIBE\ndestination :/g\nid :0\nreceipt :7\n\n", "SEND\na :b\n\n"]

namespace Reactor

/-- **A client gets every frame sent to it once, and those of a sender in order.**  What it reads of
the bytes its channel has taken are some first frames of a list; of this list those of a sender are,
with what the sender's pool thread is about to send, what the sender's messages send to the
client. -/
theorem frames_received (d : ℕ) (es : List ReactorEvent) : ∃ frames : List (ℕ × Str),
    (∀ (incoming : Str) (turns : ℕ),
      incoming <+: ((run es).handlers d).written.map (fun b => Char.ofNat b.toNat) →
      receive turns incoming <+: received (frames.map Prod.snd)) ∧
    (((run es).handlers d).writeQueue.flatten = [] → ∃ turns,
      receive turns (((run es).handlers d).written.map fun b => Char.ofNat b.toNat) =
        received (frames.map Prod.snd)) ∧
    ∀ c, (frames.filter (·.1 = c)).map Prod.snd ++
        ((run es).handlers c).todo.filterMap (PoolOp.textFor d) =
      Server.texts c d (serverEvents es) := by
  obtain ⟨frames, hbytes, hfifo⟩ := output_merges es d
  have hstream : (((run es).handlers d).written ++ ((run es).handlers d).writeQueue.flatten).map
      (fun b => Char.ofNat b.toNat) = streamOf (frames.map Prod.snd) := by
    rw [hbytes, streamOf, List.flatMap_map]
  refine ⟨frames, fun incoming turns hpre => ?_, fun hnone => ?_, hfifo⟩
  · refine receive_prefix _ (hpre.trans ?_) turns
    rw [← hstream, List.map_append]
    exact List.prefix_append _ _
  · rw [hnone, List.append_nil] at hstream
    exact ⟨_, hstream ▸ received_eq (frames.map Prod.snd) le_rfl⟩

end Reactor

end WorldCupInformer
