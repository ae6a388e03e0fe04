import WorldCupInformer.Server.ThreadPerClient
import WorldCupInformer.Session.ReactorLinks

/-!
# The clients of the thread-per-client server

What `ReactorLinks` says of the reactor holds of the other mode, too, though several threads write
to the stream of a client and nothing keeps `write` and `flush` together.

* `ThreadPerClient.client_frames_processed`: the server gets the frames of a client in order, each
  once;
* `ThreadPerClient.client_frames_received`: a client gets the frames that are sent to it, those of
  each sender in the order of the sender's messages, each once.
-/

namespace WorldCupInformer

open Client (receive)

namespace ThreadPerClient

/-- The thread of the client reads the bytes, one at a time. -/
def readBytes (bytes : List UInt8) : List ThreadStep := bytes.map fun b => .loop (.byte 0 b)

/-- The frames of a client are read and answered.  Another client connects in the middle of the
second one. -/
def framesAnswered : List ThreadStep :=
  [.loop .accept, .start 0] ++ readBytes ((clientBytes clientFrames).take 45) ++
    [.op 0 none, .op 0 none] ++ readBytes (((clientBytes clientFrames).drop 45).take 5) ++
    [.loop .accept, .start 1] ++ readBytes ((clientBytes clientFrames).drop 50) ++
    [.op 0 none, .op 0 none]

/-- **A client gets every frame sent to it once, and those of a sender in order.**  What it reads of
the bytes its socket has taken are some first frames of a list, and all of them while the socket
works and no thread is about to flush the stream; of this list those of a sender are, with what the
sender's thread is about to send, what the sender's messages send to the client. -/
theorem client_frames_received (d : ℕ) (es : List ThreadStep) {o : BufferedOutputStream}
    (hout : ((run es).threads d).out = some o) : ∃ frames : List (ℕ × Str),
    (∀ (incoming : Str) (turns : ℕ),
      incoming <+: o.written.map (fun b => Char.ofNat b.toNat) →
      receive turns incoming <+: received (frames.map Prod.snd)) ∧
    (o.broken = false → (∀ c, .flush d ∉ ((run es).threads c).todo) → ∃ turns,
      receive turns (o.written.map fun b => Char.ofNat b.toNat) =
        received (frames.map Prod.snd)) ∧
    ∀ c, (frames.filter (·.1 = c)).map Prod.snd ++
        ((run es).threads c).todo.filterMap (SendOp.textFor d) =
      Server.texts c d (serverEvents es) := by
  obtain ⟨frames, hfirst, hall, hfifo⟩ := output_merges es d hout
  have hstream : (frames.flatMap fun frame => LineMessageEncoderDecoder.encode frame.2).map
      (fun b => Char.ofNat b.toNat) = streamOf (frames.map Prod.snd) := by
    rw [streamOf, List.flatMap_map]
  refine ⟨frames, fun incoming turns hpre => ?_, fun hworks hquiet => ?_, hfifo⟩
  · refine receive_prefix _ (hpre.trans ?_) turns
    rw [← hstream]
    exact hfirst.map _
  · rw [hall hworks hquiet, hstream]
    exact ⟨_, received_eq (frames.map Prod.snd) le_rfl⟩

/-- The client gets the RECEIPT and the ERROR; when it has read 40 bytes, it has got the RECEIPT. -/
theorem client_frames_received_framesAnswered : ∃ o,
    ((run framesAnswered).threads 0).out = some o ∧
    (Server.texts 0 0 (serverEvents framesAnswered)).length = 2 ∧
    ∃ frames : List (ℕ × Str),
      receive 3 ((o.written.take 40).map fun b => Char.ofNat b.toNat) <+:
        received (frames.map Prod.snd) ∧
      (∃ turns, receive turns (o.written.map fun b => Char.ofNat b.toNat) =
        received (frames.map Prod.snd)) ∧
      (frames.filter (·.1 = 0)).map Prod.snd = Server.texts 0 0 (serverEvents framesAnswered) := by
  have hsome : (((run framesAnswered).threads 0).out.map BufferedOutputStream.broken) =
      some false := by decide +kernel
  have hidle : ∀ c < 2, ((run framesAnswered).threads c).todo = [] := by decide +kernel
  have haccepted : (run framesAnswered).base.server.accepted = 2 := by decide +kernel
  have htexts : (Server.texts 0 0 (serverEvents framesAnswered)).length = 2 := by decide +kernel
  obtain ⟨o, hout, hworks⟩ := Option.map_eq_some_iff.1 hsome
  obtain ⟨frames, hfirst, hall, hfifo⟩ := client_frames_received 0 framesAnswered hout
  refine ⟨o, hout, htexts, frames, hfirst _ 3 ((List.take_prefix 40 _).map _),
    hall hworks fun c hmem => ?_, ?_⟩
  · by_cases hc : c < 2
    · rw [hidle c hc] at hmem
      exact absurd hmem List.not_mem_nil
    · rw [(ready_run framesAnswered).fresh c (by omega)] at hmem
      exact absurd hmem List.not_mem_nil
  · have hsent := hfifo 0
    rwa [hidle 0 (by omega), List.filterMap_nil, List.append_nil] at hsent

end ThreadPerClient

end WorldCupInformer
