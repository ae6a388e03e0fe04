import WorldCupInformer.Client.StompClient
import WorldCupInformer.Server.SentFrames
import WorldCupInformer.Session.Session

/-!
# Framing from the server to the client

`encode` appends a NUL to a frame that ends with one already; the client cuts the stream at every
NUL and passes over the empty frames.

* `received_eq`, `delivered_eq`: the two directions of a session are what the code reads;
* `framing_lossless`: the client passes on what the server has sent.
-/

namespace WorldCupInformer

open Client Server

/-- The bytes of the frames on the connection. -/
def streamOf (frames : List Str) : Str :=
  (frames.flatMap LineMessageEncoderDecoder.encode).map fun b => Char.ofNat b.toNat

theorem streamOf_eq (frames : List Str) :
    streamOf frames = Utf8.bytesOf (frames.flatMap (· ++ lit "\x00")) := by
  have hencode : frames.flatMap LineMessageEncoderDecoder.encode =
      Utf8.encode (frames.flatMap (· ++ lit "\x00")) := by
    simp only [Utf8.encode, List.flatMap_assoc]
    rfl
  rw [streamOf, hencode]
  rfl

/-- The session receives what the loop passes on in enough turns. -/
theorem received_eq (texts : List Str) {turns : ℕ}
    (hturns : (Text.ended '\x00' (streamOf texts)).length ≤ turns) :
    receive turns (streamOf texts) = received texts := by
  have hpieces : (Text.pieces ['\x00'] (streamOf texts)).filter (· ≠ []) =
      (Text.ended '\x00' (streamOf texts)).filter (· ≠ []) := by
    rcases List.eq_nil_or_concat texts with rfl | ⟨texts, text, rfl⟩
    · rfl
    · have hends : streamOf (texts.concat text) =
          Utf8.bytesOf (texts.flatMap (· ++ lit "\x00") ++ text) ++ ['\x00'] := by
        rw [streamOf_eq]
        simp [bytesOf_nul]
        rfl
      have hnil : Text.pieces ['\x00'] [] = [[]] := rfl
      rw [Text.ended, hends, Text.pieces_append_separator, hnil, List.dropLast_concat]
      simp
  rw [receive_eq, List.take_of_length_le hturns, received, ← streamOf_eq]
  exact hpieces.symm

/-- The session delivers what the decoder makes of the bytes. -/
theorem delivered_eq (bytes : List UInt8) :
    delivered (bytes.map fun b => Char.ofNat b.toNat) =
      (({} : LineMessageEncoderDecoder).decodeBytes bytes).2 := by
  have hzero : ∀ b : UInt8, Char.ofNat b.toNat = '\x00' ↔ b = 0 := by
    intro b
    constructor
    · intro h
      have hback := Utf8.ofNat_toNat_byte b
      rw [h] at hback
      exact hback.symm
    · rintro rfl
      rfl
  have hended : Text.ended '\x00' (bytes.map fun b => Char.ofNat b.toNat) =
      (Text.ended 0 bytes).map (List.map fun b => Char.ofNat b.toNat) := by
    induction hn : bytes.length using Nat.strong_induction_on generalizing bytes with
    | _ n ih =>
      by_cases h : 0 ∈ bytes
      · obtain ⟨l, rest, rfl, hl⟩ := List.eq_append_cons_of_mem h
        have hl' : '\x00' ∉ l.map fun b => Char.ofNat b.toNat := by
          simpa [hzero] using hl
        have hlt : rest.length < n := by
          rw [← hn]
          simp
          omega
        have hrest := ih rest.length hlt rest rfl
        rw [List.map_append, List.map_cons, (hzero 0).2 rfl, Text.ended_append_cons hl',
          Text.ended_append_cons hl, hrest, List.map_cons]
      · have h' : '\x00' ∉ bytes.map fun b => Char.ofNat b.toNat := by
          simpa [hzero] using h
        rw [Text.ended_of_notMem h, Text.ended_of_notMem h']
        rfl
  rw [LineMessageEncoderDecoder.decodeBytes_init]
  refine (congrArg (List.map _) hended).trans ?_
  rw [List.map_map]
  refine List.map_congr_left fun bs _ => ?_
  have hback : (bs.map fun b => Char.ofNat b.toNat).map (fun ch => UInt8.ofNat ch.toNat) = bs := by
    rw [List.map_map]
    exact List.map_id'' Utf8.ofNat_toNat_byte bs
  simp only [Function.comp, Utf8.textOf, List.map_append, hback]
  rfl

/-- The pieces of the stream: every frame without its NUL, and the empty text between its NUL and
the one that `encode` has added. -/
theorem ended_streamOf {texts : List Str} (h : ∀ t ∈ texts, '\x00' ∉ t) :
    Text.ended '\x00' (streamOf (texts.map (· ++ lit "\x00"))) =
      texts.flatMap fun t => [Utf8.bytesOf t, []] := by
  rw [streamOf_eq, bytesOf_flatMap]
  exact Text.ended_flatMap (nul_notMem_of_mem_frames h)

/-- Two turns for each frame, of which the second passes nothing on. -/
theorem filter_take_frames {texts : List Str} (h : ∀ t ∈ texts, t ≠ []) (turns : ℕ) :
    ((texts.flatMap fun t => [Utf8.bytesOf t, []]).take turns).filter (· ≠ []) =
      (texts.map Utf8.bytesOf).take ((turns + 1) / 2) := by
  induction texts generalizing turns with
  | nil => simp
  | cons t texts ih =>
    obtain ⟨ht, hrest⟩ := List.forall_mem_cons.1 h
    have hbytes : Utf8.bytesOf t ≠ [] := fun hnil => ht (Utf8.bytesOf_injective hnil)
    rcases turns with _ | _ | turns
    · rfl
    · simp [hbytes]
    · have hhalf : (turns + 1 + 1 + 1) / 2 = (turns + 1) / 2 + 1 := by omega
      rw [hhalf, List.map_cons, List.take_succ_cons, ← ih hrest turns]
      simp [hbytes]

/-- **No frame is lost, split, joined or invented.**  The frames that the server sends to a
connection end with their only NUL.  A client that makes some turns on their stream has passed on so
many first frames, two turns for each, without their NULs; on a stream that breaks off, it passes on
some first frames. -/
theorem framing_lossless (d : ConnectionHandler) (frames : List Str)
    (hframes : ∀ frame ∈ frames, Sends d frame) :
    ∃ texts : List Str, frames = texts.map (· ++ lit "\x00") ∧
      (∀ t ∈ texts, t ≠ [] ∧ '\x00' ∉ t) ∧
      (∀ turns, receive turns (streamOf frames) =
        (texts.map Utf8.bytesOf).take ((turns + 1) / 2)) ∧
      ∀ turns incoming, incoming <+: streamOf frames →
        receive turns incoming <+: texts.map Utf8.bytesOf := by
  obtain ⟨texts, rfl, htexts⟩ : ∃ texts : List Str, texts.map (· ++ lit "\x00") = frames ∧
      ∀ t ∈ texts, t ≠ [] ∧ '\x00' ∉ t := by
    induction frames with
    | nil => exact ⟨[], rfl, by simp⟩
    | cons frame frames ih =>
      obtain ⟨hframe, hrest⟩ := List.forall_mem_cons.1 hframes
      obtain ⟨t, hne, hnul, rfl⟩ := nulEnded_of_sends hframe
      obtain ⟨texts, rfl, htexts⟩ := ih hrest
      exact ⟨t :: texts, rfl, List.forall_mem_cons.2 ⟨⟨hne, hnul⟩, htexts⟩⟩
  have hended := ended_streamOf fun t ht => (htexts t ht).2
  have hreceive : ∀ turns, receive turns (streamOf (texts.map (· ++ lit "\x00"))) =
      (texts.map Utf8.bytesOf).take ((turns + 1) / 2) := by
    intro turns
    rw [receive_eq, hended, filter_take_frames fun t ht => (htexts t ht).1]
  refine ⟨texts, rfl, htexts, hreceive, fun turns incoming hpre => ?_⟩
  obtain ⟨rest, hrest⟩ := hpre
  have hpieces : (Text.ended '\x00' incoming).take turns <+:
      Text.ended '\x00' (streamOf (texts.map (· ++ lit "\x00"))) := by
    rw [← hrest]
    exact (List.take_prefix turns _).trans (Text.ended_append incoming rest)
  have hall : (Text.ended '\x00' (streamOf (texts.map (· ++ lit "\x00")))).filter (· ≠ []) =
      texts.map Utf8.bytesOf := by
    have henough := received_eq (texts.map (· ++ lit "\x00")) le_rfl
    rw [received_map htexts, receive_eq, List.take_length] at henough
    exact henough
  rw [receive_eq, ← hall]
  exact hpieces.filter _

/-- The answers to a login and to a subscription. -/
def bobFrames : List Str :=
  ["CONNECTED\nversion: 1.2\n\n\x00", "RECEIPT\nreceipt - id :0\n\n\x00"]

theorem bobFrames_sent : ∀ frame ∈ bobFrames, Sends ⟨0⟩ frame := by
  have hlogin : AllDelivered Session.bobLogin := by
    have hconnect := delivered_concat
      (t := "CONNECT\naccept - version :1.2\nhost :h\nlogin :bob\npasscode :pw\n\n") (by decide)
    have haccept : AllDelivered [.accept] := fun c msg hmem => by simp at hmem
    exact allDelivered_append.2 ⟨haccept, allDelivered_message.2 hconnect⟩
  have hsubscribe := delivered_concat
    (t := "SUBSCRIBE\ndestination :/a\nid :0\nreceipt :0\n\n") (by decide)
  refine List.forall_mem_cons.2 ⟨?_, List.forall_mem_singleton.2 ?_⟩
  · exact ⟨[.accept], _, hlogin, by decide +kernel⟩
  · exact ⟨Session.bobLogin, .message 0 _,
      allDelivered_append.2 ⟨hlogin, allDelivered_message.2 hsubscribe⟩, by decide +kernel⟩

theorem bobFrames_lossless : ∃ texts : List Str, bobFrames = texts.map (· ++ lit "\x00") ∧
    (∀ t ∈ texts, t ≠ [] ∧ '\x00' ∉ t) ∧
    (∀ turns, receive turns (streamOf bobFrames) =
      (texts.map Utf8.bytesOf).take ((turns + 1) / 2)) ∧
    ∀ turns incoming, incoming <+: streamOf bobFrames →
      receive turns incoming <+: texts.map Utf8.bytesOf :=
  framing_lossless ⟨0⟩ bobFrames bobFrames_sent

end WorldCupInformer
