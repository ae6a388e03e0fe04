import WorldCupInformer.Client.StompProtocol
import WorldCupInformer.Server.SentFrames

/-!
# Framing from the client to the server

`sendFrameAscii` writes a frame and a NUL; the decoder of the server pushes every byte into an array
that it doubles when it is full and never clears.

* `Sized.decodeBytes`: for frames of less than `2 ^ 30` bytes the array has at most `2 ^ 30`, and
  `len * 2` is an `int`;
* `frame_stream_recovered`: the decoder returns the frames at their NULs, and nothing elsewhere.
-/

namespace WorldCupInformer

open Client

namespace LineMessageEncoderDecoder

/-- What `decodeNextByte` returns on each of the bytes. -/
def results (d : LineMessageEncoderDecoder) : List UInt8 → List (Option Str)
  | [] => []
  | b :: bytes => (d.decodeNextByte b).2 :: (d.decodeNextByte b).1.results bytes

variable {d : LineMessageEncoderDecoder}

/-! ### What is returned -/

/-- A byte that is no NUL. -/
theorem decodeNextByte_of_ne {b : UInt8} (hb : b ≠ 0) (d : LineMessageEncoderDecoder) :
    d.decodeNextByte b = (d.pushByte b, none) := by
  rw [decodeNextByte, if_neg hb]

/-- A NUL completes the message; the bytes of the array stay where they are. -/
theorem Sound.decodeNextByte_zero (hd : d.Sound) : d.decodeNextByte 0 =
    ({ d.pushByte 0 with len := 0 }, some (Utf8.decode (d.bytes.take d.len ++ [0]))) := by
  rw [decodeNextByte, if_pos rfl, popString, (hd.pushByte 0).2]

/-- **One frame**: nothing on its bytes, and its message on the NUL. -/
theorem Sound.results_frame (hd : d.Sound) {frame : List UInt8} (hfree : 0 ∉ frame)
    (rest : List UInt8) : ∃ d' : LineMessageEncoderDecoder, d'.Sound ∧ d'.len = 0 ∧
      d.results (frame ++ 0 :: rest) = List.replicate frame.length none ++
        some (Utf8.decode (d.bytes.take d.len ++ frame ++ [0])) :: d'.results rest := by
  induction frame generalizing d with
  | nil =>
    refine ⟨{ d.pushByte 0 with len := 0 }, ⟨Nat.zero_le _, (hd.pushByte 0).1.pos⟩, rfl, ?_⟩
    simp [results, hd.decodeNextByte_zero]
  | cons b frame ih =>
    rw [List.mem_cons, not_or] at hfree
    obtain ⟨hpush, htake⟩ := hd.pushByte b
    obtain ⟨d', hd', hlen, hresults⟩ := ih hpush hfree.2
    refine ⟨d', hd', hlen, ?_⟩
    rw [htake] at hresults
    rw [List.cons_append, results, decodeNextByte_of_ne (Ne.symm hfree.1), hresults,
      List.length_cons, List.replicate_succ]
    simp

/-- The frames of a stream are returned one by one. -/
theorem Sound.results_frames (hd : d.Sound) (hlen : d.len = 0) {frames : List (List UInt8)}
    (hfree : ∀ frame ∈ frames, 0 ∉ frame) : d.results (frames.flatMap (· ++ [0])) =
      frames.flatMap fun frame =>
        List.replicate frame.length none ++ [some (Utf8.decode (frame ++ [0]))] := by
  induction frames generalizing d with
  | nil => rfl
  | cons frame frames ih =>
    obtain ⟨hframe, hframes⟩ := List.forall_mem_cons.1 hfree
    obtain ⟨d', hd', hlen', hresults⟩ := hd.results_frame hframe (frames.flatMap (· ++ [0]))
    have hstream : (frame :: frames).flatMap (· ++ [0]) =
        frame ++ 0 :: frames.flatMap (· ++ [0]) := by simp
    rw [hstream, hresults, ih hd' hlen' hframes, hlen]
    simp

/-! ### How far the array grows -/

/-- The array has been doubled at most twenty times. -/
structure Sized (d : LineMessageEncoderDecoder) : Prop extends d.Sound where
  doubled : ∃ n ≤ 20, d.bytes.length = 2 ^ (10 + n)

theorem sized_init : ({} : LineMessageEncoderDecoder).Sized :=
  ⟨sound_init, 0, Nat.zero_le _, by rw [initialBytes, List.length_replicate]; rfl⟩

theorem Sized.length_le (hd : d.Sized) : d.bytes.length ≤ 2 ^ 30 := by
  obtain ⟨n, hn, hlength⟩ := hd.doubled
  rw [hlength]
  exact Nat.pow_le_pow_right (by norm_num) (by omega)

theorem length_pushByte (d : LineMessageEncoderDecoder) (b : UInt8) : (d.pushByte b).bytes.length =
    if d.bytes.length ≤ d.len then max d.bytes.length (d.len * 2) else d.bytes.length := by
  unfold pushByte
  split_ifs with hfull
  · simp [copyOf]
    omega
  · exact List.length_set

/-- A full array is shorter than `2 ^ 30`, and is doubled. -/
theorem Sized.pushByte (hd : d.Sized) (hlen : d.len < 2 ^ 30) (b : UInt8) :
    (d.pushByte b).Sized := by
  refine ⟨(hd.toSound.pushByte b).1, ?_⟩
  obtain ⟨n, hn, hlength⟩ := hd.doubled
  rw [length_pushByte]
  split_ifs with hfull
  · have heq : d.len = 2 ^ (10 + n) := by rw [← hlength]; exact le_antisymm hd.len_le hfull
    have hlt : n < 20 := by
      by_contra hge
      have hpow : 2 ^ 30 ≤ 2 ^ (10 + n) := Nat.pow_le_pow_right (by norm_num) (by omega)
      omega
    have hdouble : 2 ^ (10 + n) * 2 = 2 ^ (10 + (n + 1)) := (pow_succ 2 (10 + n)).symm
    refine ⟨n + 1, hlt, ?_⟩
    rw [hlength, heq, hdouble]
    exact max_eq_right (Nat.pow_le_pow_right (by norm_num) (by omega))
  · exact ⟨n, hn, hlength⟩

/-- Every byte of the stream finds fewer than `2 ^ 30` bytes of its frame before it. -/
def Fits (len : ℕ) : List UInt8 → Prop
  | [] => True
  | b :: bytes => len < 2 ^ 30 ∧ Fits (if b = 0 then 0 else len + 1) bytes

theorem Fits.of_append {len : ℕ} {bytes rest : List UInt8} (h : Fits len (bytes ++ rest)) :
    Fits len bytes := by
  induction bytes generalizing len with
  | nil => trivial
  | cons b bytes ih => exact ⟨h.1, ih h.2⟩

theorem fits_frame {len : ℕ} {frame rest : List UInt8} (hfree : 0 ∉ frame)
    (hlen : len + frame.length < 2 ^ 30) (hrest : Fits 0 rest) :
    Fits len (frame ++ 0 :: rest) := by
  induction frame generalizing len with
  | nil => exact ⟨hlen, by rwa [if_pos rfl]⟩
  | cons b frame ih =>
    rw [List.mem_cons, not_or] at hfree
    rw [List.length_cons] at hlen
    refine ⟨by omega, ?_⟩
    rw [if_neg (Ne.symm hfree.1)]
    exact ih hfree.2 (by omega)

theorem fits_frames {frames : List (List UInt8)}
    (h : ∀ frame ∈ frames, 0 ∉ frame ∧ frame.length < 2 ^ 30) :
    Fits 0 (frames.flatMap (· ++ [0])) := by
  induction frames with
  | nil => trivial
  | cons frame frames ih =>
    obtain ⟨⟨hfree, hlen⟩, hrest⟩ := List.forall_mem_cons.1 h
    have hfits : Fits 0 (frame ++ 0 :: frames.flatMap (· ++ [0])) :=
      fits_frame hfree (by rwa [zero_add]) (ih hrest)
    simpa using hfits

theorem len_decodeNextByte (d : LineMessageEncoderDecoder) (b : UInt8) :
    (d.decodeNextByte b).1.len = if b = 0 then 0 else d.len + 1 := by
  unfold decodeNextByte
  split_ifs <;> rfl

theorem Sized.decodeNextByte (hd : d.Sized) (hlen : d.len < 2 ^ 30) (b : UInt8) :
    (d.decodeNextByte b).1.Sized := by
  have hpush := hd.pushByte hlen b
  unfold LineMessageEncoderDecoder.decodeNextByte
  split_ifs
  · exact ⟨⟨Nat.zero_le _, hpush.pos⟩, hpush.doubled⟩
  · exact hpush

theorem Sized.decodeBytes (hd : d.Sized) {bytes : List UInt8} (hfits : Fits d.len bytes) :
    (d.decodeBytes bytes).1.Sized := by
  induction bytes generalizing d with
  | nil => exact hd
  | cons b bytes ih =>
    refine ih (hd.decodeNextByte hfits.1 b) ?_
    rw [len_decodeNextByte]
    exact hfits.2

/-- The decoder has delivered some frames and has read nothing since. -/
def AfterFrames (d : LineMessageEncoderDecoder) : Prop :=
  ∃ frames : List (List UInt8), (∀ frame ∈ frames, 0 ∉ frame ∧ frame.length < 2 ^ 30) ∧
    d = (({} : LineMessageEncoderDecoder).decodeBytes (frames.flatMap (· ++ [0]))).1

theorem len_decodeBytes_concat (d : LineMessageEncoderDecoder) (bytes : List UInt8) :
    (d.decodeBytes (bytes ++ [0])).1.len = 0 := by
  rw [decodeBytes_append]
  exact len_decodeNextByte _ 0

theorem afterFrames_of_frame {frame : List UInt8} (hfree : 0 ∉ frame)
    (hlength : frame.length < 2 ^ 30) :
    AfterFrames (({} : LineMessageEncoderDecoder).decodeBytes (frame ++ [0])).1 :=
  ⟨[frame], List.forall_mem_singleton.2 ⟨hfree, hlength⟩, by
    rw [List.flatMap_singleton]⟩

theorem AfterFrames.sized (hd : AfterFrames d) : d.Sized := by
  obtain ⟨frames, hframes, rfl⟩ := hd
  exact sized_init.decodeBytes (fits_frames hframes)

theorem AfterFrames.len (hd : AfterFrames d) : d.len = 0 := by
  obtain ⟨frames, -, rfl⟩ := hd
  rcases List.eq_nil_or_concat frames with rfl | ⟨frames, frame, rfl⟩
  · rfl
  · have hends : (frames.concat frame).flatMap (· ++ [0]) =
        frames.flatMap (· ++ [0]) ++ frame ++ [0] := by simp
    rw [hends]
    exact len_decodeBytes_concat _ _

end LineMessageEncoderDecoder

/-! ### What the client writes -/

/-- `sendFrameAscii` of one frame after the other. -/
def sendEach (handler : Client.ConnectionHandler) (frames : List Str) : Client.ConnectionHandler :=
  frames.foldl (fun handler frame => (handler.sendFrameAscii (Utf8.bytesOf frame) '\x00').1) handler

/-- The bytes a client has written after these frames. -/
def clientBytes (frames : List Str) : List UInt8 :=
  (sendEach { writable := true } frames).written.map fun ch => UInt8.ofNat ch.toNat

theorem written_sendEach (frames : List Str) {handler : Client.ConnectionHandler}
    (h : handler.writable = true) : (sendEach handler frames).written =
      handler.written ++ frames.flatMap fun frame => Utf8.bytesOf frame ++ ['\x00'] := by
  unfold sendEach
  induction frames generalizing handler with
  | nil => simp
  | cons frame frames ih =>
    have hsent : (handler.sendFrameAscii (Utf8.bytesOf frame) '\x00').1 =
        { handler with written := handler.written ++ Utf8.bytesOf frame ++ ['\x00'] } := by
      rw [Client.ConnectionHandler.sendFrameAscii, if_pos h]
    have hrest := @ih
      { handler with written := handler.written ++ Utf8.bytesOf frame ++ ['\x00'] } h
    rw [List.foldl_cons, hsent, hrest]
    simp

theorem clientBytes_eq (frames : List Str) :
    clientBytes frames = (frames.map Utf8.encode).flatMap (· ++ [0]) := by
  have hback : ∀ frame, (Utf8.bytesOf frame).map (fun ch => UInt8.ofNat ch.toNat) =
      Utf8.encode frame := by
    intro frame
    rw [Utf8.bytesOf, List.map_map]
    exact List.map_id'' Utf8.ofNat_toNat_byte _
  have hnul : UInt8.ofNat '\x00'.toNat = 0 := rfl
  rw [clientBytes, written_sendEach frames rfl, List.nil_append, List.map_flatMap,
    List.flatMap_map]
  refine List.flatMap_congr fun frame _ => ?_
  rw [List.map_append, hback, List.map_singleton, hnul]

/-- **The decoder recovers every frame stream**: from every state after complete frames it returns
nothing on the bytes of a frame, and the frame with a NUL on its NUL; and no array it makes is
longer than `2 ^ 30`. -/
theorem frame_stream_recovered {d : LineMessageEncoderDecoder} (hd : d.AfterFrames)
    {frames : List Str}
    (hframes : ∀ t ∈ frames, '\x00' ∉ t ∧ (Utf8.encode t).length < 2 ^ 30) :
    d.results (clientBytes frames) = (frames.flatMap fun t =>
      List.replicate (Utf8.encode t).length none ++ [some (t ++ lit "\x00")]) ∧
    ∀ bytes, bytes <+: clientBytes frames → (d.decodeBytes bytes).1.bytes.length ≤ 2 ^ 30 := by
  have hencoded : ∀ frame ∈ frames.map Utf8.encode, 0 ∉ frame ∧ frame.length < 2 ^ 30 := by
    intro frame hframe
    obtain ⟨t, ht, rfl⟩ := List.mem_map.1 hframe
    exact ⟨zero_notMem_encode (hframes t ht).1, (hframes t ht).2⟩
  constructor
  · have hresults := hd.sized.results_frames hd.len fun frame hframe => (hencoded frame hframe).1
    rw [clientBytes_eq, hresults, List.flatMap_map]
    refine List.flatMap_congr fun t _ => ?_
    rw [Utf8.decode_concat_zero, Utf8.decode_encode]
    rfl
  · rintro bytes ⟨rest, hrest⟩
    have hfits := LineMessageEncoderDecoder.fits_frames hencoded
    rw [← clientBytes_eq, ← hrest] at hfits
    have hprefix : LineMessageEncoderDecoder.Fits d.len bytes := by
      rw [hd.len]
      exact hfits.of_append
    exact (hd.sized.decodeBytes hprefix).length_le

/-- A long frame has been decoded, and two short ones follow, the first of them empty. -/
theorem afterLong_recovered :
    (({} : LineMessageEncoderDecoder).decodeBytes (List.replicate 3000 65 ++ [0])).1.results
      (clientBytes [lit "", lit "é"]) =
        [some (lit "\x00"), none, none, some (lit "é\x00")] := by
  have hfree : (0 : UInt8) ∉ List.replicate 3000 65 :=
    fun h => absurd (List.eq_of_mem_replicate h) (by decide)
  have hlength : (List.replicate 3000 (65 : UInt8)).length < 2 ^ 30 := by
    rw [List.length_replicate]
    norm_num
  have hlong := LineMessageEncoderDecoder.afterFrames_of_frame hfree hlength
  have hshort : ∀ t ∈ [lit "", lit "é"], '\x00' ∉ t ∧ (Utf8.encode t).length < 2 ^ 30 := by
    decide
  exact (frame_stream_recovered hlong hshort).1

end WorldCupInformer
