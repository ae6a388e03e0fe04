import WorldCupInformer.Client.StompProtocol

/-!
# The receiving loop (`getFrameAscii`, `main` of `StompClient`)

The client reads bytes up to a NUL and passes what it has read to `processFrame`, unless it is
empty.

* `receive_eq`: what is passed on in any number of turns.
-/

namespace WorldCupInformer.Client

/-- `getFrameAscii`, on the bytes that come before the connection ends: the frame and the bytes left
over, or `none` when `getBytes` fails. -/
def getFrameAscii (delimiter : Char) : Str → Option (Str × Str)
  | [] => none
  | ch :: incoming =>
    let frame : Str := if ch ≠ '\x00' then [ch] else []
    if delimiter ≠ ch then (getFrameAscii delimiter incoming).map fun r => (frame ++ r.1, r.2)
    else some (frame, incoming)

/-- What the loop of `main` passes to `processFrame` in this many turns that read from the
connection. -/
def receive : ℕ → Str → List Str
  | 0, _ => []
  | turns + 1, incoming =>
    match getFrameAscii '\x00' incoming with
    | none => []
    | some (ans, rest) => if ans.length > 0 then ans :: receive turns rest else receive turns rest

theorem getFrameAscii_of_notMem {s : Str} (h : '\x00' ∉ s) : getFrameAscii '\x00' s = none := by
  induction s with
  | nil => rfl
  | cons ch s ih =>
    obtain ⟨hch, hs⟩ := not_or.1 (mt List.mem_cons.2 h)
    simp [getFrameAscii, hch, ih hs]

theorem getFrameAscii_append {l : Str} (h : '\x00' ∉ l) (rest : Str) :
    getFrameAscii '\x00' (l ++ '\x00' :: rest) = some (l, rest) := by
  induction l with
  | nil => rfl
  | cons ch l ih =>
    obtain ⟨hch, hl⟩ := not_or.1 (mt List.mem_cons.2 h)
    simp [getFrameAscii, hch, Ne.symm hch, ih hl]

/-- **What the loop passes on**: one piece of the stream a turn, without the empty ones. -/
theorem receive_eq (turns : ℕ) (incoming : Str) :
    receive turns incoming = ((Text.ended '\x00' incoming).take turns).filter (· ≠ []) := by
  induction turns generalizing incoming with
  | zero => rfl
  | succ turns ih =>
    rw [receive]
    by_cases h : '\x00' ∈ incoming
    · obtain ⟨l, rest, rfl, hl⟩ := List.eq_append_cons_of_mem h
      rw [getFrameAscii_append hl, Text.ended_append_cons hl, List.take_succ_cons]
      by_cases hnil : l = []
      · simp [hnil, ih]
      · simp [hnil, ih, List.length_pos_iff]
    · rw [getFrameAscii_of_notMem h, Text.ended_of_notMem h]
      simp

end WorldCupInformer.Client
