import Mathlib

/-!
# UTF-8 with replacement

`decode` reads a list of bytes as UTF-8.  A byte that cannot continue the character begun, the end
of the list inside a character, and the three bytes of a surrogate give the replacement character
`U+FFFD`, one for each maximal part of a character; `encode` writes a text.

* `decode_encode`: a text that has been written is read back;
* `bytesOf`, `textOf`: the two directions for programs that work on bytes, which are shown as the
  characters below 256;
* `nul_notMem_decode`, `decode_concat_zero`: `U+0000` is read from a zero byte and from nothing
  else.
-/

namespace Utf8

/-- A character that has been begun: the bytes still to come, the bits so far, and the range of the
next byte. -/
structure Pending where
  owed : ℕ
  code : ℕ
  low : ℕ
  high : ℕ

/-- The character of a code, or the replacement character for a surrogate. -/
def scalar (code : ℕ) : Char := if code.isValidChar then Char.ofNat code else '\uFFFD'

/-- What follows the first byte of a character: an output, or a character begun. -/
def first (b : ℕ) : Option Char × Option Pending :=
  if b < 0x80 then (some (Char.ofNat b), none)
  else if 0xC2 ≤ b ∧ b ≤ 0xDF then (none, some ⟨1, b - 0xC0, 0x80, 0xBF⟩)
  else if b = 0xE0 then (none, some ⟨2, 0, 0xA0, 0xBF⟩)
  else if 0xE1 ≤ b ∧ b ≤ 0xEF then (none, some ⟨2, b - 0xE0, 0x80, 0xBF⟩)
  else if b = 0xF0 then (none, some ⟨3, 0, 0x90, 0xBF⟩)
  else if 0xF1 ≤ b ∧ b ≤ 0xF3 then (none, some ⟨3, b - 0xF0, 0x80, 0xBF⟩)
  else if b = 0xF4 then (none, some ⟨3, 4, 0x80, 0x8F⟩)
  else (some '\uFFFD', none)

/-- One byte: the characters it completes, and the character begun after it. -/
def next : Option Pending → ℕ → List Char × Option Pending
  | none, b => ((first b).1.toList, (first b).2)
  | some p, b =>
    if p.low ≤ b ∧ b ≤ p.high then
      let code := p.code * 64 + (b - 0x80)
      if p.owed = 1 then ([scalar code], none)
      else ([], some ⟨p.owed - 1, code, 0x80, 0xBF⟩)
    else ('\uFFFD' :: (first b).1.toList, (first b).2)

/-- Decoding from inside a character. -/
def decodeFrom : Option Pending → List UInt8 → List Char
  | none, [] => []
  | some _, [] => ['\uFFFD']
  | p, b :: bs => (next p b.toNat).1 ++ decodeFrom (next p b.toNat).2 bs

/-- The text of the bytes. -/
def decode (bs : List UInt8) : List Char := decodeFrom none bs

/-- The bytes of the text. -/
def encode (s : List Char) : List UInt8 := s.flatMap String.utf8EncodeChar

/-! ### Reading back what was written -/

theorem scalar_toNat (ch : Char) : scalar ch.toNat = ch := by
  have hvalid : ch.toNat.isValidChar := ch.valid
  rw [scalar, if_pos hvalid, Char.ofNat_toNat]

theorem decodeFrom_cons (p : Option Pending) {n : ℕ} (hn : n < 256) (bs : List UInt8) :
    decodeFrom p (UInt8.ofNat n :: bs) = (next p n).1 ++ decodeFrom (next p n).2 bs := by
  have hbyte : (UInt8.ofNat n).toNat = n := by simpa using Nat.mod_eq_of_lt hn
  cases p <;> simp [decodeFrom, hbyte]

/-- A byte that continues a character. -/
theorem next_of_owed {owed code low high n : ℕ} (hlow : low ≤ n) (hhigh : n ≤ high)
    (howed : owed ≠ 1) : next (some ⟨owed, code, low, high⟩) n =
      ([], some ⟨owed - 1, code * 64 + (n - 0x80), 0x80, 0xBF⟩) := by
  simp [next, hlow, hhigh, howed]

/-- A byte that completes a character. -/
theorem next_of_last {code low high n : ℕ} {x : Char} (hlow : low ≤ n) (hhigh : n ≤ high)
    (hcode : code * 64 + (n - 0x80) = x.toNat) :
    next (some ⟨1, code, low, high⟩) n = ([x], none) := by
  simp [next, hlow, hhigh, hcode, scalar_toNat]

theorem next_two {n : ℕ} (h : 0xC2 ≤ n) (h' : n ≤ 0xDF) :
    next none n = ([], some ⟨1, n - 0xC0, 0x80, 0xBF⟩) := by
  have hascii : ¬ n < 0x80 := by omega
  simp [next, first, hascii, h, h']

/-- A first byte of three; the one after `E0` has a smaller range. -/
theorem next_three {n : ℕ} (h : 0xE0 ≤ n) (h' : n ≤ 0xEF) : next none n =
    ([], some ⟨2, n - 0xE0, if n = 0xE0 then 0xA0 else 0x80, 0xBF⟩) := by
  have hascii : ¬ n < 0x80 := by omega
  have htwo : ¬ n ≤ 0xDF := by omega
  by_cases hE0 : n = 0xE0
  · simp [next, first, hE0]
  · have h'' : 0xE1 ≤ n := by omega
    simp [next, first, hascii, htwo, hE0, h', h'']

/-- A first byte of four; those after `F0` and `F4` have smaller ranges. -/
theorem next_four {n : ℕ} (h : 0xF0 ≤ n) (h' : n ≤ 0xF4) : next none n =
    ([], some ⟨3, n - 0xF0, if n = 0xF0 then 0x90 else 0x80, if n = 0xF4 then 0x8F else 0xBF⟩) := by
  have hascii : ¬ n < 0x80 := by omega
  have htwo : ¬ n ≤ 0xDF := by omega
  have hthree : ¬ n ≤ 0xEF := by omega
  have hE0 : n ≠ 0xE0 := by omega
  by_cases hF0 : n = 0xF0
  · simp [next, first, hF0]
  · by_cases hF4 : n = 0xF4
    · simp [next, first, hF4]
    · have h'' : 0xF1 ≤ n := by omega
      have h''' : n ≤ 0xF3 := by omega
      simp [next, first, hascii, htwo, hthree, hE0, hF0, hF4, h'', h''']

/-- One character is read back.  The cases are its four lengths. -/
theorem decodeFrom_encodeChar (ch : Char) (bs : List UInt8) :
    decodeFrom none (String.utf8EncodeChar ch ++ bs) = ch :: decodeFrom none bs := by
  have hmax : ch.toNat < 0x110000 := by
    have hvalid : ch.toNat.isValidChar := ch.valid
    rcases hvalid with h | h <;> omega
  have hval : ch.val.toNat = ch.toNat := rfl
  unfold String.utf8EncodeChar
  simp only [hval]
  split_ifs with h₁ h₂ h₃
  · rw [List.singleton_append, decodeFrom_cons none (by omega)]
    have hlt : ch.toNat < 0x80 := by omega
    simp [next, first, hlt]
  · rw [List.cons_append, List.singleton_append, decodeFrom_cons none (by omega),
      next_two (by omega) (by omega), decodeFrom_cons _ (by omega),
      next_of_last (x := ch) (by omega) (by omega) (by omega)]
    rfl
  · rw [List.cons_append, List.cons_append, List.singleton_append, decodeFrom_cons none (by omega),
      next_three (by omega) (by omega), decodeFrom_cons _ (by omega),
      next_of_owed (by split_ifs <;> omega) (by omega) (by omega), decodeFrom_cons _ (by omega),
      next_of_last (x := ch) (by omega) (by omega) (by omega)]
    rfl
  · rw [List.cons_append, List.cons_append, List.cons_append, List.singleton_append,
      decodeFrom_cons none (by omega), next_four (by omega) (by omega),
      decodeFrom_cons _ (by omega),
      next_of_owed (by split_ifs <;> omega) (by split_ifs <;> omega) (by omega),
      decodeFrom_cons _ (by omega), next_of_owed (by omega) (by omega) (by omega),
      decodeFrom_cons _ (by omega), next_of_last (x := ch) (by omega) (by omega) (by omega)]
    rfl

/-- **A text that has been written is read back.** -/
theorem decode_encode (s : List Char) : decode (encode s) = s := by
  unfold decode encode
  induction s with
  | nil => rfl
  | cons ch s ih => rw [List.flatMap_cons, decodeFrom_encodeChar, ih]

/-! ### Bytes as characters -/

/-- The bytes of a text, each shown as the character with its code. -/
def bytesOf (s : List Char) : List Char := (encode s).map fun b => Char.ofNat b.toNat

/-- The text of bytes that are shown as characters. -/
def textOf (s : List Char) : List Char := decode (s.map fun ch => UInt8.ofNat ch.toNat)

@[simp] theorem bytesOf_append (s t : List Char) : bytesOf (s ++ t) = bytesOf s ++ bytesOf t := by
  simp [bytesOf, encode]

theorem toNat_ofNat_of_valid {n : ℕ} (h : n.isValidChar) : (Char.ofNat n).toNat = n := by
  rw [Char.toNat_ofNat, if_pos h]

theorem ofNat_toNat_byte (b : UInt8) : UInt8.ofNat (Char.ofNat b.toNat).toNat = b := by
  have hvalid : b.toNat.isValidChar := .inl (by have := b.toNat_lt; omega)
  rw [toNat_ofNat_of_valid hvalid, UInt8.ofNat_toNat]

@[simp] theorem textOf_bytesOf (s : List Char) : textOf (bytesOf s) = s := by
  have hbytes : (bytesOf s).map (fun ch => UInt8.ofNat ch.toNat) = encode s := by
    simp [bytesOf, Function.comp_def, ofNat_toNat_byte]
  rw [textOf, hbytes, decode_encode]

theorem bytesOf_injective : Function.Injective bytesOf :=
  Function.LeftInverse.injective textOf_bytesOf

theorem encodeChar_of_ascii {ch : Char} (h : ch.toNat < 0x80) :
    String.utf8EncodeChar ch = [UInt8.ofNat ch.toNat] := by
  have hval : ch.val.toNat = ch.toNat := rfl
  unfold String.utf8EncodeChar
  simp only [hval]
  rw [if_pos (by omega)]

/-- A text of ASCII characters. -/
def Ascii (s : List Char) : Prop := ∀ ch ∈ s, ch.toNat < 0x80

@[simp] theorem ascii_nil : Ascii [] := by simp [Ascii]

@[simp] theorem ascii_cons {ch : Char} {s : List Char} :
    Ascii (ch :: s) ↔ ch.toNat < 0x80 ∧ Ascii s := by
  simp [Ascii]

theorem Ascii.append {s t : List Char} (hs : Ascii s) (ht : Ascii t) : Ascii (s ++ t) :=
  fun ch hch => (List.mem_append.1 hch).elim (hs ch) (ht ch)

/-- An ASCII text is its own bytes. -/
theorem bytesOf_of_ascii {s : List Char} (h : Ascii s) : bytesOf s = s := by
  induction s with
  | nil => rfl
  | cons ch s ih =>
    have hch := h ch List.mem_cons_self
    have hrest := ih fun ch' hch' => h ch' (List.mem_cons_of_mem ch hch')
    have hbyte : (UInt8.ofNat ch.toNat).toNat = ch.toNat := by
      simpa using Nat.mod_eq_of_lt (show ch.toNat < 256 by omega)
    have hone : bytesOf [ch] = [ch] := by simp [bytesOf, encode, encodeChar_of_ascii hch, hbyte]
    rw [← List.singleton_append, bytesOf_append, hone, hrest]

@[simp] theorem bytesOf_nil : bytesOf [] = [] := rfl

/-- An ASCII character is its own byte. -/
theorem bytesOf_cons {ch : Char} (h : ch.toNat < 0x80) (s : List Char) :
    bytesOf (ch :: s) = ch :: bytesOf s := by
  have hone : bytesOf [ch] = [ch] := bytesOf_of_ascii (by simp [h])
  rw [← List.singleton_append, bytesOf_append, hone, List.singleton_append]

theorem high_of_mem_encodeChar {ch : Char} (h : 0x80 ≤ ch.toNat) {b : UInt8}
    (hb : b ∈ String.utf8EncodeChar ch) : 0x80 ≤ b.toNat := by
  have hval : ch.val.toNat = ch.toNat := rfl
  unfold String.utf8EncodeChar at hb
  simp only [hval] at hb
  split_ifs at hb <;> simp only [List.mem_cons, List.not_mem_nil, or_false] at hb
  · omega
  · rcases hb with rfl | rfl <;> simp <;> omega
  · rcases hb with rfl | rfl | rfl <;> simp <;> omega
  · rcases hb with rfl | rfl | rfl | rfl <;> simp <;> omega

/-- An ASCII character stands in the bytes of a text exactly when it stands in the text. -/
theorem mem_bytesOf_iff {ch : Char} (h : ch.toNat < 0x80) {s : List Char} :
    ch ∈ bytesOf s ↔ ch ∈ s := by
  simp only [bytesOf, encode, List.mem_map, List.mem_flatMap]
  constructor
  · rintro ⟨b, ⟨ch', hmem, hb⟩, rfl⟩
    have hvalid : b.toNat.isValidChar := .inl (by have := b.toNat_lt; omega)
    rw [toNat_ofNat_of_valid hvalid] at h
    have hlow : ch'.toNat < 0x80 := by
      by_contra hhigh
      have := high_of_mem_encodeChar (not_lt.1 hhigh) hb
      omega
    rw [encodeChar_of_ascii hlow, List.mem_singleton] at hb
    have hback : (UInt8.ofNat ch'.toNat).toNat = ch'.toNat := by
      simpa using Nat.mod_eq_of_lt (show ch'.toNat < 256 by omega)
    rwa [hb, hback, Char.ofNat_toNat]
  · intro hmem
    refine ⟨UInt8.ofNat ch.toNat, ⟨ch, hmem, by simp [encodeChar_of_ascii h]⟩, ?_⟩
    have hback : (UInt8.ofNat ch.toNat).toNat = ch.toNat := by
      simpa using Nat.mod_eq_of_lt (show ch.toNat < 256 by omega)
    rw [hback, Char.ofNat_toNat]

/-! ### Zero bytes -/

/-- A character that has been begun: what continues it is not ASCII, and it is not `U+0000`. -/
structure Pending.Proper (p : Pending) : Prop where
  continued : 0x80 ≤ p.low
  nonzero : 0 < p.code ∨ 0x80 < p.low

theorem first_proper {n : ℕ} : ∀ p ∈ (first n).2, p.Proper := by
  intro p hp
  unfold first at hp
  split_ifs at hp <;> cases hp
  all_goals
    constructor
    · norm_num
    · simp only
      omega

theorem next_proper {p : Option Pending} (hp : ∀ q ∈ p, q.Proper) (n : ℕ) :
    ∀ q ∈ (next p n).2, q.Proper := by
  cases p with
  | none => exact first_proper
  | some p =>
    have hpos := (hp p rfl).nonzero
    simp only [next]
    split_ifs with hrange howed
    · exact nofun
    · intro q hq
      cases hq
      exact ⟨le_rfl, .inl (by simp only; omega)⟩
    · exact first_proper

theorem nul_ne_ofNat {n : ℕ} (hn : 0 < n) (hvalid : n.isValidChar) : '\x00' ≠ Char.ofNat n := by
  intro h
  have hzero : 0 = n := (congrArg Char.toNat h).trans (toNat_ofNat_of_valid hvalid)
  omega

theorem nul_notMem_first {n : ℕ} (hn : 0 < n) : '\x00' ∉ (first n).1.toList := by
  unfold first
  split_ifs with hascii
  · simpa using nul_ne_ofNat hn (.inl (by omega))
  all_goals simp

theorem nul_notMem_next {p : Option Pending} (hp : ∀ q ∈ p, q.Proper) {n : ℕ} (hn : 0 < n) :
    '\x00' ∉ (next p n).1 := by
  cases p with
  | none => exact nul_notMem_first hn
  | some p =>
    have hpos := (hp p rfl).nonzero
    simp only [next]
    split_ifs with hrange howed
    · rw [List.mem_singleton, scalar]
      split_ifs with hvalid
      · exact nul_ne_ofNat (by omega) hvalid
      · decide
    · exact List.not_mem_nil
    · simpa using nul_notMem_first hn

/-- Only a zero byte is read as `U+0000`. -/
theorem nul_notMem_decodeFrom {bs : List UInt8} (h : 0 ∉ bs) {p : Option Pending}
    (hp : ∀ q ∈ p, q.Proper) : '\x00' ∉ decodeFrom p bs := by
  induction bs generalizing p with
  | nil => cases p <;> simp [decodeFrom]
  | cons b bs ih =>
    obtain ⟨hb, hbs⟩ := not_or.1 (mt List.mem_cons.2 h)
    have hpos : 0 < b.toNat := Nat.pos_of_ne_zero fun hzero => hb (UInt8.toNat_inj.1 hzero.symm)
    have hfirst := nul_notMem_next hp hpos
    have hrest := ih hbs (next_proper hp b.toNat)
    cases p <;> simpa [decodeFrom] using ⟨hfirst, hrest⟩

/-- A zero byte ends whatever has been begun. -/
theorem decodeFrom_concat_zero (bs : List UInt8) {p : Option Pending} (hp : ∀ q ∈ p, q.Proper) :
    decodeFrom p (bs ++ [0]) = decodeFrom p bs ++ ['\x00'] := by
  induction bs generalizing p with
  | nil =>
    cases p with
    | none => rfl
    | some p =>
      have hlow := (hp p rfl).continued
      have hout : p.low ≠ 0 := by omega
      simp [decodeFrom, next, hout, first]
  | cons b bs ih =>
    have hrest := ih (next_proper hp b.toNat)
    cases p <;> simp [decodeFrom, hrest]

theorem nul_notMem_decode {bs : List UInt8} (h : 0 ∉ bs) : '\x00' ∉ decode bs :=
  nul_notMem_decodeFrom h nofun

theorem decode_concat_zero (bs : List UInt8) : decode (bs ++ [0]) = decode bs ++ ['\x00'] :=
  decodeFrom_concat_zero bs nofun

end Utf8
