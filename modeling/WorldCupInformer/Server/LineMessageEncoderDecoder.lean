import WorldCupInformer.Lib.Utf8
import WorldCupInformer.Server.Java

/-!
# Bytes and messages (`LineMessageEncoderDecoder`)

The decoder of a connection collects bytes in an array until a NUL comes, which completes a
message and belongs to it.  The array only grows; `len` tells which of its bytes count.
-/

namespace WorldCupInformer

/-- `new byte[1 << 10]`. -/
def initialBytes : List UInt8 := List.replicate (1 <<< 10) 0

/-- The fields of `LineMessageEncoderDecoder`. -/
structure LineMessageEncoderDecoder where
  bytes : List UInt8 := initialBytes
  len : ℕ := 0

/-- `Arrays.copyOf`. -/
def copyOf (bytes : List UInt8) (newLength : ℕ) : List UInt8 :=
  bytes.take newLength ++ List.replicate (newLength - bytes.length) 0

namespace LineMessageEncoderDecoder

/-- `pushByte`. -/
def pushByte (d : LineMessageEncoderDecoder) (nextByte : UInt8) : LineMessageEncoderDecoder :=
  let bytes := if d.len ≥ d.bytes.length then copyOf d.bytes (d.len * 2) else d.bytes
  { bytes := bytes.set d.len nextByte, len := d.len + 1 }

/-- `popString`. -/
def popString (d : LineMessageEncoderDecoder) : LineMessageEncoderDecoder × Str :=
  ({ d with len := 0 }, Utf8.decode (d.bytes.take d.len))

/-- `decodeNextByte`: the message completed by the byte, if any. -/
def decodeNextByte (d : LineMessageEncoderDecoder) (nextByte : UInt8) :
    LineMessageEncoderDecoder × Option Str :=
  if nextByte = 0 then
    let popped := (d.pushByte nextByte).popString
    (popped.1, some popped.2)
  else (d.pushByte nextByte, none)

/-- `encode`. -/
def encode (message : Str) : List UInt8 := Utf8.encode (message ++ lit "\x00")

end LineMessageEncoderDecoder

end WorldCupInformer
