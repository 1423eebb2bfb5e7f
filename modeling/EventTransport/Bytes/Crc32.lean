import EventTransport.Bytes.Basic

/-!
Contract: the 32-bit cyclic redundancy check with the reflected polynomial `0xEDB88320`.

Owns:
- `Crc32.shift`, one bit of the division;
- `Crc32.feed`, one byte fed into a running remainder;
- `crc32`, the check of a byte string.

Does not own: where a frame keeps its checksum.
-/

namespace EventTransport

namespace Crc32

/-- The reflected generator polynomial. -/
def polynomial : UInt32 := 0xEDB88320

/-- One step of the division: the lowest bit leaves, and takes the polynomial with it if set. -/
def shift (remainder : UInt32) : UInt32 :=
  if remainder &&& 1 = 1 then (remainder >>> 1) ^^^ polynomial else remainder >>> 1

/-- A byte enters at the low end and is divided out by eight shifts. -/
def feed (remainder : UInt32) (byte : UInt8) : UInt32 :=
  shift (shift (shift (shift (shift (shift (shift (shift (remainder ^^^ byte.toUInt32))))))))

/-- The remainder after all bytes of a string, from a given start. -/
def run (start : UInt32) (bytes : Bytes) : UInt32 :=
  bytes.foldl feed start

@[simp] theorem run_nil (start : UInt32) : run start [] = start := rfl

theorem run_append (start : UInt32) (front back : Bytes) :
    run start (front ++ back) = run (run start front) back := by
  simp [run]

end Crc32

/-- The check of a byte string: all ones at the start, complemented at the end. -/
def crc32 (bytes : Bytes) : UInt32 :=
  Crc32.run 0xFFFFFFFF bytes ^^^ 0xFFFFFFFF

end EventTransport
