import EventTransport.Text.Hex

/-!
Contract: the option bits of an event, the second byte of its frames.

Owns:
- `Options`, all eight bits, the four named ones and those of the peer;
- containment, union and difference of option sets, and their text.

Main statements: a set contains what was inserted, and nothing of what was removed.
-/

namespace EventTransport

/-- A set of option bits. Bits without a name are kept as they came. -/
structure Options where
  bits : UInt8
deriving DecidableEq, Inhabited

namespace Options

def empty : Options := ⟨0⟩

/-- The body is an opaque payload, not property records. -/
def noFormat : Options := ⟨1⟩

/-- The body went through the compressor. -/
def compressed : Options := ⟨2⟩

/-- The event is meant for local consumers only. -/
def isLocal : Options := ⟨4⟩

/-- The event is meant for everyone. -/
def broadcast : Options := ⟨8⟩

/-- The bits without a name. -/
def unknownBits (options : Options) : UInt8 := options.bits &&& 0xF0

/-- Whether all bits of `other` are set. -/
def contains (options other : Options) : Bool := options.bits &&& other.bits = other.bits

def insert (options other : Options) : Options := ⟨options.bits ||| other.bits⟩

/-- The bits that are not in `other`. -/
def remove (options other : Options) : Options := ⟨options.bits &&& ~~~other.bits⟩

def isEmpty (options : Options) : Bool := options = empty

/-- The named bits with their names, lowest first. -/
def names : List (Options × String) :=
  [(noFormat, "NoFormat"), (compressed, "Compressed"), (isLocal, "IsLocal"),
    (broadcast, "Broadcast")]

/-- The names of the set bits, then the bits without a name as one number; a dash for no bit. -/
def text (options : Options) : String :=
  let named := (names.filter fun entry => options.contains entry.1).map Prod.snd
  let unknown :=
    if options.unknownBits = 0 then [] else ["0x" ++ Text.hexPadded 2 options.unknownBits.toNat]
  match named ++ unknown with
  | [] => "-"
  | parts => "|".intercalate parts

theorem contains_insert (options other : Options) :
    (options.insert other).contains other = true := by
  simp only [contains, insert, decide_eq_true_eq, ← UInt8.toBitVec_inj, UInt8.toBitVec_and,
    UInt8.toBitVec_or]
  ext index
  simp
  intro set
  exact .inr set

theorem and_bits_remove (options other : Options) :
    (options.remove other).bits &&& other.bits = 0 := by
  simp only [remove, ← UInt8.toBitVec_inj, UInt8.toBitVec_and, UInt8.toBitVec_not]
  ext index
  simp

end Options

end EventTransport
