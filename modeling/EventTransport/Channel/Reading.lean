import EventTransport.Channel.Basic

/-!
Contract: the read loop of a channel.

Owns:
- `Channel.readTurn`, what the read loop does next;
- what it makes of the answer when it has asked the stream for bytes.

Every complete frame in the buffer reaches the bus before the next bytes are asked for, and no more
bytes are asked for than the buffer has room for. An end of the stream closes the channel; so does a
failing stream or a frame that is not valid, and these are what the loop then ends with.

Main statement: a read loop that has ended stays ended.

Does not own: waiting for bytes.
-/

namespace EventTransport

/-- The greatest buffer that can be asked for. -/
def greatestBuffer : Nat := 9223372036854775807

namespace Channel

variable {H : Type}

/-- What the read loop does next. -/
inductive ReadTurn (H : Type) where
  /-- Nothing, ever again or before the channel is started. -/
  | rest
  /-- A step that needs nobody. -/
  | moved (channel : Channel H) (warnings : List Warning)
  /-- It asks for bytes, at most that many. -/
  | read (room : Nat)

/-- The end of the read loop, with the channel left as it is. -/
def dropReader (channel : Channel H) (outcome : Outcome) : Channel H :=
  { channel with reader := .ended, endings := channel.endings ++ [outcome] }

/-- The channel closed by its read loop. -/
def endReading (channel : Channel H) (outcome : Outcome) : Channel H :=
  channel.close.dropReader outcome

/-- A buffer without a whole frame, made ready for the next bytes: if it tells how long the frame
is, the rest of the frame is to fit. -/
def makeRoom (channel : Channel H) (buffer : ReadBuffer) : ReadBuffer :=
  let wanted := (Frame.announcedSize? buffer.held).getD 0 - buffer.held.length
  (buffer.reserve wanted).reserveIfFull channel.readSize

/-- The front of a buffer decoded: an event goes to the bus, and without one it is time to read. -/
def decodeTurn (channel : Channel H) (buffer : ReadBuffer) : Channel H × List Warning :=
  match channel.codec.decode buffer.held with
  | .error error => (channel.endReading (.error error), [.invalidFrame error])
  | .ok none =>
    ({ channel with reader := .awaiting (channel.makeRoom buffer) }.enter .reading, [])
  | .ok (some (event, taken)) =>
    ({ channel with reader := .decoding (buffer.drop taken) }.deliver event, [])

/-- What the read loop does next. One whose buffer cannot be had does not live to read. -/
def readTurn (channel : Channel H) : ReadTurn H :=
  match channel.reader with
  | .absent => .rest
  | .ended => .rest
  | .awaiting buffer =>
    if greatestBuffer < channel.config.readBufferSize then
      .moved (channel.dropReader (.error .taskJoin)) []
    else .read buffer.room
  | .decoding buffer =>
    let (after, warnings) := channel.decodeTurn buffer
    .moved after warnings

/-- Bytes have come. -/
def received (channel : Channel H) (bytes : Bytes) : Channel H :=
  match channel.reader with
  | .awaiting buffer =>
    { channel with reader := .decoding (buffer.append bytes) }.enter .dispatching
  | _ => channel

/-- The stream has ended, or the read loop was told to stop while it waited for bytes. -/
def readEnded (channel : Channel H) : Channel H := channel.endReading (.ok ())

/-- The stream failed. -/
def readFailed (channel : Channel H) (fault : StreamFault) : Channel H × List Warning :=
  (channel.endReading (.error (.stream fault)), [.readFailed fault])

/-- Whether the next step of the read loop calls the compressor. -/
def decompresses (channel : Channel H) : Bool :=
  match channel.reader with
  | .decoding buffer => channel.codec.decompresses buffer.held
  | _ => false

/-- The end of a read loop is recorded behind those of tasks that ended before. -/
@[simp] theorem endings_endReading (channel : Channel H) (outcome : Outcome) :
    (channel.endReading outcome).endings = channel.endings ++ [outcome] := rfl

end Channel

end EventTransport
