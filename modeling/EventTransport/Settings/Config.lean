import EventTransport.Frame.Codec
import EventTransport.Settings.Configurable
import EventTransport.Text.Blank

/-!
Contract: the settings of a channel.

Owns:
- `Config`, the frame limit, the read buffer and the low-latency switch, with their defaults;
- `Config.setOption`, one setting by key and text;
- `Config.configure`, the check that the limit is not zero.

Sizes are whole numbers of sixty-four bits. Texts are trimmed, and the words for truth values may be
in any case. A refused text leaves all settings alone; a limit of zero is set and then refused.
-/

namespace EventTransport

open EventTransport.Number

structure Config where
  /-- The greatest size of a body, in either direction. -/
  maxFrameSize : Nat := defaultLimit
  /-- The first size of the read buffer. -/
  readBufferSize : Nat := 8192
  /-- Whether small writes are sent at once. -/
  noDelay : Bool := true
deriving DecidableEq

namespace Config

/-- The sizes that a setting can hold. -/
def sizes : WholeRange := WholeRange.unsigned 64

def readSize (text : String) : Except ReadFault Nat :=
  match sizes.read (Text.trim text) with
  | .error fault => .error fault
  | .ok value => .ok value.toNat

def readSwitch (text : String) : Except ReadFault Bool :=
  readBool (Text.trim text.toLower)

/-- The settings after one that may have been refused. -/
def assign {value : Type} (config : Config) (key : String) (read : Except ReadFault value)
    (store : value → Config) : Applied Config :=
  match read with
  | .error fault => { state := config, result := .error (.config key (.unreadable fault)) }
  | .ok value => { state := store value }

/-- The settings after one of them has been given as a text. -/
def setOption (config : Config) (key text : String) : Applied Config :=
  if key = "max_frame_size" then
    config.assign key (readSize text) fun size => { config with maxFrameSize := size }
  else if key = "read_buffer_size" then
    config.assign key (readSize text) fun size => { config with readBufferSize := size }
  else if key = "nodelay" then
    config.assign key (readSwitch text) fun switch => { config with noDelay := switch }
  else { state := config, warnings := [.unknownSetting key] }

/-- The check of the settings as a whole. -/
def configure (config : Config) : Applied Config :=
  if config.maxFrameSize = 0 then
    { state := config, result := .error (.config "max_frame_size" .zeroLimit) }
  else { state := config }

instance : Configurable Config := ⟨setOption, configure⟩

end Config

/-- The codec that a configuration asks for. -/
def Codec.ofConfig (config : Config) : Codec := ⟨config.maxFrameSize, none⟩

end EventTransport
