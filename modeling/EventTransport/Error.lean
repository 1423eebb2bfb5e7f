import EventTransport.Number.Whole
import EventTransport.Json.Value
import EventTransport.Text.Escaped

/-!
Contract: why an operation of the transport fails.

Owns:
- the causes of failure, apart for frames, compressors, settings and streams;
- `Error`, all of them together, with its wording and whether it ends a channel.

Does not own: warnings, which do not make an operation fail.
-/

namespace EventTransport

open EventTransport.Number

inductive FormatFault where
  | misplacedFooter
  | unterminatedRecord
  | missingSeparator
  | keyNotUtf8
  | valueNotUtf8
  | emptyKey
  | propertiesBesidePayload
  | payloadBesideProperties
  | separatorInProperty (key : String)
  | noCompressor
  /-- A cause found outside this library. -/
  | described (reason : String)
deriving DecidableEq

def FormatFault.message : FormatFault → String
  | misplacedFooter => "footer not found where length places it"
  | unterminatedRecord => "unterminated property record"
  | missingSeparator => "property record without a field separator"
  | keyNotUtf8 => "property key is not UTF-8"
  | valueNotUtf8 => "property value is not UTF-8"
  | emptyKey => "empty property key"
  | propertiesBesidePayload => "NO_FORMAT event also carries properties"
  | payloadBesideProperties => "payload on an event without NO_FORMAT"
  | separatorInProperty key =>
      "property '" ++ Text.Escaping.bare key ++ "' contains a separator byte"
  | noCompressor => "compressed body but no compressor is configured"
  | described reason => reason

inductive CompressionFault where
  /-- The input is no deflate stream. -/
  | corrupt
  /-- The input ends before the stream does. -/
  | incomplete
  /-- The output would be longer than allowed. -/
  | overLimit (limit : Nat)
  /-- A cause found by another compressor. -/
  | described (reason : String)
deriving DecidableEq

def CompressionFault.message : CompressionFault → String
  | corrupt => "corrupt deflate stream"
  | incomplete => "incomplete deflate stream"
  | overLimit limit => "inflated body exceeds " ++ toString limit ++ " bytes"
  | described reason => reason

inductive SettingFault where
  /-- The value is not read as what the setting holds. -/
  | unreadable (fault : ReadFault)
  | zeroLimit
  | sheetNotAnObject
  /-- A cause found by another component. -/
  | described (reason : String)
deriving DecidableEq

def SettingFault.message : SettingFault → String
  | unreadable fault => fault.message
  | zeroLimit => "must be greater than zero"
  | sheetNotAnObject => "configuration sheet must be a JSON object"
  | described reason => reason

inductive StreamFault where
  | brokenPipe
  /-- The stream ended inside a frame. -/
  | bytesRemaining
  | described (reason : String)
deriving DecidableEq

def StreamFault.message : StreamFault → String
  | brokenPipe => "broken pipe"
  | bytesRemaining => "bytes remaining on stream"
  | described reason => reason

/-- Why an operation of the transport fails. -/
inductive Error where
  | badFormat (fault : FormatFault)
  /-- The checksum that a frame carries is not the one of its body. -/
  | integrityViolation (expected actual : UInt32)
  | frameTooLarge (size max : Nat)
  | channelClosed
  | channelAlreadyStarted
  /-- A task of a channel died in a handler. -/
  | taskJoin
  | compression (fault : CompressionFault)
  | config (key : String) (fault : SettingFault)
  | json (fault : Json.Fault)
  | stream (fault : StreamFault)
deriving DecidableEq

namespace Error

def message : Error → String
  | badFormat fault => "Malformed frame: " ++ fault.message
  | integrityViolation expected actual =>
    "Checksum mismatch: frame carries 0x" ++ Text.hexPadded 8 expected.toNat ++
      ", body hashes to 0x" ++ Text.hexPadded 8 actual.toNat
  | frameTooLarge size max =>
    "Frame body of " ++ toString size ++ " bytes exceeds the limit of " ++ toString max ++ " bytes"
  | channelClosed => "The channel is closed"
  | channelAlreadyStarted => "The channel has already been started"
  | taskJoin => "Channel task join error: a handler died"
  | compression fault => "Compressor failure: " ++ fault.message
  | config key fault => "Invalid configuration value for '" ++ key ++ "': " ++ fault.message
  | json .malformed => "Couldn't parse configuration sheet: malformed text"
  | json .unfinished => "Couldn't parse configuration sheet: unfinished text"
  | stream fault => "IO Error: " ++ fault.message

/-- Whether an error must tear down the channel that met it. -/
def isFatal : Error → Bool
  | badFormat _ => true
  | integrityViolation _ _ => true
  | frameTooLarge _ _ => true
  | channelClosed => true
  | channelAlreadyStarted => false
  | taskJoin => false
  | compression _ => true
  | config _ _ => false
  | json _ => false
  | stream _ => true

end Error

end EventTransport
