import EventTransport.Text.Escaped

/-!
Contract: the identity of subscribers.

Owns: `SubscriberId`, a serial number that no two subscribers share, with a name for people.

Two subscribers of one name are different; only serials are compared. Serials do not run out: 2^64
subscribers are out of scope.
-/

namespace EventTransport

structure SubscriberId where
  serial : Nat
  name : String
deriving DecidableEq, Inhabited

namespace SubscriberId

/-- Whether two identities are of one subscriber. -/
def same (left right : SubscriberId) : Bool := left.serial = right.serial

def text (id : SubscriberId) : String := id.name ++ "#" ++ toString id.serial

def fields (id : SubscriberId) : String :=
  "SubscriberId \x7b serial: " ++ toString id.serial ++ ", name: " ++
    Text.Escaping.quoted id.name ++ " \x7d"

end SubscriberId

end EventTransport
