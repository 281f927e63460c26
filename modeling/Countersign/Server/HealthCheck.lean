import Countersign.Front
import Countersign.Settings
/-! The probe of a running gateway: whom it asks, what it says and which reply
means that all is well. -/

namespace Countersign.HealthCheck

/-- The address to dial; an address that stands for all of them is this one. -/
def address (s : Settings) : Text := Text.replace "0.0.0.0" "127.0.0.1" s.listen

def request (address : Text) : Text :=
  "GET " ++ Front.healthPath ++ " HTTP/1.1\r\nHost: " ++ address ++ "\r\nConnection: close\r\n\r\n"

/-- A reply is well if it is text and reports the status 200. -/
def isWell (reply : Bytes) : Bool :=
  match Text.Utf8.decode? reply with
  | some t => (Text.after? "HTTP/1.1 200" t).isSome
  | none => false

/-- The exit code, given the reply if there was one. -/
def exitCode (reply : Option Bytes) : Nat :=
  match reply with
  | some r => if isWell r then 0 else 1
  | none => 1

end Countersign.HealthCheck
