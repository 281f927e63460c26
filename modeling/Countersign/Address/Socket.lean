import Countersign.Address.Ipv6
/-! An address with a port: four octets, or groups in brackets with an optional
numeric scope, and then a port in decimal digits. -/

namespace Countersign.Address

inductive Socket
  | v4 (octets : List Nat) (port : Nat)
  | v6 (groups : List Nat) (port : Nat)
deriving DecidableEq, Repr

namespace Socket

/-- One or more digits with a value below `bound`. -/
def numeral? (bound : Nat) (t : Text) : Option Nat :=
  if t ≠ [] ∧ t.all Text.Decimal.isDigit ∧ Text.Decimal.value t < bound then
    some (Text.Decimal.value t)
  else none

/-- The groups in front of a scope. -/
def scoped? (t : Text) : Option (List Nat) :=
  match Text.cut? '%' t with
  | none => Ipv6.ofText? t
  | some (address, scope) => do
    let _ ← numeral? 4294967296 scope
    Ipv6.ofText? address

def ofText? (t : Text) : Option Socket := do
  let (host, port) ← Text.cutLast? ':' t
  let port ← numeral? 65536 port
  match host with
  | '[' :: r =>
    match r.reverse with
    | ']' :: inner => (scoped? inner.reverse).map fun gs => .v6 gs port
    | _ => none
  | _ => (Ipv4.octets? host).map fun os => .v4 os port

end Socket

end Countersign.Address
