import Countersign.Handler.Program
import Countersign.ObjectStorage
/-! Providers: one for each service that is served, with its name, the hosts
that it accepts, the operations that it tells apart and what it does for them. -/

namespace Countersign

structure Provider where
  name : Text
  accepts : Call → Bool
  classify : Call → Operation
  override? : Operation → Option Handler
  defaultOrigin : Text
  /-- What it does in place of the usual. -/
  own : Option Handler

namespace Provider

/-- The usual rule: a host that has `name.` somewhere in it, capitals aside. -/
def acceptsHost (name host : Text) : Bool := Text.holds (name ++ ".") (Text.lower host)

def usualOrigin (name : Text) : Text := name ++ ".amazonaws.com"

/-- A provider that only forwards. -/
def passthrough (name : Text) : Provider :=
  { name
    accepts := fun c => acceptsHost name c.inboundHost
    classify := fun _ => Operation.unknown
    override? := fun _ => none
    defaultOrigin := usualOrigin name
    own := none }

def storageName : Text := "s3"

/-- The provider of object storage, with handlers for some operations. -/
def objectStorage (origin : Option Text) (handlers : OperationTable Handler) : Provider :=
  { passthrough storageName with
    classify := fun c =>
      (ObjectOperation.classify c.head.method c.head.uri.path c.head.uri.query).name
    override? := handlers.get?
    defaultOrigin := origin.getD (usualOrigin storageName) }

/-- Find the origin of the inbound host and forward to it. -/
def forwardTo (defaultOrigin : Text) : Handler := do
  let call ← Program.perform .look
  match ← Program.perform (.resolveTarget call.inboundHost defaultOrigin) with
  | .error f => return .error f
  | .ok target =>
    let (result, _) ← Program.perform (.forward target [])
    return result

/-- The usual: the handler of the operation if there is one, else forwarding. -/
def usual (p : Provider) : Handler := do
  let call ← Program.perform .look
  match p.override? (p.classify call) with
  | some h => h
  | none => forwardTo p.defaultOrigin

def handler (p : Provider) : Handler := p.own.getD p.usual

end Provider

end Countersign
