import Countersign.Http.Headers
/-! What a body is made of: chunks of data, trailers and faults, one after
another, and then an end that may never come. -/

namespace Countersign

/-- The kinds of faults. Nothing here asks for the kind of a fault: the gateway gives its own
faults the kind `interrupted`, those that it relays the kind `other`, and copies every other
kind as it is. So any kind that a system may have besides goes the way of the three that are
left, and they stand for all of them. -/
inductive IoFault.Kind
  | connectionReset
  | unexpectedEof
  | timedOut
  | interrupted
  | other
deriving DecidableEq, Repr

structure IoFault where
  kind : IoFault.Kind
  message : Text
deriving DecidableEq, Repr

inductive Frame
  | data (bytes : Bytes)
  | trailers (headers : Http.Headers)
deriving DecidableEq, Repr

/-- One thing that a body yields. -/
abbrev Item := Except IoFault Frame

/-- What a body answers when it is asked for its next item. -/
inductive Poll
  | pending
  | item (x : Item)
  | done

/-- A body that arrives as it is listed. An endless one goes silent after its
items and never ends. -/
structure Source where
  items : List Item
  endless : Bool := false

namespace Source

def empty : Source := ⟨[], false⟩

/-- Data held in memory; no data makes no chunk. -/
def full (bytes : Bytes) : Source := if bytes = [] then empty else ⟨[.ok (.data bytes)], false⟩

def poll (s : Source) : Poll × Source :=
  match s.items with
  | x :: rest => (.item x, { s with items := rest })
  | [] => (if s.endless then .pending else .done, s)

/-- The data chunks before the first fault. -/
def chunksOf : List Item → List Bytes
  | [] => []
  | .ok (.data b) :: xs => b :: chunksOf xs
  | .ok (.trailers _) :: xs => chunksOf xs
  | .error _ :: _ => []

def chunks (s : Source) : List Bytes := chunksOf s.items

/-- The first fault, if there is one. -/
def faultOf : List Item → Option IoFault
  | [] => none
  | .ok _ :: xs => faultOf xs
  | .error e :: _ => some e

def fault? (s : Source) : Option IoFault := faultOf s.items

/-- A fault as one of another body is known: of no kind of its own, with its text. -/
def relayedFault (e : IoFault) : IoFault := ⟨.other, e.message⟩

def relayedItem : Item → Option Item
  | .ok (.data b) => some (.ok (.data b))
  | .ok (.trailers _) => none
  | .error e => some (.error (relayedFault e))

/-- What is passed on of a body that arrives: its data and its faults, without trailers. -/
def relayed (s : Source) : Source := { s with items := s.items.filterMap relayedItem }

end Source

end Countersign
