import Countersign.Handler.Program
/-! Handlers written as lists of steps. A script keeps bodies in named slots,
remembers the last response and the last failure, and notes what each step came
to; one that runs off its end answers `script ended`. -/

namespace Countersign.Script

open Countersign.Http

/-- A response that a script can send. -/
structure Draft where
  status : Nat := 200
  headers : Headers := []
  body : Source := .empty

def Draft.response (d : Draft) : Response := ⟨d.status, d.headers, .stream d.body⟩

inductive Step
  | snapshot
  | requestId
  | pause
  | duplicateBody (slot : Text)
  | takeBody (slot : Text)
  | setBody (body : Source)
  | setBodyFrom (slot : Text)
  | dropBody (slot : Text)
  | read (slot : Text) (count : Option Nat)
  | readTogether (slots : List Text)
  | setUri (uri : Text)
  | setHeader (name : Text) (value : Bytes)
  | appendHeader (name : Text) (value : Bytes)
  | removeHeader (name : Text)
  | resolveTarget (fallback : Text)
  | forward (target : Option Text) (drain : List Text)
  | hijack
  | dropSink
  | send (d : Draft)
  | respond (d : Draft)
  | returnLast
  | propagate
  | fail (f : Failure)

structure Memory where
  slots : List (Text × Body) := []
  response : Option Response := none
  failure : Option Failure := none

namespace Memory

def get? (m : Memory) (slot : Text) : Option Body := m.slots.lookup slot

def erase (m : Memory) (slot : Text) : Memory :=
  { m with slots := m.slots.filter fun s => s.1 ≠ slot }

def put (m : Memory) (slot : Text) (b : Body) : Memory :=
  { m with slots := (m.erase slot).slots ++ [(slot, b)] }

/-- The bodies in some slots, which are empty afterwards. -/
def takeAll (m : Memory) : List Text → List Body × Memory
  | [] => ([], m)
  | slot :: slots =>
    match m.get? slot with
    | none => takeAll m slots
    | some b =>
      let (bs, m) := takeAll (m.erase slot) slots
      (b :: bs, m)

end Memory

/-- How a step leaves the script. -/
inductive Verdict
  | goOn (m : Memory)
  | over (r : Except Failure Response)

def note (n : Note) : Program Unit := Program.perform (.note n)

/-- Note what a step came to and go on. -/
def remark (m : Memory) (n : Note) : Program Verdict := do
  note n
  return .goOn m

def say (m : Memory) (word : Text) : Program Verdict := remark m (.word word)

def failed (m : Memory) (f : Failure) : Program Verdict :=
  remark { m with failure := some f } (.failed f)

def finish (word : Text) (r : Except Failure Response) : Program Verdict := do
  note (.word word)
  return .over r

/-- Fill a slot and let go what it held. -/
def fill (m : Memory) (slot : Text) : Except Failure Body → Program Verdict
  | .error f => failed m f
  | .ok b => do
    match m.get? slot with
    | some old => Program.perform (.release old)
    | none => pure ()
    say (m.put slot b) "ok"

/-- Read a body whole and let it go. -/
def exhaust (b : Body) : Program Whole := do
  let (whole, b) ← Program.perform (.readAll b)
  Program.perform (.release b)
  return whole

/-- What is remembered of a response: its body as far as it was received. -/
def remembered (r : Response) : Whole → Response
  | (bytes, .done) => { r with body := .stream (.full bytes) }
  | _ => { r with body := .stream .empty }

def editHeaders (m : Memory) (edit : Option (Headers → Headers)) : Program Verdict := do
  match edit with
  | none => say m "invalid header"
  | some f =>
    let call ← Program.perform .look
    Program.perform (.setHeaders (f call.head.headers))
    say m "ok"

/-- A name and a value that may stand in a header, put to use. -/
def withHeader (f : Headers → Text → Bytes → Headers) (name : Text) (value : Bytes) :
    Option (Headers → Headers) :=
  match Header.name? name with
  | some n => if value.all Header.isValueByte then some fun hs => f hs n value else none
  | none => none

/-- Where a forward goes whose script names no target and whose host is unknown. -/
def fallbackTarget : Text := "fallback.test"

def targetOf : Option Text → Program (Except Failure Text)
  | some t => return .ok t
  | none => do
    let call ← Program.perform .look
    Program.perform (.resolveTarget call.inboundHost fallbackTarget)

def forward (m : Memory) (target : Text) (drain : List Text) : Program Verdict := do
  let (bodies, m) := m.takeAll drain
  let (result, drained) ← Program.perform (.forward target bodies)
  match result with
  | .ok r => do
    let whole ← exhaust r.body
    note (.answered r.status r.headers whole drained)
    return .goOn { m with response := some (remembered r whole) }
  | .error f => do
    if drained.isEmpty then pure () else note (.drained drained)
    failed m f

def step (m : Memory) : Step → Program Verdict
  | .snapshot => do
    let call ← Program.perform .look
    remark m (.snapshot call.snapshot)
  | .requestId => do
    let call ← Program.perform .look
    let context ← Program.perform .context
    remark m (.sameId (call.id = context.requestId))
  | .pause => say m "ok"
  | .duplicateBody slot => do fill m slot (← Program.perform .splitBody)
  | .takeBody slot => do fill m slot (← Program.perform .takeBody)
  | .setBody body => do
    Program.perform (.putBody (.stream body))
    say m "ok"
  | .setBodyFrom slot =>
    match m.get? slot with
    | none => say m "no slot"
    | some b => do
      Program.perform (.putBody b)
      say (m.erase slot) "ok"
  | .dropBody slot =>
    match m.get? slot with
    | none => remark m (.flag false)
    | some b => do
      Program.perform (.release b)
      remark (m.erase slot) (.flag true)
  | .read slot count =>
    match m.get? slot, count with
    | none, _ => say m "no slot"
    | some b, some n => do
      let (ps, b) ← Program.perform (.readFrames b n)
      remark (m.put slot b) (.frames ps)
    | some b, none => do
      let (whole, b) ← Program.perform (.readAll b)
      remark (m.put slot b) (.whole whole)
  | .readTogether slots => do
    let (bodies, m) := m.takeAll slots
    let wholes ← Program.perform (.readTogether bodies)
    remark m (.wholes wholes)
  | .setUri t =>
    match Uri.ofText? t with
    | none => say m "invalid uri"
    | some u => do
      Program.perform (.setUri u)
      say m "ok"
  | .setHeader name value => editHeaders m (withHeader Headers.set name value)
  | .appendHeader name value => editHeaders m (withHeader Headers.add name value)
  | .removeHeader name => do
    let call ← Program.perform .look
    let name := Text.lower name
    Program.perform (.setHeaders (call.head.headers.erase name))
    remark m (.flag (call.head.headers.first? name).isSome)
  | .resolveTarget fallback => do
    let call ← Program.perform .look
    match ← Program.perform (.resolveTarget call.inboundHost fallback) with
    | .ok t => say m t
    | .error f => failed m f
  | .forward target drain => do
    match ← targetOf target with
    | .ok t => forward m t drain
    | .error f => failed m f
  | .hijack => do
    match ← Program.perform .hijack with
    | .ok () => say m "ok"
    | .error f => failed m f
  | .dropSink => do remark m (.flag (← Program.perform .dropSink))
  | .send d => do
    match ← Program.perform (.send d.response) with
    | none => say m "no sink"
    | some (.ok ()) => say m "sent"
    | some (.error f) => failed m f
  | .respond d => finish "respond" (.ok d.response)
  | .returnLast =>
    match m.response with
    | some r => finish "return_last" (.ok r)
    | none => say m "no response"
  | .propagate =>
    match m.failure with
    | some f => finish "propagate" (.error f)
    | none => say m "no error"
  | .fail f => finish "fail" (.error f)

def ended : Response := .ofText 200 [] "script ended"

/-- Give up what the script still holds. -/
def leave (m : Memory) (r : Except Failure Response) : Handler := do
  let _ ← Program.perform .dropSink
  m.slots.foldr (fun s p => do Program.perform (.release s.2); p) (return r)

/-- The steps one after another. -/
def steps (m : Memory) : List Step → Handler
  | [] => leave m (.ok ended)
  | s :: rest => do
    match ← step m s with
    | .goOn m => steps m rest
    | .over r => leave m r

def handler (script : List Step) : Handler := steps {} script

end Countersign.Script
