import Countersign.Address.Ipv6
import Countersign.Domain.Name
import Countersign.Forward.Target
import Countersign.Text.Percent
/-! Addresses in the form in which they are dialled: the place in its one
spelling, no dot segments, and everything escaped that may not stand. -/

namespace Countersign

open Countersign.Http

structure Url where
  scheme : Text
  /-- What was left standing of a user and a password. -/
  login : Option Text := none
  host : Text
  /-- None is the scheme's own. -/
  port : Option Nat
  path : Text
  query : Option Text
deriving DecidableEq, Repr

namespace Url

/-- Where the place ends and the path begins. -/
def endsPlace (c : Char) : Bool := c == '/' || c == '\\' || c == '?' || c == '#'

/-- What stands before the last `@`, and what follows it. -/
def cutUser (place : Text) : Text × Text := (Text.cutLast? '@' place).getD ([], place)

/-- User and password around the first colon; an empty password is none. -/
def credentials (t : Text) : Text × Option Text :=
  match Text.cut? ':' t with
  | none => (t, none)
  | some (user, []) => (user, none)
  | some (user, password) => (user, some password)

/-- Whether the bytes behind the escapes are text. -/
def spellsText (t : Text) : Bool := (Text.Utf8.decode? (Text.Percent.decode t)).isSome

/-- A user and a password are taken out of the address as credentials. They stay
where they are if the user is no text, or is missing and the password is none. -/
def staysIn (user : Text) (password : Option Text) : Bool :=
  !spellsText user || (user.isEmpty && password.any (!spellsText ·))

/-- Cut at the first colon outside brackets. -/
def cutPort (inside : Bool) : Text → Text × Option Text
  | [] => ([], none)
  | c :: t =>
    if c = ':' ∧ !inside then ([], some t)
    else
      let (host, port) := cutPort (if c = '[' then true else if c = ']' then false else inside) t
      (c :: host, port)

def isForbidden (c : Char) : Bool := "<>[]^|%".toList.contains c

/-- A host in its one spelling: an address of either version, or a name in
small letters. -/
def host? (t : Text) : Option Text :=
  match t with
  | [] => none
  | '[' :: r =>
    match r.reverse with
    | ']' :: inner => (Address.Ipv6.ofText? inner.reverse).map fun gs =>
        '[' :: Address.Ipv6.render gs ++ [']']
    | _ => none
  | _ =>
    let name := Text.lower t
    if name.any isForbidden ∨ !Domain.isName name then none
    else if Address.Ipv4.endsInNumber name then
      (Address.Ipv4.lenient? name).map Address.Ipv4.render
    else some name

def defaultPort (scheme : Text) : Nat := if scheme = "https" then 443 else 80

/-- The port that a text names, if it is one. The scheme's own port counts as
none, and so does the empty text. -/
def port? (scheme : Text) : Option Text → Option (Option Nat)
  | none => some none
  | some t =>
    let n := Text.Decimal.value t
    if !t.all Text.Decimal.isDigit ∨ 65535 < n then none
    else some (if t = [] ∨ n = defaultPort scheme then none else some n)

def isSlash (c : Char) : Bool := c == '/' || c == '\\'

/-- A segment with its escaped dots written out. -/
def dots (segment : Text) : Text := Text.replace "%2e" "." (Text.lower segment)

/-- A segment that may name a drive: a letter with a colon or a bar. -/
def isDrive : Text → Bool
  | [letter, mark] => letter.isAlpha && (mark == ':' || mark == '|')
  | _ => false

/-- One level up. A drive is not left. -/
def up (done : List Text) : List Text :=
  if (done.getLast?.map isDrive).getD false then done else done.dropLast

/-- The segments without those that stand for their own or the outer level. A
level at the end leaves an empty segment. -/
def settle (done : List Text) : List Text → List Text
  | [] => done
  | s :: rest =>
    let done' := if dots s = ".." then up done else if dots s = "." then done else done ++ [s]
    if rest = [] ∧ (dots s = ".." ∨ dots s = ".") then done' ++ [[]] else settle done' rest

/-- Bytes that stand in neither part. -/
def isBare (b : UInt8) : Bool := decide (b.toNat ≤ 0x20) || decide (0x7f ≤ b.toNat)

def escapeUnless (keep : Char → Bool) (t : Text) : Text :=
  (Text.Utf8.encode t).flatMap fun b =>
    if !isBare b && keep (Char.ofNat b.toNat) then [Char.ofNat b.toNat] else Text.Percent.escape b

def escapePath (t : Text) : Text :=
  escapeUnless (fun c => !"\"#<>?`\x7b\x7d".toList.contains c) t

def escapeQuery (t : Text) : Text := escapeUnless (fun c => !"\"#<>'".toList.contains c) t

def escapeLogin (t : Text) : Text :=
  escapeUnless (fun c => !"\"#<>?`\x7b\x7d/:;=@[\\]^|".toList.contains c) t

/-- A user and a password as they stand in an address that keeps them. -/
def login? (t : Text) : Option Text :=
  let (user, password) := credentials t
  if staysIn user password then
    some (escapeLogin user ++ match password with
      | none => []
      | some p => ':' :: escapeLogin p)
  else none

/-- A path in its one spelling; it begins with a slash. -/
def pathOf : Text → Text
  | [] => "/"
  | _ :: t => '/' :: Text.join "/" ((settle [] (Text.piecesBy isSlash t)).map escapePath)

/-- The address that is dialled for a target, if there is one. The path `*` has
no slash of its own and counts to the place. -/
def ofUri? : Uri → Option Url
  | .absolute scheme authority pq => do
    let t := authority ++ pq.path
    let (user, place) := cutUser (t.takeWhile (!endsPlace ·))
    let (host, port) := cutPort false place
    some
      { scheme
        login := login? user
        host := ← host? host
        port := ← port? scheme port
        path := pathOf (t.dropWhile (!endsPlace ·))
        query := pq.query.map escapeQuery }
  | _ => none

/-- Path and query, as they stand in a request. -/
def target (u : Url) : Text :=
  u.path ++ match u.query with
    | none => []
    | some q => '?' :: q

def render (u : Url) : Text :=
  u.scheme ++ "://" ++ (match u.login with
    | none => []
    | some l => l ++ ['@']) ++ u.host ++ (match u.port with
    | none => []
    | some n => ':' :: Text.Decimal.render n) ++ u.target

end Url

end Countersign
