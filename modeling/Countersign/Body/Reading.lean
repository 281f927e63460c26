import Countersign.Body.Frame
/-! Reading bodies: a number of items, everything to the end, or several bodies
in turns. `poll` asks for one item and says how the world looks afterwards. -/

namespace Countersign.Reading

/-- Where reading stops. -/
inductive Ending
  | done
  | pending
  | fault (e : IoFault)

variable {σ : Type}

/-- Up to `n` answers, none after an end or a pending one. -/
def frames (poll : σ → Poll × σ) : Nat → σ → List Poll × σ
  | 0, s => ([], s)
  | n + 1, s =>
    match poll s with
    | (.item x, s) =>
      let (ps, s) := frames poll n s
      (.item x :: ps, s)
    | (p, s) => ([p], s)

/-- The data up to the first answer that is neither data nor trailers; `n`
bounds the number of answers. -/
def everything (poll : σ → Poll × σ) : Nat → σ → (Bytes × Ending) × σ
  | 0, s => (([], .pending), s)
  | n + 1, s =>
    match poll s with
    | (.item (.ok (.data b)), s) =>
      let ((bytes, e), s) := everything poll n s
      ((b ++ bytes, e), s)
    | (.item (.ok (.trailers _)), s) => everything poll n s
    | (.item (.error e), s) => (([], .fault e), s)
    | (.done, s) => (([], .done), s)
    | (.pending, s) => (([], .pending), s)

/-- What is known about a body that is read along with others. -/
structure Progress where
  bytes : Bytes := []
  ending : Option Ending := none

/-- Ask one body, unless it is at its end. The flag tells whether it answered. -/
def advance (poll : σ → Poll × σ) (p : Progress) (s : σ) : (Progress × Bool) × σ :=
  match p.ending with
  | some _ => ((p, false), s)
  | none =>
    match poll s with
    | (.item (.ok (.data b)), s) => (({ p with bytes := p.bytes ++ b }, true), s)
    | (.item (.ok (.trailers _)), s) => ((p, true), s)
    | (.item (.error e), s) => (({ p with ending := some (.fault e) }, true), s)
    | (.done, s) => (({ p with ending := some .done }, true), s)
    | (.pending, s) => ((p, false), s)

/-- One turn for every body. -/
def turn {ι : Type} (poll : ι → σ → Poll × σ) :
    List (ι × Progress) → σ → (List (ι × Progress) × Bool) × σ
  | [], s => (([], false), s)
  | (i, p) :: rest, s =>
    let ((p, moved), s) := advance (poll i) p s
    let ((rest, others), s) := turn poll rest s
    (((i, p) :: rest, moved || others), s)

/-- Turns until none of the bodies answers; `n` bounds their number. -/
def turns {ι : Type} (poll : ι → σ → Poll × σ) :
    Nat → List (ι × Progress) → σ → List (ι × Progress) × σ
  | 0, ps, s => (ps, s)
  | n + 1, ps, s =>
    match turn poll ps s with
    | ((ps, true), s) => turns poll n ps s
    | ((ps, false), s) => (ps, s)

/-- Read all of several bodies at once. -/
def together {ι : Type} (poll : ι → σ → Poll × σ) (n : Nat) (is : List ι) (s : σ) :
    List (Bytes × Ending) × σ :=
  let (ps, s) := turns poll n (is.map fun i => (i, {})) s
  (ps.map fun (_, p) => (p.bytes, p.ending.getD .pending), s)

end Countersign.Reading
