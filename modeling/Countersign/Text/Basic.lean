/-! Text as a list of characters, and the cutting, joining and ordering that
every other module uses. Laws about separators are then laws about lists. -/

namespace Countersign

abbrev Text := List Char
abbrev Bytes := List UInt8

instance : Coe String Text := ⟨String.toList⟩

namespace Text

/-- ASCII capitals become small letters; every other character stays. -/
def lower (t : Text) : Text := t.map Char.toLower

/-- The stretches between characters that satisfy `p`, empty ones included. -/
def piecesBy (p : Char → Bool) : Text → List Text
  | [] => [[]]
  | c :: t =>
    if p c then [] :: piecesBy p t
    else match piecesBy p t with
      | [] => [[c]]
      | q :: qs => (c :: q) :: qs

def pieces (sep : Char) : Text → List Text := piecesBy (· == sep)

/-- The non-empty stretches between characters that satisfy `p`. -/
def tokensBy (p : Char → Bool) (t : Text) : List Text :=
  (piecesBy p t).filter (!·.isEmpty)

def join (sep : Text) : List Text → Text
  | [] => []
  | [q] => q
  | q :: r :: qs => q ++ sep ++ join sep (r :: qs)

theorem piecesBy_ne_nil (p : Char → Bool) (t : Text) : piecesBy p t ≠ [] := by
  cases t with
  | nil => simp [piecesBy]
  | cons c t =>
    rw [piecesBy]
    split
    · simp
    · split <;> simp

/-- Cutting at a separator loses nothing but the separators. -/
theorem join_pieces (sep : Char) (t : Text) : join [sep] (pieces sep t) = t := by
  unfold pieces
  induction t with
  | nil => rfl
  | cons c t ih =>
    rw [piecesBy]
    cases h : piecesBy (· == sep) t with
    | nil => exact absurd h (piecesBy_ne_nil _ t)
    | cons q qs =>
      rw [h] at ih
      by_cases hc : c = sep
      · simp [hc, join, ih]
      · cases qs <;> simp_all [join]

/-- The text before and after the first `sep`. -/
def cut? (sep : Char) : Text → Option (Text × Text)
  | [] => none
  | c :: t =>
    if c = sep then some ([], t)
    else (cut? sep t).map fun (a, b) => (c :: a, b)

/-- The text before and after the last `sep`. -/
def cutLast? (sep : Char) : Text → Option (Text × Text)
  | [] => none
  | c :: t =>
    match cutLast? sep t with
    | some (a, b) => some (c :: a, b)
    | none => if c = sep then some ([], t) else none

/-- What follows `start` in a text that begins with it. -/
def after? (start : Text) (t : Text) : Option Text :=
  if start.isPrefixOf t then some (t.drop start.length) else none

/-- Whether `needle` occurs somewhere in the text. -/
def holds (needle : Text) : Text → Bool
  | [] => needle.isEmpty
  | c :: t => needle.isPrefixOf (c :: t) || holds needle t

/-- Every occurrence of `old`, taken from the left without overlap, replaced.
`skip` counts the characters of an occurrence that are still to be passed. -/
def replaceFrom (old new : Text) : Nat → Text → Text
  | _, [] => []
  | k + 1, _ :: t => replaceFrom old new k t
  | 0, c :: t =>
    if old.isPrefixOf (c :: t) then new ++ replaceFrom old new (old.length - 1) t
    else c :: replaceFrom old new 0 t

def replace (old new : Text) (t : Text) : Text := replaceFrom old new 0 t

/-- Texts compare as their code points do, the shorter first on a tie. -/
def le : Text → Text → Bool
  | [], _ => true
  | _ :: _, [] => false
  | a :: s, b :: t => if a = b then le s t else decide (a < b)

def sort (ts : List Text) : List Text := ts.mergeSort le

/-- Drop every element that equals the one before it. -/
def squeeze : List Text → List Text
  | [] => []
  | [x] => [x]
  | x :: y :: ys => if x = y then squeeze (y :: ys) else x :: squeeze (y :: ys)

/-- Keep the first occurrence of every element. -/
def distinct : List Text → List Text
  | [] => []
  | x :: xs => x :: (distinct xs).filter (· != x)

end Text

end Countersign
