/-!
# Searching and splitting text

The searches that scanners of this library are built from. All of them work on
lists of characters and return what precedes and what follows the place found, so
that no positions have to be kept.
-/

namespace TagWeave.Text

/-- The parts of `s` before and after the first place where `sep` occurs. -/
def splitOnce? (sep : List Char) : List Char → Option (List Char × List Char)
  | [] => if sep = [] then some ([], []) else none
  | c :: s =>
    match sep.isPrefixOf? (c :: s) with
    | some rest => some ([], rest)
    | none => (splitOnce? sep s).map fun (before, after) => (c :: before, after)

/-- The pieces of `s` between the occurrences of `sep`; there is always at least one. -/
def pieces (sep : Char) : List Char → List (List Char)
  | [] => [[]]
  | c :: s =>
    if c = sep then [] :: pieces sep s
    else match pieces sep s with
      | [] => [[c]]
      | p :: ps => (c :: p) :: ps

/-- The pieces of `s` between the occurrences of a non-empty text, `fuel` bounding their number. -/
def piecesWithin (sep : List Char) : Nat → List Char → List (List Char)
  | 0, s => [s]
  | fuel + 1, s =>
    match splitOnce? sep s with
    | none => [s]
    | some (piece, rest) => piece :: piecesWithin sep fuel rest

/-- The pieces of `s` between the occurrences of a non-empty text. -/
def piecesBy (sep s : List Char) : List (List Char) := piecesWithin sep s.length s

/-- Removes the occurrences of a non-empty `needle`, from left to right; text that comes together
by a removal is not searched again. `fuel` bounds the number of steps. -/
def removeAllWithin (needle : List Char) : Nat → List Char → List Char
  | 0, s => s
  | _ + 1, [] => []
  | fuel + 1, c :: s =>
    match needle.isPrefixOf? (c :: s) with
    | some rest => removeAllWithin needle fuel rest
    | none => c :: removeAllWithin needle fuel s

/-- Removes the occurrences of a non-empty `needle`, from left to right; text that comes together
by a removal is not searched again. -/
def removeAll (needle s : List Char) : List Char := removeAllWithin needle s.length s

/-- Turns the line ends `\r\n` and `\r` into `\n`. -/
def unixLines : List Char → List Char
  | '\r' :: '\n' :: s => '\n' :: unixLines s
  | '\r' :: s => '\n' :: unixLines s
  | c :: s => c :: unixLines s
  | [] => []

/-- Texts separated by `sep`. -/
def join (sep : String) (parts : List String) : String := sep.intercalate parts

end TagWeave.Text
