import TagWeave.Text.Split

/-!
# Paths

A path is a sequence of names; a leading slash makes it absolute. The written form of
a path has no empty and no single-dot names, and is a single dot if nothing is left.
A location is the absolute path of a place, from the root downwards; resolving a path
also removes the double-dot names, each with the name before it.
-/

namespace TagWeave.Path

open TagWeave.Text

/-- The names between the slashes of a path. -/
def names (path : String) : List String := (pieces '/' path.toList).map String.ofList

/-- Whether a path is absolute. -/
def isAbsolute (path : String) : Bool := path.toList.head? = some '/'

/-- The slashes that a written path begins with: exactly two are kept. -/
def rootOf (path : String) : String :=
  match path.toList with
  | ['/', '/'] => "//"
  | '/' :: '/' :: c :: _ => if c = '/' then "/" else "//"
  | '/' :: _ => "/"
  | _ => ""

/-- The names of a path that say something. -/
def properNames (path : String) : List String :=
  (names path).filter fun name => !(name.isEmpty || name = ".")

/-- The written form of a path. -/
def written (path : String) : String :=
  let text := rootOf path ++ join "/" (properNames path)
  if text.isEmpty then "." else text

/-- The path of a name below a directory; an absolute one replaces the directory. -/
def below (directory name : String) : String :=
  if isAbsolute name then name else directory ++ "/" ++ name

/-- Goes on from a location along some names; the root is its own parent. -/
def goAlong (location : List String) : List String → List String
  | [] => location
  | name :: rest =>
    if name.isEmpty || name = "." then goAlong location rest
    else if name = ".." then goAlong location.dropLast rest
    else goAlong (location ++ [name]) rest

/-- The location that a path leads to from the current directory. -/
def resolve (current : List String) (path : String) : List String :=
  goAlong (if isAbsolute path then [] else current) (names path)

/-- The path of a location. -/
def ofLocation (location : List String) : String := "/" ++ join "/" location

/-- Whether a text cannot be a path because of a NUL character. -/
def hasNul (path : String) : Bool := path.toList.contains (Char.ofNat 0)

end TagWeave.Path
