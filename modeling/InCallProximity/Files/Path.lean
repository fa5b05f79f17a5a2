/-!
# Paths

A path is a text whose components stand between slashes. Components may be empty: a path that ends
in a slash has an empty last one.
-/

namespace InCallProximity.Path

/-- The parts between slashes, the empty ones included. -/
def components (path : List Char) : List (List Char) :=
  path.foldr
    (fun c parts =>
      if c = '/' then [] :: parts
      else match parts with
        | [] => [[c]]
        | part :: rest => (c :: part) :: rest)
    [[]]

/-- The path leads from the root. -/
def isAbsolute (path : String) : Bool := path.toList.head? = some '/'

/-- The path of something in a folder. -/
def join (folder name : String) : String :=
  if folder.toList.getLast? = some '/' then folder ++ name else folder ++ "/" ++ name

end InCallProximity.Path
