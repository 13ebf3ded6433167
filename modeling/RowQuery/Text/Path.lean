import RowQuery.Text.Split

/-!
Paths of files. A path is made of parts between slashes; the normal form has single slashes and no
parts that name their own place, and it is the normal form of itself.
-/

namespace RowQuery.Text

/-- A path with single slashes and without the parts that name its own place. Two leading slashes
stay two, and an empty path is the place itself. -/
def normalizePath (s : String) : String :=
  let root := match (s.toList.takeWhile (· == '/')).length with
    | 0 => ""
    | 2 => "//"
    | _ => "/"
  let parts := (split '/' s).filter fun p => !(p.isEmpty || p == ".")
  if root.isEmpty && parts.isEmpty then "." else root ++ join "/" parts

/-- The ending of the last part of a path, from its last point on; a leading point starts none. -/
def pathEnding (path : String) : String :=
  let name := (cutLastChars '/' path.toList).2
  match cutLastChars '.' name with
  | (some (_ :: _), c :: ending) => String.ofList ('.' :: c :: ending)
  | _ => ""

end RowQuery.Text
