import Flowline.Text.Words

/-!
# Paths

Joining paths also simplifies them: empty parts and single dots go away, two dots take the part
before them with them unless there is none, and a slash at the end stays. The directory of a path is
what stands before its last part.
-/

namespace Flowline.Text

/-- Takes a part of a path onto the parts before it, which stand in reverse order. -/
def pushPart (absolute : Bool) (parts : List (List Char)) (part : List Char) :
    List (List Char) :=
  if part.isEmpty || part = ['.'] then parts
  else if part = ['.', '.'] then
    match parts with
    | [] => if absolute then [] else [part]
    | p :: ps => if p = ['.', '.'] then part :: p :: ps else ps
  else part :: parts

def simplifyPath (path : List Char) : List Char :=
  let absolute := path.head? = some '/'
  let parts := ((path.splitOn '/').foldl (pushPart absolute) []).reverse
  let body := joinWith ['/'] parts
  let body := if body.isEmpty && !absolute then ['.'] else body
  let body := if !body.isEmpty && path.getLast? = some '/' then body ++ ['/'] else body
  if absolute then '/' :: body else body

/-- Paths joined and simplified; empty ones are left out. -/
def joinPaths (paths : List (List Char)) : List Char :=
  match paths.filter fun p => !p.isEmpty with
  | [] => ['.']
  | ps => simplifyPath (joinWith ['/'] ps)

/-- The directory of a path. Slashes after the last part do not count; a path of one part stands in
the root or in the current directory. -/
def directory : List Char → List Char
  | [] => ['.']
  | c :: rest =>
    match (rest.reverse.dropWhile (· == '/')).dropWhile (· != '/') with
    | [] => if c = '/' then ['/'] else ['.']
    | _ :: before => if c = '/' && before.isEmpty then ['/', '/'] else c :: before.reverse

end Flowline.Text
