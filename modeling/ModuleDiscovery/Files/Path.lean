import ModuleDiscovery.Text.Split

namespace ModuleDiscovery.Files

open Text

-- The slashes that a path starts with. Two of them have a meaning of their own; more count as one.
def rootSlashes (cs : List Char) : List Char :=
  let slashes := cs.takeWhile (· = '/')
  if slashes.length ≤ 2 then slashes else ['/']

-- The components of a path. Two dots are kept, as they may lead out of a linked directory.
def components (cs : List Char) : List (List Char) :=
  (splitAtChar '/' cs).filter fun p => p ≠ [] ∧ p ≠ ['.']

-- The text of a path without what does not matter: repeated slashes, a slash at the end, and single dots. Where
-- nothing is left it is a single dot.
def pathText (path : String) : String :=
  let cs := rootSlashes path.toList ++ joinWith '/' (components path.toList)
  if cs.isEmpty then "." else String.ofList cs

-- The text of a path on which double dots are followed: each takes back the name in front of it.
def followedText (path : String) : String :=
  let names := (components path.toList).foldl (fun ns n => if n = ['.', '.'] then ns.dropLast else ns ++ [n]) []
  String.ofList (rootSlashes path.toList ++ joinWith '/' names)

end ModuleDiscovery.Files
