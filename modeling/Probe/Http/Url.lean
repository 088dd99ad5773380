import Probe.Text.Segments

/-!
# Paths of URLs

The path of a URL starts at the first slash after the scheme and ends before a query or a fragment.
Main statement: `pathChars_of_slash`.
-/

namespace Probe.Url

open Probe.Text

/-- A character that starts a query or a fragment. -/
def endsPath (c : Char) : Bool :=
  c == '?' || c == '#'

/-- The text after the scheme, if there is one. -/
def afterScheme (url : List Char) : List Char :=
  (after? [':', '/', '/'] url).getD url

/-- The path of a URL without its scheme; without any slash it is the root. -/
def pathChars (rest : List Char) : List Char :=
  match rest.dropWhile (· != '/') with
  | [] => ['/']
  | path => path.takeWhile fun c => !endsPath c

/-- The path of a URL. -/
def path (url : String) : String :=
  String.ofList (pathChars (afterScheme url.toList))

/-- A path that starts at once ends before its query or fragment. -/
theorem pathChars_of_slash (rest : List Char) :
    pathChars ('/' :: rest) = '/' :: rest.takeWhile fun c => !endsPath c := by
  simp [pathChars, endsPath]

end Probe.Url
