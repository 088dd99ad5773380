import Probe.Config.Load
import Probe.Discovery

/-!
# Failed commands

A command fails before it has done anything, with an error that may have causes. The outermost error is
told first and its causes below it; several causes are numbered. Main statement: `text_singleton`.
-/

namespace Probe.Cli

open Probe.Text

/-- Why a command fails. -/
inductive Failure where
  | config (e : ConfigError)
  | noSuchPath (path : Path)
  | discovery (e : DiscoveryError)
  | baseUrl (e : BaseUrlError)

namespace Failure

/-- The wording of an error and of its causes. -/
def chain : Failure → List String
  | config e => e.chain
  | noSuchPath path => ["Path does not exist: " ++ path.quoted]
  | discovery e => e.chain
  | baseUrl e => e.chain

/-- A text whose lines after the first one are indented. -/
def hang (margin : String) (text : String) : String :=
  String.intercalate ("\n" ++ margin) ((cut '\n' text.toList).map String.ofList)

/-- A number in a column that is as wide as five digits. -/
def column (n : Nat) : String :=
  let digits := toString n
  String.ofList (List.replicate (5 - digits.length) ' ') ++ digits

/-- The paragraphs for causes, numbered from `i` on. -/
def numbered (i : Nat) : List String → List String
  | [] => []
  | cause :: rest => (column i ++ ": " ++ hang "       " cause) :: numbered (i + 1) rest

/-- The paragraphs below the outermost error. -/
def causes : List String → List String
  | [] => []
  | [cause] => ["", "Caused by:", "    " ++ hang "    " cause]
  | several => "" :: "Caused by:" :: numbered 0 several

/-- The text for an error with its causes. -/
def text : List String → String
  | [] => ""
  | first :: rest => String.intercalate "\n" (("Error: " ++ first) :: causes rest) ++ "\n"

/-- An error without a cause takes one line. -/
theorem text_singleton (message : String) : text [message] = "Error: " ++ message ++ "\n" := rfl

end Failure

end Probe.Cli
