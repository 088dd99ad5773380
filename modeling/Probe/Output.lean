import Probe.Json.Printer
import Probe.Run.Summary

/-!
# Printed results

A line for each report, the response of a failed assertion below it, and a summary. Colours are
optional. Main statements: `summaryLine_eq`, `badge_of_not_colors`.
-/

namespace Probe

/-- What is printed. -/
structure Style where
  /-- Print the response of a failed assertion. -/
  verbose : Bool
  /-- Print nothing about skipped cases. -/
  hideSkipped : Bool
  /-- List the cases that met an error after the summary. -/
  verboseErrors : Bool
  colors : Bool
  deriving DecidableEq, Repr

namespace Style

/-- Nothing special, without colours. -/
def plain : Style := ⟨false, false, false, false⟩

/-- A terminal sequence that selects a rendition. -/
def rendition (code : String) : String := "\x1b[" ++ code ++ "m"

/-- A text with its rendition before it and the default one after it, if colours are on. -/
def paint (style : Style) (codes : List String) (text : String) : String :=
  if style.colors then String.join (codes.map rendition) ++ text ++ rendition "0" else text

/-- The background of the badge of a status. -/
def background : Status → String
  | .waiting => "47"
  | .passed => "42"
  | .failed | .error => "41"
  | .skipped => "100"

/-- The name of a status, as a badge in colours. -/
def badge (style : Style) (status : Status) : String :=
  style.paint [background status, "30"] status.name

/-- Whether a report has a line. Silent cases have one only for failures and errors. -/
def shows (style : Style) (r : Report) : Bool :=
  match r.status with
  | .waiting => false
  | .passed => !r.silent
  | .skipped => !r.silent && !style.hideSkipped
  | .failed | .error => true

/-- The line of a report. -/
def reportLine (style : Style) (r : Report) : String :=
  style.badge r.status ++ " " ++ r.id ++ " - " ++ r.message

/-- What is printed for a response that is not JSON. -/
def notJsonNotice : String := "RESPONSE NOT JSON - NO VERBOSE AVAILABLE"

/-- What is printed when there is nothing to run. -/
def noTestsNotice : String := "No tests to run"

/-- The response of a failed assertion, if it is to be printed. -/
def responseText? (style : Style) (r : Report) : Option String :=
  if style.verbose then
    r.response.map fun
      | .json body => body.pretty
      | .notJson => notJsonNotice
  else none

/-- What is printed for a report. -/
def reportLines (style : Style) (r : Report) : List String :=
  (if style.shows r then [style.reportLine r] else []) ++ (style.responseText? r).toList

/-- The line of a summary. -/
def summaryLine (style : Style) (s : Summary) : String :=
  let entry (code label : String) (n : Nat) := style.paint [code] label ++ ": " ++ toString n
  String.intercalate " | "
    [entry "34" "Tests" s.total,
     entry "32" "Passed" (s.count .passed),
     entry "31" "Failed" (s.count .failed),
     entry "90" "Skipped" (s.count .skipped),
     entry "31" "Error" (s.count .error)]

/-- A line for each case that met an error, if they are to be listed. -/
def errorLines (style : Style) (s : Summary) : List String :=
  if style.verboseErrors then
    s.errorIds.map fun id => style.paint ["34"] id ++ ": " ++ Status.error.name
  else []

/-- What is printed for a summary. -/
def summaryLines (style : Style) (s : Summary) : List String :=
  style.summaryLine s :: style.errorLines s

/-- What is printed for an event of a run. -/
def eventLines (style : Style) : Event → List String
  | .completed call => call.lines
  | .reported r => style.reportLines r

/-- A text in a single rendition. -/
theorem paint_singleton (style : Style) (code text : String) :
    style.paint [code] text =
      if style.colors then "\x1b[" ++ code ++ "m" ++ text ++ "\x1b[0m" else text := by
  simp [paint, rendition]

/-- A summary is one line, with five numbers. -/
theorem summaryLine_eq (style : Style) (s : Summary) :
    style.summaryLine s =
      style.paint ["34"] "Tests" ++ ": " ++ toString s.total ++
        " | " ++ style.paint ["32"] "Passed" ++ ": " ++ toString (s.count .passed) ++
        " | " ++ style.paint ["31"] "Failed" ++ ": " ++ toString (s.count .failed) ++
        " | " ++ style.paint ["90"] "Skipped" ++ ": " ++ toString (s.count .skipped) ++
        " | " ++ style.paint ["31"] "Error" ++ ": " ++ toString (s.count .error) := by
  simp [summaryLine, String.append_assoc]

/-- Below it there may be a line for each error. -/
theorem errorLines_eq (style : Style) (s : Summary) :
    style.errorLines s =
      if style.verboseErrors then s.errorIds.map fun id => style.paint ["34"] id ++ ": ERROR" else [] := by
  simp [errorLines, Status.name, String.append_assoc]

/-- Without colours a badge is the name of its status. -/
theorem badge_of_not_colors (style : Style) (status : Status) (h : style.colors = false) :
    style.badge status = status.name := by
  simp [badge, paint, h]

end Style

end Probe
