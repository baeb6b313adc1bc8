import Gatehouse.Duration
import Gatehouse.Json

/-!
Errors as they are reported: a JSON object with a code, a message where there is one, and whatever else is
known.
-/
namespace Gatehouse.Report

def error (code : String) (message : Option String) (more : List (String × Json)) : Json :=
  let message := match message with
    | some m => [("message", .text m)]
    | none => []
  .ofEntries (("error", .text code) :: message ++ more)

def result {ε α : Type} (failure : ε → Json) (success : α → Json) : Except ε α → Json
  | .ok a => success a
  | .error e => failure e

def one (key : String) (value : Json) : Json := .object [(key, value)]

def duration (d : Duration) : Json :=
  .ofEntries [("s", .int d.wholeSeconds), ("ns", .int d.subsecondNanos)]

def texts (ss : List String) : Json := .array (ss.map .text)

def orNull {α : Type} (form : α → Json) : Option α → Json
  | none => .null
  | some a => form a

end Gatehouse.Report
