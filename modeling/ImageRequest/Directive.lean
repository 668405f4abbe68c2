import ImageRequest.Text.Split

/-!
# Directives as written

A directive is written as a segment: a name and at least one argument, joined by a separator. A
segment without the separator is no directive. The directives of a path are its leading segments
up to the first one that is none.
-/

namespace ImageRequest

/-- A name and its arguments. -/
structure Directive where
  name : String
  arguments : List String
deriving Repr, DecidableEq

namespace Directive

/-- The segment that writes a directive. -/
def segment (separator : String) (directive : Directive) : String :=
  separator.intercalate (directive.name :: directive.arguments)

/-- Read a segment as a directive. -/
def ofSegment? (separator segment : String) : Option Directive :=
  match Text.split separator segment with
  | name :: argument :: arguments => some { name, arguments := argument :: arguments }
  | _ => none

/-- The directives written by the leading segments, and the segments after them. -/
def leading (separator : String) : List String → List Directive × List String
  | [] => ([], [])
  | segment :: segments =>
    match ofSegment? separator segment with
    | none => ([], segment :: segments)
    | some directive =>
      let (directives, rest) := leading separator segments
      (directive :: directives, rest)

end Directive

end ImageRequest
