import ImageRequest.Token

/-!
# Gravity

A gravity is an anchor with two offsets. Requests change it by a placement: an anchor with offsets
that may be omitted, in which case the earlier ones stay. A placement is read as a whole before
anything is changed, and its faults are reported in a fixed order: the number of tokens, the anchor,
the number of offsets for that anchor, the first offset, the second offset.
-/

namespace ImageRequest

/-- An anchor with two offsets. -/
structure Gravity where
  anchor : Anchor
  x : Float
  y : Float
deriving Repr, DecidableEq

/-- The gravity at an anchor without offsets. -/
def Gravity.at (anchor : Anchor) : Gravity :=
  { anchor, x := 0.0, y := 0.0 }

/-- A change of a gravity; an omitted offset keeps its value. -/
structure Placement where
  anchor : Anchor
  x? : Option Float
  y? : Option Float
deriving Repr, DecidableEq

/-- Change a gravity as a placement asks. -/
def Gravity.place (gravity : Gravity) (placement : Placement) : Gravity :=
  { anchor := placement.anchor
    x := placement.x?.getD gravity.x
    y := placement.y?.getD gravity.y }

namespace Placement

/-- Read an offset for an anchor. -/
def offset (anchor : Anchor) (field token : String) : Except Rejection Float :=
  Token.floatWith anchor.acceptsOffset field token

/-- Read an offset that may be missing. -/
def offset? (anchor : Anchor) (field : String) : Option String → Except Rejection (Option Float)
  | none => .ok none
  | some token => (offset anchor field token).map some

/-- Read a placement from an anchor and at most two offsets. -/
def ofTokens (tokens : List String) : Except Rejection Placement :=
  match tokens with
  | [] => .error (.invalidArguments "gravity" tokens)
  | anchor :: offsets =>
    if 2 < offsets.length then .error (.invalidArguments "gravity" tokens)
    else do
      let anchor ← Token.anchor anchor
      if anchor.acceptsOffsetCount offsets.length then
        let x? ← offset? anchor "gravity X" offsets[0]?
        let y? ← offset? anchor "gravity Y" offsets[1]?
        return { anchor, x?, y? }
      else .error (.invalidArguments "gravity" tokens)

end Placement

end ImageRequest
