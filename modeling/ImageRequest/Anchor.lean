/-!
# Anchors

The point of an image that a crop, an extension or a watermark is placed at. Most anchors take
offsets from the named side; the focus point is given by its two relative coordinates alone, and the
smart anchor is found from the content of the image.
-/

namespace ImageRequest

/-- The point of an image at which something is placed. -/
inductive Anchor where
  | center
  | north
  | east
  | south
  | west
  | northEast
  | northWest
  | southEast
  | southWest
  /-- The most interesting part of the image. -/
  | smart
  /-- The point with given relative coordinates. -/
  | focusPoint
deriving Repr, DecidableEq

namespace Anchor

/-- Every anchor. -/
def all : List Anchor :=
  [center, north, east, south, west, northEast, northWest, southEast, southWest, smart, focusPoint]

/-- The token of an anchor in requests. -/
def token : Anchor → String
  | center => "ce"
  | north => "no"
  | east => "ea"
  | south => "so"
  | west => "we"
  | northEast => "noea"
  | northWest => "nowe"
  | southEast => "soea"
  | southWest => "sowe"
  | smart => "sm"
  | focusPoint => "fp"

/-- The name of an anchor in error texts. -/
def name : Anchor → String
  | center => "center"
  | north => "north"
  | east => "east"
  | south => "south"
  | west => "west"
  | northEast => "north-east"
  | northWest => "north-west"
  | southEast => "south-east"
  | southWest => "south-west"
  | smart => "smart"
  | focusPoint => "focus point"

/-- The identifier of an anchor in answers. -/
def identifier : Anchor → String
  | northEast => "north_east"
  | northWest => "north_west"
  | southEast => "south_east"
  | southWest => "south_west"
  | focusPoint => "focus_point"
  | anchor => anchor.name

/-- The anchor with a given token. -/
def ofToken? (text : String) : Option Anchor :=
  all.find? (·.token = text)

/-- Whether an offset is allowed at an anchor. Only the center takes negative offsets, and the
coordinates of the focus point are fractions of the size. -/
def acceptsOffset : Anchor → Float → Bool
  | center, _ => true
  | focusPoint, offset => 0.0 ≤ offset && offset ≤ 1.0
  | _, offset => 0.0 ≤ offset

/-- Whether an anchor can come with a given number of offsets: the smart anchor has none and the
focus point has both. -/
def acceptsOffsetCount : Anchor → Nat → Bool
  | smart, count => count == 0
  | focusPoint, count => count == 2
  | _, count => count ≤ 2

/-- Each anchor is read back from its token. -/
theorem ofToken?_token (anchor : Anchor) : ofToken? anchor.token = some anchor := by
  cases anchor <;> decide

end Anchor

end ImageRequest
