/-!
# Resizing types

How an image is fitted into the requested width and height.
-/

namespace ImageRequest

/-- How an image is fitted into the requested width and height. -/
inductive ResizingType where
  /-- Scale into the area and keep the aspect ratio. -/
  | fit
  /-- Scale and crop so that the area is filled. -/
  | fill
  /-- Like `fill`, but never enlarge the cropped area. -/
  | fillDown
  /-- Stretch to the area without keeping the aspect ratio. -/
  | force
  /-- `fill` or `fit`, depending on the orientation of the image and the area. -/
  | auto
deriving Repr, DecidableEq

namespace ResizingType

/-- Every resizing type. -/
def all : List ResizingType :=
  [fit, fill, fillDown, force, auto]

/-- The token of a resizing type in requests and in answers. -/
def token : ResizingType → String
  | fit => "fit"
  | fill => "fill"
  | fillDown => "fill-down"
  | force => "force"
  | auto => "auto"

/-- The resizing type with a given token. -/
def ofToken? (text : String) : Option ResizingType :=
  all.find? (·.token = text)

end ResizingType

end ImageRequest
