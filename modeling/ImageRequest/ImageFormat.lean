/-!
# Image formats

The formats an image can have, their names, and their media types.
-/

namespace ImageRequest

/-- A format of an image file. -/
inductive ImageFormat where
  | jpeg
  | png
  | webp
  | gif
  | ico
  | svg
  | heic
  | avif
  | bmp
  | tiff
deriving Repr, DecidableEq

namespace ImageFormat

/-- Every format, in the order in which formats are listed. -/
def all : List ImageFormat :=
  [jpeg, png, webp, gif, ico, svg, heic, avif, bmp, tiff]

/-- The name of a format in requests, in the configuration and in answers. -/
def name : ImageFormat → String
  | jpeg => "jpeg"
  | png => "png"
  | webp => "webp"
  | gif => "gif"
  | ico => "ico"
  | svg => "svg"
  | heic => "heic"
  | avif => "avif"
  | bmp => "bmp"
  | tiff => "tiff"

/-- The media type of a format. -/
def mediaType : ImageFormat → String
  | ico => "image/x-icon"
  | svg => "image/svg+xml"
  | heic => "image/heif"
  | format => "image/" ++ format.name

/-- The format with a given name; `jpg` is a second name of `jpeg`. -/
def ofName? (text : String) : Option ImageFormat :=
  if text = "jpg" then some jpeg else all.find? (·.name = text)

theorem mem_all (format : ImageFormat) : format ∈ all := by
  cases format <;> decide

end ImageFormat

end ImageRequest
