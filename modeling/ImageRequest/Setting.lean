/-!
# Settings and their names

A setting is something that a directive can set. Each has a name and possibly shorter aliases. The
keywords of a request are the settings and the request for presets.
-/

namespace ImageRequest

/-- What a directive can set. -/
inductive Setting where
  | resize
  | size
  | resizingType
  | width
  | height
  | minWidth
  | minHeight
  | dpr
  | enlarge
  | extend
  | gravity
  | crop
  | trim
  | padding
  | autoRotate
  | rotate
  | background
  | blur
  | sharpen
  | watermark
  | stripMetadata
  | stripColorProfile
  | quality
  | maxBytes
  | format
  | skipProcessing
  | cacheBuster
  | expires
  | filename
deriving Repr, DecidableEq

namespace Setting

/-- Every setting, in the order in which they are listed. -/
def all : List Setting :=
  [resize, size, resizingType, width, height, minWidth, minHeight, dpr, enlarge, extend, gravity,
    crop, trim, padding, autoRotate, rotate, background, blur, sharpen, watermark, stripMetadata,
    stripColorProfile, quality, maxBytes, format, skipProcessing, cacheBuster, expires, filename]

/-- The name of a setting. -/
def name : Setting → String
  | resize => "resize"
  | size => "size"
  | resizingType => "resizing_type"
  | width => "width"
  | height => "height"
  | minWidth => "min-width"
  | minHeight => "min-height"
  | dpr => "dpr"
  | enlarge => "enlarge"
  | extend => "extend"
  | gravity => "gravity"
  | crop => "crop"
  | trim => "trim"
  | padding => "padding"
  | autoRotate => "auto_rotate"
  | rotate => "rotate"
  | background => "background"
  | blur => "blur"
  | sharpen => "sharpen"
  | watermark => "watermark"
  | stripMetadata => "strip_metadata"
  | stripColorProfile => "strip_color_profile"
  | quality => "quality"
  | maxBytes => "max_bytes"
  | format => "format"
  | skipProcessing => "skip_processing"
  | cacheBuster => "cachebuster"
  | expires => "expires"
  | filename => "filename"

/-- The other names of a setting. -/
def aliases : Setting → List String
  | resize => ["rs"]
  | size => ["s"]
  | resizingType => ["rt"]
  | width => ["w"]
  | height => ["h"]
  | minWidth => ["mw"]
  | minHeight => ["mh"]
  | dpr => []
  | enlarge => ["el"]
  | extend => ["ex"]
  | gravity => ["g"]
  | crop => ["c"]
  | trim => ["t"]
  | padding => ["pd"]
  | autoRotate => ["ar"]
  | rotate => ["rot"]
  | background => ["bg"]
  | blur => ["bl"]
  | sharpen => ["sh"]
  | watermark => ["wm"]
  | stripMetadata => ["sm"]
  | stripColorProfile => ["scp"]
  | quality => ["q"]
  | maxBytes => ["mb"]
  | format => ["f", "ext"]
  | skipProcessing => ["skp"]
  | cacheBuster => ["cb"]
  | expires => ["exp"]
  | filename => ["fn"]

end Setting

/-- What a directive can ask for. -/
inductive Keyword where
  | setting (setting : Setting)
  /-- The directives of some presets. -/
  | preset
deriving Repr, DecidableEq

namespace Keyword

/-- Every keyword, in the order in which they are listed. -/
def all : List Keyword :=
  Setting.all.map setting ++ [preset]

/-- The name of a keyword. -/
def name : Keyword → String
  | setting s => s.name
  | preset => "preset"

/-- The other names of a keyword. -/
def aliases : Keyword → List String
  | setting s => s.aliases
  | preset => ["pr"]

/-- Every name of a keyword, its own name first. -/
def names (keyword : Keyword) : List String :=
  keyword.name :: keyword.aliases

/-- The keyword with a given name. -/
def ofName? (text : String) : Option Keyword :=
  all.find? (text ∈ ·.names)

theorem mem_all (keyword : Keyword) : keyword ∈ all := by
  cases keyword with
  | preset => decide
  | setting s => cases s <;> decide

/-- The names of a keyword are names of no other one. -/
theorem ofName?_of_mem_names {keyword : Keyword} {name : String} (mem : name ∈ keyword.names) :
    ofName? name = some keyword := by
  have each : ∀ keyword ∈ all, ∀ name ∈ keyword.names, ofName? name = some keyword := by
    decide
  exact each keyword keyword.mem_all name mem

/-- Each setting is read back from its name. -/
theorem ofName?_name (s : Setting) : ofName? s.name = some (setting s) :=
  ofName?_of_mem_names List.mem_cons_self

end Keyword

end ImageRequest
