import ImageRequest.Handler
import ImageRequest.Setting

/-!
# The handlers of the settings

Each setting has a handler for the arguments of its directive. A handler first checks how many
arguments there are, and then reads them from left to right, storing each value as soon as it is
read. Some handlers look at what they stored: an extension is rejected if the gravity that it now
has is smart, and a padding is switched off if no side of it is left with any space. The only
handler that looks at the clock is that of the expiry, which stores nothing.

`resize` and `size` hand parts of their arguments on to the handlers of simpler settings.
-/

namespace ImageRequest

namespace Handler

/-- Store the only argument as a number of pixels. -/
def pixels (label : String) (store : Nat → Options → Options) (arguments : List String) :
    Handler Unit := do
  let token ← single label arguments
  let value ← read (Token.dimension label token)
  change (store value)

/-- Store the only argument as a truth value. -/
def switch (label : String) (store : Bool → Options → Options) (arguments : List String) :
    Handler Unit := do
  let token ← single label arguments
  let value ← flag token
  change (store value)

/-- Store the only argument as a double that is not negative. -/
def amount (label : String) (store : Float → Options → Options) (arguments : List String) :
    Handler Unit := do
  let token ← single label arguments
  let value ← read (Token.nonNegativeFloat label token)
  change (store value)

/-- The width of the result. -/
def width : List String → Handler Unit :=
  pixels "width" fun value o => { o with width := value }

/-- The height of the result. -/
def height : List String → Handler Unit :=
  pixels "height" fun value o => { o with height := value }

/-- The least width of the result. -/
def minWidth : List String → Handler Unit :=
  pixels "min width" fun value o => { o with minWidth := value }

/-- The least height of the result. -/
def minHeight : List String → Handler Unit :=
  pixels "min height" fun value o => { o with minHeight := value }

/-- Whether small images are enlarged. -/
def enlarge : List String → Handler Unit :=
  switch "enlarge" fun value o => { o with enlarge := value }

/-- The resizing type. -/
def resizingType (arguments : List String) : Handler Unit := do
  let token ← single "resizing type" arguments
  let value ← read (Token.resizingType token)
  change fun o => { o with resizingType := value }

/-- Whether to extend, and the gravity if there are more arguments. A smart gravity is stored before
it is rejected. -/
def extend (arguments : List String) : Handler Unit :=
  match arguments with
  | [] => throw (.invalidArguments "extend" arguments)
  | enabled :: rest =>
    if 3 < rest.length then throw (.invalidArguments "extend" arguments)
    else do
      let value ← flag enabled
      change fun o => { o with extension.enabled := value }
      unless rest.isEmpty do
        let placement ← read (Placement.ofTokens rest)
        change fun o => { o with extension.gravity := o.extension.gravity.place placement }
        if (← options).extension.gravity.anchor = .smart then
          throw (.unsupportedAnchor "extend" .smart)

/-- Width, height, enlargement and extension, each of which may be left out. -/
def size (arguments : List String) : Handler Unit :=
  if 7 < arguments.length then throw (.invalidArguments "size" arguments)
  else do
    slot arguments 0 fun _ => width (arguments.extract 0 1)
    slot arguments 1 fun _ => height (arguments.extract 1 2)
    slot arguments 2 fun _ => enlarge (arguments.extract 2 3)
    slot arguments 3 fun _ => extend (arguments.drop 3)

/-- The resizing type, which may be left out, and the arguments of a size, if there are any. -/
def resize (arguments : List String) : Handler Unit :=
  match arguments with
  | [] => throw (.invalidArguments "resize" arguments)
  | _ :: rest =>
    if 7 < rest.length then throw (.invalidArguments "resize" arguments)
    else do
      slot arguments 0 fun _ => resizingType (arguments.extract 0 1)
      unless rest.isEmpty do
        size rest

/-- The device pixel ratio. -/
def dpr (arguments : List String) : Handler Unit := do
  let token ← single "dpr" arguments
  let value ← read (Token.positiveFloat "dpr" token)
  change fun o => { o with dpr := value }

/-- The gravity of the result. -/
def gravity (arguments : List String) : Handler Unit := do
  let placement ← read (Placement.ofTokens arguments)
  change fun o => { o with gravity := o.gravity.place placement }

/-- Width, height and gravity of a crop. -/
def crop (arguments : List String) : Handler Unit :=
  match arguments with
  | [] => throw (.invalidArguments "crop" arguments)
  | width :: rest =>
    if 4 < rest.length then throw (.invalidArguments "crop" arguments)
    else do
      let value ← read (Token.nonNegativeFloat "crop width" width)
      change fun o => { o with crop.width := value }
      match rest with
      | [] => pure ()
      | height :: tokens =>
        let value ← read (Token.nonNegativeFloat "crop height" height)
        change fun o => { o with crop.height := value }
        unless tokens.isEmpty do
          let placement ← read (Placement.ofTokens tokens)
          change fun o => { o with crop.gravity := o.crop.gravity.place placement }

/-- Change the padding. -/
def changePadding (f : Padding → Padding) : Handler Unit :=
  change fun o => { o with padding := f o.padding }

/-- The space at the top, right, bottom and left. The top is stored for every side and the right for
the left, until a later argument is stored over it; a padding of zero on every side is none. -/
def padding (arguments : List String) : Handler Unit :=
  if arguments.isEmpty || 4 < arguments.length then throw (.invalidArguments "padding" arguments)
  else do
    changePadding fun padding => { padding with enabled := true }
    slot arguments 0 fun token => do
      let value ← read (Token.dimension "padding top (+all)" token)
      changePadding fun padding => { padding with top := value }
      changePadding fun padding => { padding with right := padding.top }
      changePadding fun padding => { padding with bottom := padding.top }
      changePadding fun padding => { padding with left := padding.top }
    slot arguments 1 fun token => do
      let value ← read (Token.dimension "padding right (+left)" token)
      changePadding fun padding => { padding with right := value }
      changePadding fun padding => { padding with left := padding.right }
    slot arguments 2 fun token => do
      let value ← read (Token.dimension "padding bottom" token)
      changePadding fun padding => { padding with bottom := value }
    slot arguments 3 fun token => do
      let value ← read (Token.dimension "padding left" token)
      changePadding fun padding => { padding with left := value }
    if (← options).padding.isEmpty then
      changePadding fun padding => { padding with enabled := false }

/-- Change the trim. -/
def changeTrim (f : Trim → Trim) : Handler Unit :=
  change fun o => { o with trim := f o.trim }

/-- The threshold, the color and the two symmetries of a trim. -/
def trim (arguments : List String) : Handler Unit :=
  match arguments with
  | [] => throw (.invalidArguments "trim" arguments)
  | threshold :: rest =>
    if 3 < rest.length then throw (.invalidArguments "trim" arguments)
    else do
      let value ← read (Token.nonNegativeFloat "trim threshold" threshold)
      changeTrim fun trim => { trim with threshold := value }
      changeTrim fun trim => { trim with enabled := true }
      slot rest 0 fun token => do
        let value ← read (Token.color "trim color" token)
        changeTrim fun trim => { trim with color := value }
        changeTrim fun trim => { trim with smart := false }
      slot rest 1 fun token => do
        let value ← flag token
        changeTrim fun trim => { trim with equalHorizontally := value }
      slot rest 2 fun token => do
        let value ← flag token
        changeTrim fun trim => { trim with equalVertically := value }

/-- The angle of a rotation. -/
def rotate (arguments : List String) : Handler Unit := do
  let token ← single "rotate" arguments
  let value ← read (Token.rotation token)
  change fun o => { o with rotation := value }

/-- Whether the image is turned upright first. -/
def autoRotate : List String → Handler Unit :=
  switch "auto rotate" fun value o => { o with autoRotate := value }

/-- The quality of the result. -/
def quality (arguments : List String) : Handler Unit := do
  let token ← single "quality" arguments
  let value ← read (Token.quality token)
  change fun o => { o with quality := value }

/-- The greatest size of the result. -/
def maxBytes (arguments : List String) : Handler Unit := do
  let token ← single "max_bytes" arguments
  let value ← read (Token.byteCount "max_bytes" token)
  change fun o => { o with maxBytes := value }

/-- The background of a flattened image: a color in hexadecimal digits or by three channels, stored
one by one. An empty argument asks for no flattening. -/
def background (arguments : List String) : Handler Unit :=
  match arguments with
  | [""] => change fun o => { o with flatten := false }
  | [hex] => do
    let value ← read (Token.color "background argument" hex)
    change fun o => { o with background := value }
    change fun o => { o with flatten := true }
  | [red, green, blue] => do
    change fun o => { o with flatten := true }
    let value ← read (Token.channel "background red channel" red)
    change fun o => { o with background.red := value }
    let value ← read (Token.channel "background green channel" green)
    change fun o => { o with background.green := value }
    let value ← read (Token.channel "background blue channel" blue)
    change fun o => { o with background.blue := value }
  | _ => throw (.invalidArguments "background" arguments)

/-- The strength of a blur. -/
def blur : List String → Handler Unit :=
  amount "blur" fun value o => { o with blur := value }

/-- The strength of a sharpening. -/
def sharpen : List String → Handler Unit :=
  amount "sharpen" fun value o => { o with sharpen := value }

/-- Change the watermark. -/
def changeWatermark (f : Watermark → Watermark) : Handler Unit :=
  change fun o => { o with watermark := f o.watermark }

/-- Where a watermark is put: on every place or at an anchor with a fixed position. -/
def position (token : String) : Handler Unit :=
  if token = "re" then changeWatermark fun watermark => { watermark with replicate := true }
  else
    match Anchor.ofToken? token with
    | none | some .smart | some .focusPoint => throw (.invalidValue "watermark position" token)
    | some anchor => changeWatermark fun watermark => { watermark with gravity.anchor := anchor }

/-- Opacity, position, two offsets and scale of a watermark, which is switched on by an opacity
greater than zero. -/
def watermark (arguments : List String) : Handler Unit :=
  match arguments with
  | [] => throw (.invalidArguments "watermark" arguments)
  | opacity :: rest =>
    if 6 < rest.length then throw (.invalidArguments "watermark" arguments)
    else do
      let value ← read (Token.unitFloat "watermark opacity" opacity)
      changeWatermark fun watermark => { watermark with opacity := value }
      changeWatermark fun watermark => { watermark with enabled := 0.0 < watermark.opacity }
      slot rest 0 position
      slot rest 1 fun token => do
        let value ← read (Token.integer "watermark X offset" token)
        changeWatermark fun watermark => { watermark with gravity.x := Float.ofInt value }
      slot rest 2 fun token => do
        let value ← read (Token.integer "watermark Y offset" token)
        changeWatermark fun watermark => { watermark with gravity.y := Float.ofInt value }
      slot rest 3 fun token => do
        let value ← read (Token.nonNegativeFloat "watermark scale" token)
        changeWatermark fun watermark => { watermark with scale := value }

/-- Whether metadata are removed. -/
def stripMetadata : List String → Handler Unit :=
  switch "strip metadata" fun value o => { o with stripMetadata := value }

/-- Whether the color profile is removed. -/
def stripColorProfile : List String → Handler Unit :=
  switch "strip color profile" fun value o => { o with stripColorProfile := value }

/-- The format of the result. -/
def format (arguments : List String) : Handler Unit := do
  let token ← single "format" arguments
  let value ← read (Token.format token)
  change fun o => { o with format? := some value }

/-- Formats that are to be passed on as they are, in addition to those known so far. -/
def skipProcessing (arguments : List String) : Handler Unit :=
  arguments.forM fun token => do
    let value ← read (Token.format token)
    change fun o => { o with skippedFormats := o.skippedFormats ++ [value] }

/-- A text that tells otherwise equal requests apart. -/
def cacheBuster (arguments : List String) : Handler Unit := do
  let token ← single "cache buster" arguments
  change fun o => { o with cacheBuster := token }

/-- The name under which the result is offered. -/
def filename (arguments : List String) : Handler Unit := do
  let token ← single "filename" arguments
  change fun o => { o with filename := token }

/-- The time after which a request is rejected; a time that is not positive is none. -/
def expires (now : Int) (arguments : List String) : Handler Unit := do
  let token ← single "expires" arguments
  let time ← read (Token.integer "expires argument" token)
  if 0 < time ∧ time ≤ now then throw .expired

end Handler

/-- What a setting does with the arguments of its directive at a given time. -/
def Setting.handle (now : Int) (setting : Setting) (arguments : List String) : Handler Unit :=
  match setting with
  | .resize => .resize arguments
  | .size => .size arguments
  | .resizingType => .resizingType arguments
  | .width => .width arguments
  | .height => .height arguments
  | .minWidth => .minWidth arguments
  | .minHeight => .minHeight arguments
  | .dpr => .dpr arguments
  | .enlarge => .enlarge arguments
  | .extend => .extend arguments
  | .gravity => .gravity arguments
  | .crop => .crop arguments
  | .trim => .trim arguments
  | .padding => .padding arguments
  | .autoRotate => .autoRotate arguments
  | .rotate => .rotate arguments
  | .background => .background arguments
  | .blur => .blur arguments
  | .sharpen => .sharpen arguments
  | .watermark => .watermark arguments
  | .stripMetadata => .stripMetadata arguments
  | .stripColorProfile => .stripColorProfile arguments
  | .quality => .quality arguments
  | .maxBytes => .maxBytes arguments
  | .format => .format arguments
  | .skipProcessing => .skipProcessing arguments
  | .cacheBuster => .cacheBuster arguments
  | .expires => .expires now arguments
  | .filename => .filename arguments

end ImageRequest
