import ImageRequest.Script
import ImageRequest.Setting

/-!
# The scripts of the settings

For each setting, the script that its handler acts as (`Setting.runs_handle`). A script first checks
how many arguments there are, and then reads them from left to right, writing each value as soon as
it is read. The only script that depends on the clock is that of the expiry, which writes nothing.

`resize` and `size` are composed of simpler scripts, one after another.
-/

namespace ImageRequest

namespace Script

/-- What is done with the only argument of a directive that takes one. -/
def single (label : String) (arguments : List String) (use : String → Script) : Script :=
  match arguments with
  | [token] => use token
  | _ => .reject (.invalidArguments label arguments)

/-- What is done with an argument that may be missing or empty. -/
def slot (arguments : List String) (index : Nat) (use : String → Script) : Script :=
  match arguments[index]? with
  | none => .done
  | some "" => .done
  | some token => use token

/-- Read the only argument as a number of pixels. -/
def pixels (label : String) (edit : Nat → Edit) (arguments : List String) : Script :=
  single label arguments fun token => .store edit (Token.dimension label token)

/-- Read the only argument as a truth value. -/
def switch (label : String) (edit : Bool → Edit) (arguments : List String) : Script :=
  single label arguments (.flag edit)

/-- Read the only argument as a double that is not negative. -/
def amount (label : String) (edit : Float → Edit) (arguments : List String) : Script :=
  single label arguments fun token => .store edit (Token.nonNegativeFloat label token)

/-- The width of the result. -/
def width : List String → Script :=
  pixels "width" .width

/-- The height of the result. -/
def height : List String → Script :=
  pixels "height" .height

/-- Whether small images are enlarged. -/
def enlarge : List String → Script :=
  switch "enlarge" .enlarge

/-- The resizing type. -/
def resizingType (arguments : List String) : Script :=
  single "resizing type" arguments fun token => .store .resizingType (Token.resizingType token)

/-- The gravity of an extension. A smart gravity is written before it is rejected. -/
def extensionGravity (tokens : List String) : Script :=
  match Placement.ofTokens tokens with
  | .error rejection => .reject rejection
  | .ok placement =>
    .write (.extension (.gravity placement)) ++
      if placement.anchor = .smart then .reject (.unsupportedAnchor "extend" .smart) else .done

/-- Whether to extend, and the gravity if there are more arguments. -/
def extend (arguments : List String) : Script :=
  match arguments with
  | [] => .reject (.invalidArguments "extend" arguments)
  | enabled :: rest =>
    if 3 < rest.length then .reject (.invalidArguments "extend" arguments)
    else
      .flag (fun value => .extension (.enabled value)) enabled ++
        if rest.isEmpty then .done else extensionGravity rest

/-- Width, height, enlargement and extension, each of which may be left out. -/
def size (arguments : List String) : Script :=
  if 7 < arguments.length then .reject (.invalidArguments "size" arguments)
  else
    slot arguments 0 (fun token => width [token]) ++
      slot arguments 1 (fun token => height [token]) ++
      slot arguments 2 (fun token => enlarge [token]) ++
      slot arguments 3 (fun _ => extend (arguments.drop 3))

/-- The resizing type, which may be left out, and the arguments of a size. -/
def resize (arguments : List String) : Script :=
  match arguments with
  | [] => .reject (.invalidArguments "resize" arguments)
  | _ :: rest =>
    if 7 < rest.length then .reject (.invalidArguments "resize" arguments)
    else slot arguments 0 (fun token => resizingType [token]) ++ size rest

/-- The gravity of the result. -/
def gravity (arguments : List String) : Script :=
  .store .gravity (Placement.ofTokens arguments)

/-- Width, height and gravity of a crop. -/
def crop (arguments : List String) : Script :=
  match arguments with
  | [] => .reject (.invalidArguments "crop" arguments)
  | width :: rest =>
    if 4 < rest.length then .reject (.invalidArguments "crop" arguments)
    else
      .store (fun value => .crop (.width value)) (Token.nonNegativeFloat "crop width" width) ++
        (match rest with
          | [] => .done
          | height :: tokens =>
            .store (fun value => .crop (.height value))
                (Token.nonNegativeFloat "crop height" height) ++
              if tokens.isEmpty then .done
              else .store (fun value => .crop (.gravity value)) (Placement.ofTokens tokens))

/-- One length of a padding. -/
def paddingLength (label : String) (edit : Nat → Padding.Edit) (token : String) : Script :=
  .store (fun value => .padding (edit value)) (Token.dimension label token)

/-- The space at the top, right, bottom and left. The top stands for every side and the right for
the left, unless a later argument says otherwise; a padding of zero on every side is none. -/
def padding (arguments : List String) : Script :=
  if arguments.isEmpty || 4 < arguments.length then .reject (.invalidArguments "padding" arguments)
  else
    .write (.padding .enable) ++
      slot arguments 0 (paddingLength "padding top (+all)" .all) ++
      slot arguments 1 (paddingLength "padding right (+left)" .sides) ++
      slot arguments 2 (paddingLength "padding bottom" .bottom) ++
      slot arguments 3 (paddingLength "padding left" .left) ++
      .write (.padding .disableIfEmpty)

/-- The threshold, the color and the two symmetries of a trim. -/
def trim (arguments : List String) : Script :=
  match arguments with
  | [] => .reject (.invalidArguments "trim" arguments)
  | threshold :: rest =>
    if 3 < rest.length then .reject (.invalidArguments "trim" arguments)
    else
      .store (fun value => .trim (.threshold value))
          (Token.nonNegativeFloat "trim threshold" threshold) ++
        slot rest 0 (fun token =>
          .store (fun value => .trim (.color value)) (Token.color "trim color" token)) ++
        slot rest 1 (.flag fun value => .trim (.equalHorizontally value)) ++
        slot rest 2 (.flag fun value => .trim (.equalVertically value))

/-- One channel of the background. -/
def channel (label : String) (edit : UInt8 → Color.Edit) (token : String) : Script :=
  .store (fun value => .background (edit value)) (Token.channel label token)

/-- The background of a flattened image: a color in hexadecimal digits or by three channels. An
empty argument asks for no flattening. -/
def background (arguments : List String) : Script :=
  match arguments with
  | [""] => .write (.flatten false)
  | [hex] =>
    .store (fun value => .background (.all value)) (Token.color "background argument" hex) ++
      .write (.flatten true)
  | [red, green, blue] =>
    .write (.flatten true) ++
      channel "background red channel" .red red ++
      channel "background green channel" .green green ++
      channel "background blue channel" .blue blue
  | _ => .reject (.invalidArguments "background" arguments)

/-- Where a watermark is put: on every place or at an anchor with a fixed position. -/
def position (token : String) : Script :=
  if token = "re" then .write (.watermark .replicate)
  else
    let anchor? := (Anchor.ofToken? token).filter fun anchor =>
      anchor ≠ .smart && anchor ≠ .focusPoint
    .store (fun value => .watermark (.anchor value))
      (Token.require "watermark position" token anchor?)

/-- One offset of a watermark. -/
def watermarkOffset (label : String) (edit : Float → Watermark.Edit) (token : String) : Script :=
  .store (fun value => .watermark (edit (Float.ofInt value))) (Token.integer label token)

/-- Opacity, position, two offsets and scale of a watermark. -/
def watermark (arguments : List String) : Script :=
  match arguments with
  | [] => .reject (.invalidArguments "watermark" arguments)
  | opacity :: rest =>
    if 6 < rest.length then .reject (.invalidArguments "watermark" arguments)
    else
      .store (fun value => .watermark (.opacity value))
          (Token.unitFloat "watermark opacity" opacity) ++
        slot rest 0 position ++
        slot rest 1 (watermarkOffset "watermark X offset" .x) ++
        slot rest 2 (watermarkOffset "watermark Y offset" .y) ++
        slot rest 3 (fun token =>
          .store (fun value => .watermark (.scale value))
            (Token.nonNegativeFloat "watermark scale" token))

/-- The device pixel ratio. -/
def dpr (arguments : List String) : Script :=
  single "dpr" arguments fun token => .store .dpr (Token.positiveFloat "dpr" token)

/-- The angle of a rotation. -/
def rotate (arguments : List String) : Script :=
  single "rotate" arguments fun token => .store .rotation (Token.rotation token)

/-- The quality of the result. -/
def quality (arguments : List String) : Script :=
  single "quality" arguments fun token => .store .quality (Token.quality token)

/-- The greatest size of the result. -/
def maxBytes (arguments : List String) : Script :=
  single "max_bytes" arguments fun token => .store .maxBytes (Token.byteCount "max_bytes" token)

/-- The format of the result. -/
def format (arguments : List String) : Script :=
  single "format" arguments fun token => .store .format (Token.format token)

/-- Formats that are to be passed on as they are, in addition to those known so far. -/
def skipProcessing (arguments : List String) : Script :=
  .sequence (arguments.map fun token => .store .skip (Token.format token))

/-- A text that tells otherwise equal requests apart. -/
def cacheBuster (arguments : List String) : Script :=
  single "cache buster" arguments fun token => .write (.cacheBuster token)

/-- The name under which the result is offered. -/
def filename (arguments : List String) : Script :=
  single "filename" arguments fun token => .write (.filename token)

/-- The time after which a request is rejected; a time that is not positive is none. -/
def expires (now : Int) (arguments : List String) : Script :=
  single "expires" arguments fun token =>
    match Token.integer "expires argument" token with
    | .error rejection => .reject rejection
    | .ok time => if 0 < time ∧ time ≤ now then .reject .expired else .done

end Script

/-- The script of a setting for the arguments of its directive at a given time. -/
def Setting.script (now : Int) (setting : Setting) (arguments : List String) : Script :=
  match setting with
  | .resize => .resize arguments
  | .size => .size arguments
  | .resizingType => .resizingType arguments
  | .width => .width arguments
  | .height => .height arguments
  | .minWidth => .pixels "min width" .minWidth arguments
  | .minHeight => .pixels "min height" .minHeight arguments
  | .dpr => .dpr arguments
  | .enlarge => .enlarge arguments
  | .extend => .extend arguments
  | .gravity => .gravity arguments
  | .crop => .crop arguments
  | .trim => .trim arguments
  | .padding => .padding arguments
  | .autoRotate => .switch "auto rotate" .autoRotate arguments
  | .rotate => .rotate arguments
  | .background => .background arguments
  | .blur => .amount "blur" .blur arguments
  | .sharpen => .amount "sharpen" .sharpen arguments
  | .watermark => .watermark arguments
  | .stripMetadata => .switch "strip metadata" .stripMetadata arguments
  | .stripColorProfile => .switch "strip color profile" .stripColorProfile arguments
  | .quality => .quality arguments
  | .maxBytes => .maxBytes arguments
  | .format => .format arguments
  | .skipProcessing => .skipProcessing arguments
  | .cacheBuster => .cacheBuster arguments
  | .expires => .expires now arguments
  | .filename => .filename arguments

end ImageRequest
