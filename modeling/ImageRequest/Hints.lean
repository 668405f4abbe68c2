import ImageRequest.Config
import ImageRequest.Headers

/-!
# Hints in request headers

The headers of a request tell which formats a client accepts and, where the configuration allows it,
how wide its screen is. They change the preferred formats, the width and the pixel ratio, and
nothing else.
-/

namespace ImageRequest

/-- Whether a list of accepted media types mentions a format anywhere. -/
def ImageFormat.isMentionedIn (format : ImageFormat) (accepted : String) : Bool :=
  Text.occursIn format.mediaType.toList accepted.toList

namespace Options

/-- Take over which formats a client accepts. -/
def negotiate (config : ProcessingConfig) (accepted : String) (options : Options) : Options :=
  let options :=
    if ImageFormat.webp.isMentionedIn accepted then
      { options with
        preferWebp := config.detectWebp || config.enforceWebp
        enforceWebp := config.enforceWebp }
    else options
  if ImageFormat.avif.isMentionedIn accepted then
    { options with
      preferAvif := config.detectAvif || config.enforceAvif
      enforceAvif := config.enforceAvif }
  else options

/-- The width that a header gives, if it is a number of pixels. -/
def widthHint? (headers : Headers) (name : String) : Option Nat :=
  (headers.text? name).bind fun value => Numeral.natUpTo? 4294967295 (Text.trim value)

/-- The pixel ratio that the headers give, if it is above zero and at most eight. -/
def dprHint? (headers : Headers) : Option Float :=
  ((headers.text? "dpr").bind fun value => Numeral.float? (Text.trim value)).filter fun x =>
    0.0 < x && x ≤ 8.0

/-- Take over the width and the pixel ratio of a client. The width of the image counts more than
the width of the viewport. -/
def adaptToClient (headers : Headers) (options : Options) : Options :=
  { options with
    width := ((widthHint? headers "width").or (widthHint? headers "viewport-width")).getD
      options.width
    dpr := (dprHint? headers).getD options.dpr }

/-- Take over the hints in the headers of a request. -/
def withHints (config : ProcessingConfig) (headers : Headers) (options : Options) : Options :=
  let options :=
    match headers.text? "accept" with
    | none => options
    | some accepted => options.negotiate config accepted
  if config.clientHints then options.adaptToClient headers else options

end Options

end ImageRequest
