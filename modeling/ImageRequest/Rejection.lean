import ImageRequest.Anchor
import ImageRequest.Text.Quoted

/-!
# Reasons to reject a request

A directive, a preset or a source can be rejected for one of a few causes, each with its own text.
Some oddities only give rise to a warning, and the request goes on.
-/

namespace ImageRequest

/-- Why the source part of a path cannot be decoded. -/
inductive SourceError where
  /-- There is no address. -/
  | empty
  /-- The extension mark occurs more than once. -/
  | severalExtensions (encoded : String)
  /-- The encoded address does not decode to text. -/
  | undecodable (encoded : String)
  /-- A reason that another decoder gives in its own words. -/
  | other (text : String)
deriving Repr, DecidableEq

/-- The text of the error. -/
def SourceError.message : SourceError → String
  | .empty => "Image URL is empty"
  | .severalExtensions encoded => "Multiple formats are specified: " ++ encoded
  | .undecodable encoded => "Invalid url encoding: " ++ encoded
  | .other text => text

/-- Why a request is rejected. -/
inductive Rejection where
  /-- A directive has too few or too many arguments. -/
  | invalidArguments (directive : String) (arguments : List String)
  /-- An argument is not a value of its field. -/
  | invalidValue (field token : String)
  /-- There is no directive of that name. -/
  | unknownDirective (name : String)
  /-- There is no preset of that name. -/
  | unknownPreset (name : String)
  /-- There is no image format of that name. -/
  | unknownFormat (name : String)
  /-- A directive does not take that anchor. -/
  | unsupportedAnchor (directive : String) (anchor : Anchor)
  /-- The source part of the path is not an encoded address. -/
  | source (error : SourceError)
  /-- The request was valid up to a time that has passed. -/
  | expired
deriving Repr, DecidableEq

/-- The text of the rejection. -/
def Rejection.message : Rejection → String
  | .invalidArguments directive arguments =>
    "Invalid " ++ directive ++ " arguments: " ++ Text.quoteList arguments
  | .invalidValue field token => "Invalid " ++ field ++ ": " ++ token
  | .unknownDirective name => "Unknown processing option: " ++ name
  | .unknownPreset name => "Unknown preset: " ++ name
  | .unknownFormat name => "Invalid image format: " ++ name
  | .unsupportedAnchor directive anchor =>
    directive ++ " doesn't support " ++ anchor.name ++ " gravity"
  | .source error => error.message
  | .expired => "Expired URL"

/-- A remark on a request that does not reject it. -/
inductive Warning where
  /-- A token stands where a truth value is wanted and is none. -/
  | notBoolean (token : String)
  /-- A preset that has been used before is asked for again. -/
  | presetAlreadyUsed (name : String)
deriving Repr, DecidableEq

/-- The text of the warning. -/
def Warning.message : Warning → String
  | .notBoolean token => "\x60" ++ token ++ "\x60 is not a valid boolean value. Treated as false"
  | .presetAlreadyUsed name => "Recursive preset usage is detected: " ++ name

end ImageRequest
