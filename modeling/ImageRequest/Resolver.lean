import ImageRequest.Hints
import ImageRequest.Presets.Run
import ImageRequest.RequestError
import ImageRequest.Source

/-!
# Resolving requests

A resolver is set up once from the configuration and then turns request paths into processing
options and the address of a source image. A path consists of directives and an encoded source;
where the configuration allows presets only, the first segment names presets instead.

The options of a request start from the baseline with the hints of its headers and the preset
`default`, if there is one. Then come the directives of the path, and at last the extension of the
source, which asks for a format.
-/

namespace ImageRequest

/-- Why a resolver cannot be set up. -/
inductive SetupError where
  | presets (error : PresetError)
  /-- Requests can only name presets, and there are none. -/
  | noPresets
  | signing (error : SigningError)
deriving Repr, DecidableEq

/-- The text of the error. -/
def SetupError.message : SetupError → String
  | .presets error => error.message
  | .noPresets => "Presets-only mode requires at least one preset"
  | .signing error => error.message

/-- A request that was resolved. -/
structure ResolvedRequest where
  options : Options
  url : String
deriving Repr, DecidableEq

/-- The answer to a request, with the warnings on the way to it. -/
structure Resolution where
  warnings : List Warning
  result : Except RequestError ResolvedRequest

/-- What requests are resolved with. -/
structure Resolver where
  config : ProcessingConfig
  baseline : Options
  presets : Presets
  decodeSource : SourceDecoder
  verifier : Verifier

/-- Go on from an outcome, unless it ended with a rejection. -/
def Outcome.andThen (outcome : Outcome) (next : Options → Outcome) : Outcome :=
  match outcome.rejection? with
  | some _ => outcome
  | none => (next outcome.options).after outcome.warnings

namespace Resolver

/-- Set up a resolver. Gives the warnings of checking the presets. -/
def setUp (files : Files) (now : Int) (config : Config) :
    List Warning × Except SetupError Resolver :=
  let processing := config.processing
  match processing.loadPresets files with
  | .error error => ([], .error (.presets error))
  | .ok presets =>
    match presets.check now processing.baseline with
    | (warnings, some error) => (warnings, .error (.presets error))
    | (warnings, none) =>
      if processing.onlyPresets && presets.isEmpty then (warnings, .error .noPresets)
      else
        match Verifier.ofConfig config.security with
        | .error error => (warnings, .error (.signing error))
        | .ok verifier =>
          (warnings, .ok
            { config := processing, baseline := processing.baseline, presets, verifier
              decodeSource := Source.decoder processing.baseUrl })

/-- The resolver for a configuration. -/
def ofConfig (files : Files) (now : Int) (config : Config) : Except SetupError Resolver :=
  (setUp files now config).2

/-- A description of the resolver for the log. -/
def summary (resolver : Resolver) : String :=
  "PathParser \x7b only_presets: " ++ toString resolver.config.onlyPresets ++
    ", presets: " ++ toString resolver.presets.size ++
    ", signing: " ++ toString resolver.verifier.isEnabled ++ " \x7d"

/-- Name of the preset that every request begins with. -/
def defaultPreset : String := "default"

/-- The options that requests with some headers start from. -/
def defaults (resolver : Resolver) (now : Int) (headers : Headers) : Outcome :=
  let options := resolver.baseline.withHints resolver.config headers
  if resolver.presets.contains defaultPreset then
    resolver.presets.runPresets now [defaultPreset] options
  else { options, warnings := [], rejection? := none }

/-- Ask for the format of the extension, if there is one. -/
def finish (source : Source) (options : Options) : Outcome :=
  match source.extension? with
  | none => { options, warnings := [], rejection? := none }
  | some extension => (Handler.format [extension]).run options

/-- Read the source behind the directives, once these have been run. -/
def complete (resolver : Resolver) (outcome : Outcome) (segments : List String) : Resolution :=
  let failure := fun rejection => Except.error (RequestError.rejected rejection)
  match outcome.rejection? with
  | some rejection => { warnings := outcome.warnings, result := failure rejection }
  | none =>
    match resolver.decodeSource segments with
    | .error rejection => { warnings := outcome.warnings, result := failure rejection }
    | .ok source =>
      let final := outcome.andThen (finish source)
      { warnings := final.warnings
        result := match final.rejection? with
          | some rejection => failure rejection
          | none => .ok { options := final.options, url := source.url } }

/-- Resolve a path of directives and a source. -/
def resolveDirectives (resolver : Resolver) (now : Int) (headers : Headers)
    (segments : List String) : Resolution :=
  let (directives, rest) := Directive.leading resolver.config.separator segments
  let outcome := (resolver.defaults now headers).andThen (resolver.presets.run now directives)
  resolver.complete outcome rest

/-- Resolve a path of presets and a source. -/
def resolvePresets (resolver : Resolver) (now : Int) (headers : Headers) (segments : List String) :
    Resolution :=
  let names := Text.split resolver.config.separator (segments.headD "")
  let outcome := (resolver.defaults now headers).andThen (resolver.presets.runPresets now names)
  resolver.complete outcome (segments.drop 1)

/-- The path without a slash in front. -/
def relative (path : String) : String :=
  match path.toList with
  | '/' :: rest => String.ofList rest
  | _ => path

/-- Resolve a path without a signature. -/
def resolve (resolver : Resolver) (now : Int) (headers : Headers) (path : String) : Resolution :=
  if path = "" ∨ path = "/" then { warnings := [], result := .error (.emptyPath path) }
  else
    let segments := Text.split "/" (relative path)
    if resolver.config.onlyPresets then resolver.resolvePresets now headers segments
    else resolver.resolveDirectives now headers segments

/-- The signature in front of a path and the path that it signs, which is not empty. -/
def splitSignature? (path : String) : Option (String × String) :=
  match Text.splitOnce '/' (relative path) with
  | none => none
  | some (signature, rest) => if rest = "" then none else some (signature, "/" ++ rest)

/-- Resolve a path with a signature in front. -/
def resolveSigned (resolver : Resolver) (now : Int) (headers : Headers) (path : String) :
    Resolution :=
  match splitSignature? path with
  | none => { warnings := [], result := .error (.emptyPath path) }
  | some (signature, unsigned) =>
    match resolver.verifier.verify signature unsigned with
    | .error error => { warnings := [], result := .error (.badSignature error) }
    | .ok () => resolver.resolve now headers unsigned

end Resolver

end ImageRequest
