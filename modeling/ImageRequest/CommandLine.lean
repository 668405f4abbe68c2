import ImageRequest.Config.Reading
import ImageRequest.Config.Validation
import ImageRequest.Headers.Line
import ImageRequest.Options.Report
import ImageRequest.Resolver

/-!
# The command line

The program resolves one request path and prints the resulting options. `Command.ofArguments` reads
the arguments, and `Command.run` does what they say; both are pure, so that the program around them
only reads files and prints.

An option is written `--name` or as a single letter behind a dash. Its value is the next argument or
stands behind an equals sign; behind a single letter it may also follow at once. An argument that
begins with a dash is never a value. After `--` every argument is a request path.
-/

namespace ImageRequest

/-- What the program is asked to do. -/
structure Command where
  /-- File with the configuration. -/
  configPath? : Option String := none
  /-- Header lines of the request. -/
  headers : List String := []
  /-- Whether the path carries a signature in front. -/
  signed : Bool := false
  /-- Whether to check the configuration only. -/
  test : Bool := false
  path? : Option String := none
deriving Repr, DecidableEq

/-- Why arguments are not understood. -/
inductive UsageError where
  | unexpected (argument : String)
  | missingValue (option : String)
  | unexpectedValue (option : String)
  | repeated (option : String)
deriving Repr, DecidableEq

/-- The text of the error. -/
def UsageError.message : UsageError → String
  | .unexpected argument => "unexpected argument '" ++ argument ++ "' found"
  | .missingValue option => "a value is required for '" ++ option ++ "' but none was supplied"
  | .unexpectedValue option =>
    "unexpected value for '" ++ option ++ "' found; no more were expected"
  | .repeated option => "the argument '" ++ option ++ "' cannot be used multiple times"

/-- Why arguments do not give a command. -/
inductive Halt where
  /-- They ask for help. -/
  | help
  /-- They ask for the version. -/
  | version
  | usage (error : UsageError)
deriving Repr, DecidableEq

/-- Why a command fails. -/
inductive CommandError where
  | config (error : ConfigError)
  | invalid (fault : ConfigFault)
  | setup (error : SetupError)
  | noPath
  | header (error : HeaderError)
  | request (error : RequestError)
deriving Repr, DecidableEq

/-- The text of the error. -/
def CommandError.message : CommandError → String
  | .config error => error.message
  | .invalid fault => "Invalid configuration: " ++ fault.message
  | .setup error => error.message
  | .noPath => "A request path is required"
  | .header error => error.message
  | .request error =>
    toString error.status ++ " " ++ error.publicMessage ++ ": " ++ error.message

/-- What the program prints, and the code that it ends with. -/
structure Output where
  code : Nat
  output : String := ""
  errors : String := ""
deriving Repr, DecidableEq

namespace Command

/-! ## Arguments -/

/-- An option with a value. -/
inductive ValueOption where
  | config
  | header
deriving Repr, DecidableEq

/-- How an option with a value is shown. -/
def ValueOption.label : ValueOption → String
  | config => "--config <CONFIG>"
  | header => "--header <HEADERS>"

/-- What an argument, or the first part of one, asks for. -/
inductive Request where
  | help
  | version
  | signed
  | test
  | value (option : ValueOption)
deriving Repr, DecidableEq

/-- The request with a name. -/
def Request.ofName? (name : String) : Option Request :=
  match name with
  | "help" => some .help
  | "version" => some .version
  | "signed" => some .signed
  | "test" => some .test
  | "config" => some (.value .config)
  | "header" => some (.value .header)
  | _ => none

/-- The request with a letter. -/
def Request.ofLetter? (letter : Char) : Option Request :=
  match letter with
  | 'h' => some .help
  | 'V' => some .version
  | 'c' => some (.value .config)
  | 'H' => some (.value .header)
  | _ => none

/-- Give a value to an option. The file of the configuration needs a name and can be given only
once. -/
def setValue (command : Command) (option : ValueOption) (value : String) : Except Halt Command :=
  match option with
  | .header => .ok { command with headers := command.headers ++ [value] }
  | .config =>
    if value = "" then .error (.usage (.missingValue option.label))
    else if command.configPath?.isSome then .error (.usage (.repeated option.label))
    else .ok { command with configPath? := some value }

/-- Set the path, which can be given only once. -/
def setPath (command : Command) (path : String) : Except Halt Command :=
  if command.path?.isSome then .error (.usage (.unexpected path))
  else .ok { command with path? := some path }

/-- Do what an option without a value says. -/
def setFlag (command : Command) (argument : String) : Request → Except Halt Command
  | .help => .error .help
  | .version => .error .version
  | .signed =>
    if command.signed then .error (.usage (.repeated argument))
    else .ok { command with signed := true }
  | .test =>
    if command.test then .error (.usage (.repeated argument))
    else .ok { command with test := true }
  | .value option => .error (.usage (.missingValue option.label))

/-- What an argument is. -/
inductive Argument where
  /-- The mark behind which every argument is a path. -/
  | mark
  | path
  | flag (request : Request)
  /-- An option with its value, if the argument holds it. -/
  | valued (option : ValueOption) (value? : Option String)
  | invalid (error : UsageError)
deriving Repr, DecidableEq

/-- An argument behind two dashes. -/
def Argument.ofLong (argument : String) (text : List Char) : Argument :=
  let name := String.ofList (text.takeWhile (· != '='))
  let value? := match text.dropWhile (· != '=') with
    | [] => none
    | _ :: value => some (String.ofList value)
  match Request.ofName? name, value? with
  | none, _ => .invalid (.unexpected argument)
  | some (.value option), value? => .valued option value?
  | some request, none => .flag request
  | some _, some _ => .invalid (.unexpectedValue argument)

/-- An argument behind one dash. -/
def Argument.ofShort (argument : String) (letter : Char) (text : List Char) : Argument :=
  match Request.ofLetter? letter, text with
  | none, _ => .invalid (.unexpected argument)
  | some (.value option), [] => .valued option none
  | some (.value option), '=' :: value => .valued option (some (String.ofList value))
  | some (.value option), value => .valued option (some (String.ofList value))
  | some request, _ => .flag request

/-- Tell what an argument is. -/
def Argument.ofText (argument : String) : Argument :=
  match argument.toList with
  | ['-', '-'] => .mark
  | '-' :: '-' :: text => .ofLong argument text
  | '-' :: letter :: text => .ofShort argument letter text
  | _ => .path

/-- Read the arguments behind some others. An option may still need its value, and the arguments may
all be paths. -/
def readArguments (isOpen : Bool) :
    Command → Option ValueOption → List String → Except Halt Command
  | _, some option, [] => .error (.usage (.missingValue option.label))
  | command, none, [] => .ok command
  | command, some option, argument :: rest =>
    if Argument.ofText argument = .path then do
      let command ← command.setValue option argument
      readArguments isOpen command none rest
    else .error (.usage (.missingValue option.label))
  | command, none, argument :: rest =>
    match if isOpen then Argument.ofText argument else .path with
    | .mark => readArguments false command none rest
    | .path => do
      let command ← command.setPath argument
      readArguments isOpen command none rest
    | .flag request => do
      let command ← command.setFlag argument request
      readArguments isOpen command none rest
    | .valued option none => readArguments isOpen command (some option) rest
    | .valued option (some value) => do
      let command ← command.setValue option value
      readArguments isOpen command none rest
    | .invalid error => .error (.usage error)

/-- Read the arguments of the program. -/
def ofArguments (arguments : List String) : Except Halt Command :=
  readArguments true {} none arguments

/-! ## Running -/

/-- The configuration of a command. -/
def config (files : Files) (environment : Environment) (command : Command) :
    Except ConfigError Config :=
  match command.configPath? with
  | none => .ok {}
  | some path => Config.ofFile files environment path

/-- The report on a request. -/
def report (config : ProcessingConfig) (resolved : ResolvedRequest) : Json :=
  .object
    [("effective_quality", .int (resolved.options.effectiveQuality config)),
      ("options", resolved.options.toJson), ("source_url", .string resolved.url)]

/-- Resolve the request of a command. -/
def resolve (now : Int) (resolver : Resolver) (command : Command) :
    Except CommandError ResolvedRequest := do
  match command.path? with
  | none => .error .noPath
  | some path =>
    let headers ← (Headers.ofLines command.headers).mapError .header
    let resolution :=
      if command.signed then resolver.resolveSigned now headers path
      else resolver.resolve now headers path
    resolution.result.mapError .request

/-- What a command prints. The configuration is checked before anything else is looked at. -/
def answer (files : Files) (environment : Environment) (now : Int) (command : Command) :
    Except CommandError String := do
  let config ← (command.config files environment).mapError .config
  (config.validate files now).mapError .invalid
  let resolver ← (Resolver.ofConfig files now config).mapError .setup
  if command.test then return "Configuration OK\n"
  else
    let resolved ← command.resolve now resolver
    return (report config.processing resolved).pretty ++ "\n"

/-- Run a command. -/
def run (files : Files) (environment : Environment) (now : Int) (command : Command) : Output :=
  match command.answer files environment now with
  | .ok output => { code := 0, output }
  | .error error => { code := 1, errors := "Error: " ++ error.message ++ "\n" }

end Command

/-- How the program is called. -/
def Halt.usageLine : String :=
  "Usage: imgpath [OPTIONS] [PATH]\n"

/-- The description of the program. -/
def Halt.helpText : String :=
  "imgpath - parse an image request path and print the resulting processing options\n\n" ++
    usageLine ++
    "\nArguments:\n" ++
    "  [PATH]  Request path, e.g. /rs:fill:300:200/plain/https://example.com/img.jpg\n" ++
    "\nOptions:\n" ++
    "  -c, --config <CONFIG>   Path to configuration file; " ++
    "built-in defaults are used when omitted\n" ++
    "  -H, --header <HEADERS>  Request header as \"Name: value\" (repeatable)\n" ++
    "      --signed            Treat the first path segment as a signature\n" ++
    "      --test              Validate configuration and exit\n" ++
    "  -h, --help              Print help\n" ++
    "  -V, --version           Print version\n"

/-- What the program prints instead of running a command. -/
def Halt.toOutput : Halt → Output
  | .help => { code := 0, output := helpText }
  | .version => { code := 0, output := "imgpath 0.1.0\n" }
  | .usage error =>
    { code := 2
      errors := "error: " ++ error.message ++ "\n\n" ++ usageLine ++
        "\nFor more information, try '--help'.\n" }

/-- Run the program with some arguments. -/
def runProgram (files : Files) (environment : Environment) (now : Int) (arguments : List String) :
    Output :=
  match Command.ofArguments arguments with
  | .error halt => halt.toOutput
  | .ok command => command.run files environment now

end ImageRequest
