import MarkupFeed.Command

/-!
# The command line

Arguments are read from left to right, and the first fault ends the reading. An option is given by
its long name or its letter, and its value follows it, after `=` or as the next argument; after a
letter it may also follow at once. After `--` no argument is an option.
-/

namespace MarkupFeed

/-- Something a command can be told beside its file. -/
structure CommandOption where
  name : String
  letter : Option Char := none
  /-- Whether a value follows. -/
  takesValue : Bool := true
  /-- Whether a value is accepted. -/
  accepts : String → Bool := fun _ => true

/-- What the arguments ask for. -/
inductive Invocation where
  | version
  | help
  | tokens (path : String) (format : Option String) (output : String) (size : Nat)
  | highlight (path : String) (format config : Option String) (overrides : List (String × String))
  | errors (path output : String)
  | feed (path : String) (config : Option String) (overrides : List (String × String))
      (request : Command.FeedRequest)
  deriving DecidableEq, Repr

namespace CommandLine

/-- Why the arguments are not understood, or not to be read further. -/
inductive Stop where
  /-- They are not understood. -/
  | misuse
  /-- Help is asked for. -/
  | help
  deriving DecidableEq, Repr

/-- The arguments of a command as far as they are read. -/
structure Arguments where
  path : Option String := none
  /-- Options and their values. -/
  values : List (String × String) := []
  deriving DecidableEq, Repr

namespace Arguments

/-- The value of an option. -/
def value? (arguments : Arguments) (name : String) : Option String := arguments.values.lookup name

/-- The value of an option, if it is given, or else another one. -/
def valueOr (arguments : Arguments) (name byDefault : String) : String :=
  (arguments.value? name).getD byDefault

/-- The number an option gives, if it is given. -/
def number? (arguments : Arguments) (name : String) : Option Nat :=
  (arguments.value? name).bind Text.natural?

/-- Takes the file. There is only one. -/
def addPath (arguments : Arguments) (path : String) : Except Stop Arguments :=
  if arguments.path.isSome then .error .misuse else .ok { arguments with path }

/-- Takes an option, which may be given only once. -/
def add (arguments : Arguments) (option : CommandOption) (value : String) : Except Stop Arguments :=
  if (arguments.value? option.name).isSome || !option.accepts value then .error .misuse
  else .ok { arguments with values := arguments.values ++ [(option.name, value)] }

end Arguments

/-- What an argument is. -/
inductive Shape where
  /-- `--`, which ends the options. -/
  | endOfOptions
  | plain
  /-- A long name, and the value after `=`. -/
  | long (name : String) (value : Option String)
  /-- A letter, and the value that follows it. -/
  | short (letter : Char) (value : Option String)
  deriving DecidableEq, Repr

/-- The text in front of the first `=`, and the one after it. -/
def splitValue (text : List Char) : String × Option String :=
  match text.dropWhile (· != '=') with
  | [] => (String.ofList text, none)
  | _ :: value => (String.ofList (text.takeWhile (· != '=')), some (String.ofList value))

/-- What an argument is. A single hyphen is nothing special. -/
def Shape.of (argument : String) : Shape :=
  match argument.toList with
  | ['-', '-'] => endOfOptions
  | '-' :: '-' :: text => let (name, value) := splitValue text; long name value
  | ['-', letter] => short letter none
  | '-' :: letter :: '=' :: value => short letter (some (String.ofList value))
  | '-' :: letter :: value => short letter (some (String.ofList value))
  | _ => plain

/-- The option an argument names, and the value that comes with it. -/
def named? (options : List CommandOption) : Shape → Option (CommandOption × Option String)
  | .long name value => (options.find? (·.name = name)).map (·, value)
  | .short letter value => (options.find? (·.letter = some letter)).map (·, value)
  | .endOfOptions | .plain => none

/-- Whether an argument asks for help. -/
def Shape.asksForHelp : Shape → Bool
  | .long "help" none | .short 'h' _ => true
  | _ => false

/-- How the arguments after one are to be read. -/
inductive Next where
  /-- Like all others. -/
  | any
  /-- The first of them as the value of an option. -/
  | value (option : CommandOption)
  /-- None of them as an option. -/
  | paths

/-- Reads an argument. -/
def readArgument (options : List CommandOption) (arguments : Arguments) (argument : String) :
    Except Stop (Arguments × Next) :=
  let shape := Shape.of argument
  match shape, named? options shape with
  | .endOfOptions, _ => .ok (arguments, .paths)
  | .plain, _ => (arguments.addPath argument).map (·, .any)
  | shape, none => .error (if shape.asksForHelp then .help else .misuse)
  | _, some (option, value) =>
    match option.takesValue, value with
    | false, none => (arguments.add option "").map (·, .any)
    | false, some _ => .error .misuse
    | true, some value => (arguments.add option value).map (·, .any)
    | true, none => .ok (arguments, .value option)

/-- Reads the argument after an option as its value, unless it looks like an option itself. -/
def readValue (arguments : Arguments) (option : CommandOption) (argument : String) :
    Except Stop (Arguments × Next) :=
  if Shape.of argument = .plain then (arguments.add option argument).map (·, .any)
  else .error .misuse

/-- Reads arguments after some others. -/
def readArguments (options : List CommandOption) : Arguments → Next → List String →
    Except Stop Arguments
  | _, .value _, [] => .error .misuse
  | arguments, _, [] => .ok arguments
  | arguments, next, argument :: rest => do
    let (arguments, next) ← match next with
      | .any => readArgument options arguments argument
      | .value option => readValue arguments option argument
      | .paths => (arguments.addPath argument).map (·, .paths)
    readArguments options arguments next rest

/-! ### Commands -/

/-- Whether the text is a number that 64 bits hold. -/
def isCount (text : String) : Bool := (Text.natural? text).any (· < UInt64.size)

def formatOption : CommandOption := ⟨"lang", some 'l', true, (Format.all.map Format.name).contains⟩

def configOption : CommandOption := { name := "config", letter := some 'c' }

def tokensOptions : List CommandOption :=
  [formatOption, ⟨"format", some 'f', true, Command.tokenOutputs.contains⟩,
   { name := "chunk", accepts := isCount }]

def highlightOptions : List CommandOption :=
  [formatOption, configOption, { name := "check-links", takesValue := false },
    { name := "site-top" }]

def errorsOptions : List CommandOption := [⟨"to", some 't', true, ["html", "json"].contains⟩]

def feedOptions : List CommandOption :=
  [configOption, ⟨"to", some 't', true, Command.feedOutputs.contains⟩,
   ⟨"order", some 'o', true, (PostOrder.all.map PostOrder.name).contains⟩,
   { name := "page", accepts := isCount }, { name := "page-length", accepts := isCount },
   { name := "compact", takesValue := false }, { name := "select" }, { name := "title" }]

/-- The texts between commas. -/
def list (text : String) : List String :=
  (Text.splitChars (· == ',') text.toList).map String.ofList

/-- What is asked for by a command with its file and options. -/
def tokens (path : String) (arguments : Arguments) : Invocation :=
  .tokens path (arguments.value? "lang") (arguments.valueOr "format" "json")
    ((arguments.number? "chunk").getD 4096)

/-- What is asked for by a command with its file and options. -/
def highlight (path : String) (arguments : Arguments) : Invocation :=
  .highlight path (arguments.value? "lang") (arguments.value? "config")
    (((arguments.value? "check-links").map fun _ => ("links.check", "true")).toList
      ++ ((arguments.value? "site-top").map ("links.site_top", ·)).toList)

/-- What is asked for by a command with its file and options. -/
def errors (path : String) (arguments : Arguments) : Invocation :=
  .errors path (arguments.valueOr "to" "html")

/-- What is asked for by a command with its file and options. -/
def feed (path : String) (arguments : Arguments) : Invocation :=
  .feed path (arguments.value? "config")
    (((arguments.value? "order").map ("feed.order", ·)).toList
      ++ ((arguments.number? "page-length").map fun n => ("feed.page_length", toString n)).toList
      ++ ((arguments.value? "compact").map fun _ => ("feed.compact", "true")).toList)
    { output := arguments.valueOr "to" "html"
      page := (arguments.number? "page").getD 0
      select := (arguments.value? "select").elim [] list
      title := arguments.valueOr "title" "semilla" }

/-- The commands: name, options, and what they ask for. -/
def commands : List (String × List CommandOption × (String → Arguments → Invocation)) :=
  [("tokens", tokensOptions, tokens), ("highlight", highlightOptions, highlight),
   ("errors", errorsOptions, errors), ("feed", feedOptions, feed)]

/-- Reads what follows the name of a command. -/
def readCommand (options : List CommandOption) (invocation : String → Arguments → Invocation)
    (arguments : List String) : Option Invocation :=
  match readArguments options {} .any arguments with
  | .ok arguments => arguments.path.map fun path => invocation path arguments
  | .error .help => some .help
  | .error .misuse => none

/-- Whether the arguments after `help` name a command, or nothing. -/
def isHelpTopic : List String → Bool
  | [] => true
  | [name] => name == "help" || (commands.map Prod.fst).contains name
  | _ => false

/-- Reads the arguments of the program; nothing if they are not understood. -/
def read? : List String → Option Invocation
  | [] => none
  | first :: rest =>
    match commands.lookup first with
    | some (options, invocation) => readCommand options invocation rest
    | none =>
      if first = "help" then (if isHelpTopic rest then some .help else none)
      else
        match Shape.of first with
        | .long "version" none | .short 'V' _ => some .version
        | shape => if shape.asksForHelp then some .help else none

/-- How the program is called. -/
def usage : String :=
  "Usage: semilla <COMMAND> <path> [OPTIONS]\n\nCommands:\n"
    ++ String.join (commands.map fun (name, options, _) =>
      "  " ++ name ++ String.join (options.map fun option =>
        " [--" ++ option.name ++ (if option.takesValue then " <value>]" else "]")) ++ "\n")

end CommandLine

/-! ### Running -/

/-- What a run of the program comes to. -/
inductive Response where
  /-- It prints the octets. -/
  | printed (output : Bytes)
  /-- The command failed. -/
  | failed (error : CommandError)
  /-- The arguments are not understood. -/
  | misused

namespace Response

/-- The response of a command. -/
def ofResult : Except CommandError Bytes → Response
  | .ok output => printed output
  | .error error => failed error

/-- The exit code. A feed that needs a date that cannot be written ends the program at once. -/
def code : Response → UInt8
  | printed _ => 0
  | failed (.badFeed (.noMailDate _)) => 101
  | failed _ => 1
  | misused => 2

/-- What goes to standard output. -/
def output : Response → Bytes
  | printed output => output
  | failed _ | misused => []

/-- What goes to standard error. -/
def complaint : Response → String
  | printed _ => ""
  | failed error => "Error: " ++ error.message ++ "\n"
  | misused => CommandLine.usage

end Response

namespace Invocation

/-- Does what is asked for. -/
def run (files : Files) : Invocation → Response
  | version => .printed (Bytes.ascii "semilla 0.1.0\n")
  | help => .printed (Bytes.ascii CommandLine.usage)
  | tokens path format output size => .ofResult (Command.tokens files path format output size)
  | highlight path format config overrides =>
    .ofResult do Command.highlight files path format (← Command.loadSettings files config overrides)
  | errors path output => .ofResult (Command.errors files path output)
  | feed path config overrides request =>
    .ofResult do Command.feed files path (← Command.loadSettings files config overrides) request

/-- The paths whose files are read. -/
def paths : Invocation → List String
  | version | help => []
  | tokens path .. | errors path _ => [path]
  | highlight path _ config _ | feed path config .. =>
    path :: config.toList.flatMap fun name => [name, name ++ ".toml"]

/-- The paths that are only asked about. -/
def questions (files : Files) : Invocation → List String
  | highlight path format config overrides =>
    match Command.loadSettings files config overrides with
    | .ok settings => Command.highlightQuestions files path format settings
    | .error _ => []
  | _ => []

end Invocation

/-- What a run of the program with some arguments comes to. -/
def respond (files : Files) (arguments : List String) : Response :=
  ((CommandLine.read? arguments).map (·.run files)).getD .misused

end MarkupFeed
