import TucServer.Text.Terminal

/-!
# The command line

Arguments are read from left to right, and the first one that is not accepted ends the reading. Two
flags are accepted, each at most once; `--help` and `--version`, also in their short forms, end the
reading with a text to print. After `--` no argument is accepted at all.
-/

namespace TucServer

namespace CommandLine

/-- The flags that may be given. -/
structure Options where
  stdio : Bool
  debug : Bool
  deriving DecidableEq, Repr

/-- A flag. -/
inductive Flag where
  | stdio
  | debug
  deriving DecidableEq, Repr

/-- A flag as it is written. -/
def Flag.text : Flag → String
  | .stdio => "--stdio"
  | .debug => "--debug"

/-- Why the reading of the arguments ends early. -/
inductive Stop where
  | help
  | version
  /-- An argument that is no flag, or the part of it that names the flag. -/
  | unknownArgument (shown : String)
  | repeatedFlag (flag : Flag)
  /-- A value for something that takes none. -/
  | unexpectedValue (flag : String) (value : String)
  deriving DecidableEq, Repr

namespace Stop

/-- The name of a reason. -/
def title : Stop → String
  | .help => "DisplayHelp"
  | .version => "DisplayVersion"
  | .unknownArgument _ => "UnknownArgument"
  | .repeatedFlag _ => "ArgumentConflict"
  | .unexpectedValue _ _ => "TooManyValues"

/-- Whether the reason is a request for a text, and no error. -/
def isRequest : Stop → Bool
  | .help | .version => true
  | _ => false

/-- The exit status. -/
def exitCode (stop : Stop) : Nat :=
  if stop.isRequest then 0 else 2

/-- The text on the use of the program. -/
def helpText : String :=
  "Language Server for tuc\n\nUsage: tuc-lsp [OPTIONS]\n\nOptions:\n" ++
    "      --stdio    Use stdio for communication (required)\n" ++
    "      --debug    Send debug messages to the client log\n" ++
    "  -h, --help     Print help\n" ++
    "  -V, --version  Print version\n"

/-- The text on the version of the program. -/
def versionText : String := "tuc-lsp 0.1.0\n"

/-- What is said about an error. Of what is shown in it only what can be printed is left. -/
def complaint (medium : Terminal.Medium) : Stop → String
  | .help | .version => ""
  | .unknownArgument shown => "unexpected argument '" ++ Terminal.plain medium shown ++ "' found"
  | .repeatedFlag flag => "the argument '" ++ flag.text ++ "' cannot be used multiple times"
  | .unexpectedValue flag value =>
    "unexpected value '" ++ Terminal.plain medium value ++ "' for '" ++ flag ++
      "' found; no more were expected"

/-- The text that is printed: the one asked for, or the error. -/
def text (medium : Terminal.Medium) : Stop → String
  | .help => helpText
  | .version => versionText
  | stop => "error: " ++ stop.complaint medium

end Stop

/-- The first line of some characters. A carriage return before its end belongs to the end. -/
def firstLineOf : List Char → List Char
  | [] | '\n' :: _ | '\r' :: '\n' :: _ => []
  | c :: rest => c :: firstLineOf rest

/-- The first line of a text. -/
def firstLine (text : String) : String :=
  String.ofList (firstLineOf text.toList)

/-- The text that is asked for, or the first line of the error. -/
def Stop.message (stop : Stop) : String :=
  if stop.isRequest then stop.text .text else firstLine (stop.text .text)

namespace Options

/-- Whether the flag has been given. -/
def has (options : Options) : Flag → Bool
  | .stdio => options.stdio
  | .debug => options.debug

/-- The options with the flag given. -/
def give (options : Options) : Flag → Options
  | .stdio => { options with stdio := true }
  | .debug => { options with debug := true }

end Options

/-- What has been read: the flags so far, and whether `--` was among the arguments. -/
structure Progress where
  options : Options
  ended : Bool
  deriving DecidableEq, Repr

namespace Progress

/-- Nothing has been read. -/
def start : Progress := ⟨⟨false, false⟩, false⟩

/-- After a flag. -/
def flag (progress : Progress) (flag : Flag) : Except Stop Progress :=
  if progress.options.has flag then .error (.repeatedFlag flag)
  else .ok { progress with options := progress.options.give flag }

/-- After an argument that begins with two dashes, given by the name behind them and by the value
after an equals sign, if there is one. -/
def long (progress : Progress) (name : List Char) (value : Option (List Char)) :
    Except Stop Progress :=
  let shown := String.ofList ('-' :: '-' :: name)
  if shown ∈ ["--stdio", "--debug", "--help", "--version"] then
    match value with
    | some value => .error (.unexpectedValue shown (String.ofList value))
    | none =>
      if shown = "--stdio" then progress.flag .stdio
      else if shown = "--debug" then progress.flag .debug
      else if shown = "--help" then .error .help
      else .error .version
  else .error (.unknownArgument shown)

/-- Why a bundle of short flags, given by the first of them, is not accepted. -/
def short (c : Char) : Stop :=
  if c = 'h' then .help
  else if c = 'V' then .version
  else .unknownArgument (String.ofList ['-', c])

/-- After one more argument. -/
def step (progress : Progress) (argument : String) : Except Stop Progress :=
  if progress.ended then .error (.unknownArgument argument)
  else
    match argument.toList with
    | ['-', '-'] => .ok { progress with ended := true }
    | '-' :: '-' :: rest =>
      progress.long (rest.takeWhile (· != '=')) (rest.dropWhile (· != '=')).tail?
    | '-' :: c :: _ => .error (short c)
    | _ => .error (.unknownArgument argument)

end Progress

/-- The options that the arguments give. -/
def parse (arguments : List String) : Except Stop Options :=
  (arguments.foldlM Progress.step Progress.start).map (·.options)

/-- What the program does: serve a client, or print and exit. -/
inductive Launch where
  | serve (debug : Bool)
  | exit (code : Nat) (output : String) (errors : String)
  deriving DecidableEq, Repr

/-- What is said where no way to communicate is chosen. -/
def transportRequired : String := "--stdio flag is required"

/-- Whether the options choose a way to communicate. -/
def Options.isValid (options : Options) : Bool :=
  options.stdio

/-- What the program does on these arguments. An error is said in one line, without hints on the
use of the program. -/
def launch (arguments : List String) : Launch :=
  match parse arguments with
  | .ok options =>
    if options.isValid then .serve options.debug
    else .exit 1 "" ("Error: " ++ transportRequired ++ "\n")
  | .error stop =>
    if stop.isRequest then .exit stop.exitCode (stop.text .stream) ""
    else .exit stop.exitCode "" (stop.text .stream ++ "\n")

end CommandLine

end TucServer
