import Tabletop.Request

/-!
The command line: options in any order between the words of the line to roll. Reading goes from left
to right, and the first argument that is refused or asks for the version decides. What is printed
depends on the arguments and the faces alone.
-/
namespace Tabletop

structure Arguments where
  language : Option Language := none
  stats : List (Text × Amount) := []
  critSuccess : Option Amount := none
  critFailure : Option Amount := none
  threshold : Option Text := none
  listLimit : Option Nat := none
  words : List Text := []

inductive Command where
  | roll (arguments : Arguments)
  | version
  | help
  | refused

inductive CommandOption where
  | lang | stat | critSuccess | critFailure | threshold | listLimit
  deriving DecidableEq

namespace CommandOption

def names : List (Text × CommandOption) :=
  [("lang", lang), ("stat", stat), ("crit-success", critSuccess), ("crit-failure", critFailure),
    ("threshold", threshold), ("list-limit", listLimit)]

end CommandOption

namespace Arguments

def amount? (text : Text) : Option Amount := (Text.intValue? text).bind Amount.ofInt?

def limit? (text : Text) : Option Nat :=
  if text.head? = some '-' then none
  else (Text.intValue? text).bind fun n => if n.toNat < UInt64.size then some n.toNat else none

def stat? (text : Text) : Option (Text × Amount) := do
  let (name, value) ← Text.cutAt? '=' text
  some (name.trim, ← amount? value.trim)

def once (place : Option α) (value : Option α) : Option (Option α) :=
  if place.isSome then none else value.map some

/-- The arguments with the value of an option; a value that is not understood, or a second value of
an option that is no stat, is refused. -/
def withOption (option : CommandOption) (value : Text) (arguments : Arguments) : Option Arguments :=
  match option with
  | .lang => do
      some { arguments with language := ← once arguments.language (Language.ofCode? value) }
  | .stat => do some { arguments with stats := arguments.stats ++ [← stat? value] }
  | .critSuccess => do
      some { arguments with critSuccess := ← once arguments.critSuccess (amount? value) }
  | .critFailure => do
      some { arguments with critFailure := ← once arguments.critFailure (amount? value) }
  | .threshold => do some { arguments with threshold := ← once arguments.threshold (some value) }
  | .listLimit => do some { arguments with listLimit := ← once arguments.listLimit (limit? value) }

def isPlain (argument : Text) : Bool := argument.head? != some '-' || argument == ['-']

def command (arguments : Arguments) : Command :=
  if arguments.words.isEmpty then .refused else .roll arguments

end Arguments

def Command.read (arguments : Arguments) : List Text → Command
  | [] => arguments.command
  | argument :: rest =>
    if Arguments.isPlain argument then
      read { arguments with words := arguments.words ++ [argument] } rest
    else match argument with
      | ['-', '-'] => Arguments.command { arguments with words := arguments.words ++ rest }
      | '-' :: '-' :: long =>
        if long = "version".toList then .version
        else if long = "help".toList then .help
        else
          let (name, attached) := match Text.cutAt? '=' long with
            | some (name, value) => (name, some value)
            | none => (long, none)
          match CommandOption.names.lookup name, attached, rest with
          | some option, some value, rest =>
            match arguments.withOption option value with
            | some arguments => read arguments rest
            | none => .refused
          | some option, none, value :: rest =>
            if Arguments.isPlain value then
              match arguments.withOption option value with
              | some arguments => read arguments rest
              | none => .refused
            else .refused
          | _, _, _ => .refused
      | '-' :: 'V' :: _ => .version
      | '-' :: 'h' :: _ => .help
      | _ => .refused

structure Printed where
  exitCode : Nat
  output : Text := []
  complaint : Text := []

namespace Printed

def programName : Text := "dicenote"

def versionLine : Text := programName ++ " 0.1.0\n"

def usage : Text :=
  "Usage: " ++ programName ++ " [--lang CODE] [--stat NAME=VALUE]... [--crit-success N]" ++
    " [--crit-failure N]\n    [--threshold TEXT] [--list-limit N] EXPRESSION...\n"

def ofError (language : Language) (error : RequestError) : Text :=
  match error with
  | .notARoll line => language.say .notARoll [("input", line)]
  | .outcome (.malformed formula fault) =>
    let message := language.say .invalidDice [("dice", formula)]
    match fault with
    | .syntaxError cause =>
      message ++ '\n' :: Text.ofNat cause.start ++ ".." ++ Text.ofNat cause.stop ++ ": " ++
        cause.message
    | fault => message ++ " (" ++ fault.details ++ [')']
  | other => other.message

end Printed

namespace Arguments

def outputLanguage (arguments : Arguments) : Language := arguments.language.getD .english

def settings (arguments : Arguments) : Settings :=
  { language := arguments.outputLanguage
    thresholds := .natural arguments.critSuccess arguments.critFailure
    listLimit := arguments.listLimit }

def request (arguments : Arguments) : Request :=
  { line := Text.joined [' '] arguments.words
    sheet := .ofList arguments.stats
    threshold := arguments.threshold }

end Arguments

def Command.run (faces : Faces) : Command → Printed
  | version => ⟨0, Printed.versionLine, []⟩
  | help => ⟨0, Printed.usage, []⟩
  | refused => ⟨2, [], Printed.usage⟩
  | roll arguments =>
    match ((arguments.request.process arguments.settings).run faces).1 with
    | .ok response => ⟨0, response.text ++ ['\n'], []⟩
    | .error cause => ⟨1, [], Printed.ofError arguments.outputLanguage cause ++ ['\n']⟩

end Tabletop
