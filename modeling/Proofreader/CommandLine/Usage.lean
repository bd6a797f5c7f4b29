import Proofreader.CommandLine.Arguments

/-!
# Usage

What the program says where its arguments do not lead to a run: help and version on demand, else
what is wrong with the arguments.
-/

set_option autoImplicit false

namespace Proofreader
namespace CommandLine

/-- The text that explains the arguments. -/
def helpText : String :=
  "Check files against the rules of a grammar\n\n" ++
  "Usage: proofreader [OPTIONS] <FILE>...\n\n" ++
  "Arguments:\n" ++
  "  <FILE>...  Files to check\n\n" ++
  "Options:\n" ++
  "      --settings <FILE>  JSON settings file\n" ++
  "  -g, --grammar <FILE>   Grammar file, instead of that of the settings\n" ++
  "      --delay-ms <MS>    Delay in milliseconds, instead of that of the settings\n" ++
  "      --fix              Apply every suggestion and write the files back\n" ++
  "  -h, --help             Print help\n" ++
  "  -V, --version          Print version\n"

/-- The text that tells the version. -/
def versionText : String := "proofreader 0.1.0\n"

namespace UsageFault

/-- Whether the user asked for a text, so that the program did what it should. -/
def isRequest : UsageFault → Bool
  | helpWanted | versionWanted => true
  | _ => false

/-- What is wrong with the arguments, if something is. -/
def reason : UsageFault → Option String
  | missingFile => some "no file is given"
  | invalidValue => some "an option or a file has no value"
  | notText => some "a value is not text"
  | invalidNumber => some "the delay is not a number of milliseconds"
  | unknownArgument => some "there is no such option"
  | repeatedOption => some "an option is given twice"
  | unneededValue => some "an option that takes no value has one"
  | helpWanted | versionWanted => none

/-- What the program says. -/
def text (e : UsageFault) : String :=
  match e.reason with
  | some reason => "error: " ++ reason ++ "\n\n" ++ helpText
  | none => if e = versionWanted then versionText else helpText

/-- The code that the program ends with. -/
def exit (e : UsageFault) : Nat := if e.isRequest then 0 else 2

end UsageFault
end CommandLine
end Proofreader
