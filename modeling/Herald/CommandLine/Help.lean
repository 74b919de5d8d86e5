import Herald.CommandLine
import Herald.Path
import Herald.Text.ControlSequence

/-!
# Help

What the program prints about itself. The summary has one line for each option,
the purposes in one column; the full text has a paragraph for each, and says more
about the program as a whole. Each of the two mentions the other. The program's name,
which anyone may have chosen, is shown without control sequences.
-/

namespace Herald.CommandLine

/-- An option as it is explained. -/
structure Entry where
  letter : Option Char := none
  name : String
  /-- What stands for the value, if the option takes one. -/
  value : Option String := none
  purpose : String

/-- The option as it is typed, the long forms below each other. -/
def Entry.form (e : Entry) : String :=
  let letter := (e.letter.map fun c => s!"-{c}, ").getD "    "
  let value := (e.value.map fun v => s!" <{v}>").getD ""
  s!"  {letter}--{e.name}{value}"

/-- What is said of asking for help. -/
def helpPurpose (full : Bool) : String :=
  if full then "Print help (see a summary with '-h')" else "Print help (see more with '--help')"

/-- All options, in the order in which they are explained. -/
def entries (full : Bool) : List Entry :=
  [{ letter := some 'l', name := "log-level", value := some "LOG_LEVEL"
     purpose := "Root threshold for structured loggers (name or rank)" },
   { letter := some 'f', name := "filter", value := some "FILTER"
     purpose := "`tracing` filter directive for console output" },
   { name := "json", purpose := "Emit console output as JSON" },
   { name := "remote", purpose := "Ship records to the remote topic" },
   { name := "uid", value := some "UID", purpose := "Installation id used in the default topic" },
   { name := "topic", value := some "TOPIC", purpose := "Explicit remote topic" },
   { name := "production", purpose := "Run as a real application even under a test harness" },
   { letter := some 'h', name := "help", purpose := helpPurpose full },
   { letter := some 'V', name := "version", purpose := "Print version" }]

/-- A text filled up with blanks to a width. -/
def padTo (width : Nat) (s : String) : String :=
  s ++ String.ofList (List.replicate (width - s.length) ' ')

/-- The options, one to a line. -/
def summaryLines (es : List Entry) : List String :=
  let width := (es.map fun e => e.form.length).foldl max 0
  es.map fun e => padTo width e.form ++ "  " ++ e.purpose

/-- The options, one to a paragraph. -/
def paragraphs : List Entry → List String
  | [] => []
  | [e] => [e.form, "          " ++ e.purpose]
  | e :: es => e.form :: ("          " ++ e.purpose) :: "" :: paragraphs es

/-- What the program is. -/
def about (full : Bool) : List String :=
  "Common CLI arguments for all binaries"
    :: if full then ["", "Flags override the `TIDINGS_*` environment."] else []

/-- The name of the package that the program belongs to. -/
def packageName : String := "tidings-bins"

/-- The name of the program: its file's name, if it was started from a file. -/
def programName (arguments : List String) : String :=
  ((arguments.head?.bind fun path => Path.fileName? path.toList).map String.ofList).getD packageName

/-- What is printed when help is asked for. -/
def help (arguments : List String) (full : Bool) : List String :=
  let name := Text.ControlSequence.strip (programName arguments)
  about full ++ ["", s!"Usage: {name} [OPTIONS]", "", "Options:"]
    ++ if full then paragraphs (entries full) else summaryLines (entries full)

/-- What is printed when the version is asked for. -/
def version : String := s!"{packageName} 0.1.0"

end Herald.CommandLine
