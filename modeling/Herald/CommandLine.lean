import Herald.Options

/-!
# The command line

Options are switches, or settings that take a value. A value follows its option
as an argument of its own, or behind an equals sign, or, for the short form,
directly. An argument that starts with a dash is never a value, and there are no
other arguments than options. Nothing may be given twice.

The arguments are read from left to right and the first problem ends the reading.
A setting is stored when the next option is recognised, so a misspelt option is
reported before a setting in front of it that lacks its value or is repeated. The
long name of help asks for the full text, the letter for a summary.
-/

namespace Herald

/-- Why a command line is not run. -/
inductive Refusal where
  | unknownArgument
  /-- A setting without a value. -/
  | missingValue
  /-- A value for what takes none. -/
  | unneededValue
  /-- The same thing twice. -/
  | repeated
  /-- Help is asked for, in full or as a summary. -/
  | helpWanted (full : Bool)
  | versionWanted
deriving DecidableEq

/-- The exit status of a program that does not run its command line. -/
def Refusal.exitStatus : Refusal → Nat
  | .helpWanted _ | .versionWanted => 0
  | _ => 2

/-- The sentence shown for the refusal. -/
def Refusal.message : Refusal → String
  | .unknownArgument => "unexpected argument"
  | .missingValue => "a value is required for an option but none was supplied"
  | .unneededValue => "unexpected value for an option that takes none"
  | .repeated => "an option cannot be used multiple times"
  | .helpWanted _ => "help requested"
  | .versionWanted => "version requested"

namespace CommandLine

/-- What the name of an option stands for. -/
inductive Keyword where
  | setting (s : Setting)
  | switch (s : Switch)
  | help (full : Bool)
  | version
deriving DecidableEq

/-- The names behind two dashes. -/
def longNames : List (String × Keyword) :=
  [("log-level", .setting .logLevel), ("filter", .setting .filter), ("uid", .setting .uid),
   ("topic", .setting .topic), ("json", .switch .json), ("remote", .switch .remote),
   ("production", .switch .production), ("help", .help true), ("version", .version)]

/-- The letters behind one dash. -/
def shortNames : List (Char × Keyword) :=
  [('l', .setting .logLevel), ('f', .setting .filter), ('h', .help false), ('V', .version)]

/-- An argument by its form. -/
inductive Argument where
  /-- Two dashes alone: options end here. -/
  | separator
  | long (name : String) (value : Option String)
  /-- One dash and a letter, with everything behind the letter. -/
  | short (letter : Char) (rest : List Char)
  | plain (text : String)
deriving DecidableEq

/-- A long option, from behind its dashes. -/
def longArgument (cs : List Char) : Argument :=
  let name := String.ofList (cs.takeWhile (· ≠ '='))
  match cs.dropWhile (· ≠ '=') with
  | [] => .long name none
  | _ :: v => .long name (some (String.ofList v))

/-- The form of an argument. -/
def Argument.of (text : String) : Argument :=
  match text.toList with
  | ['-', '-'] => .separator
  | '-' :: '-' :: cs => longArgument cs
  | '-' :: c :: rest => .short c rest
  | _ => .plain text

/-- The value that is attached to a short option. -/
def attached? : List Char → Option String
  | [] => none
  | '=' :: v => some (String.ofList v)
  | v => some (String.ofList v)

/-- What has been read so far. -/
structure Progress where
  options : Options := {}
  /-- The last setting, not stored yet, with its value once that has been read. -/
  pending : Option (Setting × Option String) := none
  /-- Whether the separator has been passed. -/
  ended : Bool := false

/-- Stores the value of a setting that has none yet. -/
def store (p : Progress) (s : Setting) (v : String) : Except Refusal Progress :=
  if (p.options.value? s).isSome then .error .repeated
  else .ok { p with options := p.options.setValue v s, pending := none }

/-- Stores the pending setting, which must have its value by now. -/
def settle (p : Progress) : Except Refusal Progress :=
  match p.pending with
  | none => .ok p
  | some (_, none) => .error .missingValue
  | some (s, some v) => store p s v

/-- An option has been recognised. -/
def readKeyword (p : Progress) (value : Option String) (k : Keyword) : Except Refusal Progress :=
  match settle p with
  | .error e => .error e
  | .ok p =>
    match k, value with
    | .setting s, none => .ok { p with pending := some (s, none) }
    | .setting s, some v => store p s v
    | .switch s, _ =>
      if p.options.isOn s then .error .repeated
      else .ok { p with options := p.options.turnOn s }
    | .help full, _ => .error (.helpWanted full)
    | .version, _ => .error .versionWanted

/-- A long option, which has a value behind an equals sign only if it is a setting. -/
def readLong (p : Progress) (name : String) (value : Option String) : Except Refusal Progress :=
  match longNames.lookup name, value with
  | none, _ => .error .unknownArgument
  | some (.setting s), value => readKeyword p value (.setting s)
  | some k, none => readKeyword p none k
  | some _, some _ => .error .unneededValue

/-- One argument more. -/
def readArgument (p : Progress) (text : String) : Except Refusal Progress :=
  if p.ended then .error .unknownArgument
  else
    match Argument.of text with
    | .separator => .ok { p with ended := true }
    | .long name value => readLong p name value
    | .short letter rest =>
      match shortNames.lookup letter with
      | none => .error .unknownArgument
      | some k => readKeyword p (attached? rest) k
    | .plain text =>
      match p.pending with
      | some (s, none) => .ok { p with pending := some (s, some text) }
      | _ => .error .unknownArgument

/-- The arguments in order. -/
def readArguments (p : Progress) : List String → Except Refusal Progress
  | [] => settle p
  | a :: rest =>
    match readArgument p a with
    | .ok p => readArguments p rest
    | .error e => .error e

end CommandLine

/-- The options in the arguments, of which the first is the name of the program. -/
def Options.read (arguments : List String) : Except Refusal Options :=
  match CommandLine.readArguments {} (arguments.drop 1) with
  | .ok p => .ok p.options
  | .error e => .error e

end Herald
