/-! # Command line arguments

The command line has one command, which builds a project, and flags that ask for help or for the
version. Arguments are read from left to right, and the first one that cannot be understood, or
that asks for help or the version, decides; whether something is missing is looked at last.
-/

namespace Storyboard

/-- The formats that a build can write. -/
inductive OutputFormat where
  /-- The event text that players read. -/
  | events
  /-- The preview graph as structured text. -/
  | preview
  deriving DecidableEq, Repr

namespace OutputFormat

def name : OutputFormat → String
  | events => "osb"
  | preview => "json"

def ofName? (name : String) : Option OutputFormat :=
  [events, preview].find? fun format => format.name == name

end OutputFormat

/-- What the command line asks for when it asks for a build. -/
structure BuildRequest where
  input : String
  /-- The path of the file that is written. -/
  output : String
  format : OutputFormat := .events
  /-- The asset root, if it is not the directory of the project. -/
  assetsRoot : Option String := none
  /-- Whether positions are moved for a wide play area, whatever the project says. -/
  widescreen : Bool := false
  /-- An export target in place of the project's. -/
  target : Option String := none
  /-- How many scripts may run at the same time. -/
  threads : Option Nat := none
  verbose : Bool := false
  deriving DecidableEq, Repr

/-- What the command line asks for. -/
inductive Invocation where
  | build (request : BuildRequest)
  | version
  | help
  | buildHelp
  deriving DecidableEq, Repr

/-- Why a command line is not understood. -/
inductive UsageError where
  | noCommand
  | unknownCommand (name : String)
  /-- An argument is neither known nor expected. -/
  | unexpected (argument : String)
  | repeated (option : String)
  /-- An option stands without its value. -/
  | noValue (option : String)
  /-- An option does not take this value. -/
  | badValue (option value : String)
  /-- Options that a build needs are missing. -/
  | missing (options : List String)
  deriving DecidableEq, Repr

namespace UsageError

def message : UsageError → String
  | noCommand => "a command is required"
  | unknownCommand name => s!"unrecognized subcommand '{name}'"
  | unexpected argument => s!"unexpected argument '{argument}' found"
  | repeated option => s!"the argument '--{option}' cannot be used multiple times"
  | noValue option => s!"a value is required for '--{option}' but none was supplied"
  | badValue option value => s!"invalid value '{value}' for '--{option}'"
  | missing options =>
    "the following required arguments were not provided: " ++
      ", ".intercalate (options.map fun option => "--" ++ option)

end UsageError

/-- The form of an argument. -/
inductive Argument where
  /-- A word that is no option. -/
  | word (text : String)
  /-- Two dashes alone, after which nothing is an option. -/
  | endOfOptions
  /-- An option by name, perhaps with a value after an equals sign. -/
  | long (name : String) (value : Option String)
  | short (letters : List Char)
  deriving DecidableEq, Repr

namespace Argument

/-- The name of an option and the value behind its equals sign. -/
def ofLong (text : List Char) : Argument :=
  let name := String.ofList (text.takeWhile fun c => c != '=')
  match text.dropWhile fun c => c != '=' with
  | _ :: value => long name (some (String.ofList value))
  | [] => long name none

/-- The form of a text; a single dash is a word. -/
def of (text : String) : Argument :=
  match text.toList with
  | ['-', '-'] => endOfOptions
  | '-' :: '-' :: rest => ofLong rest
  | ['-'] => word text
  | '-' :: letters => short letters
  | _ => word text

end Argument

/-- The options of a build that take a value. -/
inductive BuildOption where
  | input | output | format | assetsRoot | target | threads
  deriving DecidableEq, Repr

namespace BuildOption

def name : BuildOption → String
  | input => "in"
  | output => "out"
  | format => "format"
  | assetsRoot => "assets-root"
  | target => "target"
  | threads => "threads"

def ofName? (name : String) : Option BuildOption :=
  [input, output, format, assetsRoot, target, threads].find? fun option => option.name == name

end BuildOption

/-- What has been read of a request for a build. -/
structure BuildDraft where
  input : Option String := none
  /-- The path of the file that is written. -/
  output : Option String := none
  format : Option OutputFormat := none
  assetsRoot : Option String := none
  widescreen : Bool := false
  target : Option String := none
  /-- How many scripts may run at the same time. -/
  threads : Option Nat := none
  verbose : Bool := false
  deriving DecidableEq, Repr

namespace BuildDraft

def path? (text : String) : Option String := if text.isEmpty then none else some text

/-- A count of 64 bits: digits after an optional plus sign. -/
def count? (text : String) : Option Nat :=
  let digits := match text.toList with
    | '+' :: digits => digits
    | digits => digits
  if digits.isEmpty || !digits.all Char.isDigit then none
  else
    let n := digits.foldl (fun n c => n * 10 + (c.toNat - '0'.toNat)) 0
    if n < UInt64.size then some n else none

def once {α : Type} (option : BuildOption) (given : Option α) (text : String) (read : Option α) :
    Except UsageError (Option α) :=
  match given, read with
  | some _, _ => .error (.repeated option.name)
  | none, none => .error (.badValue option.name text)
  | none, some a => .ok (some a)

def setOption (draft : BuildDraft) (option : BuildOption) (text : String) :
    Except UsageError BuildDraft := do
  match option with
  | .input => return { draft with input := ← once option draft.input text (path? text) }
  | .output => return { draft with output := ← once option draft.output text (path? text) }
  | .format =>
    return { draft with format := ← once option draft.format text (OutputFormat.ofName? text) }
  | .assetsRoot =>
    return { draft with assetsRoot := ← once option draft.assetsRoot text (path? text) }
  | .target => return { draft with target := ← once option draft.target text (some text) }
  | .threads => return { draft with threads := ← once option draft.threads text (count? text) }

/-- Asks for progress. -/
def setVerbose (draft : BuildDraft) : Except UsageError BuildDraft :=
  if draft.verbose then .error (.repeated "verbose") else .ok { draft with verbose := true }

/-- Asks for a wide play area. -/
def setWidescreen (draft : BuildDraft) : Except UsageError BuildDraft :=
  if draft.widescreen then .error (.repeated "widescreen")
  else .ok { draft with widescreen := true }

/-- The request, if nothing is missing; `verbose` says whether progress was asked for before. -/
def finish (draft : BuildDraft) (verbose : Bool) : Except UsageError Invocation :=
  match draft.input, draft.output with
  | some input, some output =>
    .ok <| .build {
      input, output
      format := draft.format.getD .events
      assetsRoot := draft.assetsRoot
      widescreen := draft.widescreen
      target := draft.target
      threads := draft.threads
      verbose := verbose || draft.verbose }
  | input, output =>
    .error <| .missing <|
      (if input.isNone then ["in"] else []) ++ (if output.isNone then ["out"] else [])

end BuildDraft

namespace Invocation

/-- What letters ask for: help if there is an `h`, or else only progress. -/
def readLetters (draft : BuildDraft) : List Char → Except UsageError (Option BuildDraft)
  | [] => .ok (some draft)
  | 'h' :: _ => .ok none
  | 'v' :: rest => do
    let draft ← draft.setVerbose
    readLetters draft rest
  | c :: _ => .error (.unexpected (String.ofList ['-', c]))

/-- Reads the arguments of a build; `verbose` says whether progress was asked for before. -/
def readBuild (verbose : Bool) (draft : BuildDraft) :
    List String → Except UsageError Invocation
  | [] => draft.finish verbose
  | argument :: rest =>
    match Argument.of argument with
    | .word text => .error (.unexpected text)
    | .endOfOptions =>
      match rest with
      | [] => draft.finish verbose
      | text :: _ => .error (.unexpected text)
    | .short letters => do
      match ← readLetters draft letters with
      | some draft => readBuild verbose draft rest
      | none => return .buildHelp
    | .long name value =>
      match BuildOption.ofName? name, value, rest with
      | some option, some text, rest => do
        let draft ← draft.setOption option text
        readBuild verbose draft rest
      | some option, none, text :: rest =>
        match Argument.of text with
        | .word text => do
          let draft ← draft.setOption option text
          readBuild verbose draft rest
        | _ => .error (.noValue option.name)
      | some option, none, [] => .error (.noValue option.name)
      | none, some _, _ => .error (.unexpected argument)
      | none, none, rest =>
        match name with
        | "help" => .ok .buildHelp
        | "verbose" => do
          let draft ← draft.setVerbose
          readBuild verbose draft rest
        | "widescreen" => do
          let draft ← draft.setWidescreen
          readBuild verbose draft rest
        | _ => .error (.unexpected argument)

def readHelp : List String → Except UsageError Invocation
  | [] | ["help"] => .ok .help
  | ["build"] => .ok .buildHelp
  | "build" :: name :: _ | "help" :: name :: _ | name :: _ => .error (.unknownCommand name)

/-- What letters before the command ask for: progress, or help or the version. -/
def readFirstLetters (verbose : Bool) : List Char → Except UsageError (Bool × Option Invocation)
  | [] => .ok (verbose, none)
  | 'h' :: _ => .ok (verbose, some .help)
  | 'V' :: _ => .ok (verbose, some .version)
  | 'v' :: rest =>
    if verbose then .error (.repeated "verbose") else readFirstLetters true rest
  | c :: _ => .error (.unexpected (String.ofList ['-', c]))

/-- Reads arguments up to the command; `verbose` says whether progress has been asked for. -/
def readFirst (verbose : Bool) : List String → Except UsageError Invocation
  | [] => .error .noCommand
  | argument :: rest =>
    match Argument.of argument with
    | .word "build" => readBuild verbose {} rest
    | .word "help" => readHelp rest
    | .word name => .error (.unknownCommand name)
    | .endOfOptions => .error (rest.head?.elim .noCommand .unexpected)
    | .short letters => do
      match ← readFirstLetters verbose letters with
      | (_, some invocation) => return invocation
      | (verbose, none) => readFirst verbose rest
    | .long "help" none => .ok .help
    | .long "version" none => .ok .version
    | .long "verbose" none =>
      if verbose then .error (.repeated "verbose") else readFirst true rest
    | .long .. => .error (.unexpected argument)

def parse (arguments : List String) : Except UsageError Invocation := readFirst false arguments

end Invocation

end Storyboard
