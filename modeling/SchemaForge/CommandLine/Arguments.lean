import SchemaForge.Schema.Preset
import SchemaForge.Target.Dialect
import SchemaForge.Text.Split

/-!
# Arguments

The command line is a command with options, and options that hold for every command before or
behind it.  `Invocation.parse` reads the arguments from left to right and gives the invocation or
the first fault.

An option takes its value behind `=`, behind its letter, or as the next argument.  A value that is
the next argument is looked at when the option is *settled*: at the next option, or at the end of
its level.  The level of the options before the command ends behind that of the command.
-/

namespace SchemaForge

/-! ## What arguments can say -/

/-- The layout of a report. -/
inductive OutputFormat
  | table
  | json
  | outline
  deriving DecidableEq, Repr

/-- The layouts by name. -/
def OutputFormat.readable : List (String × OutputFormat) :=
  [("table", .table), ("json", .json), ("toon", .outline)]

/-- How much is logged. -/
inductive LogLevel
  | error
  | warn
  | info
  | debug
  | trace
  deriving DecidableEq, Repr

/-- The levels by name. -/
def LogLevel.readable : List (String × LogLevel) :=
  [("error", .error), ("warn", .warn), ("info", .info), ("debug", .debug), ("trace", .trace)]

/-- The options that choose tables. -/
structure SelectionArguments where
  preset : Option String
  tables : List String
  custom : Option String
  deriving DecidableEq, Repr

/-- A command with its options. -/
inductive Command
  | generate (backend : Option Backend) (dialect : Option Dialect)
      (selection : SelectionArguments)
  | resolve (selection : SelectionArguments)
  | presets
  | tables (custom : Option String)
  | packages (backend : Option Backend) (dialect : Option Dialect)
  deriving DecidableEq, Repr

/-- A whole command line. -/
structure Invocation where
  config : Option String
  format : OutputFormat
  logLevel : LogLevel
  command : Command
  deriving DecidableEq, Repr

/-- Why arguments do not name anything to run. -/
inductive UsageFault
  | help
  | version
  | helpForNothing
  | missingCommand
  | unknownCommand
  | unknownArgument
  | invalidValue
  | conflict
  | unexpectedValue
  deriving DecidableEq, Repr

/-- The exit code; asking for help or the version is no failure. -/
def UsageFault.exitCode : UsageFault → Nat
  | .help | .version => 0
  | _ => 2

namespace CommandLine

/-! ## Options -/

/-- An option. -/
inductive OptionName
  | config
  | format
  | logLevel
  | backend
  | dialect
  | preset
  | tables
  | custom
  | help
  | version
  deriving DecidableEq, Repr

namespace OptionName

/-- The name behind two dashes. -/
def long : OptionName → String
  | config => "config"
  | format => "format"
  | logLevel => "log-level"
  | backend => "backend"
  | dialect => "dialect"
  | preset => "preset"
  | tables => "tables"
  | custom => "custom"
  | help => "help"
  | version => "version"

/-- The letter behind one dash. -/
def short? : OptionName → Option Char
  | format => some 'o'
  | backend => some 'b'
  | dialect => some 'd'
  | preset => some 'p'
  | tables => some 't'
  | help => some 'h'
  | version => some 'V'
  | config | logLevel | custom => none

/-- The fault that an option without a value asks for. -/
def request? : OptionName → Option UsageFault
  | help => some .help
  | version => some .version
  | _ => none

/-- The option may be given several times. -/
def repeats (o : OptionName) : Bool := o == tables

/-- The option accepts the value. -/
def accepts : OptionName → String → Bool
  | config, v => !v.isEmpty
  | custom, v => !v.isEmpty
  | format, v => (OutputFormat.readable.lookup v).isSome
  | logLevel, v => (LogLevel.readable.lookup v).isSome
  | backend, v => (Backend.readable.lookup v).isSome
  | dialect, v => (Dialect.readable.lookup v).isSome
  | _, _ => true

end OptionName

/-- The commands by name. -/
inductive CommandName
  | generate
  | resolve
  | presets
  | tables
  | packages
  deriving DecidableEq, Repr

/-- The command of a name. -/
def CommandName.ofString? (s : String) : Option CommandName :=
  [("generate", generate), ("resolve", resolve), ("presets", presets), ("tables", tables),
    ("packages", packages)].lookup s

/-- The options that hold for every command. -/
def commonOptions : List OptionName := [.config, .format, .logLevel, .help]

/-- The options before the command. -/
def topOptions : List OptionName := commonOptions ++ [.version]

/-- The options behind a command. -/
def CommandName.options : CommandName → List OptionName
  | generate => commonOptions ++ [.backend, .dialect, .preset, .tables, .custom]
  | resolve => commonOptions ++ [.preset, .tables, .custom]
  | presets => commonOptions
  | tables => commonOptions ++ [.custom]
  | packages => commonOptions ++ [.backend, .dialect]

/-! ## Reading a level -/

/-- The options of a level that have been read: those settled, and the one that is not. -/
structure Level where
  given : List (OptionName × String)
  open? : Option (OptionName × Option String)
  deriving DecidableEq, Repr

namespace Level

/-- Nothing has been read. -/
def start : Level := ⟨[], none⟩

/-- The option is among those settled. -/
def has (l : Level) (o : OptionName) : Bool := l.given.any (·.1 == o)

/-- Settles an option with its value. -/
def record (l : Level) (o : OptionName) (value : String) : Except UsageFault Level :=
  if l.has o && !o.repeats then .error .conflict
  else if o.accepts value then .ok { l with given := l.given ++ [(o, value)] }
  else .error .invalidValue

/-- Settles the option that is open. -/
def settle (l : Level) : Except UsageFault Level :=
  match l.open? with
  | none => .ok l
  | some (_, none) => .error .invalidValue
  | some (o, some value) => Level.record ⟨l.given, none⟩ o value

/-- The open option still waits for its value. -/
def isWaiting (l : Level) : Bool :=
  match l.open? with
  | some (_, none) => true
  | _ => false

/-- Gives the open option its value. -/
def fill (l : Level) (value : String) : Level :=
  { l with open? := l.open?.map fun p => (p.1, some value) }

/-- Reads an option, with the value that is attached to it. -/
def option (l : Level) (o : OptionName) (attached : Option String) : Except UsageFault Level := do
  match o.request?, attached with
  | some fault, none => do
    let _ ← l.settle
    .error fault
  | some _, some _ => .error .unexpectedValue
  | none, some value => (← l.settle).record o value
  | none, none => return { (← l.settle) with open? := some (o, none) }

/-- Reads an argument with two dashes. -/
def long (l : Level) (known : List OptionName) (body : List Char) : Except UsageFault Level :=
  let name := String.ofList (body.takeWhile (· != '='))
  match known.find? (·.long == name) with
  | none => .error .unknownArgument
  | some o =>
    match body.dropWhile (· != '=') with
    | [] => l.option o none
    | _ :: value => l.option o (some (String.ofList value))

/-- Reads the letters of an argument with one dash; all behind a letter that takes a value is the
value, less a `=` before it. -/
def short (l : Level) (known : List OptionName) : List Char → Except UsageFault Level
  | [] => .ok l
  | c :: rest =>
    match known.find? (·.short? == some c) with
    | none => .error .unknownArgument
    | some o =>
      match o.request?, rest with
      | some _, _ => l.option o none
      | none, [] => l.option o none
      | none, '=' :: value => l.option o (some (String.ofList value))
      | none, value => l.option o (some (String.ofList value))

/-- Reads an argument that starts with a dash and is longer than that. -/
def dashed (l : Level) (known : List OptionName) (argument : String) : Except UsageFault Level :=
  match argument.toList with
  | '-' :: '-' :: body => l.long known body
  | _ :: letters => l.short known letters
  | [] => .ok l

end Level

/-- The argument is read as options. -/
def isDashed (argument : String) : Bool :=
  match argument.toList with
  | '-' :: _ :: _ => true
  | _ => false

/-- Reads the arguments behind a command.  Only options and their values may stand there, and
only values behind `--`. -/
def readOptions (known : List OptionName) : List String → Level → Except UsageFault Level
  | [], l => l.settle
  | a :: rest, l =>
    if a = "--" then
      if rest.isEmpty then l.settle else .error .unknownArgument
    else if isDashed a then do readOptions known rest (← l.dashed known a)
    else if l.isWaiting then readOptions known rest (l.fill a)
    else .error .unknownArgument

/-- What was asked for behind `help`: a command, or help itself, and nothing more. -/
def readHelp : List String → UsageFault
  | [] => .help
  | [a] => if a = "help" ∨ (CommandName.ofString? a).isSome then .help else .unknownCommand
  | _ => .unknownCommand

/-- Reads the arguments up to the command; gives the options before it, the command and what
stands behind it. -/
def readTop : List String → Level → Except UsageFault (Level × Option (CommandName × List String))
  | [], l => .ok (l, none)
  | a :: rest, l =>
    match if l.isWaiting then none else CommandName.ofString? a with
    | some name => .ok (l, some (name, rest))
    | none =>
      if a = "help" ∧ !l.isWaiting then .error (readHelp rest)
      else if a = "--" then
        match rest with
        | [] => .ok (l, none)
        | b :: _ =>
          .error (if b = "help" ∨ (CommandName.ofString? b).isSome then .unknownArgument
            else .unknownCommand)
      else if isDashed a then do readTop rest (← l.dashed topOptions a)
      else if l.isWaiting then readTop rest (l.fill a)
      else .error .unknownCommand

/-! ## Taking the options apart -/

/-- The value of an option. -/
def valueOf (given : List (OptionName × String)) (o : OptionName) : Option String :=
  given.lookup o

/-- The names of all lists given for an option, which are separated by commas. -/
def namesOf (given : List (OptionName × String)) (o : OptionName) : List String :=
  (given.filter (·.1 == o)).flatMap fun p => Text.splitAt ',' p.2

/-- The options that choose tables. -/
def selectionOf (given : List (OptionName × String)) : SelectionArguments :=
  ⟨valueOf given .preset, namesOf given .tables, valueOf given .custom⟩

/-- The backend of the options. -/
def backendOf (given : List (OptionName × String)) : Option Backend :=
  (valueOf given .backend).bind fun v => Backend.readable.lookup v

/-- The dialect of the options. -/
def dialectOf (given : List (OptionName × String)) : Option Dialect :=
  (valueOf given .dialect).bind fun v => Dialect.readable.lookup v

/-- A command with its options. -/
def commandOf (name : CommandName) (given : List (OptionName × String)) : Command :=
  match name with
  | .generate => .generate (backendOf given) (dialectOf given) (selectionOf given)
  | .resolve => .resolve (selectionOf given)
  | .presets => .presets
  | .tables => .tables (valueOf given .custom)
  | .packages => .packages (backendOf given) (dialectOf given)

end CommandLine

open CommandLine in
/-- Reads a command line.  What is given behind the command comes before what is given in front
of it. -/
def Invocation.parse (arguments : List String) : Except UsageFault Invocation := do
  match ← readTop arguments .start with
  | (top, none) =>
    let top ← top.settle
    .error (if top.given.isEmpty then .helpForNothing else .missingCommand)
  | (top, some (name, rest)) =>
    let own ← readOptions name.options rest .start
    if own.has .preset && own.has .tables then .error .conflict
    let top ← top.settle
    let common (o : OptionName) := (valueOf own.given o).or (valueOf top.given o)
    return {
      config := common .config
      format := ((common .format).bind fun v => OutputFormat.readable.lookup v).getD .table
      logLevel := ((common .logLevel).bind fun v => LogLevel.readable.lookup v).getD .warn
      command := commandOf name own.given }

end SchemaForge
