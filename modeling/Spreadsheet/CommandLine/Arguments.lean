import Spreadsheet.Number.Reading

/-! Command-line arguments: options common to all commands, one command, and its own options and
operands. An option takes one value, behind an equals sign, attached to its letter, or as the next
argument. -/

namespace Spreadsheet.CommandLine

inductive Setting where
  | config
  | maxCallDepth
  | maxExpressionDepth
  | data
  | headers
  | name
  | category
  deriving DecidableEq, Repr

structure OptionForm where
  setting : Setting
  long : String
  short : Option Char

def commonForms : List OptionForm :=
  [⟨.config, "config", none⟩, ⟨.maxCallDepth, "max-call-depth", none⟩,
    ⟨.maxExpressionDepth, "max-expression-depth", none⟩]

/-- Why there is nothing to perform. -/
inductive UsageFault where
  | help
  | version
  | noCommand
  | unknownCommand (name : String)
  | unknownOption (argument : String)
  | missingValue (setting : Setting)
  | repeatedOption (setting : Setting)
  | badValue (setting : Setting) (value : String)
  | missingOperand
  | excessOperand (operand : String)
  deriving Repr

inductive Command where
  | eval (formula : String) (data : Option String) (headers : Option (List String))
  | check (formula : String)
  | tools (name : Option String)
  | call (tool input : String)
  | functions (category : Option String)

structure Invocation where
  config : Option String
  maxCallDepth : Option Nat
  maxExpressionDepth : Option Nat
  command : Command

/-- Settings and their values in the order given. -/
abbrev Settings := List (Setting × String)

/-- Whether an argument is an option or the marker behind which there are only operands. -/
def isOption (arg : String) : Bool :=
  match arg.toList with
  | '-' :: _ :: _ => true
  | _ => false

/-- Splits a long option at its first equals sign. -/
def splitEquals (cs : List Char) : String × Option String :=
  let name := String.ofList (cs.takeWhile (· != '='))
  match cs.dropWhile (· != '=') with
  | _ :: value => (name, some (String.ofList value))
  | [] => (name, none)

/-- The value attached to an option letter. -/
def attached : List Char → Option String
  | [] => none
  | '=' :: cs => some (String.ofList cs)
  | cs => some (String.ofList cs)

/-- Reads an option: its setting, and the value that the same argument holds. -/
def readOption (forms : List OptionForm) (arg : String) :
    Except UsageFault (Setting × Option String) :=
  match arg.toList with
  | '-' :: '-' :: cs =>
    let (name, value) := splitEquals cs
    match forms.find? (·.long == name) with
    | some form => .ok (form.setting, value)
    | none => .error (if arg == "--help" then .help else .unknownOption arg)
  | '-' :: c :: cs =>
    match forms.find? (·.short == some c) with
    | some form => .ok (form.setting, attached cs)
    | none => .error (if c == 'h' then .help else .unknownOption arg)
  | _ => .error (.unknownOption arg)

/-- A natural number of 64 bits, which a plus sign may precede. -/
def readCount? (s : String) : Option Nat :=
  let ds :=
    match s.toList with
    | '+' :: ds => ds
    | ds => ds
  if ds.isEmpty || !ds.all Char.isDigit then none
  else some (Number.ofDigits ds) |>.filter (· ≤ 0xFFFFFFFFFFFFFFFF)

/-- Whether a value is one of a setting: a path is not empty, and a limit is a number. -/
def Setting.allows : Setting → String → Bool
  | config, value | data, value => value != ""
  | maxCallDepth, value | maxExpressionDepth, value => (readCount? value).isSome
  | headers, _ | name, _ | category, _ => true

namespace Settings

/-- The settings with one more value. All but the headers may be given once. -/
def accept (settings : Settings) (setting : Setting) (value : String) :
    Except UsageFault Settings :=
  if setting ≠ .headers ∧ settings.any (·.1 = setting) then .error (.repeatedOption setting)
  else if setting.allows value then .ok (settings ++ [(setting, value)])
  else .error (.badValue setting value)

def value? (settings : Settings) (setting : Setting) : Option String :=
  (settings.find? (·.1 = setting)).map (·.2)

def limit? (settings : Settings) (setting : Setting) : Option Nat :=
  (settings.value? setting).bind readCount?

/-- Splits a text at every comma. -/
def splitCommas (s : String) : List String :=
  (s.toList.splitOn ',').map String.ofList

/-- The column headers that all occurrences of the option list. -/
def headers? (settings : Settings) : Option (List String) :=
  let lists := settings.filterMap fun (s, value) =>
    if s = .headers then some (splitCommas value) else none
  if lists.isEmpty then none else some lists.flatten

end Settings

/-- A command: its options, how many operands it may have, and the reading of both. -/
structure CommandForm where
  name : String
  options : List OptionForm
  maxOperands : Nat
  read : Settings → List String → Except UsageFault Command

def commands : List CommandForm :=
  [⟨"eval", [⟨.data, "data", some 'd'⟩, ⟨.headers, "headers", none⟩], 1, fun settings operands =>
      match operands with
      | [formula] => .ok (.eval formula (settings.value? .data) settings.headers?)
      | _ => .error .missingOperand⟩,
    ⟨"check", [], 1, fun _ operands =>
      match operands with
      | [formula] => .ok (.check formula)
      | _ => .error .missingOperand⟩,
    ⟨"tools", [⟨.name, "name", some 'n'⟩], 0, fun settings _ =>
      .ok (.tools (settings.value? .name))⟩,
    ⟨"call", [], 2, fun _ operands =>
      match operands with
      | [tool, input] => .ok (.call tool input)
      | [tool] => .ok (.call tool "\x7b\x7d")
      | _ => .error .missingOperand⟩,
    ⟨"functions", [⟨.category, "category", some 'c'⟩], 0, fun settings _ =>
      .ok (.functions (settings.value? .category))⟩]

namespace CommandForm

/-- Operands, as many as the command may have. -/
def fit (form : CommandForm) (operands : List String) : Except UsageFault (List String) :=
  match operands.drop form.maxOperands with
  | [] => .ok operands
  | operand :: _ => .error (.excessOperand operand)

/-- Separates the settings from the operands of a command. The first argument at fault counts. -/
def separate (form : CommandForm) (settings : Settings) (operands : List String) :
    List String → Except UsageFault (Settings × List String)
  | [] => .ok (settings, operands)
  | arg :: rest =>
    if arg = "--" then do return (settings, ← form.fit (operands ++ rest))
    else if isOption arg then do
      match ← readOption (form.options ++ commonForms) arg, rest with
      | (setting, some value), rest =>
        form.separate (← settings.accept setting value) operands rest
      | (setting, none), value :: rest =>
        if isOption value then .error (.missingValue setting)
        else form.separate (← settings.accept setting value) operands rest
      | (setting, none), [] => .error (.missingValue setting)
    else do form.separate settings (← form.fit (operands ++ [arg])) rest

end CommandForm

/-- A request for help, on all commands or on one. -/
def readHelp : List String → UsageFault
  | [] => .help
  | [name] =>
    if commands.any (·.name == name) || name == "help" then .help else .unknownCommand name
  | _ :: name :: _ => .unknownCommand name

/-- In front of the command, the version can be asked for as well. -/
def atFront : UsageFault → UsageFault
  | .unknownOption arg =>
    if arg == "--version" || arg.startsWith "-V" then .version else .unknownOption arg
  | fault => fault

/-- Reads the command `name` with the arguments behind it. -/
def readCommand (name : String) (args : List String) : Except UsageFault (Settings × Command) :=
  match commands.find? (·.name == name) with
  | some form => do
    let (settings, operands) ← form.separate [] [] args
    return (settings, ← form.read settings operands)
  | none => .error (if name == "help" then readHelp args else .unknownCommand name)

/-- Accepts the value that waits for it, if there is one. -/
def settle (settings : Settings) : Option (Setting × String) → Except UsageFault Settings
  | some (setting, value) => settings.accept setting value
  | none => .ok settings

/-- Reads the options in front of the command, and the command. A value that is an argument of its
own is waiting until the next option, or the whole command, is read. What the command sets prevails
over what is set in front of it. -/
def readFront (outer : Settings) (waiting : Option (Setting × String)) :
    List String → Except UsageFault Invocation
  | [] => .error .noCommand
  | arg :: rest =>
    if isOption arg then do
      let outer ← settle outer waiting
      match ← (readOption commonForms arg).mapError atFront, rest with
      | (setting, some value), rest => readFront (← outer.accept setting value) none rest
      | (setting, none), value :: rest =>
        if isOption value then .error (.missingValue setting)
        else readFront outer (some (setting, value)) rest
      | (setting, none), [] => .error (.missingValue setting)
    else do
      let (inner, command) ← readCommand arg rest
      let outer ← settle outer waiting
      return ⟨inner.value? .config <|> outer.value? .config,
        inner.limit? .maxCallDepth <|> outer.limit? .maxCallDepth,
        inner.limit? .maxExpressionDepth <|> outer.limit? .maxExpressionDepth, command⟩

/-- Reads the arguments of the program. -/
def parse (args : List String) : Except UsageFault Invocation :=
  readFront [] none args

end Spreadsheet.CommandLine
