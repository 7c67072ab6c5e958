/-!
# Command line arguments

The program is told what to do by an optional command and options.  Arguments are read from left
to right; the first one that asks for help or is wrong decides.  An option takes the argument
behind it or the text behind its equals sign, and may be given once.
-/

namespace PostalRegions.CommandLine

inductive Command where
  | serve
  /-- Replace the estimates of a snapshot, at the configured place unless another one is named. -/
  | importEstimates (file : String) (snapshot : Option String)
deriving DecidableEq, Repr

structure Invocation where
  configuration : Option String
  command : Command
deriving DecidableEq, Repr

inductive Stop where
  | informed
  | misused
deriving DecidableEq, Repr

structure Grammar where
  options : List String
  tellsVersion : Bool
  commands : List String

def Grammar.top : Grammar :=
  ⟨["config"], true, ["serve", "import-estimates", "help"]⟩

def Grammar.serve : Grammar :=
  ⟨["config"], false, []⟩

def Grammar.importEstimates : Grammar :=
  ⟨["config", "csv", "db"], false, []⟩

/-! ## Options -/

/-- The options read so far, and the last one as long as it is not settled. -/
structure Options where
  given : List (String × String) := []
  /-- An option, with its value if that was read. -/
  pending : Option (String × Option String) := none

namespace Options

/-- Gives an option its value, which must not be empty. -/
def give (options : Options) (name value : String) : Except Stop Options :=
  if value.isEmpty || (options.given.lookup name).isSome then .error .misused
  else .ok ⟨(name, value) :: options.given, none⟩

def settle (options : Options) : Except Stop Options :=
  match options.pending with
  | none => .ok options
  | some (_, none) => .error .misused
  | some (name, some value) => options.give name value

def awaitsValue (options : Options) : Bool :=
  match options.pending with
  | some (_, none) => true
  | _ => false

def take (options : Options) (value : String) : Options :=
  ⟨options.given, options.pending.map fun (name, _) => (name, some value)⟩

end Options

/-! ## Reading -/

inductive Argument where
  | separator
  /-- Two hyphens and a name, with a value if there is an equals sign. -/
  | long (name : String) (value : Option String)
  | short (first : Char)
  | word (text : String)
deriving DecidableEq, Repr

def Argument.ofText (text : String) : Argument :=
  match text.toList with
  | ['-', '-'] => .separator
  | '-' :: '-' :: rest =>
    let name := String.ofList (rest.takeWhile (· != '='))
    match rest.dropWhile (· != '=') with
    | _ :: value => .long name (some (String.ofList value))
    | [] => .long name none
  | '-' :: first :: _ => .short first
  | _ => .word text

def Grammar.readLong (grammar : Grammar) (options : Options) (name : String)
    (value : Option String) : Except Stop Options :=
  if grammar.options.contains name then do
    let options ← options.settle
    match value with
    | some value => options.give name value
    | none => .ok ⟨options.given, some (name, none)⟩
  else if value.isNone && (name == "help" || (name == "version" && grammar.tellsVersion)) then do
    let _ ← options.settle
    .error .informed
  else .error .misused

def Grammar.readShort (grammar : Grammar) (options : Options) (letter : Char) :
    Except Stop Options :=
  if letter == 'h' || (letter == 'V' && grammar.tellsVersion) then do
    let _ ← options.settle
    .error .informed
  else .error .misused

/-- Reads options up to a command; answers them, and the arguments from the command on. -/
def Grammar.read (grammar : Grammar) (options : Options) :
    List String → Except Stop (Options × List String)
  | [] => .ok (options, [])
  | text :: rest =>
    match Argument.ofText text with
    | .word word =>
      if options.awaitsValue then grammar.read (options.take word) rest
      else if grammar.commands.contains word then .ok (options, text :: rest)
      else .error .misused
    | .separator =>
      if options.awaitsValue || !rest.isEmpty then .error .misused else .ok (options, [])
    | .long name value => do
      let options ← grammar.readLong options name value
      grammar.read options rest
    | .short letter => do
      let options ← grammar.readShort options letter
      grammar.read options rest

/-- Reads options behind a command, where no further command follows. -/
def Grammar.readAll (grammar : Grammar) (texts : List String) :
    Except Stop (List (String × String)) := do
  let (options, _) ← grammar.read {} texts
  return (← options.settle).given

/-- The command in the arguments from it on, with the options behind it. -/
def readCommand : List String → Except Stop (Command × List (String × String))
  | [] => .ok (.serve, [])
  | name :: rest =>
    if name = "help" then
      match rest with
      | [] => .error .informed
      | [topic] => .error (if Grammar.top.commands.contains topic then .informed else .misused)
      | _ => .error .misused
    else if name = "serve" then do
      return (.serve, ← Grammar.serve.readAll rest)
    else do
      let given ← Grammar.importEstimates.readAll rest
      match given.lookup "csv" with
      | some file => return (.importEstimates file (given.lookup "db"), given)
      | none => .error .misused

/-- Reads all arguments.  A configuration file named behind the command goes before one named in
front of it. -/
def Invocation.parse (texts : List String) : Except Stop Invocation := do
  let (options, rest) ← Grammar.top.read {} texts
  let (command, given) ← readCommand rest
  let options ← options.settle
  return ⟨(given.lookup "config").orElse fun _ => options.given.lookup "config", command⟩

end PostalRegions.CommandLine
