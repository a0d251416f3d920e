import ListeningCharts.Text.Basic

/-! # Command line arguments

Which words of a command line are options, flags and commands. Words are read from the left, first
outside and then inside a command. An option takes its value from its own word or from the next one,
and takes effect only when the word after that takes effect, or at the end; a fault of an option is
reported then.
-/

namespace ListeningCharts.Cli

/-! ## What can be given -/

/-- An argument with a value. -/
inductive Valued where
  | path | readme | user | apiKey | locale | dateFormat
  deriving DecidableEq, Repr

/-- An argument without a value. -/
inductive Flag where
  | verbose | noColor | noTitle | dryRun | diff | help | version
  deriving DecidableEq, Repr

/-- What the program can be told to do. -/
inductive Task where
  | init | list | check | update
  deriving DecidableEq, Repr

/-- Where in a command line a word stands. -/
inductive Level where
  | outer
  | inside (task : Task)
  deriving DecidableEq, Repr

namespace Valued

def all : List Valued := [path, readme, user, apiKey, locale, dateFormat]

/-- The long name. -/
def name : Valued → Text
  | path => "path"
  | readme => "readme"
  | user => "user"
  | apiKey => "api-key"
  | locale => "locale"
  | dateFormat => "date-format"

/-- The name of the value. -/
def valueName : Valued → Text
  | path => "PATH"
  | readme => "README"
  | user => "USER"
  | apiKey => "API_KEY"
  | locale => "LOCALE"
  | dateFormat => "DATE_FORMAT"

/-- The letter that stands for the long name. -/
def letter? : Valued → Option Char
  | path => some 'p'
  | readme => some 'r'
  | user => some 'u'
  | _ => none

/-- Whether the value is a path, which is never empty. -/
def isPath : Valued → Bool
  | path | readme => true
  | _ => false

/-- Whether the option is known at a level. -/
def isKnown (v : Valued) : Level → Bool
  | .inside .update => true
  | _ => v.isPath

/-- How messages show the option. -/
def shown (v : Valued) : Text := "--" ++ v.name ++ " <" ++ v.valueName ++ ">"

end Valued

namespace Flag

def all : List Flag := [verbose, noColor, noTitle, dryRun, diff, help, version]

/-- The long name. -/
def name : Flag → Text
  | verbose => "verbose"
  | noColor => "no-color"
  | noTitle => "no-title"
  | dryRun => "dry-run"
  | diff => "diff"
  | help => "help"
  | version => "version"

/-- The letter that stands for the long name. -/
def letter? : Flag → Option Char
  | verbose => some 'v'
  | help => some 'h'
  | version => some 'V'
  | _ => none

/-- Whether the flag is known at a level. -/
def isKnown : Flag → Level → Bool
  | verbose, _ | noColor, _ | help, _ => true
  | version, level => level == .outer
  | noTitle, level | dryRun, level | diff, level => level == .inside .update

/-- How messages show the flag. -/
def shown (f : Flag) : Text := "--" ++ f.name

end Flag

namespace Task

def all : List Task := [init, list, check, update]

/-- The word for the task. -/
def name : Task → Text
  | init => "init"
  | list => "list"
  | check => "check"
  | update => "update"

/-- The task that a word stands for. -/
def ofName? (word : Text) : Option Task := all.find? fun t => t.name == word

end Task

/-- The word that asks for help on a task. -/
def helpWord : Text := "help"

/-! ## Faults -/

/-- Why a command line cannot be followed. -/
inductive ArgumentFault where
  | unexpected (word : Text)
  | unknownTask (word : Text)
  | missingValue (option : Valued)
  | needlessValue (value : Text) (flag : Flag)
  | repeated (shown : Text)
  deriving DecidableEq, Repr

/-- The message for a fault. -/
def ArgumentFault.message : ArgumentFault → Text
  | unexpected word => "error: unexpected argument '" ++ word ++ "' found"
  | unknownTask word => "error: unrecognized subcommand '" ++ word ++ "'"
  | missingValue o =>
    "error: a value is required for '" ++ o.shown ++ "' but none was supplied"
  | needlessValue value f =>
    "error: unexpected value '" ++ value ++ "' for '" ++ f.shown
      ++ "' found; no more were expected"
  | repeated shown => "error: the argument '" ++ shown ++ "' cannot be used multiple times"

/-- What keeps a command line from being followed to its end: a question about the program, or a
fault. -/
inductive Stop where
  | help
  | version
  | fault (cause : ArgumentFault)
  deriving DecidableEq, Repr

/-- Stops at a fault. -/
def Stop.at {α : Type} (cause : ArgumentFault) : Except Stop α := .error (.fault cause)

/-! ## What has been given -/

/-- An option that has been read and has not taken effect yet; without a value it waits for one. -/
structure Pending where
  option : Valued
  value : Option Text
  deriving DecidableEq, Repr

/-- What has been given at a level. -/
structure Given where
  values : List (Valued × Text) := []
  flags : List Flag := []
  pending : Option Pending := none
  deriving DecidableEq, Repr

namespace Given

/-- The value that was given for an option. -/
def value? (g : Given) (o : Valued) : Option Text := g.values.lookup o

/-- Whether a flag was given. -/
def has (g : Given) (f : Flag) : Bool := g.flags.contains f

/-- Whether the next word is the value of an option. -/
def isWaiting (g : Given) : Bool := g.pending.any fun p => p.value.isNone

/-- An option takes effect, once. -/
def record (g : Given) (o : Valued) (value : Text) : Except Stop Given :=
  if (g.value? o).isSome then Stop.at (.repeated o.shown)
  else if o.isPath && value.isEmpty then Stop.at (.missingValue o)
  else .ok { g with values := g.values ++ [(o, value)] }

/-- The pending option takes effect. -/
def settle (g : Given) : Except Stop Given :=
  match g.pending with
  | none => .ok g
  | some ⟨o, none⟩ => Stop.at (.missingValue o)
  | some ⟨o, some value⟩ => { g with pending := none }.record o value

/-- A flag takes effect. -/
def raise (g : Given) (f : Flag) : Except Stop Given := do
  let g ← g.settle
  match f with
  | .help => .error .help
  | .version => .error .version
  | f => if g.has f then Stop.at (.repeated f.shown) else .ok { g with flags := g.flags ++ [f] }

/-- An option is read. A value from its own word takes effect at once. -/
def start (g : Given) (o : Valued) : Option Text → Except Stop Given
  | some value => do (← g.settle).record o value
  | none => do return { ← g.settle with pending := some ⟨o, none⟩ }

/-- The waiting option gets its value. -/
def supply (g : Given) (value : Text) : Given :=
  { g with pending := g.pending.map fun p => { p with value := some value } }

end Given

/-! ## Words -/

/-- Reads a word of the form `--name` or `--name=value`, without its hyphens. -/
def readLong (level : Level) (g : Given) (body : Text) : Except Stop Given :=
  let name := body.takeWhile (· != '=')
  let value : Option Text := if name.length < body.length then some (body.drop (name.length + 1)) else none
  match Valued.all.find? fun o => o.isKnown level && o.name == name with
  | some o => g.start o value
  | none =>
    match Flag.all.find? fun f => f.isKnown level && f.name == name with
    | some f =>
      match value with
      | some v => Stop.at (.needlessValue v f)
      | none => g.raise f
    | none => Stop.at (.unexpected ("--" ++ name))

/-- Reads the letters of a word that starts with one hyphen: flags, then perhaps an option, which takes
what is left of the word as its value. -/
def readLetters (level : Level) (g : Given) : Text → Except Stop Given
  | [] => .ok g
  | c :: rest =>
    match Flag.all.find? fun f => f.isKnown level && f.letter? == some c with
    | some f =>
      match g.raise f with
      | .ok g => readLetters level g rest
      | .error stop => .error stop
    | none =>
      match Valued.all.find? fun o => o.isKnown level && o.letter? == some c with
      | some o =>
        g.start o (if rest.isEmpty then none else some (if rest.head? = some '=' then rest.tail else rest))
      | none => Stop.at (.unexpected ['-', c])

/-- What a word looks like. -/
inductive Shape where
  | escape
  | long (body : Text)
  | letters (body : Text)
  | plain
  deriving DecidableEq, Repr

/-- The shape of a word. -/
def Shape.of : Text → Shape
  | ['-', '-'] => escape
  | '-' :: '-' :: body => long body
  | ['-'] => plain
  | '-' :: body => letters body
  | _ => plain

/-! ## Command lines -/

/-- Reads the words after the name of a task. Behind an escape no word is expected. -/
def readInside (task : Task) (g : Given) : List Text → Except Stop Given
  | [] => g.settle
  | word :: words =>
    match Shape.of word with
    | .escape =>
      match words with
      | [] => g.settle
      | word :: _ => Stop.at (.unexpected word)
    | .long body =>
      match readLong (.inside task) g body with
      | .ok g => readInside task g words
      | .error stop => .error stop
    | .letters body =>
      match readLetters (.inside task) g body with
      | .ok g => readInside task g words
      | .error stop => .error stop
    | .plain =>
      if g.isWaiting then readInside task (g.supply word) words
      else Stop.at (.unexpected word)

/-- Stops for a question about the words after the help word. -/
def readHelp : List Text → Stop
  | [] => .help
  | word :: words =>
    if (Task.ofName? word).isSome then
      match words with
      | [] => .help
      | word :: _ => .fault (.unknownTask word)
    else if word = helpWord then readHelp words
    else .fault (.unknownTask word)

/-- Stops at a word that is neither an option nor a flag outside a task; behind an escape even the name
of a task is not expected. -/
def strayWord (escaped : Bool) (word : Text) : Stop :=
  .fault (if escaped && ((Task.ofName? word).isSome || word == helpWord) then .unexpected word
    else .unknownTask word)

/-- Reads a command line: what is given outside the task, the task, and what is given inside it. -/
def readOuter (g : Given) : List Text → Except Stop (Given × Option (Task × Given))
  | [] => do return (← g.settle, none)
  | word :: words =>
    match Shape.of word with
    | .escape =>
      match words with
      | [] => do return (← g.settle, none)
      | word :: _ => .error (strayWord true word)
    | .long body =>
      match readLong .outer g body with
      | .ok g => readOuter g words
      | .error stop => .error stop
    | .letters body =>
      match readLetters .outer g body with
      | .ok g => readOuter g words
      | .error stop => .error stop
    | .plain =>
      if g.isWaiting then readOuter (g.supply word) words
      else if word = helpWord then .error (readHelp words)
      else
        match Task.ofName? word with
        | some task => do
          let inner ← readInside task {} words
          return (← g.settle, some (task, inner))
        | none => .error (strayWord false word)

end ListeningCharts.Cli
