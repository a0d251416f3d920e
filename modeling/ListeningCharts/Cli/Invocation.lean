import ListeningCharts.Cli.Arguments

/-! # Invocation

What a command line and the environment ask for. A value that is given both outside and inside a task
is taken from the inside; one that is not given at all is taken from the environment.
-/

namespace ListeningCharts.Cli

/-- What the environment says. -/
structure Environment where
  user : Option Text := none
  apiKey : Option Text := none
  /-- Whether it asks for text without colors. -/
  noColor : Bool := false
  deriving DecidableEq, Repr

/-- How a document is to be updated. -/
structure UpdateArguments where
  user : Option Text := none
  apiKey : Option Text := none
  locale : Option Text := none
  dateFormat : Option Text := none
  noTitle : Bool := false
  dryRun : Bool := false
  diff : Bool := false
  deriving DecidableEq, Repr

/-- What is to be done. -/
inductive Command where
  | init
  | list
  | check
  | update (arguments : UpdateArguments)
  deriving DecidableEq, Repr

/-- What the program is asked for. -/
structure Invocation where
  command : Option Command := none
  /-- The root of the project, if it is not the current directory. -/
  path : Option Text := none
  /-- The document, if it is not the one that the settings name. -/
  readme : Option Text := none
  verbose : Bool := false
  /-- Whether the output is colored. -/
  colors : Bool := true
  deriving DecidableEq, Repr

/-- The update that is asked for inside its task. -/
def UpdateArguments.ofGiven (g : Given) (env : Environment) : UpdateArguments where
  user := (g.value? .user).or env.user
  apiKey := (g.value? .apiKey).or env.apiKey
  locale := g.value? .locale
  dateFormat := g.value? .dateFormat
  noTitle := g.has .noTitle
  dryRun := g.has .dryRun
  diff := g.has .diff

/-- The command for a task with what is given inside it. -/
def Command.ofGiven (env : Environment) (task : Task) (g : Given) : Command :=
  match task with
  | .init => init
  | .list => list
  | .check => check
  | .update => update (UpdateArguments.ofGiven g env)

/-- The invocation by a command line. -/
def Invocation.parse (words : List Text) (env : Environment) : Except Stop Invocation := do
  let (outer, task) ← readOuter {} words
  let inner : Given := (task.map Prod.snd).getD {}
  return {
    command := task.map fun (t, g) => Command.ofGiven env t g
    path := (inner.value? .path).or (outer.value? .path)
    readme := (inner.value? .readme).or (outer.value? .readme)
    verbose := inner.has .verbose || outer.has .verbose
    colors := !(inner.has .noColor || outer.has .noColor || env.noColor) }

end ListeningCharts.Cli
