import ListeningCharts.Cli.Invocation
import ListeningCharts.Cli.Paint
import ListeningCharts.Client
import ListeningCharts.Settings
import ListeningCharts.Store.Files

/-! # Runs of the program

What one run does, as a function of its arguments, the environment, the files and the disk that holds
them, and the server of the listening service. A run that fails prints nothing.
-/

namespace ListeningCharts.Cli

/-! ## Outcome -/

/-- Why a run fails. -/
inductive Failure where
  /-- The arguments name no task. -/
  | noTask
  | arguments (cause : ArgumentFault)
  /-- The settings file to start from cannot be written. -/
  | unwritable (cause : IoFault)
  | error (cause : Error)
  deriving DecidableEq, Repr

namespace Failure

/-- The exit code for a failure. -/
def exitCode : Failure → Nat
  | noTask => 1
  | _ => 2

/-- The line that reports a failure other than an error of the library. -/
def line? (colors : Bool) : Failure → Option Text
  | noTask => some "No subcommand specified. Run `lastmark --help` for usage."
  | arguments cause => some cause.message
  | unwritable cause => some (paint colors .red "error:" ++ " " ++ cause.message)
  | error _ => none

end Failure

/-- What a run prints: its answer, and a difference beside it. -/
structure Printed where
  answer : Text := []
  difference : Text := []
  deriving DecidableEq, Repr

/-- What a run acts on: the files, and the server. -/
abbrev World := FileTree × Server

/-- The outcome of a run. -/
structure Outcome where
  result : Except Failure Printed
  world : World
  /-- Whether messages are colored. -/
  colors : Bool

/-- The exit code of a run. -/
def Outcome.exitCode (o : Outcome) : Nat :=
  match o.result with
  | .ok _ => 0
  | .error failure => failure.exitCode

/-- A line of the answer. -/
def line (t : Text) : Text := t ++ "\n"

/-! ## The project -/

/-- The path of a place. -/
def pathOf (p : Place) : Text := "/" ++ ['/'].intercalate p

/-- The root of the project. -/
def Invocation.root (i : Invocation) (t : FileTree) : Text := i.path.getD (pathOf t.current)

/-- The settings with what an update asks for in their place. -/
def UpdateArguments.override (a : UpdateArguments) (s : Settings) : Settings where
  user := a.user.or s.user
  readme := s.readme
  locale := a.locale.getD s.locale
  dateFormat := a.dateFormat.getD s.dateFormat
  showTitle := s.showTitle && !a.noTitle

/-- The settings with what an invocation asks for in their place. -/
def Invocation.override (i : Invocation) (s : Settings) : Settings :=
  let s := { s with readme := i.readme.getD s.readme }
  match i.command with
  | some (.update a) => a.override s
  | _ => s

/-- The settings of a run. Those of the file have to be valid on their own. -/
def Invocation.settings (i : Invocation) (t : FileTree) : Except Error Settings := do
  let s ← Settings.loadOrDefault t (i.root t)
  (i.override s).validate

/-- The text of a document below a root. -/
def readDocument (t : FileTree) (root readme : Text) : Except Error Text :=
  let path := FileTree.join root readme
  (t.readText path).mapError fun fault => .store (.unreadable path fault)

/-- The paths of the files that a run may look at or change, as far as the files at hand tell: the
settings files, and once the settings are known the document and the file beside it. -/
def Invocation.files (i : Invocation) (t : FileTree) : List Text :=
  let root := i.root t
  let document := match i.settings t with
    | .ok s =>
      let path := FileTree.join root s.readme
      [path, FileStore.temporary path]
    | .error _ => []
  Settings.candidates.map (FileTree.join root) ++ document

/-! ## Tasks -/

/-- What the program says about a document without regions. -/
def noRegions (readme : Text) : Text := "No Last.fm regions found in " ++ readme ++ "."

/-- The name of the settings file that is made. -/
def newSettingsFile : Text := "lastmark.toml"

/-- What is said after the settings file was made. -/
def nextSteps : Text :=
  line ("Created " ++ newSettingsFile)
    ++ line []
    ++ line "Next steps:"
    ++ line ("  1. Set `user` in " ++ newSettingsFile)
    ++ line "  2. Add a region to your README:"
    ++ line "     <!--START_LASTFM_TRACKS:\x7b\"rows\": 5, \"period\": \"1month\"\x7d-->"
    ++ line "     <!--END_LASTFM_TRACKS-->"
    ++ line "  3. Run `LASTFM_API_KEY=... lastmark update` to render it"

/-- Makes a settings file, unless the project has one. -/
def runInit (disk : Disk) (i : Invocation) (t : FileTree) : Except Failure Text × FileTree :=
  let root := i.root t
  match Settings.candidate? t root with
  | some existing => (.ok (line ("Settings file already exists: " ++ existing)), t)
  | none =>
    match disk.writeText (FileTree.join root newSettingsFile) Settings.sample t with
    | (.ok (), t) => (.ok nextSteps, t)
    | (.error fault, t) => (.error (.unwritable fault), t)

/-- What is configured for a region of a family. -/
def details (family : Family) (c : RegionConfig) : Text :=
  match family with
  | .recent => "rows: " ++ Text.ofNat c.rows
  | .userInfo => "display: " ++ (", " : Text).intercalate (c.display.map DisplayField.name)
  | _ => "rows: " ++ Text.ofNat c.rows ++ ", period: " ++ c.period.name

/-- A region in the list of regions. -/
def regionLine (readme document : Text) (r : Region) : Text :=
  line ("  " ++ r.family.markerName ++ " " ++ readme ++ ":" ++ Text.ofNat (r.lineIn document)
    ++ " (" ++ details r.family r.config ++ ")")

/-- Lists the regions of the document. -/
def runList (i : Invocation) (t : FileTree) : Except Error Text := do
  let s ← i.settings t
  let document ← readDocument t (i.root t) s.readme
  let regions ← scanAll document
  if regions.isEmpty then return line (noRegions s.readme)
  else
    return line (paint i.colors .bold ("Regions in " ++ s.readme ++ ":"))
      ++ regions.flatMap (regionLine s.readme document)

/-- Checks the settings and the markers of the document. -/
def runCheck (i : Invocation) (t : FileTree) : Except Error Text := do
  let s ← i.settings t
  let _ ← s.formats
  let document ← readDocument t (i.root t) s.readme
  let regions ← scanAll document
  if regions.isEmpty then return line (noRegions s.readme)
  else
    return line (paint i.colors .green
      ("All " ++ Text.ofNat regions.length ++ " region(s) in " ++ s.readme ++ " are valid."))

/-! ## Update -/

/-- All that an update needs. -/
structure Plan where
  readme : Text
  apiKey : Text
  options : UpdateOptions

/-- What an update needs; none for a document without regions, for which there is nothing to ask.
Whatever is missing is found before the first request. -/
def Invocation.plan (i : Invocation) (a : UpdateArguments) (t : FileTree) :
    Except Error (Text × Option Plan) := do
  let s ← i.settings t
  let formats ← s.formats
  let document ← readDocument t (i.root t) s.readme
  let regions ← scanAll document
  if regions.isEmpty then return (s.readme, none)
  else
    match s.user with
    | none => .error (.invalidSettings .noUser)
    | some user =>
      match a.apiKey.filter fun key => !key.allBlank with
      | none => .error (.invalidSettings .noApiKey)
      | some apiKey =>
        let options : UpdateOptions :=
          { user, showTitle := s.showTitle, formats, dryRun := a.dryRun }
        return (s.readme, some { readme := s.readme, apiKey, options })

/-- What became of a region. -/
def updateLine (colors : Bool) (readme : Text) (u : RegionUpdate) : Text :=
  let status := if u.changed then paint colors .yellow "updated" else paint colors .green "unchanged"
  line ("  " ++ u.family.markerName ++ " " ++ readme ++ ":" ++ Text.ofNat u.line
    ++ " (" ++ Text.ofNat u.records ++ " record(s)) " ++ status)

/-- What became of the document. -/
def updateSummary (colors : Bool) (readme : Text) (r : UpdateReport) : Text :=
  let count := Text.ofNat r.update.changedCount
  if r.written then
    line (paint colors .green ("Updated " ++ count ++ " region(s) in " ++ readme ++ "."))
  else if r.update.isChanged then
    line (paint colors .yellow
      ("Dry run: " ++ count ++ " region(s) in " ++ readme ++ " would be updated."))
  else line (paint colors .green (readme ++ " is up to date."))

/-- What is printed after an update. -/
def printUpdate (colors diff : Bool) (readme : Text) (r : UpdateReport) : Printed where
  answer := r.update.regions.flatMap (updateLine colors readme) ++ updateSummary colors readme r
  difference :=
    if diff && r.update.isChanged then
      printScript colors (Diff.ofTexts r.update.previous r.update.updated)
    else []

/-- Updates the document with the records of the service at an address. -/
def runUpdate (service : Text) (disk : Disk) (i : Invocation) (a : UpdateArguments) (w : World) :
    Except Error Printed × World :=
  match i.plan a w.1 with
  | .error e => (.error e, w)
  | .ok (readme, none) =>
    (.ok { answer := line (noRegions readme ++ " " ++ readme ++ " is up to date.") }, w)
  | .ok (readme, some plan) =>
    let client : Client := { apiKey := plan.apiKey, baseUrl := service }
    let store := (FileStore.mk (i.root w.1) disk).store
    let (report, w) := (updateDocument store client.source plan.options plan.readme).run w
    (report.map (printUpdate i.colors a.diff readme), w)

/-! ## The program -/

/-- What is printed for a question about the version. -/
def versionLine : Text := line "lastmark_cli 0.1.0"

/-- Does what an invocation asks for. -/
def runInvocation (service : Text) (disk : Disk) (i : Invocation) (w : World) :
    Except Failure Printed × World :=
  match i.command with
  | none => (.error .noTask, w)
  | some .init =>
    let (result, t) := runInit disk i w.1
    (result.map fun answer => { answer }, (t, w.2))
  | some .list =>
    (((runList i w.1).map fun answer => { answer }).mapError .error, w)
  | some .check =>
    (((runCheck i w.1).map fun answer => { answer }).mapError .error, w)
  | some (.update a) =>
    let (result, w) := runUpdate service disk i a w
    (result.mapError .error, w)

/-- One run of the program on a disk, against the service at an address. The texts that help with the
command line are not told here, so a question for help is answered without one. -/
def run (service : Text) (disk : Disk) (words : List Text) (env : Environment) (w : World) :
    Outcome :=
  match Invocation.parse words env with
  | .error .help => { result := .ok {}, world := w, colors := false }
  | .error .version => { result := .ok { answer := versionLine }, world := w, colors := false }
  | .error (.fault cause) => { result := .error (.arguments cause), world := w, colors := false }
  | .ok i =>
    let (result, world) := runInvocation service disk i w
    { result, world, colors := i.colors }

end ListeningCharts.Cli
