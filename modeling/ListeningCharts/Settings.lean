import ListeningCharts.FileTree
import ListeningCharts.Render
import ListeningCharts.Text.Blank
import ListeningCharts.Toml.Document

/-! # Settings

What a project says about its charts, in a file at one of three places. A setting that the file leaves
out has its default; keys that are no settings are ignored. The key of the listening service is not
a setting.
-/

namespace ListeningCharts

/-- The settings of a project. -/
structure Settings where
  user : Option Text := none
  /-- The path of the document, below the root of the project. -/
  readme : Text := "README.md"
  locale : Text := Formats.defaultLocale
  dateFormat : Text := Formats.defaultDatePattern
  showTitle : Bool := true
  deriving DecidableEq, Repr

namespace Settings

/-- Where a settings file is looked for, in this order. -/
def candidates : List Text := ["lastmark.toml", ".lastmark.toml", ".config/lastmark.toml"]

/-- A settings file to start from. -/
def sample : Text := Text.joinLines [
  "# Last.fm account whose listening history is rendered.",
  "# user = \"your-lastfm-username\"",
  "",
  "# Markdown document containing the LASTFM regions, relative to the project root.",
  "readme = \"README.md\"",
  "",
  "# Locale used to group play counts, e.g. \"en-US\" renders 1,234.",
  "locale = \"en-US\"",
  "",
  "# Pattern used for the registration date of the user info region.",
  "date_format = \"MM/dd/yyyy\"",
  "",
  "# Render the Last.fm logo and a title above every region.",
  "show_title = true",
  ""]

/-! ## Reading -/

/-- The text under a key, or a default; none if the key holds something else. -/
def textAt (entries : Toml.Entries) (key : Text) (default : Text) : Option Text :=
  match entries.lookup key with
  | none => some default
  | some (.string t) => some t
  | some _ => none

/-- The text under a key, if the key is there; none at all if the key holds something else. -/
def textAt? (entries : Toml.Entries) (key : Text) : Option (Option Text) :=
  match entries.lookup key with
  | none => some none
  | some (.string t) => some (some t)
  | some _ => none

/-- The truth value under a key, or a default; none if the key holds something else. -/
def booleanAt (entries : Toml.Entries) (key : Text) (default : Bool) : Option Bool :=
  match entries.lookup key with
  | none => some default
  | some (.boolean b) => some b
  | some _ => none

/-- The settings in a table; none if a setting is of the wrong type. -/
def ofEntries? (entries : Toml.Entries) : Option Settings := do
  let default : Settings := {}
  return {
    user := ← textAt? entries "user"
    readme := ← textAt entries "readme" default.readme
    locale := ← textAt entries "locale" default.locale
    dateFormat := ← textAt entries "date_format" default.dateFormat
    showTitle := ← booleanAt entries "show_title" default.showTitle }

/-- The settings, if nothing in them is empty that must not be. -/
def validate (s : Settings) : Except Error Settings :=
  if s.readme.isEmpty then .error (.invalidSettings .emptyReadme)
  else if s.user.any Text.allBlank then .error (.invalidSettings .emptyUser)
  else if s.locale.allBlank then .error (.invalidSettings .emptyLocale)
  else .ok s

/-- Reads the text of a settings file. -/
def parse (content : Text) : Except Error Settings :=
  match (Toml.parse? content).bind ofEntries? with
  | none => .error .settingsSyntax
  | some s => s.validate

/-- The formats that the settings describe. -/
def formats (s : Settings) : Except Error Formats :=
  (Formats.ofLocale s.locale s.dateFormat).mapError (.invalidDatePattern s.dateFormat)

/-! ## Files -/

/-- The candidate that is a file below a root. -/
def candidate? (t : FileTree) (root : Text) : Option Text :=
  candidates.find? fun c => t.isFile (FileTree.join root c)

/-- The settings of the project at a root, if it has a settings file. -/
def load (t : FileTree) (root : Text) : Except Error (Option Settings) :=
  match candidate? t root with
  | none => .ok none
  | some c =>
    match t.readText (FileTree.join root c) with
    | .error fault => .error (.io fault)
    | .ok content => (parse content).map some

/-- The settings of the project at a root, or the default ones. -/
def loadOrDefault (t : FileTree) (root : Text) : Except Error Settings :=
  (load t root).map fun s => s.getD {}

end Settings

end ListeningCharts
