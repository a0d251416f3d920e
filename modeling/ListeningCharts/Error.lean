import ListeningCharts.Date.Pattern
import ListeningCharts.Http.Status
import ListeningCharts.RegionConfig.Blob

/-! # Errors

Every way in which an update can fail, as a cause; its message, its code, and the advice that goes
with it.
-/

namespace ListeningCharts

/-! ## Causes -/

/-- Why a file cannot be read or written. -/
inductive IoFault where
  | notFound
  | notDirectory
  | isDirectory
  | invalidUtf8
  /-- Anything else, in the words of the system. -/
  | other (text : Text)
  deriving DecidableEq, Repr

/-- Why there are no records. -/
inductive SourceFault where
  /-- The address is none that a request can be sent to; with the whole address if it is one of
  another scheme. -/
  | badAddress (url : Option Text)
  /-- The connection broke off before a reply. -/
  | noReply (url : Text)
  /-- The reply from the address sends the client on, as too many have before. -/
  | tooManyRedirects (url : Text)
  /-- The body of the reply broke off. -/
  | cutBody
  /-- The service answered with an error of its own. -/
  | refused (method : Text) (code : Int) (message : Text)
  | badStatus (method : Text) (status : Nat)
  | malformed (method : Text) (fault : Json.Fault)
  | unavailable (reason : Text)
  deriving DecidableEq, Repr

/-- Why a document cannot be read or written. -/
inductive StoreFault where
  | unreadable (path : Text) (cause : IoFault)
  | unwritable (path : Text) (cause : IoFault)
  /-- The new text was written, but it cannot take the place of the old one. -/
  | unreplaced (path : Text) (cause : IoFault)
  deriving DecidableEq, Repr

/-- Why settings are not enough for a run. -/
inductive SettingsFault where
  | emptyReadme
  | emptyUser
  | emptyLocale
  | noUser
  | noApiKey
  deriving DecidableEq, Repr

/-- Why a run fails. -/
inductive Error where
  | io (cause : IoFault)
  | malformedConfiguration (marker : Text) (reason : ConfigFault)
  | endWithoutStart (marker : Text)
  | startWithoutEnd (markers : List Text)
  | dataSource (cause : SourceFault)
  | store (cause : StoreFault)
  | storeConflict (locator : Text)
  | settingsSyntax
  | invalidSettings (cause : SettingsFault)
  | invalidDatePattern (pattern : Text) (reason : DatePatternFault)
  deriving DecidableEq, Repr

/-! ## Messages -/

/-- The message for a fault. -/
def IoFault.message : IoFault → Text
  | notFound => "No such file or directory (os error 2)"
  | notDirectory => "Not a directory (os error 20)"
  | isDirectory => "Is a directory (os error 21)"
  | invalidUtf8 => "stream did not contain valid UTF-8"
  | other text => text

/-- An address at the end of a message. -/
def forUrl (url : Text) : Text := " for url (" ++ url ++ ")"

/-- The message for a fault. -/
def SourceFault.message : SourceFault → Text
  | badAddress none => "builder error"
  | badAddress (some url) => "builder error" ++ forUrl url
  | noReply url => "error sending request" ++ forUrl url
  | tooManyRedirects url => "error following redirect" ++ forUrl url
  | cutBody => "error decoding response body"
  | refused method code message =>
    method ++ " failed with error " ++ Text.ofInt code ++ ": " ++ message
  | badStatus method status => method ++ " failed with status " ++ Http.statusLine status
  | malformed method fault => "unexpected " ++ method ++ " response: " ++ fault.message
  | unavailable reason => reason

/-- The message for a fault. -/
def StoreFault.message : StoreFault → Text
  | unreadable path cause => "failed to read " ++ path ++ ": " ++ cause.message
  | unwritable path cause => "failed to write " ++ path ++ ": " ++ cause.message
  | unreplaced path cause => "failed to replace " ++ path ++ ": " ++ cause.message

/-- The message for a fault. -/
def SettingsFault.message : SettingsFault → Text
  | emptyReadme => "`readme` must not be empty"
  | emptyUser => "`user` must not be empty"
  | emptyLocale => "`locale` must not be empty"
  | noUser =>
    "no Last.fm user configured, set `user` in lastmark.toml, pass `--user` or set `LASTFM_USER`"
  | noApiKey => "no Last.fm API key, pass `--api-key` or set `LASTFM_API_KEY`"

/-- The message for a fault. -/
def DatePatternFault.message : DatePatternFault → Text
  | unterminatedQuote => "unterminated quoted text"
  | unsupported letter length => "unsupported token `" ++ List.replicate length letter ++ "`"

namespace Error

/-- The message for an error. -/
def message : Error → Text
  | io cause => cause.message
  | malformedConfiguration marker reason =>
    "malformed configuration in `" ++ marker ++ "`: " ++ reason.message
  | endWithoutStart marker =>
    "end tag found without a corresponding start tag: `" ++ marker ++ "`"
  | startWithoutEnd markers =>
    "start tag found without a corresponding end tag: `" ++ ("`, `" : Text).intercalate markers
      ++ "`"
  | dataSource cause => "failed to fetch listening data: " ++ cause.message
  | store cause => "document store failure: " ++ cause.message
  | storeConflict locator => "document `" ++ locator ++ "` changed since it was read"
  | settingsSyntax => "failed to parse settings file"
  | invalidSettings cause => "invalid settings: " ++ cause.message
  | invalidDatePattern pattern reason =>
    "invalid date pattern `" ++ pattern ++ "`: " ++ reason.message

/-- The code that names the kind of an error. -/
def code : Error → Text
  | io _ => "lastmark::io_error"
  | malformedConfiguration _ _ => "lastmark::malformed_configuration"
  | endWithoutStart _ => "lastmark::end_without_start"
  | startWithoutEnd _ => "lastmark::start_without_end"
  | dataSource _ => "lastmark::data_source"
  | store _ => "lastmark::store"
  | storeConflict _ => "lastmark::store_conflict"
  | settingsSyntax => "lastmark::config_parse"
  | invalidSettings _ => "lastmark::invalid_settings"
  | invalidDatePattern _ _ => "lastmark::invalid_date_pattern"

/-- What to do about an error. -/
def help? : Error → Option Text
  | malformedConfiguration _ _ => some
    ("the configuration must be a single-line JSON object, e.g. "
      ++ "`<!--START_LASTFM_TRACKS:\x7b\"rows\": 5, \"period\": \"1month\"\x7d-->`")
  | endWithoutStart _ => some
    "add the matching `<!--START_...-->` line above this end tag or remove it"
  | startWithoutEnd _ => some
    "add the matching `<!--END_...-->` line below each unclosed start tag"
  | storeConflict _ => some
    "another writer updated the document; run `lastmark update` again"
  | settingsSyntax => some
    ("check that lastmark.toml is valid TOML with `user`, `readme`, `locale`, `date_format` "
      ++ "and `show_title` keys")
  | invalidDatePattern _ _ => some
    ("supported tokens: yyyy, yy, MMMM, MMM, MM, M, dd, d, HH, H, mm, ss "
      ++ "and 'quoted text'")
  | _ => none

end Error

end ListeningCharts
