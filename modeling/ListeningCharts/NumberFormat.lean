import ListeningCharts.Text.Basic

/-! # Number format

Whole numbers with the digit grouping of a locale. Locales differ in the separator, in the size of
the groups above the thousands, and in how many digits must stand in front of the thousands before
any group is cut off.

Main statement: the groups are the digits, in order (`flatten_digitGroups`).
-/

namespace ListeningCharts

/-- How a locale groups digits. -/
structure NumberFormat where
  separator : Text
  /-- The least number of digits in front of the last three for which groups are cut. -/
  leading : Nat := 1
  /-- The size of every group but the first and the last. -/
  secondary : Nat := 3
  deriving DecidableEq, Repr

namespace NumberFormat

def noBreakSpace : Text := "\u00a0"
def narrowNoBreakSpace : Text := "\u202f"
def apostrophe : Text := "\u2019"

/-- The grouping of a language, written in lower case, and a region, in upper case. Any other
language groups by commas. -/
def ofSubtags (language : String) (region : Option String) : NumberFormat :=
  match language, region with
  | "de", some "CH" | "de", some "LI" | "it", some "CH" | "it", some "LI" =>
    { separator := apostrophe }
  | "de", some "AT" => { separator := noBreakSpace }
  | "en", some "IN" | "hi", some "IN" => { separator := ",", secondary := 2 }
  | "pt", some "PT" => { separator := noBreakSpace, leading := 2 }
  | "es", _ => { separator := ".", leading := 2 }
  | "pl", _ => { separator := noBreakSpace, leading := 2 }
  | "de", _ | "it", _ | "pt", _ | "nl", _ | "da", _ | "tr", _ | "id", _ | "el", _ | "ro", _
  | "hr", _ | "sl", _ | "sr", _ | "vi", _ => { separator := "." }
  | "fr", _ => { separator := narrowNoBreakSpace }
  | "ru", _ | "uk", _ | "cs", _ | "sk", _ | "sv", _ | "fi", _ | "nb", _ | "no", _ | "hu", _
  | "bg", _ | "lt", _ | "lv", _ | "et", _ => { separator := noBreakSpace }
  | _, _ => { separator := "," }

/-- Whether a subtag names a region: two bytes, or digits only. -/
def isRegion (subtag : Text) : Bool := subtag.byteLength == 2 || subtag.all Char.isDigit

/-- The grouping of a locale tag such as `en-US` or `de_DE`: the first subtag is the language, the
first later one that looks like a region is the region. -/
def ofLocale (tag : Text) : NumberFormat :=
  let subtags := (tag.splitOnP fun c => c == '-' || c == '_').filter fun s => !s.isEmpty
  let language := Text.toAsciiLower (subtags.headD [])
  let region := (subtags.tail.find? isRegion).map Text.toAsciiUpper
  ofSubtags (String.ofList language) (region.map String.ofList)

/-- Whether a group ends where `n` digits follow. -/
def endsGroup (secondary n : Nat) : Bool := 3 ≤ n && (n - 3) % secondary == 0

/-- The digits cut into groups: three at the end, `secondary` in every other group but the first. -/
def digitGroups (secondary : Nat) : Text → List Text
  | [] => []
  | c :: rest =>
    match digitGroups secondary rest with
    | [] => [[c]]
    | g :: gs => if endsGroup secondary rest.length then [c] :: g :: gs else (c :: g) :: gs

theorem flatten_digitGroups (secondary : Nat) (digits : Text) :
    (digitGroups secondary digits).flatten = digits := by
  induction digits with
  | nil => rfl
  | cons c rest ih =>
    rw [digitGroups]
    split
    · next h => simp_all
    · next g gs h => split <;> simp_all

/-- The number in this format. -/
def format (f : NumberFormat) (n : Nat) : Text :=
  let digits := Text.ofNat n
  if digits.length < 3 + f.leading then digits
  else f.separator.intercalate (digitGroups f.secondary digits)

end NumberFormat

end ListeningCharts
