import ListeningCharts.Family
import ListeningCharts.Json.Reader

/-! # Configuration in a marker

The JSON object that a start marker may carry, read into a configuration and written from one. Every
key may be missing, unknown keys are ignored, and a key that is there must hold a value of the right
type.
-/

namespace ListeningCharts

/-- Why a start marker has no valid configuration. -/
inductive ConfigFault where
  /-- The line starts like a start marker of the family and does not go on like one. -/
  | form (family : Family)
  | json (fault : Json.Fault)
  | rowsOutOfRange (rows : Int)
  deriving DecidableEq, Repr

/-- The message for a fault. -/
def ConfigFault.message : ConfigFault → Text
  | .form family =>
    "start marker does not match `" ++ family.startPrefix ++ "[:\x7b...\x7d]-->`"
  | .json fault => fault.message
  | .rowsOutOfRange rows =>
    "`rows` must be between " ++ Text.ofNat RegionConfig.minRows ++ " and "
      ++ Text.ofNat RegionConfig.maxRows ++ ", got " ++ Text.ofInt rows

namespace RegionConfig

open Json

/-- The fields of a configuration, with what stands in for a missing key. -/
def fields :=
  Fields.cons "rows" (.default 8) Reader.int64 <|
  Fields.cons "period" (.default Period.week)
    (Reader.choice (Period.all.map fun p => (p.name, p))) <|
  Fields.cons "display" (.default DisplayField.all)
    (Reader.list (Reader.choice (DisplayField.all.map fun f => (f.name, f)))) <|
  Fields.nil

/-- The configuration of a marker with the given blob; without a blob, every key is missing. -/
def ofBlob (blob : Option Text) : Except ConfigFault RegionConfig :=
  match blob with
  | none => .ok {}
  | some blob =>
    match decode (Reader.record "RawRegionConfig" fields) blob with
    | .error fault => .error (.json fault)
    | .ok (rows, period, display, ()) =>
      if minRows ≤ rows ∧ rows ≤ maxRows then .ok { rows := rows.toNat, period, display }
      else .error (.rowsOutOfRange rows)

/-- A configuration as a JSON object. -/
def toBlob (c : RegionConfig) : Text :=
  let quote (t : Text) : Text := "\"" ++ t ++ "\""
  "\x7b\"rows\":" ++ Text.ofNat c.rows ++ ",\"period\":" ++ quote c.period.name
    ++ ",\"display\":[" ++ [','].intercalate (c.display.map fun f => quote f.name) ++ "]\x7d"

/-- Every configuration of a marker asks for a number of rows within the bounds. -/
theorem rows_of_ofBlob {blob : Option Text} {c : RegionConfig} (h : ofBlob blob = .ok c) :
    minRows ≤ c.rows ∧ c.rows ≤ maxRows := by
  unfold ofBlob at h
  split at h
  · cases h; decide
  · split at h
    · cases h
    · split at h
      · next hr => cases h; simp only [minRows, maxRows] at *; omega
      · cases h

end RegionConfig

end ListeningCharts
