import ListeningCharts.Json.Tree
import ListeningCharts.Binary64.Shortest
import ListeningCharts.Text.Integer
import ListeningCharts.Text.Quoted

/-! # JSON faults

Why a JSON text does not hold what was wanted, and the message for it. A break in a tree has one
meaning for a value that is wanted and sometimes another for a value that is skipped.
-/

namespace ListeningCharts.Json

/-! ## Numbers -/

/-- The value of a number: whole, or in floating point. -/
inductive Number where
  | integer (n : Int)
  | float (negative : Bool) (magnitude : Binary64)
  deriving DecidableEq, Repr

/-- The digits appended to a significand as long as it stays within 64 bits, with the number of
digits that no longer fit. -/
def appendDigits : Nat → Text → Nat × Nat
  | s, [] => (s, 0)
  | s, c :: rest =>
    let next := s * 10 + (c.toNat - '0'.toNat)
    if next ≤ 18446744073709551615 then appendDigits next rest else (s, rest.length + 1)

/-- The value of a number in floating point; none if it is out of range. Digits beyond 64 bits only
count as places, and an exponent beyond 31 bits is out of range unless it makes the value zero. -/
def Numeral.float? (n : Numeral) : Option Binary64 :=
  let (whole, dropped) := appendDigits 0 n.whole
  let fraction := n.fraction.getD []
  let (significand, lost) := appendDigits whole fraction
  let places : Int := dropped - (fraction.length - lost : Nat)
  match n.exponent with
  | none => Binary64.ofDecimal significand places
  | some (negative, digits) =>
    let e := Nat.ofDigitChars 10 digits 0
    if e ≤ 2147483647 then
      Binary64.ofDecimal significand (if negative then places - e else places + e)
    else if negative || significand == 0 then some Binary64.zero
    else none

/-- The value of a number; none if it is out of range. A whole number between the least signed and
the greatest unsigned one of 64 bits is an integer, every other number and `-0` a float. -/
def Numeral.value? (n : Numeral) : Option Number :=
  let integer? : Option Int :=
    if n.fraction.isNone && n.exponent.isNone then
      let m := Nat.ofDigitChars 10 n.whole 0
      if n.negative then
        if m = 0 then none else IntRange.signed64.check? (- Int.ofNat m)
      else IntRange.unsigned64.check? (Int.ofNat m)
    else none
  match integer? with
  | some i => some (.integer i)
  | none => n.float?.map (.float n.negative)

/-! ## Causes -/

/-- What was wanted in a place. -/
inductive Wanted where
  | integer
  | string
  | sequence
  | unit
  | record (name : Text)
  deriving DecidableEq, Repr

/-- What was found instead. -/
inductive Found where
  | null
  | boolean (b : Bool)
  | number (n : Number)
  | string (t : Text)
  | sequence
  | map
  deriving DecidableEq, Repr

/-- Why a text does not hold what was wanted. -/
inductive Fault where
  | endInValue
  | endInList
  | endInObject
  | endInString
  | noValue
  | misspeltName
  | noColon
  | noListSeparator
  | noObjectSeparator
  | trailingComma
  | keyNotString
  | trailingCharacters
  | badNumber
  | numberOutOfRange
  | badEscape
  | controlCharacter
  | loneSurrogate
  | halfSurrogatePair
  | tooDeep
  | wrongType (found : Found) (wanted : Wanted)
  | wrongValue (n : Int) (wanted : Wanted)
  | wrongLength (length : Nat) (record : Text) (fields : Nat)
  | duplicateField (key : Text)
  | missingField (key : Text)
  | unknownVariant (name : Text) (variants : List Text)
  | noAlternative (name : Text)
  | notNumber (t : Text)
  deriving DecidableEq, Repr

/-! ## Messages -/

/-- The value in a message. -/
def Number.message : Number → Text
  | .integer n => "integer `" ++ Text.ofInt n ++ "`"
  | .float negative x =>
    "floating point `" ++ (if negative then ['-'] else []) ++ x.format ++ "`"

/-- What was wanted, in words. -/
def Wanted.message : Wanted → Text
  | .integer => "i64"
  | .string => "a string"
  | .sequence => "a sequence"
  | .unit => "unit"
  | .record name => "struct " ++ name

/-- What was found, in words. -/
def Found.message : Found → Text
  | .null => "null"
  | .boolean true => "boolean `true`"
  | .boolean false => "boolean `false`"
  | .number n => n.message
  | .string t => "string " ++ t.quoted
  | .sequence => "sequence"
  | .map => "map"

/-- A text between backticks. -/
def ticked (t : Text) : Text := "`" ++ t ++ "`"

/-- The message for a fault. -/
def Fault.message : Fault → Text
  | .endInValue => "EOF while parsing a value"
  | .endInList => "EOF while parsing a list"
  | .endInObject => "EOF while parsing an object"
  | .endInString => "EOF while parsing a string"
  | .noValue => "expected value"
  | .misspeltName => "expected ident"
  | .noColon => "expected `:`"
  | .noListSeparator => "expected `,` or `]`"
  | .noObjectSeparator => "expected `,` or `\x7d`"
  | .trailingComma => "trailing comma"
  | .keyNotString => "key must be a string"
  | .trailingCharacters => "trailing characters"
  | .badNumber => "invalid number"
  | .numberOutOfRange => "number out of range"
  | .badEscape => "invalid escape"
  | .controlCharacter => "control character (\\u0000-\\u001F) found while parsing a string"
  | .loneSurrogate => "lone leading surrogate in hex escape"
  | .halfSurrogatePair => "unexpected end of hex escape"
  | .tooDeep => "recursion limit exceeded"
  | .wrongType found wanted => "invalid type: " ++ found.message ++ ", expected " ++ wanted.message
  | .wrongValue n wanted =>
    "invalid value: " ++ (Number.integer n).message ++ ", expected " ++ wanted.message
  | .wrongLength length record fields =>
    "invalid length " ++ Text.ofNat length ++ ", expected struct " ++ record ++ " with "
      ++ Text.ofNat fields ++ (if fields = 1 then " element".toList else " elements".toList)
  | .duplicateField key => "duplicate field " ++ ticked key
  | .missingField key => "missing field " ++ ticked key
  | .unknownVariant name variants =>
    "unknown variant " ++ ticked name ++ ", expected one of "
      ++ (", " : Text).intercalate (variants.map ticked)
  | .noAlternative name => "data did not match any variant of untagged enum " ++ name
  | .notNumber t => ticked t ++ " is not a number"

/-! ## Breaks -/

/-- The fault of a missing value where a value is wanted. -/
def ValueFault.wanted : ValueFault → Fault
  | .endOfInput => .endInValue
  | .noValue => .noValue
  | .misspelt => .misspeltName
  | .nameCut => .endInValue
  | .numberCut => .endInValue
  | .badNumber => .badNumber
  | .noColon => .noColon
  | .endBeforeColon => .endInObject

/-- The fault of a missing value where only a string or an object is looked at. -/
def ValueFault.wantedChoice : ValueFault → Fault
  | .misspelt | .nameCut | .numberCut | .badNumber => .noValue
  | fault => fault.wanted

/-- The fault of a missing value where any value would be skipped. -/
def ValueFault.skipped : ValueFault → Fault
  | .numberCut => .badNumber
  | fault => fault.wanted

/-- The fault of a list where one more element is wanted than it has; none if it is closed there.
The fault of a list that breaks off inside an element is that of the element. -/
def ListEnd.wanted : ListEnd → Option Fault
  | .closed => none
  | .endOfInput => some .endInList
  | .trailingComma => some .trailingComma
  | .noSeparator => some .noListSeparator
  | .broken => some .endInValue

/-- The fault of the end of a list that is skipped. -/
def ListEnd.skipped : ListEnd → Option Fault
  | .trailingComma => some .noValue
  | ending => ending.wanted

/-- The fault of a list where its end is wanted after its last element. -/
def ListEnd.closing : ListEnd → Option Fault
  | .noSeparator => some .trailingCharacters
  | ending => ending.wanted

/-- The fault of an object where one more member is wanted than it has. -/
def ObjectEnd.wanted : ObjectEnd → Option Fault
  | .closed => none
  | .endOfInput => some .endInObject
  | .trailingComma => some .trailingComma
  | .endAfterComma => some .endInValue
  | .noSeparator => some .noObjectSeparator
  | .noKey => some .keyNotString
  | .broken => some .endInValue

/-- The fault of the end of an object that is skipped. -/
def ObjectEnd.skipped : ObjectEnd → Option Fault
  | .trailingComma => some .keyNotString
  | .endAfterComma => some .endInObject
  | ending => ending.wanted

/-- The fault of the end of a string. -/
def StringEnd.fault? : StringEnd → Option Fault
  | .closed => none
  | .endOfInput => some .endInString
  | .unknownEscape => some .badEscape
  | .badHex => some .badEscape
  | .control => some .controlCharacter

/-! ## Text of a string -/

def isLeadingSurrogate (n : Nat) : Bool := 0xd800 ≤ n && n ≤ 0xdbff

def isTrailingSurrogate (n : Nat) : Bool := 0xdc00 ≤ n && n ≤ 0xdfff

/-- The characters of the pieces of a string. A leading surrogate must be followed by a trailing one
and a trailing one must follow a leading one. -/
def readPieces (ending : StringEnd) : List StringPiece → Except Fault Text
  | [] => match ending.fault? with
    | none => .ok []
    | some fault => .error fault
  | .char c :: rest => (readPieces ending rest).map (c :: ·)
  | .codeUnit n :: rest =>
    if isTrailingSurrogate n then .error .loneSurrogate
    else if isLeadingSurrogate n then
      match rest with
      | .codeUnit m :: rest =>
        if isTrailingSurrogate m then
          let c := Char.ofNat ((n - 0xd800) * 0x400 + (m - 0xdc00) + 0x10000)
          (readPieces ending rest).map (c :: ·)
        else .error .loneSurrogate
      | .char _ :: _ => .error .halfSurrogatePair
      | [] => match ending with
        | .endOfInput => .error .endInString
        | .badHex => .error .badEscape
        | _ => .error .halfSurrogatePair
    else (readPieces ending rest).map (Char.ofNat n :: ·)

/-- The text of a string. -/
def StringToken.text (s : StringToken) : Except Fault Text := readPieces s.ending s.pieces

end ListeningCharts.Json
