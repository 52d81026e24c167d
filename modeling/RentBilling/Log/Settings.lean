import RentBilling.Text.Blank
import RentBilling.Text.Lowercase
import RentBilling.Text.Quoted

/-!
Settings of the log: which events are written, and in which form.
-/

namespace RentBilling

structure LogSettings where
  /-- A filter, such as `info` or `rentivo_billing=debug`. -/
  level : String
  /-- Lines of JSON instead of plain text. -/
  json : Bool
  deriving DecidableEq, Repr

/-- A variable that should hold yes or no holds something else. -/
structure InvalidBool where
  name : String
  value : String
  deriving DecidableEq, Repr

def InvalidBool.message (e : InvalidBool) : String :=
  e.name ++ " must be a boolean (got " ++ Text.quoted e.value ++ ")"

namespace LogSettings

def default : LogSettings := ⟨"info", false⟩

def levelVariable : String := "RENTIVO_LOG_LEVEL"

def jsonVariable : String := "RENTIVO_LOG_JSON"

/-- The words for yes and no, in any case and with blanks around them; nothing means no. -/
def readBool? (value : String) : Option Bool :=
  let word := String.ofList ((Text.trimChars value.toList).map Char.toLower)
  if word ∈ ["1", "true", "yes", "on"] then some true
  else if word ∈ ["", "0", "false", "no", "off"] then some false
  else none

/-- The level that a variable holds, trimmed and in lower case; blank counts as not set. -/
def levelOr (value : Option String) : String :=
  match value with
  | some v => if Text.isBlankText v then default.level else Text.lowerCase (Text.trim v)
  | none => default.level

/-- The settings that variables of the environment hold. -/
def ofLookup (lookup : String → Option String) : Except InvalidBool LogSettings :=
  let level := levelOr (lookup levelVariable)
  match lookup jsonVariable with
  | none => .ok ⟨level, default.json⟩
  | some value =>
    match readBool? value with
    | some json => .ok ⟨level, json⟩
    | none => .error ⟨jsonVariable, value⟩

end LogSettings

end RentBilling
