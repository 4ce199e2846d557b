import CiteSync.Yaml.Token
import CiteSync.Yaml.Value

/-!
# Faults in words
-/

namespace CiteSync.Yaml

def Fault.message : Fault → String
  | malformed => "malformed document"
  | badCodePoint => "chr() arg not in range(0x110000)"
  | badInt base text =>
    "invalid literal for int() with base " ++ toString base ++ ": " ++ Text.quoted text
  | overlongInt digits =>
    "Exceeds the limit (4300 digits) for integer string conversion: value has " ++
      toString digits ++ " digits; use sys.set_int_max_str_digits() to increase the limit"
  | badFloat text => "could not convert string to float: " ++ Text.quoted text
  | badBool text => Text.quoted text
  | badTimestamp => "not a timestamp"
  | emptyNumber => "string index out of range"
  | badYear year => "year " ++ toString year ++ " is out of range"
  | badMonth => "month must be in 1..12"
  | badDay => "day is out of range for month"
  | badHour => "hour must be in 0..23"
  | badMinute => "minute must be in 0..59"
  | badSecond => "second must be in 0..59"
  | badOffset seconds =>
    "offset must be a timedelta strictly between -timedelta(hours=24) and " ++
      "timedelta(hours=24), not " ++ spanText seconds ++ "."

/-- The label that a fault is reported under. -/
def Fault.label : Fault → String
  | badBool _ => "KeyError"
  | badTimestamp => "AttributeError"
  | emptyNumber => "IndexError"
  | _ => "ValueError"

end CiteSync.Yaml
