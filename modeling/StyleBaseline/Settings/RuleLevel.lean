/-
**Rule levels.** A rule is off, or reports warnings or errors. A level is written as a number, as a
word, or as a truth value.

* `RuleLevel.ofValue` — the level that a JSON value writes.
* `RuleLevel.severity` — the severity of what the rule reports.
-/
import StyleBaseline.Json.Value
import StyleBaseline.Report.Diagnostic

namespace StyleBaseline

open Json (Value)

/-- The level of a rule. -/
inductive RuleLevel where
  | off
  | warn
  | error
deriving DecidableEq, Repr

/-- A value that is no level, by what would be expected instead. -/
inductive RuleLevelFault where
  | number (value : Value)
  | word (value : Value)
  | other (value : Value)
deriving Repr

/-- The wording of a fault, with the value itself. -/
def RuleLevelFault.message : RuleLevelFault → String
  | number value =>
      "invalid rule level " ++ String.ofList value.text ++ ", expected 0, 1 or 2"
  | word value =>
      "invalid rule level " ++ String.ofList value.text
        ++ ", expected \"off\", \"warn\" or \"error\""
  | other value => "invalid rule level " ++ String.ofList value.text

namespace RuleLevel

/-- The level that a value writes. Only whole numbers count, not doubles of the same size. -/
def ofValue : Value → Except RuleLevelFault RuleLevel
  | .bool false => .ok .off
  | .bool true => .ok .warn
  | .number (.natural 0) => .ok .off
  | .number (.natural 1) => .ok .warn
  | .number (.natural 2) => .ok .error
  | .number value => .error (.number (.number value))
  | .string "off" => .ok .off
  | .string "warn" => .ok .warn
  | .string "warning" => .ok .warn
  | .string "error" => .ok .error
  | .string text => .error (.word (.string text))
  | value => .error (.other value)

/-- The severity of what a rule of a level reports; none if it is off. -/
def severity : RuleLevel → Option Severity
  | off => none
  | warn => some .warning
  | error => some .error

end RuleLevel

end StyleBaseline
