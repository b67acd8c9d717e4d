/-
**Diagnostics.** What is reported about a place in a stylesheet. The code of a diagnostic tells
which check it comes from: the rule on support, which has a description, or the one on unmatched
braces.
-/
import StyleBaseline.Stylesheet.Token

namespace StyleBaseline

/-- How grave a diagnostic is. -/
inductive Severity where
  | warning
  | error
deriving DecidableEq, Repr

/-- The word for a severity. -/
def Severity.text : Severity → String
  | warning => "Warning"
  | error => "Error"

/-- The check that a diagnostic comes from. -/
inductive DiagnosticCode where
  /-- A property with low support or none. -/
  | baselineCheck
  /-- A brace without a partner. -/
  | parseError
deriving DecidableEq, Repr

/-- The description of a rule. -/
structure RuleInfo where
  id : String
  name : String
  description : String
  url : String
  browsers : String
deriving DecidableEq, Repr

/-- The rule on the support of properties. -/
def baselineRule : RuleInfo where
  id := "baseline-check"
  name := "Baseline feature check"
  description := "Check CSS properties against web-features baseline status."
  url := "https://github.com/CSSLint/csslint/wiki/Baseline-feature-check"
  browsers := "All"

namespace DiagnosticCode

/-- The severity of diagnostics with a code, if nothing else is asked for. -/
def defaultSeverity : DiagnosticCode → Severity
  | baselineCheck => .warning
  | parseError => .error

/-- The written form of a code. -/
def text : DiagnosticCode → String
  | baselineCheck => baselineRule.id
  | parseError => "parse-error"

/-- The rule that a code stands for. -/
def rule? : DiagnosticCode → Option RuleInfo
  | baselineCheck => some baselineRule
  | parseError => none

end DiagnosticCode

/-- A diagnostic. Line and column are those of the start of its span. -/
structure Diagnostic where
  code : DiagnosticCode
  severity : Severity
  message : String
  span : Span
  line : Nat
  column : Nat
deriving DecidableEq, Repr

end StyleBaseline
