import SqlBridge.Diagnostic.Code

/-!
# Error reports and diagnostics

An error report states what failed, about what, and in which context. A diagnostic is its form for a
reader, plain or with terminal colours.
-/

namespace SqlBridge

/-- A report of one error. -/
structure ErrorReport where
  kind : ErrorClass
  code : ErrorCode
  message : String
  /-- The store type or operation that the error is about. -/
  about : Option String := none
  /-- Advice for this very error. -/
  context : Option String := none
deriving DecidableEq, Repr

/-- One error report, or several collected errors. -/
inductive ErrorReports where
  | one (report : ErrorReport)
  | many (reports : List ErrorReports)

/-- How much a diagnostic matters. -/
inductive Severity where
  | error
  | warning
deriving DecidableEq, Repr

/-- A message for a reader. -/
structure Diagnostic where
  severity : Severity
  code : ErrorCode
  message : String
  subject : Option String := none
  help : Option String := none
deriving DecidableEq, Repr

namespace Severity

/-- The severity as a word of a message. -/
def text : Severity → String
  | .error => "error"
  | .warning => "warning"

/-- The name of the severity. -/
def name : Severity → String
  | .error => "Error"
  | .warning => "Warning"

end Severity

namespace ErrorReport

/-- What the error is about; a configuration error is about the configuration as a whole. -/
def subject (r : ErrorReport) : Option String :=
  if r.kind = .configuration then none else r.about

/-- The code and the message. -/
def text (r : ErrorReport) : String :=
  r.code.text ++ ": " ++ r.message

/-- The diagnostic of a report. -/
def diagnostic (r : ErrorReport) : Diagnostic where
  severity := .error
  code := r.code
  message := r.message
  subject := r.subject
  help := r.context

end ErrorReport

namespace ErrorReports

/-- The report and the count of several ones. -/
def text : ErrorReports → String
  | .one r => r.text
  | .many rs => "Multiple errors: " ++ toString rs.length

/-- The first report of all. -/
def first? : ErrorReports → Option ErrorReport
  | .one r => some r
  | .many [] => none
  | .many (r :: _) => first? r

/-- The code of the first report, zero without one. -/
def code (rs : ErrorReports) : ErrorCode :=
  (rs.first?.map (·.code)).getD ⟨0⟩

/-- The class of a single report, or the word for several. -/
def kindName : ErrorReports → String
  | .one r => r.kind.name
  | .many _ => "Multiple"

/-- What a single report is about. -/
def subject : ErrorReports → Option String
  | .one r => r.subject
  | .many _ => none

/-- The diagnostic of the first report. -/
def diagnostic (rs : ErrorReports) : Diagnostic :=
  match rs.first? with
  | some r => r.diagnostic
  | none => { severity := .error, code := ⟨0⟩, message := "Unknown error" }

end ErrorReports

namespace Diagnostic

/-- The severity, the code, the message, and the subject in parentheses. -/
def text (d : Diagnostic) : String :=
  d.severity.text ++ ": " ++ d.code.text ++ " - " ++ d.message
    ++ (match d.subject with
      | some s => " (" ++ s ++ ")"
      | none => "")

end Diagnostic

/-- Whether terminal colours are written. -/
inductive Palette where
  | plain
  | coloured
deriving DecidableEq, Repr

/-- A text between the terminal sequence with the given parameters and the one that resets it. -/
def Palette.paint (p : Palette) (parameters text : String) : String :=
  match p with
  | .plain => text
  | .coloured => "\x1b[" ++ parameters ++ "m" ++ text ++ "\x1b[0m"

namespace Palette

/-- Bold red. -/
def alarm (p : Palette) (text : String) : String := p.paint "1;31" text

/-- Bold yellow. -/
def caution (p : Palette) (text : String) : String := p.paint "1;33" text

/-- Blue. -/
def note (p : Palette) (text : String) : String := p.paint "34" text

/-- Green. -/
def advice (p : Palette) (text : String) : String := p.paint "32" text

end Palette

/-- The diagnostic over several lines: severity, code and message, then the subject, then the help of
the diagnostic or else of its code. -/
def Diagnostic.lines (d : Diagnostic) (p : Palette) : String :=
  let severity := match d.severity with
    | .error => p.alarm d.severity.text
    | .warning => p.caution d.severity.text
  severity ++ "[" ++ d.code.text ++ "]: " ++ d.message
    ++ (match d.subject with
      | some s => "\n  " ++ p.note "-->" ++ " " ++ s
      | none => "")
    ++ (match d.help <|> d.code.help? with
      | some h => "\n  " ++ p.advice "help:" ++ " " ++ h
      | none => "")

end SqlBridge
