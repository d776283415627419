import IndexSync.Config.Violation
import IndexSync.Errno
import IndexSync.Json.Error
import IndexSync.Literal.Fault

/-!
# Failures

All the ways in which an operation of the program can fail, and their wording.
-/

namespace IndexSync

/-- Why a manifest pattern cannot be used. -/
inductive PatternFault where
  /-- The pattern is empty. -/
  | empty
  /-- The pattern is absolute. -/
  | absolute
  /-- The recursive wildcard stands beside other characters of a segment. -/
  | partialRecursion
  /-- The pattern has no segment. -/
  | noSegment
  /-- The pattern has no segment but demands a directory. -/
  | bareDirectory
  deriving DecidableEq, Repr

/-- The wording of a pattern fault. -/
def PatternFault.message : PatternFault → String
  | .empty => "Unacceptable pattern: ''"
  | .absolute => "Non-relative patterns are unsupported"
  | .partialRecursion => "Invalid pattern: '**' can only be an entire path component"
  | .noSegment => "tuple index out of range"
  | .bareDirectory => "'_TerminatingSelector' object has no attribute 'select_from'"

/-- Why a configuration file cannot be loaded. -/
inductive LoadFault where
  /-- The file cannot be read. -/
  | unreadable (errno : Errno) (file : String)
  /-- The file is no UTF-8. -/
  | undecodable (error : Text.Utf8.Error)
  /-- The text of the file is no document. -/
  | malformed (text : String) (error : Json.Error)
  /-- The document is no mapping. -/
  | notMapping (typeName : String)
  /-- The home directory is unknown. -/
  | homeUnknown
  /-- The data breaks the rules of a configuration. -/
  | invalid (violations : List Config.Violation)

/-- The wording of an unknown home directory. -/
def homeUnknownMessage : String := "Could not determine home directory."

/-- The wording of a load fault. -/
def LoadFault.message : LoadFault → String
  | .unreadable errno file => errno.message (some file)
  | .undecodable error => error.message
  | .malformed text error => error.message text
  | .notMapping typeName =>
    "index_bootstrap.config.Config() argument after ** must be a mapping, not " ++ typeName
  | .homeUnknown => homeUnknownMessage
  | .invalid violations => Config.report violations

/-- Why marked-up text cannot be shown. -/
inductive MarkupFault where
  /-- A closing tag names a style that is not open. -/
  | unmatched (tag : String) (index : Nat)
  /-- A closing tag without a name has nothing to close. -/
  | nothingOpen (index : Nat)
  /-- The parameters of a handler are not written as a literal. -/
  | handler (literal parameters : String) (fault : Literal.Fault)
  /-- A part of a colour is missing. -/
  | colourPart
  deriving DecidableEq, Repr

/-- The wording of a markup fault. -/
def MarkupFault.message : MarkupFault → String
  | .unmatched tag index =>
    "closing tag '" ++ tag ++ "' at position " ++ toString index ++ " doesn't match any open tag"
  | .nothingOpen index =>
    "closing tag '[/]' at position " ++ toString index ++ " has nothing to close"
  | .handler _ parameters .notLiteral =>
    "error parsing " ++ Text.quote parameters ++ "; " ++ Literal.Fault.notLiteral.message
  | .handler literal parameters fault =>
    "error parsing " ++ Text.quote literal ++ " in " ++ Text.quote parameters ++ "; "
      ++ fault.message
  | .colourPart => "invalid literal for int() with base 10: ''"

/-- Why an operation failed. -/
inductive Failure where
  /-- A system call failed. -/
  | system (errno : Errno) (file : Option String)
  /-- The service, its channel or a collaborator of the host failed with a text. -/
  | raised (text : String)
  /-- A path holds a null character. -/
  | nullByte
  /-- A path holds halves of surrogate pairs: the given ones from the given index on. -/
  | unencodable (index : Nat) (codes : Text.CodePoints)
  /-- Calls were nested too deeply. -/
  | exhausted
  /-- The links on the way to a path lead in a circle. -/
  | linkLoop (path : String)
  /-- The home directory is unknown. -/
  | homeUnknown
  /-- A manifest pattern cannot be used. -/
  | pattern (fault : PatternFault)
  /-- A retry budget is negative. -/
  | negativeRetries
  /-- A retry interval is not positive. -/
  | nonPositiveInterval
  /-- A delay is too long to be expressed in seconds. -/
  | delayTooLong
  /-- An action lacks a setting. -/
  | missingOption (name : String)
  /-- No decision has this name. -/
  | unknownDecision (text : String)
  /-- The data breaks the rules of a configuration. -/
  | invalidConfig (violations : List Config.Violation)
  /-- A configuration file cannot be loaded. -/
  | loadFailed (file : String) (fault : LoadFault)
  /-- There is no configuration to save. -/
  | nothingToSave
  /-- Marked-up text cannot be shown. -/
  | markup (fault : MarkupFault)

/-- The wording of a failure. -/
def Failure.message : Failure → String
  | .system errno file => errno.message file
  | .raised text => text
  | .nullByte => "embedded null byte"
  | .unencodable index codes => Text.CodePoints.refusal index codes
  | .exhausted => "maximum recursion depth exceeded"
  | .linkLoop path => "Symlink loop from " ++ Text.quote path
  | .homeUnknown => homeUnknownMessage
  | .pattern fault => fault.message
  | .negativeRetries => "retries_remaining must be non-negative"
  | .nonPositiveInterval => "interval_ms must be positive"
  | .delayTooLong => "int too large to convert to float"
  | .missingOption name => Text.quote name
  | .unknownDecision text => Text.quote text ++ " is not a valid Decision"
  | .invalidConfig violations => Config.report violations
  | .loadFailed file fault => "Failed to load config from " ++ file ++ ": " ++ fault.message
  | .nothingToSave => "No configuration to save"
  | .markup fault => fault.message

end IndexSync
