import PathQuery.Format
import PathQuery.Json.Basic

/-! # Errors

Every cause of failure and its message.  A message consists of a heading and, for most
causes, the particulars after it. -/
namespace PathQuery

/-- What a query has to go on with at some place. -/
inductive Expected where
  | separator
  | fieldName
  | value
  | closingBracket
  | closingParen
  deriving DecidableEq, Repr

namespace Expected

/-- The words for what is expected. -/
def text : Expected → String
  | separator => "'.' or '['"
  | fieldName => "field name"
  | value => "value"
  | closingBracket => "']'"
  | closingParen => "')'"

end Expected

/-- A fault in the text of a query. -/
inductive QueryFault where
  | expected (what : Expected) (rest : List Char)
  | unterminated (rest : List Char)
  | wildcardAfterFind (query : List Char)
  | invalidIndex (digits : List Char)
  deriving DecidableEq, Repr

namespace QueryFault

/-- What is wrong with the query. -/
def text : QueryFault → String
  | expected what [] => "Expected " ++ what.text ++ " at end of query"
  | expected what rest => "Expected " ++ what.text ++ " at '" ++ String.ofList rest ++ "'"
  | unterminated rest => "Unterminated string in '" ++ String.ofList rest ++ "'"
  | wildcardAfterFind query => "Wildcard cannot follow '..' in '" ++ String.ofList query ++ "'"
  | invalidIndex digits => "Invalid index '" ++ String.ofList digits ++ "'"

end QueryFault

/-- A fault in the settings. -/
inductive SettingsFault where
  | homeless
  | undecodable
  | unknownOutputFormat (name : String)
  | unknownFormat (name : String)
  deriving DecidableEq, Repr

/-- The formats to choose from, after a name that is none. -/
def formatChoices : String := " (expected one of: " ++ Format.choices ++ ")"

namespace SettingsFault

/-- What is wrong with the settings. -/
def text : SettingsFault → String
  | homeless => "Could not determine home directory"
  | undecodable => "Failed to parse config:"
  | unknownOutputFormat name => "Unknown output_format '" ++ name ++ "'" ++ formatChoices
  | unknownFormat name => "Unknown format '" ++ name ++ "'" ++ formatChoices

end SettingsFault

/-- A cause of failure. -/
inductive Error where
  | unreadable
  | notJson
  | notToml
  | settings (f : SettingsFault)
  | query (f : QueryFault)
  | pattern
  | notScalar (entry : String) (kind : Kind)
  | indexOutOfRange (index length : Nat)
  deriving DecidableEq, Repr

namespace Error

/-- The message of an error. -/
def message : Error → String
  | unreadable => "IO error:"
  | notJson => "Ingest error:"
  | notToml => "TOML error:"
  | settings f => "Configuration error: " ++ f.text
  | query f => "Query parse error: " ++ f.text
  | pattern => "Invalid pattern:"
  | notScalar entry kind => "Entry " ++ entry ++ " holds " ++ kind.text ++ ", not a scalar"
  | indexOutOfRange index length =>
    "Index " ++ toString index ++ " out of range for collection of " ++ toString length

end Error

end PathQuery
