import PathQuery.Host.Basic
import PathQuery.Host.Path
import PathQuery.Json.Document
import PathQuery.Json.Reader
import PathQuery.Toml.Reader

/-! # Decoding documents

From text or bytes to documents.  Bytes have to be UTF-8. -/
namespace PathQuery

/-- How a document is written. -/
inductive Encoding where
  | json
  | toml
  deriving DecidableEq, Repr

namespace Document

/-- The document of a JSON text. -/
def ofJsonText (s : String) : Except Error Document :=
  match Json.read? s with
  | some v => .ok (.ofJson v)
  | none => .error .notJson

/-- The document of a TOML text. -/
def ofTomlText (s : String) : Except Error Document :=
  match (Toml.read? s).bind Toml.resolved? with
  | some t => .ok (.ofJson t.json)
  | none => .error .notToml

/-- The document of a text. -/
def ofText (e : Encoding) (s : String) : Except Error Document :=
  match e with
  | .json => ofJsonText s
  | .toml => ofTomlText s

/-- The document of JSON in bytes. -/
def ofBytes (b : ByteArray) : Except Error Document :=
  match String.fromUTF8? b with
  | some s => ofJsonText s
  | none => .error .notJson

/-- How a file is written, as its name says. -/
def encodingOf (path : String) : Encoding := if Path.isToml path then .toml else .json

/-- The document of a file among files. -/
def ofFile (files : String → Found) (path : String) : Except Error Document :=
  (files path).text.bind (ofText (encodingOf path))

end Document

end PathQuery
