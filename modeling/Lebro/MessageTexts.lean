import Lebro.JsonCodec
import Lebro.MediaRequests

set_option autoImplicit false

namespace Lebro.MessageTexts

open RuntimeTypes RuntimeRecords

/-- A Go string. -/
abbrev Text := List UInt8

/-- The lexemes of a JSON text: white space, a bracket or separator, a number or one of the three
words, and a string with the bytes between its quotes. -/
inductive Lexeme where
 | blank (c : UInt8)
 | mark (c : UInt8)
 | literal (text : Text)
 | string (source : Text)
deriving DecidableEq

/-- Text that is meant to be JSON: what `json.Valid` accepts is given by its lexemes. -/
inductive RawText where
 | empty
 | malformed (text : Text)
 | json (lexemes : List Lexeme)
deriving DecidableEq

inductive ContentPartKind where
 | text
 | image
 | document
deriving DecidableEq

/-- A part that passed `Validate`, so that its strings are UTF-8. -/
structure MessageContentPart where
 type : ContentPartKind
 text : String := ""
 mimeType : String := ""
 filename : String := ""
 data : String := ""
deriving DecidableEq

structure ModelToolCall where
 id : Text
 toolID : Text
 arguments : Json
deriving DecidableEq

structure ModelReasoning where
 text : Text := []
 details : RawText := .empty
deriving DecidableEq

structure Message where
 role : Role
 content : Text := []
 contentParts : List MessageContentPart := []
 name : Text := []
 toolCallID : Text := []
 toolCalls : List ModelToolCall := []
 structuredOutput : RawText := .empty
 reasoning : ModelReasoning := {}
deriving DecidableEq

/-- Annotations are a map with raw JSON values. The zone is the offset of the location of
`createdAt`, in seconds. -/
structure MessageRecord where
 id : String
 threadID : ThreadID
 message : Message
 metadata : RawText := .empty
 annotations : List (String × RawText) := []
 createdAt : Time := 0
 zone : Int := 0
deriving DecidableEq

end Lebro.MessageTexts
