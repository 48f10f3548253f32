/-
# Requests and responses

A request names a method and a path and may carry headers and a JSON body. The
names of headers are the same in letters of either case. The value of a header
travels in UTF-8 and arrives byte by byte, so that a character outside ASCII
arrives as several.
-/

import SkillTiers.Json.Basic
import SkillTiers.Text.Blank

namespace SkillTiers

/-- An HTTP request. -/
structure Request where
  method : String
  path : String
  headers : List (String × String)
  body : Option Json

/-- What a handler answers. -/
structure Reply where
  status : Nat
  body : Json

/-- An HTTP response. -/
structure Response where
  status : Nat
  requestId : Option String
  body : Json

namespace Request

/-- A text with its letters in lower case. -/
def lowered (text : String) : String :=
  String.ofList (text.toList.map Char.toLower)

/-- A value as it arrives, each byte being taken for a character. -/
def arrived (value : String) : String :=
  String.ofList (value.toUTF8.toList.map fun byte => Char.ofNat byte.toNat)

/-- The value that is sent under the name of a header, given in lower case. -/
def sent? (request : Request) (name : String) : Option String :=
  (request.headers.find? fun header => lowered header.1 == name).map (·.2)

/-- The value that arrives under the name of a header, given in lower case. -/
def header? (request : Request) (name : String) : Option String :=
  (request.sent? name).map arrived

/-- The header for the id that the sender gives a request. -/
def requestIdHeader : String :=
  "x-request-id"

/-- Who acts in the request. -/
def actor? (request : Request) : Option String :=
  request.header? "x-user-id"

/-- The media type that the value of a header names, in lower case and without
parameters. -/
def mediaType (value : String) : String :=
  lowered (trimBlanks (String.ofList (value.toList.takeWhile (· != ';'))))

/-- Whether a media type is JSON or a format written in JSON. -/
def isJsonType (type : String) : Bool :=
  match (type.toList.splitOn '/').map String.ofList with
  | [main, subtype] =>
    main == "application"
      && (subtype == "json" || "+json".toList.isSuffixOf subtype.toList)
  | _ => false

/-- Whether the body is JSON, as it is unless a header says otherwise. -/
def announcesJson (request : Request) : Bool :=
  (request.header? "content-type").all fun value => isJsonType (mediaType value)

/-- A character of a path as it stands in an address: tabs and line breaks vanish,
and the marks that have a meaning in addresses are written by their codes. -/
def addressChars (c : Char) : List Char :=
  if c == '\t' || c == '\n' || c == '\r' then []
  else if c == '#' then ['%', '2', '3']
  else if c == '?' then ['%', '3', 'F']
  else if c == '\\' then ['%', '5', 'C']
  else [c]

/-- The path in the address of the request, where it stands behind a slash. -/
def addressPath (request : Request) : String :=
  let chars := request.path.toList
  let start := if chars.isEmpty || chars.head? == some '/' then [] else ['/']
  String.ofList (start ++ chars.flatMap addressChars)

end Request

end SkillTiers
