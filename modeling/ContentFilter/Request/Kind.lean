/-!
# Kinds of requests

What a request is for. Three vocabularies name the kinds: the one of rule
options and of browsers' request events (`ofName`), the numbering of
content types (`ofCode`), and the names under which kinds are stored
(`name` and `ofStoredName?`). The first two know more than one spelling
for some kinds and take whatever they do not know to be `other`; the last
one is exact, and `ofStoredName?_name` says that a stored name reads back.
-/

namespace ContentFilter

/-- **What a request is for.** -/
inductive RequestKind where
  | font
  | image
  | media
  | object
  | objectSubrequest
  | other
  | ping
  | script
  | stylesheet
  | subdocument
  | websocket
  | xmlHttpRequest
  deriving DecidableEq, Repr

namespace RequestKind

/-- Every kind, in the order of the stored names. -/
def all : List RequestKind :=
  [font, image, media, object, objectSubrequest, other, ping, script, stylesheet, subdocument,
    websocket, xmlHttpRequest]

/-- No kind is missing from the list of all of them. -/
@[simp] theorem mem_all (k : RequestKind) : k ∈ all := by
  cases k <;> decide

/-- **The kind a browser's name stands for**; `other` for names it does
not know. -/
def ofName (name : String) : RequestKind :=
  match name with
  | "beacon" | "ping" => ping
  | "font" => font
  | "image" | "imageset" => image
  | "media" => media
  | "object" => object
  | "object_subrequest" | "object-subrequest" => objectSubrequest
  | "script" => script
  | "stylesheet" => stylesheet
  | "sub_frame" | "subdocument" => subdocument
  | "websocket" => websocket
  | "xhr" | "xmlhttprequest" => xmlHttpRequest
  | _ => other

/-- **The kind a content type number stands for**; `other` for numbers it
does not know. -/
def ofCode (code : UInt32) : RequestKind :=
  match code.toNat with
  | 2 => script
  | 3 | 21 => image
  | 4 => stylesheet
  | 5 => object
  | 7 => subdocument
  | 10 | 19 => ping
  | 11 => xmlHttpRequest
  | 12 => objectSubrequest
  | 14 => font
  | 15 => media
  | 16 => websocket
  | _ => other

/-- **The name a kind is stored under.** -/
def name : RequestKind → String
  | font => "Font"
  | image => "Image"
  | media => "Media"
  | object => "Object"
  | objectSubrequest => "ObjectSubrequest"
  | other => "Other"
  | ping => "Ping"
  | script => "Script"
  | stylesheet => "Stylesheet"
  | subdocument => "Subdocument"
  | websocket => "Websocket"
  | xmlHttpRequest => "Xmlhttprequest"

/-- **The kind stored under a name**, if the name is one of them. -/
def ofStoredName? (s : String) : Option RequestKind :=
  all.find? (·.name = s)

/-- A stored name reads back. -/
@[simp] theorem ofStoredName?_name (k : RequestKind) : ofStoredName? k.name = some k := by
  cases k <;> decide

end RequestKind

end ContentFilter
