import BucketProvisioning.Api.Rejection

/-!
# Replies of the API server

A reply is a status code and a text.  A code from 400 on is a refusal: the text words it, or else
the refusal is made up from the code and quotes the text.  Any other reply has to be the object
that was asked for.
-/

set_option autoImplicit false

namespace BucketProvisioning.Api

open BucketProvisioning

/-- A reply. -/
structure Reply where
  /-- The status code. -/
  code : Nat
  /-- The body. -/
  text : String
deriving DecidableEq, Repr

/-- What comes back for a request: a reply, or the reason why there is none. -/
abbrev Delivery := Except String Reply

/-- The meaning of a status code that refuses, in words. -/
def refusalWords : List (Nat × String) :=
  [(400, "Bad Request"), (401, "Unauthorized"), (402, "Payment Required"), (403, "Forbidden"),
    (404, "Not Found"), (405, "Method Not Allowed"), (406, "Not Acceptable"),
    (407, "Proxy Authentication Required"), (408, "Request Timeout"), (409, "Conflict"),
    (410, "Gone"), (411, "Length Required"), (412, "Precondition Failed"),
    (413, "Payload Too Large"), (414, "URI Too Long"), (415, "Unsupported Media Type"),
    (416, "Range Not Satisfiable"), (417, "Expectation Failed"), (418, "I'm a teapot"),
    (421, "Misdirected Request"), (422, "Unprocessable Entity"), (423, "Locked"),
    (424, "Failed Dependency"), (425, "Too Early"), (426, "Upgrade Required"),
    (428, "Precondition Required"), (429, "Too Many Requests"),
    (431, "Request Header Fields Too Large"), (451, "Unavailable For Legal Reasons"),
    (500, "Internal Server Error"), (501, "Not Implemented"), (502, "Bad Gateway"),
    (503, "Service Unavailable"), (504, "Gateway Timeout"), (505, "HTTP Version Not Supported"),
    (506, "Variant Also Negotiates"), (507, "Insufficient Storage"), (508, "Loop Detected"),
    (510, "Not Extended"), (511, "Network Authentication Required")]

/-- A status code with its meaning. -/
def codeWithWords (code : Nat) : String :=
  toString code ++ " "
    ++ (((refusalWords.find? fun w => w.1 = code).map Prod.snd).getD "<unknown status code>")

namespace Reply

/-- Whether a reply refuses the request. -/
def isRefusal (r : Reply) : Bool := 400 ≤ r.code && r.code < 600

/-- The refusal that a text words. -/
def wording? (text : String) : Option Rejection := (Rejection.decode.read text).toOption

/-- The refusal of a reply whose text does not word one. -/
def unworded (r : Reply) : Rejection :=
  ⟨codeWithWords r.code, Text.quoted r.text, "Failed to parse error data", r.code⟩

/-- The refusal that a reply is. -/
def rejection (r : Reply) : Rejection := (wording? r.text).getD r.unworded

/-- The text of a reply that does not refuse. -/
def accepted (r : Reply) : Except ApiFault String :=
  if r.isRefusal then .error (.rejected r.rejection) else .ok r.text

end Reply

/-- Reads a value from a text that was sent. -/
def received {α : Type} (d : Decoder α) (text : String) : Except ApiFault α :=
  match d.read text with
  | .ok a => .ok a
  | .error e => .error (.undecodable e.message)

/-- Reads the object of a reply. -/
def Reply.read {α : Type} (d : Decoder α) (r : Reply) : Except ApiFault α := do
  received d (← r.accepted)

/-- Reads the object of what came back. -/
def Delivery.read {α : Type} (d : Decoder α) : Delivery → Except ApiFault α
  | .ok r => r.read d
  | .error reason => .error (.unreachable reason)

end BucketProvisioning.Api
