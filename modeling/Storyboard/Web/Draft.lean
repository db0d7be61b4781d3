import Storyboard.Text.Blank
import Storyboard.Text.Case
import Storyboard.Web.Message
import Storyboard.Web.Url

/-!
# Drafting requests

A request is drafted from the fields of a payload, in the order address, method,
headers, body.  The first field at fault decides the error, and no field after it
is looked at.
-/

namespace Storyboard
namespace Web

/-- Which addresses, methods and headers are well formed. -/
structure Rules where
  /-- Read an address. -/
  url : String → Except UrlError Url
  /-- Whether a text is a method. -/
  isMethod : String → Bool
  /-- Whether a text is the name of a header. -/
  isHeaderName : String → Bool
  /-- Whether a text is the value of a header. -/
  isHeaderValue : String → Bool

/-- Whether a character may stand in the name of a method. -/
def isMethodChar (c : Char) : Bool :=
  Url.isLetter c || Host.isDecimal c ||
    ['!', '*', '+', '-', '.', '^', '_', '\x60', '|', '~'].contains c

/-- Whether a text is the name of a method. -/
def isMethodName (text : String) : Bool :=
  !text.isEmpty && text.toList.all isMethodChar

/-- Whether a character may stand in the name of a header. -/
def isFieldChar (c : Char) : Bool :=
  isMethodChar c || ['"', '#', '$', '%', '&', '\x27'].contains c

/-- The greatest length of the name of a header. -/
def fieldNameLimit : Nat := Nat.pow 2 16 - 1

/-- Whether a text is the name of a header. -/
def isFieldName (text : String) : Bool :=
  !text.isEmpty && text.length ≤ fieldNameLimit && text.toList.all isFieldChar

/-- Whether a text holds no control but the tab. -/
def isFieldValue (text : String) : Bool :=
  text.toList.all fun c => (0x20 ≤ c.toNat && c.toNat != 0x7f) || c == '\t'

/-- The rules of the web. -/
def Rules.standard : Rules where
  url := Url.parse
  isMethod := isMethodName
  isHeaderName := isFieldName
  isHeaderValue := isFieldValue

/-- Why an address is refused. -/
def UrlError.reason : UrlError → String
  | .relative => "relative URL without a base"
  | .malformed => "malformed"

/-- The address in its written form. -/
def Rules.address (rules : Rules) : Node → Except RequestError String
  | .string text =>
      if Text.isBlankText text then .error .missingUrl
      else
        let raw := Text.trim text
        match rules.url raw with
        | .ok (.web url) => .ok url
        | .ok (.other scheme) => .error (.unsupportedScheme raw scheme)
        | .error error =>
            if error = .relative ∧ raw.toList.head? = some '/' then .error (.relativeUrl raw)
            else .error (.invalidUrl raw error.reason)
  | _ => .error .missingUrl

/-- The method; without one, `GET`. -/
def Rules.verb (rules : Rules) : Node → Except RequestError String
  | .null => .ok "GET"
  | .string text =>
      let method := String.ofList (Text.upper text.toList)
      if method != "" && rules.isMethod method then .ok method else .error (.invalidMethod method)
  | other => .error (.invalidMethod other.display)

/-- The headers among entries: those whose value is not `null`. -/
def Rules.headerList (rules : Rules) : List (String × Node) → Except RequestError Headers
  | [] => .ok []
  | (name, value) :: rest =>
      if value.isNull then headerList rules rest
      else if rules.isHeaderName name && rules.isHeaderValue value.display then
        match headerList rules rest with
        | .ok headers => .ok ((name, value.display) :: headers)
        | .error error => .error error
      else .error (.invalidHeader name)

/-- The headers; only a mapping has any. -/
def Rules.headers (rules : Rules) (node : Node) : Except RequestError Headers :=
  rules.headerList (node.asMapping?.getD [])

/-- A container as JSON text. -/
def serialized (node : Node) : Except RequestError String :=
  match node.toTree with
  | .ok tree => .ok tree.render
  | .error value => .error (.bodySerialization (Node.noDigitsMessage value))

/-- The body and the kind of content that it is, unless it is absent. -/
def content : Node → Except RequestError (Option (String × String))
  | .null => .ok none
  | .string text => .ok (some (text, "text/plain"))
  | .sequence items => (serialized (.sequence items)).map fun text => some (text, "application/json")
  | .mapping entries =>
      (serialized (.mapping entries)).map fun text => some (text, "application/json")
  | other => .error (.unsupportedBody other.typeName)

/-- The header that names the kind of content. -/
def contentTypeName : String := "Content-Type"

/-- Headers with the kind of content added, unless they name it already. -/
def withContentType (headers : Headers) (kind : String) : Headers :=
  if (headers.find? contentTypeName).isSome then headers else headers ++ [(contentTypeName, kind)]

/-- The request of an address, a method, headers and a body. -/
def Request.make (url method : String) (headers : Headers) :
    Option (String × String) → Request
  | none => ⟨url, method, headers, none⟩
  | some (text, kind) => ⟨url, method, withContentType headers kind, some text⟩

/-- Go on with what a node stands for; a node at fault ends the draft. -/
def proceed {σ α β : Type} (check : Node → Except RequestError α)
    (next : α → σ → Except RequestError β × σ) (node : Node) (state : σ) :
    Except RequestError β × σ :=
  match check node with
  | .error error => (.error error, state)
  | .ok value => next value state

/-- Look at a field and go on with what it stands for.  Looking at a field changes a state. -/
def look {σ α β : Type} (field : String → σ → Node × σ) (key : String)
    (check : Node → Except RequestError α) (next : α → σ → Except RequestError β × σ) (state : σ) :
    Except RequestError β × σ :=
  let (node, state) := field key state
  proceed check next node state

/-- Draft a request from fields that are looked at one after another. -/
def Rules.draft {σ : Type} (rules : Rules) (field : String → σ → Node × σ) :
    σ → Except RequestError Request × σ :=
  look field "url" rules.address fun url =>
    look field "method" rules.verb fun method =>
      look field "headers" rules.headers fun headers =>
        look field "body" content fun body state => (.ok (.make url method headers body), state)

/-- Why a finished request cannot be handed to the network, if so. -/
def Rules.refusal? (rules : Rules) (request : Request) : Option RequestError :=
  if !rules.isMethod request.method then some (.invalidMethod request.method)
  else if request.headers.all fun (name, value) =>
      rules.isHeaderName name && rules.isHeaderValue value then none
  else some (.transport "builder error")

end Web
end Storyboard
