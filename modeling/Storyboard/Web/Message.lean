import Storyboard.Node.Reader
import Storyboard.Node.Writer
import Storyboard.Web.Percent

/-!
# Requests and responses

What is sent, what comes back, and what can go wrong on the way.
-/

namespace Storyboard
namespace Web

/-- Names and values in order; a name may occur more than once. -/
abbrev Headers := List (String × String)

/-- A request. -/
structure Request where
  /-- The address in its written form. -/
  url : String
  /-- The method. -/
  method : String
  /-- The headers. -/
  headers : Headers
  /-- The body. -/
  body : Option String
  deriving DecidableEq, Inhabited

/-- A response. -/
structure Response where
  /-- The status. -/
  status : Nat
  /-- The headers. -/
  headers : Headers := []
  /-- The bytes of the body. -/
  body : List UInt8 := []
  deriving DecidableEq, Inhabited

/-- What goes wrong with a request. -/
inductive RequestError where
  /-- There is no address. -/
  | missingUrl
  /-- The address is malformed. -/
  | invalidUrl (url : String) (reason : String)
  /-- The address lacks scheme and host. -/
  | relativeUrl (url : String)
  /-- The address is not one of the web. -/
  | unsupportedScheme (url : String) (scheme : String)
  /-- The method is malformed. -/
  | invalidMethod (method : String)
  /-- The name or the value of a header is malformed. -/
  | invalidHeader (name : String)
  /-- A value of this kind cannot be a body. -/
  | unsupportedBody (kind : String)
  /-- The body cannot be written as JSON. -/
  | bodySerialization (reason : String)
  /-- The answer has a status of failure. -/
  | status (code : Nat)
  /-- There is no answer. -/
  | transport (reason : String)
  /-- Nothing can be sent. -/
  | offline
  deriving DecidableEq, Inhabited

/-- What is said of an error. -/
def RequestError.message : RequestError → String
  | .missingUrl => "Request has no url"
  | .invalidUrl url reason => "Invalid url '" ++ url ++ "': " ++ reason
  | .relativeUrl url => "Relative url '" ++ url ++ "' has no base to resolve against"
  | .unsupportedScheme url scheme => "Unsupported url scheme '" ++ scheme ++ "' in '" ++ url ++ "'"
  | .invalidMethod method => "Invalid HTTP method '" ++ method ++ "'"
  | .invalidHeader name => "Invalid header '" ++ name ++ "'"
  | .unsupportedBody kind => "Unsupported request body of type " ++ kind
  | .bodySerialization reason => "Failed to serialize request body: " ++ reason
  | .status code => "HTTP status " ++ String.ofList (Decimal.natChars code)
  | .transport reason => "Transport error: " ++ reason
  | .offline => "No async runtime available to send the request"

/-- Whether a request with this error is dropped without a word. -/
def RequestError.isSilent : RequestError → Bool
  | .missingUrl => true
  | .invalidUrl _ _ => true
  | _ => false

/-- How a request ends: with a response or without one. -/
abbrev Outcome := Except RequestError Response

/-- Whether two names agree up to the case of the letters from `a` to `z`. -/
def sameName (a b : String) : Bool :=
  a.toList.map Char.toLower == b.toList.map Char.toLower

/-- The value of the first header of a name, in upper or lower case. -/
def Headers.find? (headers : Headers) (name : String) : Option String :=
  (List.find? (fun header => sameName header.1 name) headers).map Prod.snd

/-- Whether a status is one of success. -/
def isSuccess (status : Nat) : Bool := 200 ≤ status && status < 300

/-- The key that stands for a body without bytes. -/
def noContentKey : String := "noContent"

/-- The node of a body: JSON if it is JSON, else text if it is text, else its bytes. -/
def decodeBody (body : List UInt8) : Node :=
  match body with
  | [] => .mapping [(noContentKey, .bool true)]
  | bytes =>
      match textOf? bytes with
      | none => .sequence (bytes.map fun byte => .ofNat byte.toNat)
      | some text =>
          match Json.Tree.parse text with
          | .ok tree => .ofTree tree
          | .error _ => .string text

/-- What callbacks are told of a response: its status and its headers. -/
def Response.metadata (response : Response) : Node :=
  .mapping
    [("status", .ofNat response.status),
     ("headers",
       .mapping (Table.ofEntries (response.headers.map fun (name, value) => (name, .string value))))]

/-- What callbacks are told of an error: what is said of it and, if there is a response, the status
and the body. -/
def RequestError.report (error : RequestError) (response : Option Response) : Node :=
  .mapping
    (("message", .string error.message) ::
      match response with
      | none => []
      | some response =>
          [("status", .ofNat response.status),
           ("body", if response.body = [] then .null else decodeBody response.body)])

end Web
end Storyboard
