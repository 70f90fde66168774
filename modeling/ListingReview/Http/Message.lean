import ListingReview.Json.Document
import ListingReview.Text.Octets

/-! # HTTP: messages

Requests and responses as far as the service looks at them. -/

namespace ListingReview.Http

/-- What is asked. -/
structure Request where
  method : String
  /-- What the request is about: a path with its query, if there is one, or a whole address. -/
  target : String
  contentType : Option String
  body : Text.Octets

/-- Whether the path ends before a character. -/
def endsPath (c : Char) : Bool := c == '?' || c == '#'

/-- Whether the authority of an address ends before a character. -/
def endsAuthority (c : Char) : Bool := c == '/' || endsPath c

/-- The path of a target. In an address it stands behind the authority and is `/` if left out; a
target that is neither a path nor an address has none. -/
def pathOf (target : List Char) : List Char :=
  match target with
  | '/' :: _ => target.takeWhile (!endsPath ·)
  | _ =>
    match target.dropWhile (· != ':') with
    | ':' :: '/' :: '/' :: address =>
      match (address.dropWhile (!endsAuthority ·)).takeWhile (!endsPath ·) with
      | [] => ['/']
      | path => path
    | _ => []

/-- The path that is asked for. -/
def Request.path (request : Request) : String := String.ofList (pathOf request.target.toList)

/-- What a response carries. -/
inductive Body where
  | empty
  | json (document : Json.Document)
  | text (content : String)

/-- What is answered. -/
structure Response where
  status : Nat
  contentType : Option String
  body : Body

/-- A response without a body. -/
def Response.bare (status : Nat) : Response := ⟨status, none, .empty⟩

def Response.json (status : Nat) (document : Json.Document) : Response :=
  ⟨status, some "application/json", .json document⟩

/-- A response with its body left out. -/
def Response.head (response : Response) : Response := { response with body := .empty }

end ListingReview.Http
