import OfferService.Http.Target
import OfferService.Json.Printer

/-
  OfferService.Http.Basic

  Requests and the answers to them.
-/
namespace OfferService.Http

/-! ## Requests -/

/-- What a request asks for. Names are told apart by case. -/
inductive Method where
  | get
  | head
  | post
  | put
  | delete
  | other (name : String)
  deriving DecidableEq, Repr

namespace Method

/-- The method of a name. -/
def ofName : String → Method
  | "GET" => .get
  | "HEAD" => .head
  | "POST" => .post
  | "PUT" => .put
  | "DELETE" => .delete
  | name => .other name

/-- The name of a method. -/
def name : Method → String
  | .get => "GET"
  | .head => "HEAD"
  | .post => "POST"
  | .put => "PUT"
  | .delete => "DELETE"
  | .other name => name

end Method

/-- A request. -/
structure Request where
  method : Method
  target : Target
  /-- Names and values, in the order in which they were sent. -/
  headers : List (String × String) := []
  body : List UInt8 := []
  deriving DecidableEq, Repr

/-- The value of the first header of a name; case does not matter. -/
def Request.header? (r : Request) (name : String) : Option String :=
  (r.headers.find? fun h => h.1.toLower == name.toLower).map (·.2)

/-! ## Responses -/

/-- An answer. -/
structure Response where
  status : Nat
  contentType : Option String := none
  /-- The methods that would have been possible, if the one asked for was not. -/
  allow : Option String := none
  body : String := ""
  deriving DecidableEq, Repr

namespace Response

/-- An answer that is a JSON value. -/
def json (status : Nat) (v : Json.Value) : Response :=
  { status, contentType := some "application/json", body := v.render }

/-- Was the request carried out? -/
def isSuccess (r : Response) : Bool := 200 ≤ r.status && r.status < 300

/-- The answer without its body. -/
def headOnly (r : Response) : Response := { r with body := "" }

/-- There is nothing at that path. -/
def notFound : Response := { status := 404 }

/-- There is something at that path, and it is not asked for in this way. -/
def methodNotAllowed (allow : String) : Response := { status := 405, allow := some allow }

end Response

end OfferService.Http
