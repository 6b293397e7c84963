import OfferService.Api.Handlers

/-
  OfferService.Api.Router

  Which requests there are: what a path names, and what can be done with it. Paths are told apart
  as they were sent, before any decoding.
-/
namespace OfferService.Api

open OfferService.Http (Method Request Response)

/-! ## Paths -/

/-- What a path names. -/
inductive Route where
  | offers
  | batch
  | buffered
  | offer (segment : String)
  deriving DecidableEq, Repr

namespace Route

/-- The path that ids follow. -/
def base : List Char := "/v1/offers/".toList

/-- What a path names, if anything. -/
def ofPath (path : String) : Option Route :=
  if path = "/v1/offers" then some .offers
  else if path = "/v1/offers/batch" then some .batch
  else if path = "/v1/offers/buffered" then some .buffered
  else if base.isPrefixOf path.toList then
    let segment := path.toList.drop base.length
    if segment.isEmpty || segment.contains '/' then none
    else some (.offer (String.ofList segment))
  else none

/-- The methods that a route knows. -/
def allow : Route → String
  | .offers => "POST,GET,HEAD"
  | .batch => "POST"
  | .buffered => "POST"
  | .offer _ => "GET,HEAD,PUT,DELETE"

/-- What is done for a request, if it can be done with what the route names. -/
def job (r : Request) : Route → Option Job
  | .offers =>
    match r.method with
    | .post => some (create r)
    | .get | .head => some (list r)
    | _ => none
  | .batch => if r.method = .post then some (createBatch r) else none
  | .buffered => if r.method = .post then some (createBuffered r) else none
  | .offer segment =>
    match r.method with
    | .get | .head => some (describe segment)
    | .put => some (change segment r)
    | .delete => some (remove segment)
    | _ => none

end Route

/-! ## Requests -/

/-- What is done for a request. -/
def jobOf (r : Request) : Job :=
  match Route.ofPath r.target.path with
  | none => .answer .notFound
  | some route => (route.job r).getD (.answer (.methodNotAllowed route.allow))

/-- The answer as it is sent: none has a body if only its head was asked for. -/
def sent (r : Request) (answer : Response) : Response :=
  if r.method = .head then answer.headOnly else answer

/-- What is logged about a request and its answer. -/
def accessLog (r : Request) (answer : Response) : List Log.Entry :=
  [⟨.info, .requests, r.method.name ++ " " ++ r.target.path ++ " -> " ++ toString answer.status ++
    " in " ++ Log.untold⟩]

end OfferService.Api
