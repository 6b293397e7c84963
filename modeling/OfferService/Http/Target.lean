import OfferService.Text.Percent

/-
  OfferService.Http.Target

  What a request is aimed at: a path, and a query after a question mark. Both are kept as they were
  sent; bytes written as a percent sign and two hexadecimal digits are decoded where they are used.
-/
namespace OfferService.Http

/-- A path and a query. -/
structure Target where
  path : String
  query : Option String := none
  deriving DecidableEq, Repr

namespace Target

/-- The target written as a text; a fragment after it is dropped. -/
def ofText (s : String) : Target :=
  let (path, query) := Text.cutAt '?' (Text.cutAt '#' s.toList).1
  { path := String.ofList path, query := query.map String.ofList }

/-- The names and values of a query. -/
def pairs (t : Target) : List (String × String) := Text.formPairs (t.query.getD "")

end Target

end OfferService.Http
