import OfferService.Json.Printer

/-
  OfferService.Release

  What the service says about itself: the project it belongs to, and its version.
-/
namespace OfferService

/-- The number of this version. -/
def versionNumber : String := "0.1.0"

/-- What is told about a release. -/
structure Release where
  name : String := "offer_api"
  isDebug : Bool := false
  environment : String := "development"
  deriving DecidableEq, Repr

/-- The release as a JSON value. -/
def Release.toJson (r : Release) : Json.Value :=
  .object
    [("name", .string r.name), ("debug", .boolean r.isDebug),
      ("environment", .string r.environment), ("version", .string versionNumber),
      ("commitHash", .string "unknown")]

end OfferService
