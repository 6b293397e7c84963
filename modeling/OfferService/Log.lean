/-
  OfferService.Log

  What the service says about its work: a text, how grave it is, and which part of the service
  says it.
-/
namespace OfferService.Log

/-- How grave an entry is. -/
inductive Level where
  | error
  | warn
  | info
  | debug
  | trace
  deriving DecidableEq, Repr

namespace Level

/-- The level as it is shown. -/
def label : Level → String
  | .error => "ERROR"
  | .warn => "WARN"
  | .info => "INFO"
  | .debug => "DEBUG"
  | .trace => "TRACE"

/-- The more is told, the larger the number. -/
def verbosity : Level → Nat
  | .error => 1
  | .warn => 2
  | .info => 3
  | .debug => 4
  | .trace => 5

/-- All levels. -/
def all : List Level := [.error, .warn, .info, .debug, .trace]

/-- The level as it is asked for. -/
def name (l : Level) : String := l.label.toLower

end Level

/-- The part of the service that speaks. -/
inductive Source where
  | pool
  | store
  | flusher
  | notifier
  | saver
  | pipeline
  | producer
  | sink
  | consumer
  | api
  | apiErrors
  | handlers
  | requests
  | status
  | shutdown
  | service
  | program
  deriving DecidableEq, Repr

/-- The name of a source in the log. -/
def Source.name : Source → String
  | .pool => "offer_api::storage::pool"
  | .store => "offer_api::storage::offers"
  | .flusher => "offer_api::storage::batch::flusher"
  | .notifier => "offer_api::storage::batch::notifier"
  | .saver => "offer_api::storage::batch::saver"
  | .pipeline => "offer_api::initialization::pipeline"
  | .producer => "offer_api::producer"
  | .sink => "offer_api::producer::sink"
  | .consumer => "offer_api::producer::consumer"
  | .api => "offer_api::api"
  | .apiErrors => "offer_api::api::error"
  | .handlers => "offer_api::api::handlers"
  | .requests => "offer_api::api::middleware"
  | .status => "offer_api::status_server"
  | .shutdown => "offer_api::run::shutdown"
  | .service => "offer_api::run"
  | .program => "offer_api"

/-- One entry. -/
structure Entry where
  level : Level
  source : Source
  text : String
  deriving DecidableEq, Repr

/-- The entry in one line. -/
def Entry.line (e : Entry) : String := e.level.label ++ " " ++ e.text

/-- The entries that are shown when `most` is the most verbose level. -/
def shown (most : Level) (es : List Entry) : List Entry :=
  es.filter fun e => e.level.verbosity ≤ most.verbosity

/-- What stands in a text for what nobody measures here, such as a span of time. -/
def untold : String := "<t>"

end OfferService.Log
