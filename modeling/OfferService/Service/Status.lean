import OfferService.Service.Basic

/-
  OfferService.Service.Status

  What the service tells those who watch it: that it lives, whether it is up, what it is, and its
  counters. Watching is not counted.
-/
namespace OfferService.Service

open OfferService.Http (Request Response)

/-! ## Counters as a page -/

/-- Does a number only grow, or can it fall too? -/
inductive GaugeKind where
  | counter
  | gauge
  deriving DecidableEq, Repr

/-- The kind as the page shows it. -/
def GaugeKind.label : GaugeKind → String
  | .counter => "counter"
  | .gauge => "gauge"

/-- A number on the page. -/
structure Gauge where
  name : String
  help : String
  kind : GaugeKind
  value : String
  deriving DecidableEq, Repr

/-- The lines that show a number. -/
def Gauge.lines (g : Gauge) : List String :=
  ["# HELP " ++ g.name ++ " " ++ g.help, "# TYPE " ++ g.name ++ " " ++ g.kind.label,
    g.name ++ " " ++ g.value]

/-- The numbers that are shown. -/
def State.gauges (s : State) : List Gauge :=
  let shown (n : UInt64) : String := toString n.toNat
  let m := s.metrics
  [⟨"offer_api_requests_total", "Requests routed to the offer API", .counter, shown m.requests⟩,
    ⟨"offer_api_offers_created_total", "Offers created through the API", .counter, shown m.created⟩,
    ⟨"offer_api_offers_updated_total", "Offers updated through the API", .counter, shown m.updated⟩,
    ⟨"offer_api_offers_removed_total", "Offers removed through the API", .counter, shown m.removed⟩,
    ⟨"offer_api_flushed_offers_total", "Offers persisted by the batch pipeline", .counter,
      shown m.flushedOffers⟩,
    ⟨"offer_api_flush_failures_total", "Flushes that left offers buffered", .counter,
      shown m.flushFailures⟩,
    ⟨"offer_api_retained_offers", "Offers left buffered by the last flush", .gauge,
      shown m.retainedOffers⟩,
    ⟨"offer_api_saver_buffered_offers", "Offers currently buffered by the saver", .gauge,
      toString s.saver.shown⟩,
    ⟨"offer_api_uptime_seconds", "Seconds since the service started", .gauge, Log.untold⟩]

/-- The page of all numbers. -/
def State.gaugePage (s : State) : String :=
  "\n\n".intercalate (s.gauges.map fun g => "\n".intercalate g.lines) ++ "\n"

/-! ## Requests -/

/-- What can be asked. -/
inductive Question where
  | live
  | ready
  | version
  | metrics
  deriving DecidableEq, Repr

/-- What a path asks. -/
def Question.ofPath : String → Option Question
  | "/live" => some .live
  | "/ready" => some .ready
  | "/version" => some .version
  | "/metrics" => some .metrics
  | _ => none

/-- The answer to a question. -/
def State.tell (s : State) : Question → Response
  | .live => { status := 200 }
  | .ready => { status := if s.isReady then 200 else 503 }
  | .version => .json 200 s.release.toJson
  | .metrics =>
    { status := 200, contentType := some "text/plain; version=0.0.4", body := s.gaugePage }

/-- The answer to somebody who watches. -/
def State.watch (s : State) (r : Request) : Response :=
  match Question.ofPath r.target.path with
  | none => .notFound
  | some q =>
    match r.method with
    | .get => s.tell q
    | .head => (s.tell q).headOnly
    | _ => .methodNotAllowed "GET,HEAD"

end OfferService.Service
