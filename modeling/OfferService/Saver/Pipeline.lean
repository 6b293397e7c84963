import OfferService.Saver.Session

/-
  OfferService.Saver.Pipeline

  A saver that is ready for use, from its three settings.
-/
namespace OfferService.Saver

/-- The settings of a saver. -/
structure Settings where
  capacity : Nat
  groups : Nat
  period : Period
  deriving DecidableEq, Repr

namespace Settings

/-- A saver of these settings that is not initialized. -/
def build (s : Settings) : Except SaverError State :=
  match Ticker.new s.period with
  | .error e => .error (.ticker e)
  | .ok ticker => Saver.new s.capacity s.groups ticker

/-- What is logged once the saver runs. -/
def startLog (s : Settings) : List Log.Entry :=
  [⟨.info, .pipeline, "Batch pipeline started: capacity " ++ toString s.capacity ++ ", " ++
    toString s.groups ++ " groups per flush, every " ++ s.period.render⟩]

end Settings

/-- A session with a saver that is initialized. -/
def Session.start (settings : Settings) (outage : Outage) : Except SaverError Session :=
  match settings.build with
  | .error e => .error e
  | .ok saver =>
    let (_, s) := init (.new saver outage)
    .ok (change s fun w => { w with log := w.log ++ settings.startLog })

end OfferService.Saver
