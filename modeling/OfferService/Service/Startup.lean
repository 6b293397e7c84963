import OfferService.Service.Session
import OfferService.Service.StartError
import OfferService.Settings.Basic
import OfferService.Storage.Disk

/-
  OfferService.Service.Startup

  Bringing a service up from its settings, and taking it down again. A service opens its database,
  prepares the table, starts the saver and the publisher, and then listens; whatever fails first
  ends the attempt. Taking it down goes the other way: no more requests, then the saver with its
  last flush, then the publisher.
-/
namespace OfferService.Service

/-- A service that is up, and the database it works on. -/
structure Running where
  settings : Settings
  database : Storage.Database
  session : Session

/-- An attempt to bring a service up. -/
structure Attempt where
  outcome : Except StartError Running
  log : List Log.Entry
  disk : Storage.Disk

/-! ## Up -/

/-- A session with a service whose saver runs. -/
def Session.start (settings : Settings) (store : Storage.Store) :
    Except StartError (Session × List Log.Entry) :=
  match settings.saver.build with
  | .error e => .error (.saver e)
  | .ok saver =>
    let s := Session.new saver settings.topic settings.queue settings.release {}
    let (verdict, s) := initSaver s
    match verdict with
    | .error e => .error (.saver e)
    | .ok () =>
      let ((log, _), s) := takeNotes s
      let s := change s fun w => { w with sink := .log, service := { w.service with store } }
      .ok (s, log ++ settings.saver.startLog)

/-- What is logged when the servers listen. -/
def listenLog (settings : Settings) : List Log.Entry :=
  let status := "http://" ++ settings.statusAddress
  [⟨.info, .status, "Status server listening on " ++ status ++ "/"⟩,
    ⟨.info, .status, "  - Metrics: " ++ status ++ "/metrics"⟩,
    ⟨.info, .status, "  - Version: " ++ status ++ "/version"⟩,
    ⟨.info, .api, "Offer API listening on http://" ++ settings.apiAddress ++ "/v1/offers"⟩,
    ⟨.info, .service, "Service ready"⟩]

/-- Brings a service up. -/
def start (settings : Settings) (disk : Storage.Disk) : Attempt :=
  let ((opened, log), disk) := disk.openDatabase settings.databasePath
  match opened with
  | .error e => { outcome := .error (.database e), log, disk }
  | .ok database =>
    let (migrated, database) := database.run Storage.Store.migrate
    let disk := database.close disk
    match migrated with
    | .error e => { outcome := .error (.migrations e), log, disk }
    | .ok () =>
      match Session.start settings database.store with
      | .error e => { outcome := .error e, log, disk }
      | .ok (session, said) =>
        { outcome := .ok { settings, database, session := session.setReady true }
          log := log ++ said ++ listenLog settings, disk }

/-! ## Down -/

/-- Takes a service down. -/
def Session.shutDown (s : Session) : Report × Session :=
  let say (es : List Log.Entry) (s : Session) : Session :=
    change s fun w => { w with log := w.log ++ es }
  let s := say [⟨.debug, .api, "Offer API server stopped"⟩] (setReady s false)
  let buffered := s.state.service.saver.shown
  let s :=
    if 0 < buffered then
      say [⟨.info, .shutdown, "Flushing " ++ toString buffered ++ " buffered offers"⟩] s
    else s
  let s := closePublisher (closeSaver s)
  let report := s.state.service.report
  (report, say
    [⟨.debug, .status, "Status server stopped"⟩,
      ⟨.info, .service, "Service stopped after " ++ Log.untold ++ "s: " ++
        toString report.created.toNat ++ " offers created, " ++ toString report.flushed.toNat ++
        " flushed, " ++ toString report.unflushed ++ " unflushed"⟩] s)

/-- Takes a service down and leaves its database on the disk. -/
def Running.stop (r : Running) (disk : Storage.Disk) : (Report × List Log.Entry) × Storage.Disk :=
  let (report, s) := r.session.shutDown
  ((report, s.state.log), { r.database with store := s.state.service.store }.close disk)

end OfferService.Service
