import OfferService.Log.Filter
import OfferService.Service.Startup
import OfferService.Settings.CommandLine
import OfferService.Settings.Dotenv

/-
  OfferService.Program

  The program around the service: it gathers its settings, sets up the log, brings the service up,
  and ends with an exit code that tells how it went.
-/
namespace OfferService.Program

/-! ## Beginning and end -/

/-- What a program is started with. -/
structure Invocation where
  arguments : List String := []
  environment : Dotenv.Environment := []
  /-- The text of a file with further variables. -/
  dotenv : Option String := none
  disk : Storage.Disk := {}

/-- How a program has ended, and what it has written. -/
structure Exit where
  code : Nat
  stdout : List String := []
  stderr : List String := []
  disk : Storage.Disk

/-- A program that serves requests. -/
structure Serving where
  filter : Log.Filter
  hasColours : Bool
  running : Service.Running
  disk : Storage.Disk
  stderr : List String

/-! ## The log -/

/-- The lines of a text. -/
def lines (s : String) : List String := (Text.splitAt '\n' s.toList).map String.ofList

/-- The filter that the settings and the environment ask for. What the environment says about parts
    of the service goes before the level in the settings. -/
def filterOf (level : Log.Level) (environment : Dotenv.Environment) : Log.Filter × List String :=
  let (f, complaints) := Log.Filter.ofText ((environment.lookup "RUST_LOG").getD "")
  ((f.insert ⟨none, some level⟩).insert ⟨some Log.Source.program.name, some level⟩, complaints)

/-- The lines of entries, as far as they are written. -/
def written (f : Log.Filter) (format : Log.Format) (hasColours : Bool) (es : List Log.Entry) :
    List String :=
  (es.filter f.admits).flatMap fun e => lines (e.written format hasColours)

/-! ## Up -/

/-- The first line of the help, and how the program is called. -/
def help : List String :=
  ["CRUD service for offers with a buffered batch-write pipeline.", "",
    "Usage: offer_api [OPTIONS]", "", "Options:"] ++ Setting.all.map fun s => "      " ++ s.shown

/-- What is said about a wrong command line. -/
def usage (e : UsageError) : List String :=
  lines ("error: " ++ e.message) ++
    ["", "Usage: offer_api [OPTIONS]", "", "For more information, try '--help'."]

/-- Starts the program: it ends at once, or serves. -/
def start (i : Invocation) : Exit ⊕ Serving :=
  let (environment, fault) := match i.dotenv with
    | some text => Dotenv.load i.environment text
    | none => (i.environment, none)
  let said := match fault with
    | some f => lines ("Ignoring unreadable .env file: " ++ f.message)
    | none => []
  match CommandLine.read i.arguments (fun name => environment.lookup name) with
  | .error .help => .inl { code := 0, stdout := help, stderr := said, disk := i.disk }
  | .error .version =>
    .inl { code := 0, stdout := ["offer_api " ++ versionNumber], stderr := said, disk := i.disk }
  | .error (.usage e) => .inl { code := 2, stderr := said ++ usage e, disk := i.disk }
  | .ok settings =>
    let (filter, complaints) := filterOf settings.logLevel environment
    let hasColours := environment.lookup "RUST_LOG_STYLE" == some "always"
    let attempt := Service.start settings i.disk
    let stderr := said ++ complaints.map (fun c => "warning: " ++ c ++ ", ignoring it") ++
      written filter settings.logFormat hasColours attempt.log
    match attempt.outcome with
    | .error e =>
      .inl { code := 1, stderr := stderr ++ lines ("offer_api error: " ++ e.chain),
             disk := attempt.disk }
    | .ok running => .inr { filter, hasColours, running, disk := attempt.disk, stderr }

/-! ## Requests -/

namespace Serving

/-- Writes entries to the log. -/
def say (p : Serving) (es : List Log.Entry) : Serving :=
  { p with
    stderr := p.stderr ++ written p.filter p.running.settings.logFormat p.hasColours es }

/-- Answers a request to the offer interface. -/
def request (p : Serving) (r : Http.Request) : Option Http.Response × Serving :=
  let (answer, session) := p.running.session.request r
  let ((log, _), session) := session.takeNotes
  (answer, { p with running := { p.running with session } }.say log)

/-- Answers somebody who watches. -/
def watch (p : Serving) (r : Http.Request) : Http.Response := p.running.session.watch r

/-! ## Down -/

/-- Ends the program after a signal; offers that could not be stored make it fail. -/
def stop (p : Serving) (signal : String) : Exit :=
  let ((report, log), disk) := p.running.stop p.disk
  let lost : List Log.Entry :=
    if 0 < report.unflushed then
      [⟨.error, .program, toString report.unflushed ++ " buffered offers were not persisted"⟩]
    else []
  let p := p.say
    ([⟨.info, .shutdown, "Received " ++ signal ++ ", shutting down"⟩] ++ log ++ lost)
  { code := if lost.isEmpty then 0 else 2, stderr := p.stderr, disk }

end Serving

end OfferService.Program
