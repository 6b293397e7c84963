import OfferService.Program

/-
  OfferService.Main

  The program on a terminal. The database lives as long as the program does. Requests are read from
  standard input, one to a line: the method, the target and the body, with a blank between each two;
  a line that begins with `status` goes to those who watch. The end of the input ends the program.
-/
namespace OfferService.Terminal

/-- The words of a text: the names of variables that it could refer to. -/
def words (s : String) : List String :=
  let isBreak (c : Char) : Bool := !(Text.isLetterOrDigit c || c = '_')
  let spaced := s.toList.map fun c => if isBreak c then ' ' else c
  ((Text.splitAt ' ' spaced).filter fun w => !w.isEmpty).map String.ofList

/-- The variables of the environment among those of the given names. -/
def environmentOf (names : List String) : IO Dotenv.Environment := do
  let found ← names.mapM fun name => do
    return (← IO.getEnv name).map fun value => (name, value)
  return found.filterMap id

/-- A line of input as a request, and whether it is meant for those who watch. -/
def requestOf (line : String) : Bool × Http.Request :=
  let chars := Text.trim line.toList
  let (first, rest) := Text.cutAt ' ' chars
  let toWatchers := first = "status".toList
  let chars := if toWatchers then rest.getD [] else chars
  let (method, rest) := Text.cutAt ' ' chars
  let (target, body) := Text.cutAt ' ' (rest.getD [])
  (toWatchers,
    { method := Http.Method.ofName (String.ofList method)
      target := Http.Target.ofText (String.ofList target)
      headers := [("content-type", "application/json")]
      body := Text.Utf8.encode (String.ofList (body.getD [])) })

/-- Writes an answer on a line of its own. -/
def writeAnswer (out : IO.FS.Stream) (r : Http.Response) : IO Unit := do
  out.putStr (toString r.status ++ " " ++ r.body ++ "\n")
  out.flush

/-- Writes what the program has said, and forgets it. -/
def flushLog (err : IO.FS.Stream) (p : Program.Serving) : IO Program.Serving := do
  p.stderr.forM fun l => err.putStr (l ++ "\n")
  return { p with stderr := [] }

/-- Serves requests until the input ends. -/
partial def serve (input out err : IO.FS.Stream) (p : Program.Serving) :
    IO Program.Serving := do
  let p ← flushLog err p
  let line ← input.getLine
  if line.isEmpty then return p
  match requestOf line with
  | (true, r) =>
    writeAnswer out (p.watch r)
    serve input out err p
  | (false, r) =>
    let (answer, p) := p.request r
    answer.forM (writeAnswer out)
    serve input out err p

/-- Writes what the program leaves behind. -/
def finish (out err : IO.FS.Stream) (e : Program.Exit) : IO UInt32 := do
  e.stdout.forM fun l => out.putStr (l ++ "\n")
  e.stderr.forM fun l => err.putStr (l ++ "\n")
  return UInt32.ofNat e.code

end OfferService.Terminal

open OfferService OfferService.Terminal in
/-- Runs the program. -/
def main (arguments : List String) : IO UInt32 := do
  let dotenv ← try some <$> IO.FS.readFile ".env" catch _ => pure none
  let environment ← environmentOf
    (Setting.all.map Setting.envName ++ ["RUST_LOG", "RUST_LOG_STYLE"] ++ words (dotenv.getD ""))
  let (input, out, err) := (← IO.getStdin, ← IO.getStdout, ← IO.getStderr)
  match Program.start { arguments, environment, dotenv } with
  | .inl e => finish out err e
  | .inr p => do
    let p ← serve input out err p
    finish out err (p.stop "SIGTERM")
