import NovelScript.Command.Perform

/-!
# Running the program

A command line is read, done, and ends in a code: zero when all went well, one when something went
wrong, two when the command line made no sense. The last is told to the user alone, together with
how the program is used; anything else that goes wrong is logged, too.
-/

namespace NovelScript.Command

/-- The record of a command that starts. -/
def startRecord (name : Text) (count : Nat) : Log.Record :=
  { level := .debug, message := Text.lit "start"
    attributes := [(Text.lit "cmd", .text name), (Text.lit "args", .int count)]
    place := some component }

/-- The record of a command that fails. -/
def failedRecord (name message : Text) : Log.Record :=
  { level := .error, message := Text.lit "command failed"
    attributes := [(Text.lit "cmd", .text name), (Text.lit "err", .fault message)]
    place := some component }

/-- The request of a command line, done. -/
def obey (args : List Text) : Session Outcome := do
  match Request.ofArguments args with
  | .ok r => perform r
  | .error e => throw (.usage e)

/-- Tells a problem to the user. The log of a failed command is the one that was in force when it
started. -/
def complain (log : LogSettings) (name : Text) (p : Problem) (w : World) : Nat × World :=
  let told (x : Session Unit) (w : World) : World :=
    match x w with
    | .ok _ w => w
    | .error _ w => w
  match p with
  | .usage e =>
    (2, told (do sayError e.message; say .err (usageText (shownVersion w.version))) w)
  | p =>
    (1, told (sayError p.message)
      (w.record log (·.component component) (failedRecord name p.message)))

/-- Runs the program on a command line. -/
def run (args : List Text) (w : World) : Outcome × World :=
  let name := args.headD []
  let w := if args.isEmpty then w
    else w.record w.log (·.component component) (startRecord name args.length)
  match obey args w with
  | .ok o w' => (o, w')
  | .error p w' =>
    let (code, w') := complain w.log name p w'
    (.finished code, w')

/-- The directory that a command line works on, where the program may leave something behind: the
one that is built or watched, if it is there. -/
def stateRoot (d : Files.Disk Content) : List Text → Text
  | name :: path :: _ =>
    if name == Text.lit "build" || name == Text.lit "watch" then
      match d.find path with
      | .ok e => if e.isDirectory then path else Files.directory path
      | .error _ => []
    else []
  | _ => []

end NovelScript.Command
