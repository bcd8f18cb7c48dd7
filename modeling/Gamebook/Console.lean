import Gamebook.Number.Numeral
import Gamebook.Play.Trace
import Gamebook.Text.Letter

/-!
# The console

On a console the current scene is shown with its numbered choices, and one answer
is read at a time: a number takes the choice displayed under it, one word starts
again, three words leave. Any other answer changes nothing. The playthrough stops
when the story ends, when the player leaves or when the answers run out. What was
shown before a fault stays shown.
-/

namespace Gamebook

/-- Something that appears on a console. -/
inductive ConsolePiece
  | text (text : String)
  | prompt (text : String)
  deriving DecidableEq, Repr

/-- A playthrough on a console: the session, what was shown and what was recorded. -/
structure Console where
  session : Session
  shown : List ConsolePiece := []
  records : List LogRecord := []

namespace Console

/-- Why a playthrough breaks off. -/
inductive Fault
  | number (fault : NumberFault)
  | noStart (issue : Issue)
  deriving DecidableEq, Repr

/-- The fault as a sentence. -/
def Fault.message : Fault → String
  | .number fault => fault.message
  | .noStart issue => failureText [issue.message]

/-- Lines as a text, each with its end. -/
def lineText (lines : List String) : String := String.join (lines.map (· ++ "\n"))

/-- The console after showing lines. -/
def say (console : Console) (lines : List String) : Console :=
  { console with shown := console.shown ++ [.text (lineText lines)] }

/-- The console after asking for an answer. -/
def ask (console : Console) : Console := { console with shown := console.shown ++ [.prompt "> "] }

/-- The console with another session and one more record. -/
def move (console : Console) (session : Session) (record : LogRecord) : Console :=
  { console with session := session, records := console.records ++ [record] }

/-! ## Showing the scene -/

/-- The lines above the choices. -/
def headLines (scene : Scene) : List String :=
  ["", scene.title, String.ofList (List.replicate scene.title.length '=')] ++
    (if scene.description.isEmpty then [] else [scene.description])

/-- The line of a displayed choice. -/
def choiceLine (entry : Availability) : String :=
  "  " ++ Nat.repr (entry.index + 1) ++ ". " ++ entry.choice.text ++
    match entry.reason with
    | some reason => "  [locked: " ++ reason.text ++ "]"
    | none => ""

/-- The lines that list the items in hand. -/
def inventoryLines (items : List (String × Int)) : Except NumberFault (List String) :=
  if items.isEmpty then .ok []
  else do
    let entries ← items.mapM fun (key, count) =>
      (Numeral.write count).map fun digits => key ++ " x" ++ digits
    .ok ["Inventory: " ++ String.intercalate ", " entries]

/-- The lines of the current scene, up to the fault if there is one. -/
def sceneLines (session : Session) : List String × Except NumberFault Unit :=
  match session.scene? with
  | none => (["(the current scene no longer exists)"], .ok ())
  | some scene =>
    let head := headLines scene
    if session.isEnded then (head ++ ["", "The End."], .ok ())
    else
      match session.choices with
      | .error fault => (head, .error fault)
      | .ok entries =>
        let listed := head ++ entries.map choiceLine
        match session.state.inventory.bind inventoryLines with
        | .error fault => (listed, .error fault)
        | .ok items => (listed ++ items, .ok ())

/-- Shows the current scene. -/
def showScene (console : Console) : Except Fault Unit × Console :=
  let (lines, result) := sceneLines console.session
  (result.mapError .number, console.say lines)

/-! ## Answers -/

/-- What an answer asks for. -/
inductive Request
  | leave
  | restart
  | choice (number : Int)
  | unclear
  deriving DecidableEq, Repr

/-- The words that leave the playthrough. -/
def leavingWords : List String := ["q", "quit", "exit"]

/-- What an answer asks for, in any letter case and with blanks around it. An answer of
digit-like characters that spell no number is a fault. -/
def readAnswer (answer : String) : Except NumberFault Request :=
  let text := Text.lower (Text.trim answer)
  if leavingWords.contains text then .ok .leave
  else if text = "restart" then .ok .restart
  else if text.isEmpty || !text.toList.all Text.looksLikeDigit then .ok .unclear
  else (Numeral.read text).map .choice

/-- Starts the story again. -/
def restart (console : Console) : Except Fault Unit × Console :=
  let record := console.session.restartRecord
  match console.session.restart with
  | .error issue => (.error (.noStart issue), console.move console.session record)
  | .ok session => (console.move session record).showScene

/-- The records of taking the choice under a number: none when there is no such choice. -/
def numberRecords (session : Session) (number : Int) (outcome : Outcome) : List LogRecord :=
  if (session.numbered? number).isSome then [outcome.record session.state] else []

/-- Takes the choice that is displayed under a number. -/
def choose (console : Console) (number : Int) : Except Fault Unit × Console :=
  match console.session.chooseNumber number with
  | .error fault => (.error (.number fault), console)
  | .ok (outcome, session) =>
    let next := { console with
      session := session
      records := console.records ++ numberRecords console.session number outcome }
    match outcome with
    | .accepted _ _ => next.showScene
    | .rejected _ refusal _ => (.ok (), next.say ["You can't do that: " ++ refusal.text])

/-- Carries out one answer. Tells whether the player left. -/
def answer (console : Console) (answer : String) : Except Fault Bool × Console :=
  match readAnswer answer with
  | .error fault => (.error (.number fault), console)
  | .ok .leave => (.ok true, console)
  | .ok .unclear => (.ok false, console.say ["Enter the number of a choice."])
  | .ok .restart =>
    let (result, next) := console.restart
    (result.map fun _ => false, next)
  | .ok (.choice number) =>
    let (result, next) := console.choose number
    (result.map fun _ => false, next)

/-- Asks for answers until the story ends, the player leaves or no answer is left. -/
def play (console : Console) : List String → Except Fault Unit × Console
  | [] => (.ok (), if console.session.isEnded then console else console.ask)
  | next :: rest =>
    if console.session.isEnded then (.ok (), console)
    else
      match console.ask.answer next with
      | (.error fault, console) => (.error fault, console)
      | (.ok true, console) => (.ok (), console)
      | (.ok false, console) => console.play rest

/-- Shows what can be typed and the current scene. -/
def opening (session : Session) : Except Fault Unit × Console :=
  (({ session := session } : Console).say ["Type a choice number, 'restart' or 'quit'."]).showScene

/-- A playthrough of a session with some answers. -/
def run (session : Session) (answers : List String) : Except Fault Unit × Console :=
  match opening session with
  | (.error fault, console) => (.error fault, console)
  | (.ok (), console) => console.play answers

/-- The texts that were shown, without the prompts. -/
def texts (console : Console) : String :=
  String.join (console.shown.map fun
    | .text text => text
    | .prompt _ => "")

/-- The prompts that were shown. -/
def prompts (console : Console) : List String :=
  console.shown.filterMap fun
    | .text _ => none
    | .prompt text => some text

/-- Everything that was shown. -/
def output (console : Console) : String :=
  String.join (console.shown.map fun
    | .text text => text
    | .prompt text => text)

end Console

end Gamebook
