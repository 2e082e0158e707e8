import Statecraft.Console.Markup
import Statecraft.Definition.Source
import Statecraft.Settings.Layers

/-!
# What a command does at a terminal

A terminal holds what commands work with, the folder and the variables, and what
they leave there: shown items, questions, warnings, changed files. A command is an
`Act`: it changes the terminal and gives a value, or stops. What it has done before
it stops stays done.
-/

namespace Statecraft.Console

/-- What is shown, without its styles. -/
inductive Shown where
  | line (text : String)
  | panel (body title : String)
  | code (body title : String)
  | table (title : String) (columns : List String) (rows : List (List String))
  deriving DecidableEq, Repr

/-- What comes out of a command: items that are shown, and texts for other programs. -/
inductive Output where
  | shown (item : Shown)
  | text (text : String)
  deriving DecidableEq, Repr

/-- A question with what it offers: the answer that is filled in, or the choices. -/
inductive Question where
  | text (message filled : String)
  | confirm (message : String) (filled : Bool)
  | select (message : String) (choices : List String)
  | checkbox (message : String) (choices : List String)
  deriving DecidableEq, Repr

/-- The answer to a question; none if it is called off. -/
inductive Answer where
  | text (text : String)
  | flag (value : Bool)
  | picks (choices : List String)
  | nothing
  deriving DecidableEq, Repr

/-- Terminals. Without `answers` nobody is there to ask; with them, they are the answers
that are still to come. -/
structure Terminal where
  folder : Folder
  environment : List (String × String)
  answers : Option (List Answer)
  questions : List Question
  outputs : List Output
  level : Option LogLevel
  warnings : List String

namespace Terminal

/-- A terminal at which nothing has happened. -/
def start (folder : Folder) (environment : List (String × String))
    (answers : Option (List Answer)) : Terminal :=
  ⟨folder, environment, answers, [], [], none, []⟩

/-- Warnings are shown. -/
def showsWarnings (t : Terminal) : Bool :=
  match t.level with
  | some level => LogLevel.warning.isShown level
  | none => true

/-- The items shown so far. -/
def items (t : Terminal) : List Shown :=
  t.outputs.filterMap fun
    | .shown item => some item
    | .text _ => none

/-- The texts for other programs so far, one after the other. -/
def texts (t : Terminal) : String :=
  String.join <| t.outputs.filterMap fun
    | .shown _ => none
    | .text s => some s

end Terminal

/-- What is wrong with an answer: picks or a flag where a text is worked on, and a flag where
picks are looked up. -/
inductive AnswerFault where
  | noText (answer : Answer) (need : String)
  | noPicks
  deriving DecidableEq, Repr

def AnswerFault.message : AnswerFault → String
  | .noText answer need =>
    let kind := match answer with
      | .picks _ => "list"
      | .flag _ => "bool"
      | _ => "str"
    "'" ++ kind ++ "' object has no attribute '" ++ need ++ "'"
  | .noPicks => "argument of type 'bool' is not iterable"

/-- An error that no command expects. -/
inductive Fault where
  | answer (fault : AnswerFault)
  | markup (fault : MarkupFault)
  | settings (error : Settings.LoadError)
  | source (error : SourceError)
  | target (error : TargetError)
  | shape (issues : List Shape.Issue)
  | limit (error : Decimal.LimitError)
  deriving DecidableEq, Repr

/-- Why a command stops before its end. -/
inductive Stop where
  | exit (code : Nat)
  | crash (fault : Fault)
  deriving DecidableEq, Repr

abbrev Act (α : Type) := ExceptT Stop (StateM Terminal) α

/-- The value of a result; its error stops the command. -/
def orCrash (result : Except ε α) (fault : ε → Fault) : Act α :=
  match result with
  | .ok a => pure a
  | .error e => throw (.crash (fault e))

def exit (code : Nat) : Act α := throw (.exit code)

/-! ## Output -/

def put (output : Output) : Act Unit :=
  modify fun t => { t with outputs := t.outputs ++ [output] }

/-- The text that markup shows. -/
def rendered (markup : String) : Act String := orCrash (render markup) .markup

/-- A line of markup. -/
def line (markup : String) : Act Unit := do
  put (.shown (.line (← rendered markup)))

/-- A line without markup. -/
def plainLine (text : String) : Act Unit := put (.shown (.line (visible text)))

def blankLine : Act Unit := put (.shown (.line ""))

/-- A character of a control sequence: a parameter, one between the parameters and the end, or
the end. -/
inductive CodePart where
  | parameter
  | between
  | final
  deriving DecidableEq, Repr

def CodePart.of? (c : Char) : Option CodePart :=
  let n := c.toNat
  if 0x20 ≤ n && n ≤ 0x2F then some .between
  else if 0x30 ≤ n && n ≤ 0x3F then some .parameter
  else if 0x40 ≤ n && n ≤ 0x7E then some .final
  else none

/-- The number of characters of the control sequence whose opening bracket stands in front of the
text. -/
def codeLength? (text : List Char) : Option Nat :=
  let parameters := text.takeWhile fun c => CodePart.of? c == some .parameter
  let rest := text.drop parameters.length
  let between := rest.takeWhile fun c => CodePart.of? c == some .between
  if (rest.drop between.length).head?.any fun c => CodePart.of? c == some .final then
    some (parameters.length + between.length + 1)
  else none

/-- The text without the control sequences that set colours and move the cursor. -/
def withoutCodes (text : List Char) : List Char :=
  match text with
  | [] => []
  | c :: r =>
    if c.toNat == 27 && r.head? == some '[' then
      match codeLength? (r.drop 1) with
      | some n => withoutCodes (r.drop (n + 1))
      | none => c :: withoutCodes r
    else c :: withoutCodes r
termination_by text.length
decreasing_by all_goals simp only [List.length_cons, List.length_drop]; omega

/-- A text for other programs, with an end of line. -/
def echo (text : String) : Act Unit :=
  put (.text (String.ofList (withoutCodes text.toList) ++ "\n"))

/-- A warning in the log. -/
def warn (message : String) : Act Unit :=
  modify fun t => if t.showsWarnings then { t with warnings := t.warnings ++ [message] } else t

/-! ## Questions -/

/-- Somebody is there to answer. -/
def isInteractive : Act Bool := do
  return (← get).answers.isSome

/-- The next answer. Without one the command ends. -/
def ask (question : Question) : Act Answer := do
  modify fun t => { t with questions := t.questions ++ [question] }
  match (← get).answers with
  | some (.nothing :: rest) => do
    modify fun t => { t with answers := some rest }
    exit 0
  | some (answer :: rest) => do
    modify fun t => { t with answers := some rest }
    return answer
  | _ => exit 0

/-- The answer to a question for a text; `need` is what is done with it. -/
def askText (message filled need : String) : Act String := do
  match ← ask (.text message filled) with
  | .text s => return s
  | answer => throw (.crash (.answer (.noText answer need)))

/-- A question of yes or no; a text or picks count as yes unless they are empty. -/
def confirm (message : String) (filled : Bool) : Act Bool := do
  match ← ask (.confirm message filled) with
  | .flag b => return b
  | .text s => return !s.isEmpty
  | .picks picked => return !picked.isEmpty
  | .nothing => return false

/-- One of several choices; an answer that is no text is none of them. -/
def select (message : String) (choices : List String) : Act String := do
  match ← ask (.select message choices) with
  | .text s => return s
  | _ => return ""

/-- One text stands somewhere in another. -/
def occursIn (part whole : List Char) : Bool :=
  match whole with
  | [] => part.isEmpty
  | _ :: r => part.isPrefixOf whole || occursIn part r

/-- Some of several choices, in the order in which they are offered; a text picks those that occur
in it. -/
def checkbox (message : String) (choices : List String) : Act (List String) := do
  match ← ask (.checkbox message choices) with
  | .picks picked => return choices.filter picked.contains
  | .text s => return choices.filter fun c => occursIn c.toList s.toList
  | _ => throw (.crash (.answer .noPicks))

/-- The number of answers that are still to come. -/
def answersLeft : Act Nat := do
  return ((← get).answers.getD []).length

/-! ## Files and settings -/

/-- The settings at this terminal. -/
def loadSettings (config : Option Path) : Act Settings := do
  let t ← get
  let loaded := Settings.load ⟨t.folder, t.environment⟩ (config.map Path.text) []
  loaded.warnings.forM fun w => warn w.message
  orCrash loaded.result .settings

/-- From here on, messages below a level are not shown. -/
def setLevel (level : LogLevel) : Act Unit := modify fun t => { t with level := some level }

/-- A text stored in a file. -/
def writeFile (path : Path) (text : String) : Act Unit := do
  let folder ← orCrash ((← get).folder.writeText path text) fun e => .target (.path e)
  modify fun t => { t with folder := folder }

end Statecraft.Console
