import Statecraft.Console.Terminal

/-!
# Terminals as plain text

How items and questions look where there are only lines of text, and which answer a
typed line gives.
-/

namespace Statecraft.Console

/-- The text with blanks behind it up to a width. -/
def padded (width : Nat) (text : String) : String :=
  text ++ String.ofList (List.replicate (width - text.length) ' ')

/-- The widths of columns, each as wide as its widest cell. -/
def columnWidths (rows : List (List String)) (columns : Nat) : List Nat :=
  (List.range columns).map fun i =>
    rows.foldl (fun width row => max width ((row[i]?).getD "").length) 0

/-- The lines of an item. -/
def Shown.lines : Shown → List String
  | .line text => [text]
  | .panel body title | .code body title => title :: (body.splitOn "\n").map ("  " ++ ·)
  | .table title columns rows =>
    let widths := columnWidths (columns :: rows) columns.length
    let row := fun (cells : List String) =>
      "  ".intercalate ((cells.zip widths).map fun c => padded c.2 c.1)
    title :: (columns :: rows).map row

def Output.onScreen : Output → String
  | .shown item => String.join (item.lines.map (· ++ "\n"))
  | .text s => s

/-- Choices with their numbers. -/
def numbered (choices : List String) : List String :=
  (choices.zipIdx 1).map fun c => "  " ++ Decimal.natText c.2 ++ ". " ++ c.1

/-- What is asked, with what an empty line stands for. -/
def Question.onScreen : Question → String
  | .text message filled =>
    message ++ (if filled.isEmpty then "" else " (" ++ filled ++ ")") ++ ": "
  | .confirm message filled => message ++ (if filled then " (Y/n) " else " (y/N) ")
  | .select message choices => "\n".intercalate (message :: numbered choices) ++ "\nNumber: "
  | .checkbox message choices =>
    "\n".intercalate (message :: numbered choices) ++ "\nNumbers, with commas: "

/-- The choice with a number. -/
def choice? (choices : List String) (number : String) : Option String :=
  (Text.strip number).toNat?.bind fun n => if n == 0 then none else choices[n - 1]?

/-- The answer that a typed line gives, none if it has to be asked again. -/
def Question.answer? (line : String) : Question → Option Answer
  | .text _ filled => some (.text (if line.isEmpty then filled else line))
  | .confirm _ filled =>
    match Text.lower (Text.strip line) with
    | "" => some (.flag filled)
    | "y" | "yes" => some (.flag true)
    | "n" | "no" => some (.flag false)
    | _ => none
  | .select _ choices => (choice? choices line).map .text
  | .checkbox _ choices =>
    if Text.isBlankText line then some (.picks [])
    else ((line.splitOn ",").mapM (choice? choices)).map .picks

end Statecraft.Console
