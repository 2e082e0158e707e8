import Statecraft.Definition.Basic

/-!
# Definitions from documents

Checks the shape of a document and makes it a definition. Annotations stay as
they are, shared places included.
-/

namespace Statecraft

open Shape (Checked Issue)

/-- A text, or a list of texts; if it is neither, both say why. -/
def Origin.ofDocument (d : Document) : Checked Origin :=
  match Shape.text d with
  | .ok s => .ok (.one s)
  | .bad textIssues =>
    match Shape.texts d with
    | .ok ss => .ok (.many ss)
    | .bad listIssues =>
      .bad (((Checked.bad textIssues : Checked Unit).atKey "str").issues
        ++ ((Checked.bad listIssues : Checked Unit).atKey "list[str]").issues)

/-- The value under the outer name, or else under the inner one, which is missed
under the outer one. -/
def requiredAs (entries : Document.Entries) (outer inner : String)
    (check : Document → Checked α) : Checked α :=
  match Document.Entries.get? entries outer, Document.Entries.get? entries inner with
  | some d, _ => (check d).atKey outer
  | none, some d => (check d).atKey inner
  | none, none => (Checked.fail .missing).atKey outer

/-- A guard's text, or null. -/
def guardOfDocument (d : Document) : Checked (Option String) :=
  match d.content with
  | .null => .ok none
  | d => (Shape.text d).map some

def Transition.ofDocument (d : Document) : Checked Transition :=
  (Shape.record "TransitionSpec" d).andThen fun entries =>
    let origin := requiredAs entries "from" "source" Origin.ofDocument
    let event := Shape.required entries "event" Shape.text
    let target := requiredAs entries "to" "target" Shape.text
    let guard := Shape.optional entries "guard" none guardOfDocument
    let head := Checked.both (fun o e => (o, e)) origin event
    let full := Checked.both (fun p t => (p, t)) head target
    Checked.both (fun p g => Transition.of p.1.1 p.1.2 p.2 g) full guard

/-- A key as a step of a path: a whole number that fits a word is an index. -/
def stepOfKey (d : Document) : Shape.Step :=
  match d.content with
  | .text s => .key s
  | .int n => if Shape.fitsWord n then .index n else .key d.display
  | .bool b => .index (if b then 1 else 0)
  | d => .key d.display

/-- Annotations: a mapping with text keys. Of two keys for one text the later one counts, in the
place of the earlier. -/
def Annotations.ofDocument (d : Document) : Checked Annotations :=
  match d.content with
  | .null => .ok []
  | .map entries =>
    let named := Checked.all <| entries.map fun e =>
      (((Shape.text e.1).atKey "[key]").within (stepOfKey e.1)).map (·, e.2)
    named.map fun es => es.foldl (fun a e => a.set e.1 e.2) ([] : Annotations)
  | _ => .fail .notMapping

def Definition.ofDocument (d : Document) : Checked Definition :=
  (Shape.record "MachineDefinition" d).andThen fun entries =>
    let states := Shape.optional entries "states" [] Shape.texts
    let initial := Shape.optional entries "initial" "" Shape.text
    let transitions := Shape.optional entries "transitions" [] fun d =>
      (Shape.list d).andThen (Checked.items Transition.ofDocument)
    let annotations := Shape.optional entries "meta" [] Annotations.ofDocument
    let head := Checked.both (fun s i => (s, i)) states initial
    let full := Checked.both (fun p t => (p, t)) head transitions
    Checked.both (fun p a => ⟨p.1.1, p.1.2, p.2, a⟩) full annotations

end Statecraft
