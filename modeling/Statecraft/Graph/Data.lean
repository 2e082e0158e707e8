import Statecraft.Graph.Basic
import Statecraft.Shape.Scalar

/-!
# Graphs as documents

The form in which graphs are exchanged with a canvas.
-/

namespace Statecraft

open Shape (Checked)

/-- An optional value under the outer name, or else under the inner one. -/
def optionalAs (entries : Document.Entries) (outer inner : String) (absent : α)
    (check : Document → Checked α) : Checked α :=
  match Document.Entries.get? entries outer, Document.Entries.get? entries inner with
  | some d, _ => (check d).atKey outer
  | none, some d => (check d).atKey inner
  | none, none => .ok absent

namespace Node

def ofDocument (d : Document) : Checked Node :=
  (Shape.record "StateNode" d).andThen fun entries =>
    let id := Shape.required entries "id" Shape.text
    let label := Shape.required entries "label" Shape.text
    let isInitial := optionalAs entries "isInitial" "is_initial" false Shape.boolean
    let position := Shape.optional entries "position" Position.origin Position.ofDocument
    let head := Checked.both (fun i l => (i, l)) id label
    let full := Checked.both (fun p b => (p, b)) head isInitial
    Checked.both (fun p q => ⟨p.1.1, p.1.2, p.2, q⟩) full position

def toDocument (n : Node) : Document :=
  .object [("id", .text n.id), ("label", .text n.label), ("isInitial", .bool n.isInitial),
    ("position", n.position.toGraphDocument)]

end Node

namespace Edge

/-- A guard's text, or null. -/
def guardOf (d : Document) : Checked (Option String) :=
  match d.content with
  | .null => .ok none
  | d => (Shape.text d).map some

/-- At least one source; when every item has an issue there are too few as well. -/
def sourcesOf (d : Document) : Checked (List String) :=
  (Shape.tuple d).andThen fun items =>
    let checks := Checked.items Shape.text items
    if items.any fun i => (Shape.text i).value?.isSome then checks
    else Checked.both (fun ss _ => ss) checks (.fail (.tooFew .tuple) : Checked Unit)

def ofDocument (d : Document) : Checked Edge :=
  (Shape.record "TransitionEdge" d).andThen fun entries =>
    let target := Shape.required entries "target" Shape.text
    let event := Shape.required entries "event" Shape.text
    let guard := Shape.optional entries "guard" none guardOf
    let sources :=
      match Document.Entries.get? entries "sourceStates",
        Document.Entries.get? entries "source_states" with
      | some d, _ => (sourcesOf d).atKey "sourceStates"
      | none, some d => (sourcesOf d).atKey "source_states"
      | none, none => (Checked.fail .missing).atKey "sourceStates"
    let head := Checked.both (fun t e => (t, e)) target event
    let full := Checked.both (fun p g => (p, g)) head guard
    Checked.both (fun p ss => Edge.of p.1.1 p.1.2 p.2 ss) full sources

def toDocument (e : Edge) : Document :=
  .object [("target", .text e.target), ("event", .text e.event),
    ("guard", (e.guard.map Document.text).getD .null), ("sourceStates", .texts e.sources),
    ("source", .text e.source), ("id", .text e.id)]

end Edge

namespace Graph

/-- The first item that has an issue, or all of them. -/
def firstIssue (check : Document → Checked α) : List Document → Checked (List α)
  | [] => .ok []
  | d :: r => (check d).andThen fun a => (firstIssue check r).map (a :: ·)

def itemsAt (d : Document) (key : String) : List Document :=
  match (d.get? key).map Document.content with
  | some (.list items) => items
  | _ => []

/-- A graph from its nodes and edges; only the issues of the first bad one are
reported. -/
def ofDocument (d : Document) : Checked Graph :=
  (firstIssue Node.ofDocument (itemsAt d "nodes")).andThen fun nodes =>
    (firstIssue Edge.ofDocument (itemsAt d "edges")).map fun edges => ⟨nodes, edges⟩

def toDocument (g : Graph) : Document :=
  .object [("nodes", .list (g.nodes.map Node.toDocument)),
    ("edges", .list (g.edges.map Edge.toDocument))]

end Graph

end Statecraft
