import Statecraft.Proofs.Definition.Graph
import Statecraft.Session

/-!
# What sessions can hold

A session starts empty, is given definitions whose names fit together, and is edited.
`reachable_wellFormed`: whatever the order, its graph is well-formed.
-/

namespace Statecraft.Session

/-- The sessions that loading and editing lead to. -/
inductive Reachable (settings : Settings) : Session → Prop
  | start : Reachable settings (.start settings)
  | load {s : Session} {d : Definition} (layout : Bool) :
      Reachable settings s → d.NamesFit → Reachable settings (s.load d layout).1
  | apply {s : Session} (e : Edit) : Reachable settings s → Reachable settings (s.apply e).1

theorem ofDefinition_reachable (settings : Settings) {d : Definition} (h : d.NamesFit) :
    Reachable settings (ofDefinition settings d).1 :=
  .load _ .start h

theorem apply_wellFormed {s : Session} (h : s.graph.WellFormed) (e : Edit) :
    (s.apply e).1.graph.WellFormed := by
  unfold apply
  split
  · exact h
  · rename_i he
    exact h.edit he

theorem Reachable.wellFormed {settings : Settings} {s : Session} (h : Reachable settings s) :
    s.graph.WellFormed := by
  induction h with
  | start => exact Graph.WellFormed.empty
  | load layout _ fit _ => exact Definition.toGraph_wellFormed fit _
  | apply e _ ih => exact apply_wellFormed ih e

/-- **No order of loading and editing leads out of the well-formed graphs**, and ids tell the
edges apart. -/
theorem reachable_wellFormed {settings : Settings} {s : Session} (h : Reachable settings s) :
    s.graph.WellFormed ∧ (s.graph.edges.map Edge.id).Nodup :=
  ⟨h.wellFormed, h.wellFormed.edge_ids_distinct⟩

/-- The second of two states renamed and then laid out. -/
theorem reachable_wellFormed_renamed :
    let s := (ofDefinition .default .twoStates).1
    let t := ((s.apply (.renameState "b" "c")).1.apply (.layout .topToBottom .default)).1
    Reachable .default t ∧ t.graph.nodeIds = ["a", "c"] ∧
      t.graph.WellFormed ∧ (t.graph.edges.map Edge.id).Nodup := by
  have reached := Reachable.apply (.layout .topToBottom .default)
    (.apply (.renameState "b" "c") (ofDefinition_reachable .default Definition.twoStates_namesFit))
  exact ⟨reached, by decide +kernel, reachable_wellFormed reached⟩

end Statecraft.Session
