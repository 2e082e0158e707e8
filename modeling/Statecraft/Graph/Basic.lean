import Statecraft.Position

/-!
# The editing graph

One node per state and one edge per event and target. An edge lists every state
that fires its event; it is drawn from the first of them, and that state, the
event and the target make up its id. Main statement: `edgeId_injective`, an id
belongs to one triple of names only.
-/

namespace Statecraft

/-- A name inside an id: hyphens and backslashes get a backslash. -/
def escapeName : List Char → List Char
  | [] => []
  | c :: r => if c == '\\' || c == '-' then '\\' :: c :: escapeName r else c :: escapeName r

/-- Three names joined by hyphens. -/
def edgeIdChars (source event target : List Char) : List Char :=
  escapeName source ++ '-' :: escapeName event ++ '-' :: escapeName target

/-- The id of the edge from `source` by `event` to `target`. -/
def edgeId (source event target : String) : String :=
  String.ofList (edgeIdChars source.toList event.toList target.toList)

theorem escapeName_nil : escapeName [] = [] := rfl

theorem escapeName_cons (c : Char) (r : List Char) :
    escapeName (c :: r) =
      if c = '\\' ∨ c = '-' then '\\' :: c :: escapeName r else c :: escapeName r := by
  simp [escapeName]

/-- The hyphen after an escaped name ends it: inside the name each has a backslash. -/
theorem escapeName_hyphen_cancel {a b x y : List Char}
    (h : escapeName a ++ '-' :: x = escapeName b ++ '-' :: y) : a = b ∧ x = y := by
  induction a generalizing b with
  | nil =>
    cases b with
    | nil => simpa [escapeName_nil] using h
    | cons d b =>
      by_cases hd : d = '\\' ∨ d = '-'
      · simp [escapeName_cons, hd, escapeName_nil] at h
      · simp only [escapeName_cons, hd, if_false, escapeName_nil, List.nil_append, List.cons_append,
          List.cons.injEq] at h
        exact absurd (Or.inr h.1.symm) hd
  | cons c a ih =>
    cases b with
    | nil =>
      by_cases hc : c = '\\' ∨ c = '-'
      · simp [escapeName_cons, hc, escapeName_nil] at h
      · simp only [escapeName_cons, hc, if_false, escapeName_nil, List.nil_append, List.cons_append,
          List.cons.injEq] at h
        exact absurd (Or.inr h.1) hc
    | cons d b =>
      by_cases hc : c = '\\' ∨ c = '-' <;> by_cases hd : d = '\\' ∨ d = '-' <;>
        simp only [escapeName_cons, hc, hd, if_true, if_false, List.cons_append,
          List.cons.injEq, true_and] at h
      · exact ⟨by rw [h.1, (ih h.2).1], (ih h.2).2⟩
      · exact absurd (Or.inl h.1.symm) hd
      · exact absurd (Or.inl h.1) hc
      · exact ⟨by rw [h.1, (ih h.2).1], (ih h.2).2⟩

/-- An id belongs to one source, event and target only. -/
theorem edgeId_injective {s e t s' e' t' : String} (h : edgeId s e t = edgeId s' e' t') :
    s = s' ∧ e = e' ∧ t = t' := by
  have hc := String.ofList_injective h
  simp only [edgeIdChars, List.append_assoc, List.cons_append] at hc
  obtain ⟨hs, rest⟩ := escapeName_hyphen_cancel hc
  obtain ⟨he, rest⟩ := escapeName_hyphen_cancel rest
  have ht := (escapeName_hyphen_cancel (congrArg (· ++ ['-']) rest)).1
  exact ⟨String.toList_injective hs, String.toList_injective he, String.toList_injective ht⟩

structure Node where
  id : String
  label : String
  isInitial : Bool
  position : Position

structure Edge where
  target : String
  event : String
  guard : Option String
  sources : List String
  deriving DecidableEq, Repr

namespace Edge

/-- An edge as it is stored: a blank guard is none, and no source is listed twice. -/
def of (target event : String) (guard : Option String) (sources : List String) : Edge :=
  ⟨target, event, guard.filter (fun s => !Text.isBlankText s), sources.eraseDups⟩

/-- The state the edge is drawn from. -/
def source (e : Edge) : String := e.sources.headD ""

def id (e : Edge) : String := edgeId e.source e.event e.target

/-- What makes edges one: their event and their target. -/
def key (e : Edge) : String × String := (e.event, e.target)

/-- The edge starts or ends in the node. -/
def touches (e : Edge) (node : String) : Bool := node == e.target || e.sources.contains node

end Edge

structure Graph where
  nodes : List Node
  edges : List Edge

namespace Graph

def empty : Graph := ⟨[], []⟩

def node? (g : Graph) (id : String) : Option Node := g.nodes.find? (·.id == id)

def edge? (g : Graph) (id : String) : Option Edge := g.edges.find? (·.id == id)

def nodeIds (g : Graph) : List String := g.nodes.map Node.id

def hasNode (g : Graph) (id : String) : Bool := (g.node? id).isSome

end Graph

end Statecraft
