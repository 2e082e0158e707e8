import Mathlib.Order.Bounds.Defs
import Mathlib.Order.WellFoundedSet
import Statecraft.Proofs.Layout.Reach

/-!
# Layers and longest paths

A graph is condensed to its components and the links between them (`Condenses`), and these are
peeled off in layers (`Peels`). Nothing is said of the order in which components, their states or
the components of a layer are listed. However that is done, the number of a state's layer is the
largest number of times that a path which ends there goes from one component into another
(`longest_ofLayers`): a link leads from an earlier layer (`Peels.linked_before`), and each component
but those of the first layer has one from the layer just before (`Peels.linked_from`).

The components of a graph have no cycle, so some of those left can always be peeled off
(`Condenses.exists_free`). What follows for states that reach each other, for arcs between
components and for graphs with the same arcs is `Ranks.Longest.shared`, `Ranks.Longest.rises` and
`Ranks.Longest.unique`.
-/

namespace Statecraft.Layout

open Relation (ReflTransGen)

variable {R : String → String → Prop} {states : List String}

/-- A path that ends in the state goes so many times from one component into another. -/
inductive Arrives (R : String → String → Prop) : Nat → String → Prop
  | start (s : String) : Arrives R 0 s
  | within {n : Nat} {s t : String} : Arrives R n s → R s t → Mutual R s t → Arrives R n t
  | across {n : Nat} {s t : String} : Arrives R n s → R s t → ¬ Mutual R s t → Arrives R (n + 1) t

/-- A path can be led on within the component where it ends. -/
theorem Arrives.on {n : Nat} {s t : String} (h : Arrives R n s) (m : Mutual R s t) :
    Arrives R n t := by
  obtain ⟨there, back⟩ := m
  induction there with
  | refl => exact h
  | tail reaches step ih =>
    exact .within (ih (back.head step)) step ⟨.single step, back.trans reaches⟩

/-- Each state has one rank: how many times at most a path that ends there goes from one component
into another. -/
structure Ranks.Longest (R : String → String → Prop) (states : List String) (ranks : Ranks) :
    Prop where
  one_each : (ranks.map Prod.fst).Perm states
  longest : ∀ p ∈ ranks, IsGreatest {n | Arrives R n p.1} p.2

namespace Ranks.Longest

variable {ranks ranks' : Ranks} {p q : String × Nat}

theorem shared (h : ranks.Longest R states) (hp : p ∈ ranks) (hq : q ∈ ranks)
    (m : Mutual R p.1 q.1) : p.2 = q.2 := by
  have same : {n | Arrives R n p.1} = {n | Arrives R n q.1} :=
    Set.ext fun n => ⟨fun a => a.on m, fun a => a.on m.symm⟩
  have greatest := h.longest p hp
  rw [same] at greatest
  exact greatest.unique (h.longest q hq)

theorem rises (h : ranks.Longest R states) (hp : p ∈ ranks) (hq : q ∈ ranks) (step : R p.1 q.1)
    (apart : ¬ Mutual R p.1 q.1) : p.2 < q.2 :=
  (h.longest q hq).2 (.across (h.longest p hp).1 step apart)

theorem unique (h : ranks.Longest R states) (h' : ranks'.Longest R states) :
    p ∈ ranks ↔ p ∈ ranks' := by
  have half {a b : Ranks} (ha : a.Longest R states) (hb : b.Longest R states) (hp : p ∈ a) :
      p ∈ b := by
    have known := (ha.one_each.trans hb.one_each.symm).subset (List.mem_map_of_mem hp)
    obtain ⟨q, hq, same⟩ := List.mem_map.mp known
    have greatest := hb.longest q hq
    rw [same] at greatest
    rwa [Prod.ext same.symm ((ha.longest p hp).unique greatest)]
  exact ⟨half h h', half h' h⟩

end Ranks.Longest

/-! ## Peeling -/

section Peeling

variable {γ : Type} {links : List (γ × γ)} {left : List γ} {layers : List (List γ)}

/-- Layers peeled off one after the other: each has the items to which none of those left is
linked, until nothing is left. -/
inductive Peels (links : List (γ × γ)) : List γ → List (List γ) → Prop
  | done : Peels links [] []
  | layer {left layer rest : List γ} {layers : List (List γ)} (split : (layer ++ rest).Perm left)
      (free : ∀ d ∈ layer, ∀ c ∈ left, (c, d) ∉ links)
      (linked : ∀ d ∈ rest, ∃ c ∈ left, (c, d) ∈ links) (next : Peels links rest layers) :
      Peels links left (layer :: layers)

/-- The item is in the layer of that number. -/
def InLayer (layers : List (List γ)) (n : Nat) (c : γ) : Prop := ∃ l, layers[n]? = some l ∧ c ∈ l

@[simp] theorem inLayer_nil (n : Nat) (c : γ) : ¬ InLayer [] n c := by simp [InLayer]

@[simp] theorem inLayer_zero (l : List γ) (layers : List (List γ)) (c : γ) :
    InLayer (l :: layers) 0 c ↔ c ∈ l := by simp [InLayer]

@[simp] theorem inLayer_succ (l : List γ) (layers : List (List γ)) (n : Nat) (c : γ) :
    InLayer (l :: layers) (n + 1) c ↔ InLayer layers n c := by simp [InLayer]

theorem mem_of_inLayer {n : Nat} {c : γ} (h : InLayer layers n c) : c ∈ layers.flatten := by
  obtain ⟨l, there, hc⟩ := h
  exact List.mem_flatten.mpr ⟨l, List.mem_of_getElem? there, hc⟩

namespace Peels

/-- Everything is in some layer, and once. -/
theorem perm (h : Peels links left layers) : layers.flatten.Perm left := by
  induction h with
  | done => exact .refl _
  | layer split _ _ _ ih => exact (ih.append_left _).trans split

/-- What is linked to an item is in an earlier layer. -/
theorem linked_before (h : Peels links left layers) {n : Nat} {c d : γ} (hd : InLayer layers n d)
    (hc : c ∈ left) (link : (c, d) ∈ links) : ∃ m < n, InLayer layers m c := by
  induction h generalizing n with
  | done => exact absurd hd (inLayer_nil n d)
  | @layer left layer rest layers split free _ _ ih =>
    cases n with
    | zero => exact absurd link (free d ((inLayer_zero ..).mp hd) c hc)
    | succ n =>
      rcases List.mem_append.mp (split.mem_iff.mpr hc) with first | later
      · exact ⟨0, Nat.succ_pos n, (inLayer_zero ..).mpr first⟩
      · obtain ⟨m, before, hm⟩ := ih ((inLayer_succ ..).mp hd) later
        exact ⟨m + 1, Nat.succ_lt_succ before, (inLayer_succ ..).mpr hm⟩

/-- To an item that is not in the first layer, one of the layer just before is linked. -/
theorem linked_from (h : Peels links left layers) {n : Nat} {d : γ}
    (hd : InLayer layers (n + 1) d) : ∃ c, InLayer layers n c ∧ (c, d) ∈ links := by
  induction h generalizing n with
  | done => exact absurd hd (inLayer_nil _ d)
  | @layer left layer rest layers split _ linked next ih =>
    rw [inLayer_succ] at hd
    cases n with
    | zero =>
      obtain ⟨c, hc, link⟩ := linked d (next.perm.subset (mem_of_inLayer hd))
      refine ⟨c, (inLayer_zero ..).mpr ?_, link⟩
      refine (List.mem_append.mp (split.mem_iff.mpr hc)).resolve_right fun later => ?_
      obtain ⟨m, before, _⟩ := next.linked_before hd later link
      exact Nat.not_lt_zero m before
    | succ n =>
      obtain ⟨c, hc, link⟩ := ih hd
      exact ⟨c, (inLayer_succ ..).mpr hc, link⟩

end Peels

end Peeling

theorem mem_ofLayers {layers : List (List (List String))} {s : String} {n : Nat} :
    (s, n) ∈ Ranks.ofLayers layers ↔ ∃ c, InLayer layers n c ∧ s ∈ c := by
  unfold Ranks.ofLayers InLayer
  rw [List.mem_flatMap]
  constructor
  · rintro ⟨⟨l, m⟩, there, hs⟩
    obtain ⟨_, hc, same⟩ := List.mem_map.mp hs
    obtain ⟨rfl, rfl⟩ := Prod.mk.inj same
    obtain ⟨c, hc, hs⟩ := List.mem_flatten.mp hc
    exact ⟨c, ⟨l, List.mem_zipIdx_iff_getElem?.mp there, hc⟩, hs⟩
  · rintro ⟨c, ⟨l, there, hc⟩, hs⟩
    exact ⟨(l, n), List.mem_zipIdx_iff_getElem?.mpr there,
      List.mem_map.mpr ⟨s, List.mem_flatten.mpr ⟨c, hc, hs⟩, rfl⟩⟩

theorem map_fst_ofLayers (layers : List (List (List String))) :
    (Ranks.ofLayers layers).map Prod.fst = layers.flatten.flatten := by
  have firsts : (fun l : List (List String) × Nat => (l.1.flatten.map (·, l.2)).map Prod.fst) =
      List.flatten ∘ Prod.fst := by
    funext l
    simp [Function.comp_def]
  unfold Ranks.ofLayers
  rw [List.map_flatMap, firsts, List.flatMap_def, ← List.map_map, List.zipIdx_map_fst,
    List.flatten_flatten]

/-! ## Components -/

/-- A graph's components and their links: each state is in one component, with those that it
reaches and is reached by, and arcs between different components are links. -/
structure Condenses (R : String → String → Prop) (states : List String)
    (components : List (List String)) (links : List (List String × List String)) : Prop where
  covers : components.flatten.Perm states
  mutual_iff : ∀ c ∈ components, ∀ d ∈ components, ∀ s ∈ c, ∀ t ∈ d, Mutual R s t ↔ c = d
  mem_links : ∀ c d, (c, d) ∈ links ↔
    c ∈ components ∧ d ∈ components ∧ c ≠ d ∧ ∃ s ∈ c, ∃ t ∈ d, R s t

section Components

variable {components : List (List String)} {links : List (List String × List String)}

/-- A state that reaches another and is not reached by it is before it. -/
def Before (R : String → String → Prop) (s t : String) : Prop :=
  ReflTransGen R s t ∧ ¬ ReflTransGen R t s

instance (R : String → String → Prop) : IsStrictOrder String (Before R) where
  irrefl _ h := h.2 .refl
  trans _ _ _ h k := ⟨h.1.trans k.1, fun back => k.2 (back.trans h.1)⟩

namespace Condenses

variable (h : Condenses R states components links)
include h

/-- Among components there is always one to which none of them is linked. -/
theorem exists_free {part : List (List String)} (some_part : part ≠ [])
    (sub : part ⊆ components) : ∃ d ∈ part, ∀ c ∈ part, (c, d) ∉ links := by
  obtain ⟨d, hd⟩ := List.exists_mem_of_ne_nil part some_part
  by_cases some_state : part.flatten = []
  · refine ⟨d, hd, fun c _ link => ?_⟩
    obtain ⟨_, _, _, _, _, t, ht, _⟩ := (h.mem_links c d).mp link
    exact List.ne_nil_of_mem (List.mem_flatten.mpr ⟨d, hd, ht⟩) some_state
  · -- of the states of the part, take one before which there is none, and its component
    have founded : {s | s ∈ part.flatten}.WellFoundedOn (Before R) :=
      (List.finite_toSet part.flatten).wellFoundedOn
    obtain ⟨s, hs⟩ := List.exists_mem_of_ne_nil _ some_state
    obtain ⟨⟨t, ht⟩, -, first⟩ := founded.has_min Set.univ ⟨⟨s, hs⟩, trivial⟩
    obtain ⟨e, he, ht⟩ := List.mem_flatten.mp ht
    refine ⟨e, he, fun c hc link => ?_⟩
    obtain ⟨-, -, other, u, hu, v, hv, step⟩ := (h.mem_links c e).mp link
    have both := (h.mutual_iff e (sub he) e (sub he) v hv t ht).mpr rfl
    have reaches : ReflTransGen R u t := both.1.head step
    have apart : ¬ ReflTransGen R t u := fun back =>
      other ((h.mutual_iff c (sub hc) e (sub he) u hu t ht).mp ⟨reaches, back⟩)
    exact first ⟨u, List.mem_flatten.mpr ⟨c, hc, hu⟩⟩ trivial ⟨reaches, apart⟩

/-- Each state is in a component. -/
theorem exists_component {s : String} (hs : s ∈ states) : ∃ c ∈ components, s ∈ c :=
  List.mem_flatten.mp (h.covers.mem_iff.mpr hs)

end Condenses

variable {layers : List (List (List String))} (condenses : Condenses R states components links)
  (peels : Peels links components layers)
include condenses peels

/-- A path to a state of a layer has been in no more components than there are layers before. -/
theorem le_of_arrives (closed : ∀ s t, R s t → s ∈ states ∧ t ∈ states) {n m : Nat} {s : String}
    (arrives : Arrives R n s) (hs : (s, m) ∈ Ranks.ofLayers layers) : n ≤ m := by
  induction arrives generalizing m with
  | start s => exact Nat.zero_le m
  | @within n s t _ step both ih =>
    obtain ⟨d, hd, ht⟩ := mem_ofLayers.mp hs
    have here := peels.perm.subset (mem_of_inLayer hd)
    obtain ⟨c, hc, hs⟩ := condenses.exists_component (closed s t step).1
    have same := (condenses.mutual_iff c hc d here s hs t ht).mp both
    exact ih (mem_ofLayers.mpr ⟨d, hd, same ▸ hs⟩)
  | @across n s t _ step apart ih =>
    obtain ⟨d, hd, ht⟩ := mem_ofLayers.mp hs
    have here := peels.perm.subset (mem_of_inLayer hd)
    obtain ⟨c, hc, hs⟩ := condenses.exists_component (closed s t step).1
    have other : c ≠ d := fun same => apart ((condenses.mutual_iff c hc d here s hs t ht).mpr same)
    have link := (condenses.mem_links c d).mpr ⟨hc, here, other, s, hs, t, ht, step⟩
    obtain ⟨k, before, hk⟩ := peels.linked_before hd hc link
    exact Nat.lt_of_le_of_lt (ih (mem_ofLayers.mpr ⟨c, hk, hs⟩)) before

/-- To each state of a layer there is a path through components of all layers before. -/
theorem arrives_of_mem {n : Nat} {s : String} (hs : (s, n) ∈ Ranks.ofLayers layers) :
    Arrives R n s := by
  induction n generalizing s with
  | zero => exact .start s
  | succ n ih =>
    obtain ⟨d, hd, hs⟩ := mem_ofLayers.mp hs
    obtain ⟨c, hc, link⟩ := peels.linked_from hd
    obtain ⟨there, here, other, t, ht, u, hu, step⟩ := (condenses.mem_links c d).mp link
    have apart : ¬ Mutual R t u := fun both =>
      other ((condenses.mutual_iff c there d here t ht u hu).mp both)
    have arrived := Arrives.across (ih (mem_ofLayers.mpr ⟨c, hc, ht⟩)) step apart
    exact arrived.on ((condenses.mutual_iff d here d here u hu s hs).mpr rfl)

/-- **The number of a state's layer is the length of a longest path over components.** -/
theorem longest_ofLayers (closed : ∀ s t, R s t → s ∈ states ∧ t ∈ states) :
    (Ranks.ofLayers layers).Longest R states where
  one_each := by
    rw [map_fst_ofLayers]
    exact peels.perm.flatten.trans condenses.covers
  longest := fun _ hp => ⟨arrives_of_mem condenses peels hp,
    fun _ arrives => le_of_arrives condenses peels closed arrives hp⟩

end Components

end Statecraft.Layout
