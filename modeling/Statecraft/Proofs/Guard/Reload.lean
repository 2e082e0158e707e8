import Statecraft.Proofs.Guard.Data
import Statecraft.Proofs.Guard.RoundTrip

/-!
# Trees of texts through JSON

The tree of a text has a JSON text, and from it everything comes back but the fields that begin
with the context's own name: storing them once more cuts the name off. So the tree comes back
equal, and with the same guard text, exactly if it has no such field
(`Group.ofText_write_read`), and `ctx.ctx.a` comes back as `ctx.a` (`Group.nested_context_lost`).
-/

namespace Statecraft.Guard

namespace Condition

variable {c : Condition}

/-- The path goes through a field that has the context's own name. -/
def NamesContext (c : Condition) : Prop := contextDot.toList <+: c.field.toList

instance : DecidablePred NamesContext := fun c =>
  inferInstanceAs (Decidable (contextDot.toList <+: c.field.toList))

/-- A path that does not begin with the context's name is stored as it is. -/
theorem path_of_not_prefix {s : List Char} (dotted : Token.isDotted false s = true)
    (other : ¬ contextDot.toList <+: s) : path (String.ofList s) = String.ofList s := by
  have visible : ∀ c ∈ s, Text.isBlank c = false :=
    fun c hc => isBlank_of_isWordChar (isWordChar_of_isDotted dotted c hc)
  unfold path
  rw [String.toList_ofList, Text.trim_of_not_blank visible]
  dsimp only
  split
  · rename_i r
    exact absurd ⟨r, rfl⟩ other
  · rfl

namespace IsParsed

/-- A field that begins with the context's name is stored without it. -/
theorem path_of_namesContext (h : c.IsParsed) (named : c.NamesContext) :
    ∃ s, c.field.toList = written s ∧ Token.isDotted false s = true ∧
      path c.field = String.ofList s := by
  obtain ⟨s, split⟩ := named
  have field : c.field.toList = written s := split.symm
  have dotted := h.field
  rw [field] at dotted
  replace dotted : Token.isDotted false s = true := dotted
  refine ⟨s, field, dotted, ?_⟩
  rw [← path_written dotted, ← field, String.ofList_toList]

theorem path_of_not_namesContext (h : c.IsParsed) (other : ¬ c.NamesContext) :
    path c.field = c.field := by
  have same := path_of_not_prefix h.field other
  rwa [String.ofList_toList] at same

/-- The field is stored as it was exactly if it does not begin with the context's name. -/
theorem path_eq_iff (h : c.IsParsed) : path c.field = c.field ↔ ¬ c.NamesContext := by
  refine ⟨fun same named => ?_, h.path_of_not_namesContext⟩
  obtain ⟨s, field, _, path⟩ := h.path_of_namesContext named
  rw [path] at same
  rw [← same, String.toList_ofList] at field
  have length := congrArg List.length field
  simp only [written, contextDot, List.length_append] at length
  exact absurd length (by simp)

/-- Storing a parsed condition once more changes its field only. -/
theorem reloaded_eq (h : c.IsParsed) : c.reloaded = { c with field := path c.field } := by
  have value : (if c.operator.needsValue then c.value else .null) = c.value := by
    cases needs : c.operator.needsValue with
    | true => rfl
    | false => exact (h.unary needs).symm
  simp [Condition.reloaded, Condition.of, value]

theorem reloaded (h : c.IsParsed) : c.reloaded.IsParsed := by
  rw [h.reloaded_eq]
  refine ⟨?_, h.value, h.unary⟩
  by_cases named : c.NamesContext
  · obtain ⟨s, _, dotted, path⟩ := h.path_of_namesContext named
    show Token.isDotted false (Condition.path c.field).toList = true
    rwa [path, String.toList_ofList]
  · show Token.isDotted false (Condition.path c.field).toList = true
    rw [h.path_of_not_namesContext named]
    exact h.field

theorem reloaded_eq_self (h : c.IsParsed) (other : ¬ c.NamesContext) : c.reloaded = c := by
  rw [h.reloaded_eq, h.path_of_not_namesContext other]

end IsParsed

end Condition

namespace Tree

mutual

theorem conditions_reloaded (t : Tree) :
    t.reloaded.conditions = t.conditions.map Condition.reloaded := by
  cases t with
  | leaf c => rfl
  | group l items n => exact conditionsList_reloadedList items

theorem conditionsList_reloadedList (items : List Tree) :
    conditionsList (reloadedList items) = (conditionsList items).map Condition.reloaded := by
  cases items with
  | nil => rfl
  | cons t r =>
    rw [reloadedList, conditionsList, conditionsList, List.map_append, conditions_reloaded t,
      conditionsList_reloadedList r]

end

mutual

/-- A tree comes back as it was if each of its conditions does. -/
theorem reloaded_eq_self (t : Tree) (h : ∀ c ∈ t.conditions, c.reloaded = c) : t.reloaded = t := by
  cases t with
  | leaf c => rw [reloaded, h c (List.mem_singleton_self c)]
  | group l items n => rw [reloaded, reloadedList_eq_self items h]

theorem reloadedList_eq_self (items : List Tree)
    (h : ∀ c ∈ conditionsList items, c.reloaded = c) : reloadedList items = items := by
  cases items with
  | nil => rfl
  | cons t r =>
    rw [reloadedList, reloaded_eq_self t fun c hc => h c (List.mem_append_left _ hc),
      reloadedList_eq_self r fun c hc => h c (List.mem_append_right _ hc)]

end

mutual

/-- Equal trees have the same fields. -/
theorem fields_of_same (t u : Tree) (h : t.same u = true) :
    t.conditions.map (·.field) = u.conditions.map (·.field) := by
  cases t with
  | leaf c =>
    cases u with
    | leaf d =>
      simp only [same, Condition.same, Bool.and_eq_true, beq_iff_eq] at h
      simp [conditions, h.1.1.1]
    | group l items n => cases h
  | group l items n =>
    cases u with
    | leaf d => cases h
    | group l' items' n' =>
      simp only [same, Bool.and_eq_true] at h
      exact fieldsList_of_same items items' h.2

theorem fieldsList_of_same (items items' : List Tree) (h : sameList items items' = true) :
    (conditionsList items).map (·.field) = (conditionsList items').map (·.field) := by
  cases items with
  | nil =>
    cases items' with
    | nil => rfl
    | cons u s => cases h
  | cons t r =>
    cases items' with
    | nil => cases h
    | cons u s =>
      simp only [sameList, Bool.and_eq_true] at h
      simp only [conditionsList, List.map_append]
      rw [fields_of_same t u h.1, fieldsList_of_same r s h.2]

end

namespace IsParsed

variable {t : Tree}

/-- Storing once more keeps the fields exactly if none begins with the context's name. -/
theorem fields_reloaded (h : t.IsParsed) :
    t.reloaded.conditions.map (·.field) = t.conditions.map (·.field) ↔
      ∀ c ∈ t.conditions, ¬ c.NamesContext := by
  rw [conditions_reloaded, List.map_map, List.map_inj_left]
  exact forall₂_congr fun c hc => (h.conditions c hc).path_eq_iff

theorem isFilled (h : t.IsParsed) : t.IsFilled := by
  induction h with
  | @leaf c _ => exact .leaf c
  | several some_items _ ih =>
    exact .group (List.ne_nil_of_length_pos (Nat.zero_lt_of_lt some_items)) ih
  | again _ _ ih => exact .group (by simp) (List.forall_mem_singleton.mpr ih)

theorem negated_reloaded (t : Tree) : t.reloaded.negated = t.negated := by
  cases t with
  | leaf c => rfl
  | group l items n => rfl

/-- The tree with its conditions stored once more could have been parsed, too. -/
theorem reloaded (h : t.IsParsed) : t.reloaded.IsParsed := by
  induction h with
  | leaf h => exact .leaf h.reloaded
  | @several l items n some_items _ ih =>
    rw [Tree.reloaded, reloadedList_eq_map]
    refine .several (by simpa using some_items) fun u hu => ?_
    obtain ⟨t, ht, rfl⟩ := List.mem_map.mp hu
    exact ih t ht
  | again _ negated ih =>
    exact .again ih ((negated_reloaded _).trans negated)

theorem readable (h : t.IsParsed) (finite : ∀ c ∈ t.conditions, c.value.isInfinite = false) :
    AllReadable t.conditions :=
  fun c hc _ => (h.conditions c hc).isReadable (finite c hc)

theorem finite_reloaded (h : t.IsParsed)
    (finite : ∀ c ∈ t.conditions, c.value.isInfinite = false) :
    ∀ c ∈ t.reloaded.conditions, c.value.isInfinite = false := by
  intro c hc
  rw [conditions_reloaded] at hc
  obtain ⟨d, hd, rfl⟩ := List.mem_map.mp hc
  rw [(h.conditions d hd).reloaded_eq]
  exact finite d hd

/-- The text of a parsed tree has the same fields, in the same order. -/
theorem text_fields (h : t.IsParsed) (finite : ∀ c ∈ t.conditions, c.value.isInfinite = false) :
    ∃ s t', (Group.ofTree t).text = .ok s ∧ Group.ofText s = .ok (Group.ofTree t') ∧
      t'.conditions.map (·.field) = t.conditions.map (·.field) := by
  have readable : AllReadable (Group.ofTree t).conditions := by
    rw [Group.conditions_ofTree]
    exact h.readable finite
  obtain ⟨t', again, same, _⟩ := h.reread_same finite
  have reread := Group.reread_ofTree t
  rw [again] at reread
  exact ⟨_, t', Group.text_eq_render readable, Group.ofText_render readable reread,
    fields_of_same t' t same⟩

/-- Trees with one text have the same fields. -/
theorem fields_of_text (h : t.IsParsed)
    (finite : ∀ c ∈ t.conditions, c.value.isInfinite = false)
    (same : (Group.ofTree t.reloaded).text = (Group.ofTree t).text) :
    t.reloaded.conditions.map (·.field) = t.conditions.map (·.field) := by
  obtain ⟨s, t', text, read, fields⟩ := h.text_fields finite
  obtain ⟨s', u', text', read', fields'⟩ := h.reloaded.text_fields (h.finite_reloaded finite)
  rw [same, text] at text'
  obtain rfl := Except.ok.inj text'
  rw [read] at read'
  have trees := congrArg Group.conditions (Except.ok.inj read')
  rw [Group.conditions_ofTree, Group.conditions_ofTree] at trees
  rw [← fields', ← trees, fields]

end IsParsed

end Tree

namespace Group

variable {t : Tree}

theorem reloaded_ofTree (t : Tree) : (ofTree t).reloaded = ofTree t.reloaded := by
  cases t with
  | leaf c => rfl
  | group l items n => rfl

theorem isFilled_ofTree (h : t.IsFilled) : (ofTree t).toTree.IsFilled := by
  cases t with
  | leaf c => exact .group (List.cons_ne_nil _ _) (List.forall_mem_singleton.mpr h)
  | group l items n => exact h

/-- **Trees of texts through JSON.** The tree of a text without infinite numbers is written as
JSON, which is read as the same data and loaded with every condition stored once more. The loaded
tree is equal to the first, and has the same text, exactly if no field begins with the context's
own name. -/
theorem ofText_write_read {s : String} {g : Group} (read : ofText s = .ok g)
    (finite : ∀ c ∈ g.conditions, c.value.isInfinite = false) :
    ∃ text, Command.treeStyle.write g.toDocument = .ok text ∧
      Json.read text = .ok g.toDocument ∧
      ofDocument g.toDocument = .ok (some g.reloaded) ∧
      (g.reloaded.same g = true ↔ ∀ c ∈ g.conditions, ¬ c.NamesContext) ∧
      (g.reloaded.text = g.text ↔ ∀ c ∈ g.conditions, ¬ c.NamesContext) := by
  obtain ⟨t, parsed, rfl⟩ := ofText_isParsed read
  rw [conditions_ofTree] at finite ⊢
  have readable : ∀ c ∈ t.conditions, c.value.IsReadable :=
    fun c hc => ((parsed.conditions c hc).isReadable (finite c hc)).value
  obtain ⟨text, written, again, loaded⟩ :=
    read_write Command.treeStyle_isExact (isFilled_ofTree parsed.isFilled)
      (by rwa [conditions_ofTree])
  have kept (h : ∀ c ∈ t.conditions, ¬ c.NamesContext) : t.reloaded = t :=
    t.reloaded_eq_self fun c hc => (parsed.conditions c hc).reloaded_eq_self (h c hc)
  refine ⟨text, written, again, loaded, ?_⟩
  rw [reloaded_ofTree]
  refine ⟨⟨fun same => ?_, fun h => ?_⟩, ⟨fun same => ?_, fun h => ?_⟩⟩
  · have fields : (ofTree t.reloaded).conditions.map (·.field) =
        (ofTree t).conditions.map (·.field) := Tree.fields_of_same _ _ same
    rw [conditions_ofTree, conditions_ofTree] at fields
    exact parsed.fields_reloaded.mp fields
  · rw [kept h]
    exact same_ofTree parsed.same_self
  · exact parsed.fields_reloaded.mp (parsed.fields_of_text finite same)
  · rw [kept h]

/-- A field with the context's name in one text with numbers, quotes and a negated group. -/
theorem ofText_write_read_mixed : ∃ g,
    ofText "ctx.ctx.a >= 2.5 && !(ctx.b || ctx.c == 'x\"y')" = .ok g ∧
      (∀ c ∈ g.conditions, c.value.isInfinite = false) ∧
      ∃ text, Command.treeStyle.write g.toDocument = .ok text ∧
        Json.read text = .ok g.toDocument ∧
        ofDocument g.toDocument = .ok (some g.reloaded) ∧
        (g.reloaded.same g = true ↔ ∀ c ∈ g.conditions, ¬ c.NamesContext) ∧
        (g.reloaded.text = g.text ↔ ∀ c ∈ g.conditions, ¬ c.NamesContext) := by
  have check : (match ofText "ctx.ctx.a >= 2.5 && !(ctx.b || ctx.c == 'x\"y')" with
      | .ok g => g.conditions.all fun c => !c.value.isInfinite
      | .error _ => false) = true := by decide +kernel
  split at check
  · rename_i g read
    have finite : ∀ c ∈ g.conditions, c.value.isInfinite = false := by simpa using check
    exact ⟨g, read, finite, ofText_write_read read finite⟩
  · cases check

/-- The field `a` of the field `ctx`. -/
def twice : Group := ⟨.and, [.leaf ⟨"ctx.a", .exists, .null, false⟩], false⟩

theorem twice_text : twice.text = .ok "ctx.ctx.a" := by decide +kernel

theorem ofText_twice : ofText "ctx.ctx.a" = .ok twice := by
  have readable : AllReadable twice.conditions := by decide +kernel
  have text := text_eq_render readable
  rw [twice_text] at text
  rw [Except.ok.inj text]
  exact ofText_render readable (t := .leaf ⟨"ctx.a", .exists, .null, false⟩) rfl

/-- The field in the context's field is loaded as a field of the context. -/
theorem nested_context_lost : ∃ text g', ofText "ctx.ctx.a" = .ok twice ∧
    (∀ c ∈ twice.conditions, c.value.isInfinite = false) ∧
    Command.treeStyle.write twice.toDocument = .ok text ∧ Json.read text = .ok twice.toDocument ∧
    ofDocument twice.toDocument = .ok (some g') ∧ g'.same twice = false ∧
    twice.text = .ok "ctx.ctx.a" ∧ g'.text = .ok "ctx.a" := by
  have filled : twice.toTree.IsFilled :=
    .group (List.cons_ne_nil _ _) (List.forall_mem_singleton.mpr (.leaf _))
  obtain ⟨text, written, again, loaded⟩ := read_write Command.treeStyle_isExact filled
    (List.forall_mem_singleton.mpr trivial)
  refine ⟨text, _, ofText_twice, List.forall_mem_singleton.mpr rfl, written, again, loaded, ?_,
    twice_text, ?_⟩
  · decide +kernel
  · decide +kernel

end Group

end Statecraft.Guard
