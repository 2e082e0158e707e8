import Statecraft.Proofs.Json.Printed
import Statecraft.Yaml.Writer

/-!
# YAML is printed text

A scalar with other characters than printable ASCII and line feeds is written between double quotes,
where these are escaped. So all that a pen writes is printed (`printed_write`), if the marks of
anchors and tags are.
-/

namespace Statecraft.Yaml

open Text (IsPrinted AllPrinted allPrinted_nil allPrinted_cons allPrinted_append)

/-! ## Pens -/

/-- All that the pen has written is printed. -/
def Pen.IsPrinted (pen : Pen) : Prop := AllPrinted pen.written.toList

variable {pen : Pen} {s : List Char} {column : Nat}

namespace Pen.IsPrinted

theorem start : Pen.start.IsPrinted := allPrinted_nil

theorem put (h : pen.IsPrinted) (text : AllPrinted s) : (pen.put s).IsPrinted := by
  show AllPrinted (pen.written ++ String.ofList s).toList
  rw [String.toList_append, String.toList_ofList]
  exact allPrinted_append.mpr ⟨h, text⟩

theorem mark {m : String} (h : pen.IsPrinted) (text : AllPrinted m.toList) :
    (pen.mark m).IsPrinted := by
  refine h.put ?_
  split
  · exact text
  · exact allPrinted_cons.mpr ⟨by decide, text⟩

theorem openingMark {m : String} (h : pen.IsPrinted) (text : AllPrinted m.toList) :
    (pen.openingMark m).IsPrinted :=
  h.mark text

theorem indentMark {m : String} (h : pen.IsPrinted) (text : AllPrinted m.toList) :
    (pen.indentMark m).IsPrinted :=
  h.mark text

theorem joinedMark {m : String} (h : pen.IsPrinted) (text : AllPrinted m.toList) :
    (pen.joinedMark m).IsPrinted :=
  h.put text

theorem lineBreak (h : pen.IsPrinted) : pen.lineBreak.IsPrinted := by
  show AllPrinted (pen.written ++ "\n").toList
  rw [String.toList_append]
  exact allPrinted_append.mpr ⟨h, by decide⟩

theorem indent (h : pen.IsPrinted) (column : Nat) : (pen.indent column).IsPrinted := by
  have blanks : ∀ n, AllPrinted (List.replicate n ' ') := by
    intro n c hc
    rw [List.eq_of_mem_replicate hc]
    decide
  have padded : ∀ {pen : Pen}, pen.IsPrinted → IsPrinted
      (if pen.column < column then
        { pen.put (List.replicate (column - pen.column) ' ') with afterBlank := true }
      else pen) := by
    intro pen h
    split
    · exact h.put (blanks _)
    · exact h
  unfold Pen.indent
  dsimp only
  split
  · exact padded h.lineBreak
  · exact padded h

theorem wrap (h : pen.IsPrinted) (column : Nat) : (pen.wrap column).IsPrinted := by
  unfold Pen.wrap
  split
  · exact h.indent column
  · exact h

end Pen.IsPrinted

/-! ## Scalars -/

theorem leadingRun_subset (test : Char → Bool) (s : List Char) : leadingRun test s ⊆ s := by
  cases s with
  | nil => exact List.Subset.refl _
  | cons c r => exact List.cons_subset_cons c (List.takeWhile_subset _)

theorem printed_plainFrom (fold : Bool) (fuel : Nat) (h : pen.IsPrinted) (text : AllPrinted s) :
    (plainFrom fold column fuel s pen).IsPrinted := by
  induction fuel generalizing s pen with
  | zero => exact h
  | succ fuel ih =>
    cases s with
    | nil => exact h
    | cons c r =>
      have rest : AllPrinted ((c :: r).drop (leadingRun (· == ' ') (c :: r)).length) :=
        fun x hx => text x (List.mem_of_mem_drop hx)
      unfold plainFrom
      dsimp only
      split
      · exact ih (h.indent column) rest
      · exact ih (h.put fun x hx => text x (leadingRun_subset _ _ hx)) rest

theorem Pen.IsPrinted.plain (h : pen.IsPrinted) (fold : Bool) (text : AllPrinted s) :
    (pen.plain fold column s).IsPrinted := by
  unfold Pen.plain
  split
  · exact h
  · refine printed_plainFrom fold _ ?_ text
    show Pen.IsPrinted (if pen.afterBlank then pen else pen.put [' '])
    split
    · exact h
    · exact h.put (by decide)

theorem printed_blankLines (n : Nat) (h : pen.IsPrinted) : (blankLines n pen).IsPrinted := by
  unfold blankLines
  induction n with
  | zero => exact h.lineBreak
  | succ n ih => exact ih.lineBreak

theorem printed_singleFrom (fold : Bool) (fuel : Nat) (first : Bool) (h : pen.IsPrinted)
    (text : AllPrinted s) : (singleFrom fold column fuel first s pen).IsPrinted := by
  induction fuel generalizing first s pen with
  | zero => exact h
  | succ fuel ih =>
    cases s with
    | nil => exact h
    | cons c r =>
      have rest : ∀ n, AllPrinted ((c :: r).drop n) :=
        fun n x hx => text x (List.mem_of_mem_drop hx)
      obtain ⟨char, after⟩ := allPrinted_cons.mp text
      unfold singleFrom
      dsimp only
      split
      · split
        · exact ih _ (h.indent column) (rest _)
        · exact ih _ (h.put fun x hx => text x (leadingRun_subset _ _ hx)) (rest _)
      · split
        · exact ih _ ((printed_blankLines _ h).indent column) (rest _)
        · refine ih _ (h.put ?_) after
          split
          · decide
          · exact List.forall_mem_singleton.mpr char

theorem Pen.IsPrinted.single (h : pen.IsPrinted) (fold : Bool) (text : AllPrinted s) :
    (pen.single fold column s).IsPrinted :=
  (printed_singleFrom fold _ true (h.mark (by decide)) text).joinedMark (by decide)

theorem isPrinted_of_shortEscape? {c e : Char} (h : shortEscape? c = some e) : IsPrinted e := by
  have all : ∀ p ∈ [('\x00', '0'), ('\x07', 'a'), ('\x08', 'b'), ('\t', 't'), ('\n', 'n'),
      ('\x0b', 'v'), ('\x0c', 'f'), ('\r', 'r'), ('\x1b', 'e'), ('"', '"'), ('\\', '\\'),
      ('\u0085', 'N'), ('\u00a0', '_'), ('\u2028', 'L'), ('\u2029', 'P')], IsPrinted p.2 := by
    decide
  obtain ⟨before, after, found, _⟩ := List.lookup_eq_some_iff.mp h
  exact all (c, e) (found ▸ List.mem_append_right _ List.mem_cons_self)

theorem printed_escapeOf (c : Char) : AllPrinted (escapeOf c) := by
  have upper : ∀ width, AllPrinted ((Text.hex width c.toNat).map Char.toUpper) := fun width =>
    List.forall_mem_map.mpr (Text.forall_mem_hex (by decide) width c.toNat)
  unfold escapeOf
  dsimp only
  split
  · rename_i e short
    have char := isPrinted_of_shortEscape? short
    simpa [IsPrinted] using char
  · split
    · simp [IsPrinted, upper]
    · split <;> simp [IsPrinted, upper]

theorem printed_cutLine (next : Option Char) (h : pen.IsPrinted) :
    (cutLine column next pen).IsPrinted := by
  have cut : ((pen.put ['\\']).indent column).inWord.IsPrinted := (h.put (by decide)).indent column
  unfold cutLine
  dsimp only
  split
  · exact cut.put (by decide)
  · exact cut

theorem isPrinted_of_isBare {c : Char} (h : isBare c = true) : IsPrinted c := by
  simp only [isBare, Bool.and_eq_true, decide_eq_true_eq] at h
  exact Or.inr h.1.1

theorem printed_doubleFrom (fold first : Bool) {held : List Char} (h : pen.IsPrinted)
    (waiting : AllPrinted held) : (doubleFrom fold column first held s pen).IsPrinted := by
  have put : ∀ {held : List Char} {pen : Pen}, pen.IsPrinted → AllPrinted held →
      (pen.put held.reverse).IsPrinted :=
    fun h waiting => h.put fun x hx => waiting x (List.mem_reverse.mp hx)
  induction s generalizing first held pen with
  | nil => exact put h waiting
  | cons c r ih =>
    unfold doubleFrom
    dsimp only
    split
    · rename_i bare
      have char := isPrinted_of_isBare bare
      split
      · exact ih _ (printed_cutLine _ (put h waiting)) (List.forall_mem_singleton.mpr char)
      · exact ih _ h (allPrinted_cons.mpr ⟨char, waiting⟩)
    · have escaped := (put h waiting).put (printed_escapeOf c)
      split
      · exact ih _ (printed_cutLine _ escaped) allPrinted_nil
      · exact ih _ escaped allPrinted_nil

theorem Pen.IsPrinted.double (h : pen.IsPrinted) (fold : Bool) (s : List Char) :
    (pen.double fold column s).IsPrinted :=
  (printed_doubleFrom fold true (h.mark (by decide)) allPrinted_nil).joinedMark (by decide)

theorem printed_literalFrom (fuel : Nat) (h : pen.IsPrinted) (text : AllPrinted s) :
    (literalFrom column fuel s pen).IsPrinted := by
  fun_induction literalFrom column fuel s pen with
  | case1 | case2 => exact h
  | case3 fuel r pen ih => exact ih h.lineBreak fun x hx => text x (List.mem_cons_of_mem _ hx)
  | case4 fuel s pen _ _ line rest next ih =>
    refine ih (Pen.IsPrinted.lineBreak (Pen.IsPrinted.put (h.indent column) ?_)) ?_
    · exact fun x hx => text x (List.takeWhile_subset _ hx)
    · exact fun x hx => text x (List.mem_of_mem_drop (List.mem_of_mem_drop hx))

theorem printed_literalHints (s : List Char) : AllPrinted (literalHints s).toList := by
  unfold literalHints
  dsimp only
  split
  · decide
  · rw [String.toList_append]
    refine allPrinted_append.mpr ⟨?_, ?_⟩ <;> split <;> decide

theorem Pen.IsPrinted.literal (h : pen.IsPrinted) (text : AllPrinted s) :
    (pen.literal column s).IsPrinted := by
  refine printed_literalFrom _ (h.mark ?_).lineBreak text
  rw [String.toList_append]
  exact allPrinted_append.mpr ⟨by decide, printed_literalHints s⟩

/-- Only texts of printed characters are written in other styles than between double quotes. -/
theorem Traits.printed (h : (ofText s).inlinePlain ∨ (ofText s).blockPlain ∨ (ofText s).single ∨
    (ofText s).literal) : AllPrinted s := by
  by_contra unprinted
  have special : (s.any fun c => !(c == '\n' || (32 ≤ c.toNat && c.toNat ≤ 126))) = true := by
    unfold AllPrinted at unprinted
    push Not at unprinted
    obtain ⟨c, hc, control⟩ := unprinted
    refine List.any_eq_true.mpr ⟨c, hc, ?_⟩
    simpa [IsPrinted, imp_iff_not_or] using control
  have some_char : s.isEmpty = false := by
    cases s with
    | nil => cases special
    | cons => rfl
  simp only [ofText, some_char, special, Bool.false_eq_true, if_false, Bool.not_true,
    Bool.and_false, Bool.false_and, or_self] at h

theorem printed_of_styleOf {place : Place} {tag : Tag} {style : Style}
    (h : styleOf place tag s = style) (bare : style ≠ .double) : AllPrinted s := by
  by_contra unprinted
  have no_style := mt Traits.printed unprinted
  simp only [not_or, Bool.not_eq_true] at no_style
  obtain ⟨inline, block, single, literal⟩ := no_style
  refine bare (h.symm.trans ?_)
  simp [styleOf, inline, block, single, literal]

theorem printed_tagMark {tag : Tag} (name : AllPrinted tag.shortName.toList) :
    AllPrinted (tagMark tag).toList := by
  rw [tagMark, String.toList_append]
  exact allPrinted_append.mpr ⟨by decide, name⟩

theorem printed_writeScalar (indent : Option Nat) (place : Place) {tag : Tag} (s : List Char)
    (h : pen.IsPrinted) (name : AllPrinted tag.shortName.toList) :
    (writeScalar indent place tag s pen).IsPrinted := by
  have marked : Pen.IsPrinted (if needsTag (styleOf place tag s) tag s then pen.mark (tagMark tag)
      else pen) := by
    split
    · exact h.mark (printed_tagMark name)
    · exact h
  unfold writeScalar
  dsimp only
  split
  · rename_i style
    exact marked.plain _ (printed_of_styleOf style nofun)
  · rename_i style
    exact marked.single _ (printed_of_styleOf style nofun)
  · exact marked.double _ s
  · rename_i style
    exact marked.literal (printed_of_styleOf style nofun)

/-! ## Nodes -/

/-- An anchor's mark is printed, if there is one. -/
def PrintedAnchor (anchor : Option String) : Prop := ∀ a ∈ anchor, AllPrinted a.toList

theorem PrintedAnchor.none : PrintedAnchor none := by
  rintro _ ⟨⟩

/-- The marks of the outline are printed; its scalars may be any texts. -/
inductive Outline.IsPrinted : Outline → Prop
  | mention {name : String} : AllPrinted name.toList → IsPrinted (.alias name)
  | scalar {anchor : Option String} {tag : Tag} (s : List Char) : PrintedAnchor anchor →
      AllPrinted tag.shortName.toList → IsPrinted (.scalar anchor tag s)
  | list {anchor : Option String} (inline : Bool) {items : List Outline} : PrintedAnchor anchor →
      (∀ o ∈ items, o.IsPrinted) → IsPrinted (.list anchor inline items)
  | map {anchor : Option String} {tag : Tag} (inline : Bool) {entries : List (Outline × Outline)} :
      PrintedAnchor anchor → AllPrinted tag.shortName.toList →
      (∀ e ∈ entries, e.1.IsPrinted) → (∀ e ∈ entries, e.2.IsPrinted) →
      IsPrinted (.map anchor tag inline entries)

theorem printed_anchorMark {anchor : Option String} (h : pen.IsPrinted)
    (name : PrintedAnchor anchor) : (anchorMark anchor pen).IsPrinted := by
  cases anchor with
  | none => exact h
  | some a =>
    refine h.mark ?_
    rw [String.toList_append]
    exact allPrinted_append.mpr ⟨by decide, name a rfl⟩

section Collections

/-- The node is written so that a printed text stays so. -/
def Outline.Keeps (o : Outline) : Prop :=
  ∀ indent inMap place (pen : Pen), pen.IsPrinted → (writeNode indent inMap place o pen).IsPrinted

theorem printed_writeInlineItems {items : List Outline} (each : ∀ o ∈ items, o.Keeps)
    (first : Bool) (h : pen.IsPrinted) :
    (writeInlineItems column first items pen).IsPrinted := by
  induction items generalizing first pen with
  | nil => exact h
  | cons o r ih =>
    rw [List.forall_mem_cons] at each
    unfold writeInlineItems
    refine ih each.2 _ (each.1 _ _ _ _ (Pen.IsPrinted.wrap ?_ column))
    split
    · exact h
    · exact h.joinedMark (by decide)

theorem printed_writeInlineEntries {entries : List (Outline × Outline)}
    (keys : ∀ e ∈ entries, e.1.Keeps) (values : ∀ e ∈ entries, e.2.Keeps) (first : Bool)
    (h : pen.IsPrinted) : (writeInlineEntries column first entries pen).IsPrinted := by
  induction entries generalizing first pen with
  | nil => exact h
  | cons e r ih =>
    obtain ⟨k, v⟩ := e
    rw [List.forall_mem_cons] at keys values
    unfold writeInlineEntries
    refine ih keys.2 values.2 _ (values.1 _ _ _ _ ?_)
    have start : Pen.IsPrinted ((if first then pen else pen.joinedMark ",").wrap column) := by
      refine Pen.IsPrinted.wrap ?_ column
      split
      · exact h
      · exact h.joinedMark (by decide)
    split
    · exact (keys.1 _ _ _ _ start).joinedMark (by decide)
    · exact ((keys.1 _ _ _ _ (start.mark (by decide))).wrap column).mark (by decide)

theorem printed_writeBlockItems {items : List Outline} (each : ∀ o ∈ items, o.Keeps)
    (h : pen.IsPrinted) : (writeBlockItems column items pen).IsPrinted := by
  induction items generalizing pen with
  | nil => exact h
  | cons o r ih =>
    rw [List.forall_mem_cons] at each
    unfold writeBlockItems
    exact ih each.2 (each.1 _ _ _ _ ((h.indent column).indentMark (by decide)))

theorem printed_writeBlockEntries {entries : List (Outline × Outline)}
    (keys : ∀ e ∈ entries, e.1.Keeps) (values : ∀ e ∈ entries, e.2.Keeps) (h : pen.IsPrinted) :
    (writeBlockEntries column entries pen).IsPrinted := by
  induction entries generalizing pen with
  | nil => exact h
  | cons e r ih =>
    obtain ⟨k, v⟩ := e
    rw [List.forall_mem_cons] at keys values
    unfold writeBlockEntries
    refine ih keys.2 values.2 (values.1 _ _ _ _ ?_)
    have start := h.indent column
    dsimp only
    split
    · exact (keys.1 _ _ _ _ start).joinedMark (by decide)
    · exact ((keys.1 _ _ _ _ (start.indentMark (by decide))).indent column).indentMark (by decide)

theorem Outline.IsPrinted.keeps {o : Outline} (h : o.IsPrinted) : o.Keeps := by
  induction h with
  | mention name =>
    intro indent inMap place pen printed
    unfold writeNode
    refine printed.mark ?_
    rw [String.toList_append]
    exact allPrinted_append.mpr ⟨by decide, name⟩
  | scalar s anchor tag =>
    intro indent inMap place pen printed
    unfold writeNode
    exact printed_writeScalar _ _ s (printed_anchorMark printed anchor) tag
  | list inline anchor _ items =>
    intro indent inMap place pen printed
    have anchored := printed_anchorMark printed anchor
    unfold writeNode
    dsimp only
    split
    · exact (printed_writeInlineItems items _ (anchored.openingMark (by decide))).joinedMark
        (by decide)
    · exact printed_writeBlockItems items anchored
  | @map anchor tag inline entries name tagName _ _ keys values =>
    intro indent inMap place pen printed
    have anchored := printed_anchorMark printed name
    have tagged : Pen.IsPrinted (if tag == .map then anchorMark anchor pen
        else (anchorMark anchor pen).mark (tagMark tag)) := by
      split
      · exact anchored
      · exact anchored.mark (printed_tagMark tagName)
    unfold writeNode
    dsimp only
    split
    · exact (printed_writeInlineEntries keys values _ (tagged.openingMark (by decide))).joinedMark
        (by decide)
    · exact printed_writeBlockEntries keys values tagged

end Collections

/-! ## Outlines of documents -/

/-- What comes out, whatever has been placed before, has the property. -/
def Draws {α : Type} (m : Outlining α) (p : α → Prop) : Prop :=
  ∀ placed r, m.run placed = .ok r → p r.1

namespace Draws

variable {α β : Type} {m : Outlining α} {p q : α → Prop}

theorem pure {a : α} (h : p a) : Draws (Pure.pure a) p := by
  rintro placed _ ⟨⟩
  exact h

theorem bind {f : α → Outlining β} {q : β → Prop} (h : Draws m p)
    (next : ∀ a, p a → Draws (f a) q) : Draws (m >>= f) q := by
  intro placed r run
  rw [StateT.run_bind] at run
  obtain ⟨⟨a, placed'⟩, first, rest⟩ := exists_of_bind run
  exact next a (h placed _ first) placed' r rest

theorem any (m : Outlining α) : Draws m fun _ => True := fun _ _ _ => trivial

end Draws

/-- The names that anchors have are printed. -/
def PrintedAnchors (anchors : Anchors) : Prop := ∀ e ∈ anchors, AllPrinted e.2.toList

/-- A value has the name of its label, or else the one that is given. -/
theorem PrintedAnchors.lookup {anchors : Anchors} (names : PrintedAnchors anchors)
    {name : Option String} (printed : PrintedAnchor name) (label : Nat) :
    PrintedAnchor (anchors.lookup label <|> name) := by
  cases own : anchors.lookup label with
  | none => exact printed
  | some a =>
    rintro _ ⟨⟩
    obtain ⟨before, after, found, _⟩ := List.lookup_eq_some_iff.mp own
    exact names (label, a) (found ▸ List.mem_append_right _ List.mem_cons_self)

theorem printed_anchorText (index : Nat) : AllPrinted (anchorText index).toList := by
  have digits : AllPrinted (paddedText 3 (index + 1)).toList := by
    rw [paddedText, String.toList_ofList]
    refine allPrinted_append.mpr ⟨fun c hc => ?_, Decimal.printed_natDigits _⟩
    rw [List.eq_of_mem_replicate hc]
    decide
  rw [anchorText, String.toList_append]
  exact allPrinted_append.mpr ⟨by decide, digits⟩

theorem printed_anchorsOf (d : Document) : PrintedAnchors (anchorsOf d) := by
  intro e he
  obtain ⟨i, _, rfl⟩ := List.mem_mapIdx.mp he
  exact printed_anchorText i

theorem draws_anchored {name : Option String} {outline : Option String → Outlining Outline}
    (printed : PrintedAnchor name)
    (h : ∀ anchor, PrintedAnchor anchor → Draws (outline anchor) Outline.IsPrinted) :
    Draws (anchored name outline) Outline.IsPrinted := by
  unfold anchored
  cases name with
  | none => exact h none printed
  | some n =>
    refine (Draws.any _).bind fun placed _ => ?_
    split
    · exact .pure (.mention (printed n rfl))
    · exact (Draws.any _).bind fun _ _ => h (some n) printed

mutual

theorem draws_outlineAs {anchors : Anchors} (names : PrintedAnchors anchors) {name : Option String}
    (printed : PrintedAnchor name) (d : Document) :
    Draws (outlineAs anchors name d) Outline.IsPrinted :=
  match d with
  | .null | .bool _ | .float _ | .text _ | .bytes _ =>
    .pure (.scalar _ .none (by decide))
  | .int n => by
    unfold outlineAs outlineInt
    split
    · exact .pure (.scalar _ .none (by decide))
    · rintro placed _ ⟨⟩
  | .date _ | .moment _ =>
    draws_anchored printed fun anchor name => .pure (.scalar _ name (by decide))
  | .list items =>
    draws_anchored printed fun anchor name =>
      (draws_outlineItems names items).bind fun os all => .pure (.list _ name all)
  | .set ms =>
    draws_anchored printed fun anchor name =>
      (draws_outlineMembers names ms).bind fun es all => .pure (.map _ name (by decide) all.1 all.2)
  | .map entries =>
    draws_anchored printed fun anchor name =>
      (draws_outlineEntries names entries).bind fun es all =>
        .pure (.map _ name (by decide) all.1 all.2)
  | .shared label d => draws_outlineAs names (names.lookup printed label) d

theorem draws_outlineItems {anchors : Anchors} (names : PrintedAnchors anchors)
    (items : List Document) :
    Draws (outlineItems anchors items) fun os => ∀ o ∈ os, o.IsPrinted :=
  match items with
  | [] => .pure (List.forall_mem_nil _)
  | d :: r =>
    (draws_outlineAs names .none d).bind fun _ first =>
      (draws_outlineItems names r).bind fun _ rest => .pure (List.forall_mem_cons.mpr ⟨first, rest⟩)

theorem draws_outlineMembers {anchors : Anchors} (names : PrintedAnchors anchors)
    (members : List Document) :
    Draws (outlineMembers anchors members) fun es =>
      (∀ e ∈ es, e.1.IsPrinted) ∧ ∀ e ∈ es, e.2.IsPrinted :=
  match members with
  | [] => .pure ⟨List.forall_mem_nil _, List.forall_mem_nil _⟩
  | d :: r =>
    (draws_outlineAs names .none d).bind fun _ first =>
      (draws_outlineMembers names r).bind fun _ rest =>
        .pure ⟨List.forall_mem_cons.mpr ⟨first, rest.1⟩,
          List.forall_mem_cons.mpr ⟨.scalar _ .none (by decide), rest.2⟩⟩

theorem draws_outlineEntries {anchors : Anchors} (names : PrintedAnchors anchors)
    (entries : Document.Entries) :
    Draws (outlineEntries anchors entries) fun es =>
      (∀ e ∈ es, e.1.IsPrinted) ∧ ∀ e ∈ es, e.2.IsPrinted :=
  match entries with
  | [] => .pure ⟨List.forall_mem_nil _, List.forall_mem_nil _⟩
  | (k, v) :: r =>
    (draws_outlineAs names .none k).bind fun _ key =>
      (draws_outlineAs names .none v).bind fun _ value =>
        (draws_outlineEntries names r).bind fun _ rest =>
          .pure ⟨List.forall_mem_cons.mpr ⟨key, rest.1⟩, List.forall_mem_cons.mpr ⟨value, rest.2⟩⟩

end

/-- **All that is written in YAML is printed.** -/
theorem printed_write {d : Document} {text : String} (h : write d = .ok text) :
    AllPrinted text.toList := by
  unfold write Outline.ofDocument at h
  cases drawn : (outlineAs (anchorsOf d) none d).run [] with
  | error e =>
    rw [drawn] at h
    cases h
  | ok r =>
    rw [drawn] at h
    cases h
    have outline := draws_outlineAs (printed_anchorsOf d) .none d [] r drawn
    exact Pen.IsPrinted.indent (outline.keeps none false ⟨false, false⟩ _ .start) 0

end Statecraft.Yaml
