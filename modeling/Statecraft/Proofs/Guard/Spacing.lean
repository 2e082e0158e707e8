import Statecraft.Proofs.Guard.Cutting
import Statecraft.Proofs.Guard.Placed
import Statecraft.Proofs.Guard.RoundTrip

/-!
# Blanks between tokens

Tokens that are written once more with blanks between them are cut into the same tokens
(`Spaced.scans`), for a token is one before any blank. So two such texts are read alike
(`Group.spacing_insignificant`).
-/

namespace Statecraft.Guard

/-- The texts of the tokens with blanks after each, some of them between two tokens. -/
inductive Spaced : List Token → List Char → Prop
  | nil : Spaced [] []
  | cons (t : Token) {ts : List Token} (ws : List Char) {rest : List Char} :
      (∀ c ∈ ws, Text.isBlank c = true) → (ts ≠ [] → ws ≠ []) → Spaced ts rest →
      Spaced (t :: ts) (t.text ++ (ws ++ rest))

namespace Spaced

variable {ts : List Token} {s : List Char}

theorem visible (h : Spaced ts s) (pieces : ∀ t ∈ ts, ∃ rest, Piece (some t.kind) t.text rest) :
    ∀ c ∈ s.head?, Text.isBlank c = false := by
  cases h with
  | nil => simp
  | @cons t _ ws rest _ _ _ =>
    obtain ⟨after, piece⟩ := pieces t List.mem_cons_self
    exact piece.visible_append (ws ++ rest)

/-- The gap after a token, which ends the text if it is empty. -/
theorem blank_gap {ws rest : List Char} (blank : ∀ c ∈ ws, Text.isBlank c = true)
    (gap : ts ≠ [] → ws ≠ []) (h : Spaced ts rest) :
    ∀ c ∈ (ws ++ rest).head?, Text.isBlank c = true := by
  cases ws with
  | cons c r =>
    rintro d ⟨⟩
    exact blank c List.mem_cons_self
  | nil =>
    cases h with
    | nil => simp
    | cons => exact absurd rfl (gap (List.cons_ne_nil _ _))

/-- Tokens with blanks between them are cut into the same tokens. -/
theorem scans (h : Spaced ts s) (pieces : ∀ t ∈ ts, ∃ rest, Piece (some t.kind) t.text rest) :
    Scans s (ts.map Token.spelling) := by
  induction h with
  | nil => exact .nil
  | @cons t ts ws rest blank gap others ih =>
    obtain ⟨⟨after, first⟩, pieces⟩ := List.forall_mem_cons.mp pieces
    have tail := Scans.blanks ws blank (others.visible pieces) (ih pieces)
    exact .token (first.before_blank (blank_gap blank gap others)) tail

end Spaced

/-- Results that are equal but for the positions of failures. -/
theorem of_unplaced {x y : Except ReadError Group}
    (alike : x.mapError (ReadError.move fun _ => 0) = y.mapError (ReadError.move fun _ => 0)) :
    (∀ g, x = .ok g → y = .ok g) ∧
    (∀ f, x = .error (.failure f) → ∃ p, y = .error (.failure ⟨f.fault, p⟩)) ∧
    ∀ l, x = .error (.limit l) → y = .error (.limit l) := by
  refine ⟨?_, ?_, ?_⟩
  · rintro g rfl
    cases y with
    | ok _ => exact congrArg Except.ok (Except.ok.inj alike).symm
    | error _ => cases alike
  · rintro f rfl
    match y with
    | .error (.failure f') =>
      have same := ReadError.failure.inj (Except.error.inj alike)
      exact ⟨f'.position, by rw [congrArg Failure.fault same]⟩
  · rintro l rfl
    match y with
    | .error (.limit l') =>
      have same : ReadError.limit l = .limit l' := Except.error.inj alike
      rw [same]

namespace Group

variable {s s' : String} {ts ts' : List Token}

/-- Texts with tokens that are spelled alike are read alike, but for the position of a failure. -/
theorem ofText_spelled (scanned : Token.scan 0 s.toList = .ok ts)
    (scanned' : Token.scan 0 s'.toList = .ok ts')
    (same : ts.map Token.spelling = ts'.map Token.spelling) :
    (ofText s).mapError (ReadError.move fun _ => 0) =
      (ofText s').mapError (ReadError.move fun _ => 0) := by
  have both : ts = [] ↔ ts' = [] := by
    rw [← List.map_eq_nil_iff (f := Token.spelling), same, List.map_eq_nil_iff]
  by_cases none : ts = []
  · subst none
    obtain rfl := both.mp rfl
    have blank := List.all_eq_true.mpr (Token.blank_of_scan scanned)
    have blank' := List.all_eq_true.mpr (Token.blank_of_scan scanned')
    rw [ofText_of_blank blank, ofText_of_blank blank']
  · rw [ofText_of_scan scanned none, ofText_of_scan scanned' (mt both.mpr none)]
    exact whole_spelled same _ _

/-- **Blanks between tokens do not matter.** The tokens of a text, written with other blanks
between, before and after them, are cut into the same tokens. Both texts are read as the same tree,
which is equal to itself, or both are refused for the same reason. -/
theorem spacing_insignificant {lead body : List Char} (scanned : Token.scan 0 s.toList = .ok ts)
    (blank : ∀ c ∈ lead, Text.isBlank c = true) (spaced : Spaced ts body)
    (text : s'.toList = lead ++ body) :
    (∃ us, Token.scan 0 s'.toList = .ok us ∧ us.map Token.spelling = ts.map Token.spelling) ∧
    (∀ g, ofText s = .ok g → ofText s' = .ok g ∧ g.same g = true) ∧
    (∀ f, ofText s = .error (.failure f) → ∃ p, ofText s' = .error (.failure ⟨f.fault, p⟩)) ∧
    ∀ l, ofText s = .error (.limit l) → ofText s' = .error (.limit l) := by
  have pieces : ∀ t ∈ ts, ∃ rest, Piece (some t.kind) t.text rest := by
    intro t ht
    obtain ⟨_, rest, _, _, piece⟩ := (Token.scan_eq_ok_iff.mp scanned).mem ht
    exact ⟨rest, piece⟩
  have again := Scans.blanks lead blank (spaced.visible pieces) (spaced.scans pieces)
  obtain ⟨us, scanned', spelled⟩ := again 0
  rw [← text] at scanned'
  obtain ⟨ok, failure, limit⟩ := of_unplaced (ofText_spelled scanned scanned' spelled.symm)
  exact ⟨⟨us, scanned', spelled⟩, fun g read => ⟨ok g read, same_of_ofText read⟩, failure, limit⟩

/-- A quoted text keeps the blank in it, and a field is one before a sign and before a blank. -/
theorem spacing_insignificant_quoted :
    let s := "ctx.a=='x y'&&!ctx.b"
    let s' := "\tctx.a == 'x y'\n&& ! ctx.b"
    ∃ ts lead body, Token.scan 0 s.toList = .ok ts ∧ (∀ c ∈ lead, Text.isBlank c = true) ∧
      Spaced ts body ∧ s'.toList = lead ++ body ∧
      (∃ us, Token.scan 0 s'.toList = .ok us ∧ us.map Token.spelling = ts.map Token.spelling) ∧
      (∀ g, ofText s = .ok g → ofText s' = .ok g ∧ g.same g = true) ∧
      (∀ f, ofText s = .error (.failure f) → ∃ p, ofText s' = .error (.failure ⟨f.fault, p⟩)) ∧
      ∀ l, ofText s = .error (.limit l) → ofText s' = .error (.limit l) := by
  intro s s'
  have gap : ∀ c, Text.isBlank c = true → ∀ d ∈ [c], Text.isBlank d = true :=
    fun c blank => List.forall_mem_singleton.mpr blank
  have spaced := Spaced.cons ⟨.field, "ctx.a".toList, 0⟩ [' '] (gap _ (by decide)) (by simp) <|
    .cons ⟨.compare .equal, "==".toList, 5⟩ [' '] (gap _ (by decide)) (by simp) <|
    .cons ⟨.quoted, "'x y'".toList, 7⟩ ['\n'] (gap _ (by decide)) (by simp) <|
    .cons ⟨.logic .and, "&&".toList, 12⟩ [' '] (gap _ (by decide)) (by simp) <|
    .cons ⟨.not, "!".toList, 14⟩ [' '] (gap _ (by decide)) (by simp) <|
    .cons ⟨.field, "ctx.b".toList, 15⟩ [] (by simp) (by simp) .nil
  have blank := gap '\t' (by decide)
  refine ⟨_, _, _, ?scanned, blank, spaced, ?text, spacing_insignificant ?scanned blank spaced ?text⟩
  case scanned => decide +kernel
  case text => decide

end Group

end Statecraft.Guard
