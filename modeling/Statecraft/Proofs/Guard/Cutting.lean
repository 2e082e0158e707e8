import Statecraft.Proofs.Guard.Lexeme

/-!
# Texts cut into tokens

`Cut` cuts pieces off a text one after the other. A text has the tokens that are cut off it down to
its end (`Token.scan_eq_ok_iff`), or none because cutting it stops at a character with which no
piece begins (`Token.scan_eq_error_iff`). Each token is what stands in the text at its position
(`Cut.mem`).
-/

namespace Statecraft.Guard

/-- These tokens are cut off the text that starts at the position, and the last text is left. -/
inductive Cut : Nat → List Char → List Token → List Char → Prop
  | done (position : Nat) (s : List Char) : Cut position s [] s
  | blanks {position : Nat} {s rest left : List Char} {ts : List Token} :
      Piece none s rest → Cut (position + s.length) rest ts left → Cut position (s ++ rest) ts left
  | token {position : Nat} {kind : Token.Kind} {s rest left : List Char} {ts : List Token} :
      Piece (some kind) s rest → Cut (position + s.length) rest ts left →
      Cut position (s ++ rest) (⟨kind, s, position⟩ :: ts) left

namespace Cut

variable {position : Nat} {s left : List Char} {ts : List Token}

/-- Cutting a text into tokens goes on with what is left of it. -/
theorem scan (h : Cut position s ts left) :
    ∃ front, s = front ++ left ∧
      Token.scan position s = (Token.scan (position + front.length) left).map (ts ++ ·) := by
  induction h with
  | done position s =>
    refine ⟨[], rfl, ?_⟩
    show _ = Except.map id _
    rw [Except.map_id]
    rfl
  | @blanks position s rest left ts first _ ih =>
    obtain ⟨front, rfl, scanned⟩ := ih
    refine ⟨s ++ front, (List.append_assoc _ _ _).symm, ?_⟩
    rw [first.scan, scanned, List.length_append, ← Nat.add_assoc]
    cases Token.scan (position + s.length + front.length) left <;> rfl
  | @token position kind s rest left ts first _ ih =>
    obtain ⟨front, rfl, scanned⟩ := ih
    refine ⟨s ++ front, (List.append_assoc _ _ _).symm, ?_⟩
    rw [first.scan, scanned, List.length_append, ← Nat.add_assoc]
    cases Token.scan (position + s.length + front.length) left <;> rfl

/-- A token that is cut off stands in the text at its position. -/
theorem mem (h : Cut position s ts left) {t : Token} (ht : t ∈ ts) :
    ∃ front rest, s = front ++ (t.text ++ rest) ∧ t.position = position + front.length ∧
      Piece (some t.kind) t.text rest := by
  induction h with
  | done => cases ht
  | @blanks position s rest left ts _ _ ih =>
    obtain ⟨front, after, rfl, at_t, piece⟩ := ih ht
    exact ⟨s ++ front, after, (List.append_assoc _ _ _).symm, by simp [at_t, Nat.add_assoc], piece⟩
  | @token position kind s rest left ts first _ ih =>
    rcases List.mem_cons.mp ht with rfl | ht
    · exact ⟨[], rest, rfl, rfl, first⟩
    · obtain ⟨front, after, rfl, at_t, piece⟩ := ih ht
      exact ⟨s ++ front, after, (List.append_assoc _ _ _).symm, by simp [at_t, Nat.add_assoc],
        piece⟩

/-- What no token is cut off is blank. -/
theorem blank (h : Cut position s ts left) (no_token : ts = []) (at_end : left = []) :
    ∀ c ∈ s, Text.isBlank c = true := by
  induction h with
  | done => simp [at_end]
  | blanks first _ ih =>
    cases first with
    | blanks _ blank _ => exact List.forall_mem_append.mpr ⟨blank, ih no_token at_end⟩
  | token => cases no_token

end Cut

namespace Token

variable {position : Nat} {s : List Char}

/-- Every text is cut down to its end or to where no piece begins. -/
theorem exists_cut (position : Nat) (s : List Char) :
    ∃ ts left, Cut position s ts left ∧ first? left = none := by
  induction length : s.length using Nat.strongRecOn generalizing position s with
  | ind n ih =>
    subst length
    cases found : first? s with
    | none => exact ⟨[], s, .done position s, found⟩
    | some piece =>
      obtain ⟨kind?, text, rest⟩ := piece
      obtain ⟨rfl, first⟩ := first?_eq_some_iff.mp found
      have shorter : rest.length < (text ++ rest).length := by
        have some_char := List.length_pos_iff.mpr first.ne_nil
        rw [List.length_append]
        omega
      obtain ⟨ts, left, cut, stop⟩ := ih _ shorter (position + text.length) rest rfl
      cases kind? with
      | none => exact ⟨ts, left, .blanks first cut, stop⟩
      | some kind => exact ⟨_, left, .token first cut, stop⟩

section Stopping

variable {c : Char} {r : List Char}

theorem lexeme?_of_first? (h : first? (c :: r) = none) : lexeme? c r = none :=
  Option.map_eq_none_iff.mp h

/-- Every blank begins a piece. -/
theorem visible_of_first? (h : first? (c :: r) = none) : Text.isBlank c = false := by
  by_contra blank
  rw [Bool.not_eq_false] at blank
  have matched : lexeme? c r = some (none, (r.takeWhile Text.isBlank).length) := if_pos blank
  rw [lexeme?_of_first? h] at matched
  cases matched

theorem scan_of_first? (h : first? (c :: r) = none) (position : Nat) :
    scan position (c :: r) =
      .error ⟨if c == '"' || c == '\'' then .unterminatedText else .unexpectedCharacter c,
        position⟩ := by
  rw [scan.eq_def]
  simp only [lexeme?_of_first? h]

end Stopping

/-- The text is cut into tokens up to this character, with which no piece begins. -/
def StopsAt (start : Nat) (s : List Char) (position : Nat) (c : Char) : Prop :=
  ∃ ts front rest, s = front ++ c :: rest ∧ position = start + front.length ∧
    Cut start s ts (c :: rest) ∧ first? (c :: rest) = none

/-- **The tokens of a text** are cut off it down to its end. -/
theorem scan_eq_ok_iff {ts : List Token} : scan position s = .ok ts ↔ Cut position s ts [] := by
  constructor
  · intro h
    obtain ⟨us, left, cut, stop⟩ := exists_cut position s
    obtain ⟨front, rfl, scanned⟩ := cut.scan
    cases left with
    | nil =>
      rw [h, scan_nil] at scanned
      obtain rfl : ts = us := (Except.ok.inj scanned).trans (List.append_nil us)
      exact cut
    | cons c r =>
      rw [h, scan_of_first? stop] at scanned
      cases scanned
  · intro cut
    obtain ⟨front, -, scanned⟩ := cut.scan
    rw [scanned, scan_nil]
    exact congrArg Except.ok (List.append_nil ts)

theorem blank_of_scan (h : scan position s = .ok []) : ∀ c ∈ s, Text.isBlank c = true :=
  (scan_eq_ok_iff.mp h).blank rfl rfl

/-- **A text without tokens** has one place where cutting it stops, and the failure is there. -/
theorem scan_eq_error_iff {f : Failure} :
    scan position s = .error f ↔ ∃ c, StopsAt position s f.position c ∧
      f.fault = if c == '"' || c == '\'' then .unterminatedText else .unexpectedCharacter c := by
  constructor
  · intro h
    obtain ⟨ts, left, cut, stop⟩ := exists_cut position s
    obtain ⟨front, rfl, scanned⟩ := cut.scan
    cases left with
    | nil =>
      rw [h, scan_nil] at scanned
      cases scanned
    | cons c r =>
      rw [h, scan_of_first? stop] at scanned
      cases scanned
      exact ⟨c, ⟨ts, front, r, rfl, rfl, cut, stop⟩, rfl⟩
  · rintro ⟨c, ⟨ts, front, r, text, at_stop, cut, stop⟩, fault⟩
    obtain ⟨front', text', scanned⟩ := cut.scan
    rw [List.append_cancel_right (text'.symm.trans text), ← at_stop, scan_of_first? stop,
      ← fault] at scanned
    exact scanned

end Token

end Statecraft.Guard
