import Statecraft.Proofs.Guard.Cutting
import Statecraft.Proofs.Guard.Refusal

/-!
# What refusals cite

The message about a text that is no guard says where reading it failed, and may cite a part of the
text: a character that begins no token, or a whole token. All else in it is fixed
(`Group.cites_of_ofText`).
-/

namespace Statecraft.Guard

/-- What the parser can say that it expected. -/
def expectations : List String := ["'ctx.<field>'", "')'", "'ctx.<field>' or '(' after '!'"]

/-- What the message cites has the property, and all else in it is fixed. -/
def Fault.Cites (P : List Char → Prop) : Fault → Prop
  | .unexpectedCharacter c => P [c]
  | .unexpectedToken s => P s
  | .missingOperand s => P s
  | .expected what got => what ∈ expectations ∧ ∀ s ∈ got, P s
  | _ => True

theorem Fault.Cites.mono {P Q : List Char → Prop} {fault : Fault} (h : fault.Cites P)
    (into : ∀ s, P s → Q s) : fault.Cites Q := by
  cases fault with
  | unexpectedCharacter c => exact into _ h
  | unexpectedToken s => exact into _ h
  | missingOperand s => exact into _ h
  | expected what got => exact ⟨h.1, fun s hs => into s (h.2 s hs)⟩
  | _ => trivial

namespace Token

variable {s : List Char} {position : Nat}

/-- Tokens are parts of the text. -/
theorem text_of_scan {ts : List Token} (h : scan position s = .ok ts) :
    ∀ t ∈ ts, t.text <:+: s := by
  intro t ht
  obtain ⟨front, rest, text, _, _⟩ := (scan_eq_ok_iff.mp h).mem ht
  exact ⟨front, rest, by rw [text, List.append_assoc]⟩

theorem cites_of_scan {f : Failure} (h : scan position s = .error f) :
    f.fault.Cites (· <:+: s) := by
  obtain ⟨c, ⟨_, front, rest, text, _⟩, fault⟩ := scan_eq_error_iff.mp h
  rw [fault]
  split
  · trivial
  · exact ⟨front, rest, by simp [text]⟩

end Token

/-- One of the tokens has the text. -/
def TextOf (ts : List Token) (s : List Char) : Prop := ∃ t ∈ ts, t.text = s

/-- The message cites one of the tokens, if anything. -/
def CitesToken (ts : List Token) : ReadError → Prop
  | .failure f => f.fault.Cites (TextOf ts)
  | .limit _ => True

namespace CitesToken

variable {last : Nat} {ts ts' : List Token} {e : ReadError}

theorem mono (h : CitesToken ts e) (sub : ts ⊆ ts') : CitesToken ts' e := by
  cases e with
  | failure f =>
    have cites : f.fault.Cites (TextOf ts) := h
    show f.fault.Cites (TextOf ts')
    exact cites.mono fun s ⟨t, ht, text⟩ => ⟨t, sub ht, text⟩
  | limit l => trivial

theorem of_fail {α : Type} {n : Nat} {fault : Fault} {position : Nat}
    (h : (Parse.fail fault position : Parse.Result α n) = .error e)
    (cites : fault.Cites (TextOf ts)) : CitesToken ts e := by
  cases h
  exact cites

theorem of_unexpected {α : Type} {n : Nat} {what : String}
    (h : (Parse.unexpected what last ts : Parse.Result α n) = .error e)
    (fixed : what ∈ expectations) : CitesToken ts e := by
  cases ts with
  | nil => exact of_fail h ⟨fixed, by simp⟩
  | cons t r => exact of_fail h ⟨fixed, by simp [TextOf]⟩

theorem of_atom (h : Parse.atom last ts = .error e) : CitesToken ts e := by
  unfold Parse.atom at h
  split at h
  · split at h
    · exact of_fail h trivial
    · split at h
      · obtain ⟨l, rfl⟩ := limit_of_operand (error_of_map h)
        trivial
      · exact of_fail h trivial
  · cases h
  · exact of_unexpected h (by simp [expectations])

end CitesToken

/-- On these tokens, the parser's parts cite one of them when they fail, if anything. -/
structure ParserCites (last : Nat) (ts : List Token) : Prop where
  term : ∀ e, Parse.term last ts = .error e → CitesToken ts e
  enclosed : ∀ o e, Parse.enclosed last o ts = .error e → CitesToken ts e
  expression : ∀ e, Parse.expression last ts = .error e → CitesToken ts e
  others : ∀ l? done e, Parse.others last l? done ts = .error e → CitesToken ts e

namespace ParserCites

open Parse.Result (map_eq_error andThen_eq_error)

variable {last : Nat} {ts : List Token} {e : ReadError}

theorem term_step (ih : ∀ us, us.length < ts.length → ParserCites last us)
    (h : Parse.term last ts = .error e) : CitesToken ts e := by
  rw [Parse.term.eq_def] at h
  split at h
  · exact .of_fail h trivial
  · split at h
    · rename_i r
      exact ((ih r (by simp)).enclosed _ _ (map_eq_error.mp h)).mono (by simp)
    · cases h
    · exact (CitesToken.of_unexpected h (by simp [expectations])).mono (by simp)
  · rename_i r
    exact ((ih r (by simp)).enclosed _ _ (map_eq_error.mp h)).mono (by simp)
  · exact .of_atom h

theorem enclosed_step (inside : ∀ e, Parse.expression last ts = .error e → CitesToken ts e)
    {o : Token} (h : Parse.enclosed last o ts = .error e) : CitesToken ts e := by
  rw [Parse.enclosed.eq_def] at h
  split at h
  · exact .of_fail h trivial
  · rcases andThen_eq_error.mp h with inner | ⟨terms, rest, _, inner, h⟩
    · exact inside _ inner
    · obtain ⟨us, rfl, _⟩ := (ParsesSoundly.all last _).expression _ _ inner
      have closed := map_eq_error.mp h
      unfold Parse.closed at closed
      split at closed
      · exact .of_fail closed trivial
      · cases closed
      · exact (CitesToken.of_unexpected closed (by simp [expectations])).mono
          (List.subset_append_right _ _)

theorem expression_step (ih : ∀ us, us.length < ts.length → ParserCites last us)
    (term : ∀ e, Parse.term last ts = .error e → CitesToken ts e)
    (h : Parse.expression last ts = .error e) : CitesToken ts e := by
  rw [Parse.expression] at h
  rcases andThen_eq_error.mp h with first | ⟨t, rest, fewer, first, h⟩
  · exact term _ first
  · have others := (ih rest fewer).others _ _ _ (map_eq_error.mp h)
    obtain ⟨us, f, rfl, _⟩ := derives_of_term first
    exact others.mono (List.subset_append_right _ _)

theorem others_step (ih : ∀ us, us.length < ts.length → ParserCites last us) {l? : Option Logic}
    {done : List Tree} (h : Parse.others last l? done ts = .error e) : CitesToken ts e := by
  rw [Parse.others.eq_def] at h
  split at h
  · rename_i l x p r
    -- the logic itself is cited where no term follows it
    have logic : Fault.Cites (TextOf (⟨.logic l, x, p⟩ :: r)) (.missingOperand x) :=
      ⟨_, List.mem_cons_self, rfl⟩
    split at h
    · exact .of_fail h trivial
    · split at h
      · exact .of_fail h logic
      · exact .of_fail h logic
      · exact .of_fail h logic
      · rcases andThen_eq_error.mp h with first | ⟨t, rest, fewer, first, h⟩
        · exact ((ih r (by simp)).term _ first).mono (List.subset_cons_self _ _)
        · have others := (ih rest (by simp; omega)).others _ _ _ (map_eq_error.mp h)
          obtain ⟨us, f, rfl, _⟩ := derives_of_term first
          exact others.mono fun t ht => List.mem_cons_of_mem _ (List.mem_append_right _ ht)
  · cases h

theorem all (last : Nat) (ts : List Token) : ParserCites last ts := by
  induction ts using (measure List.length).wf.induction with
  | _ ts ih =>
    have term : ∀ e, Parse.term last ts = .error e → CitesToken ts e := fun _ => term_step ih
    have expression : ∀ e, Parse.expression last ts = .error e → CitesToken ts e :=
      fun _ => expression_step ih term
    exact ⟨term, fun _ _ => enclosed_step expression, expression, fun _ _ _ => others_step ih⟩

end ParserCites

theorem citesToken_of_whole {last : Nat} {ts : List Token} {e : ReadError}
    (h : Parse.whole last ts = .error e) : CitesToken ts e := by
  unfold Parse.whole at h
  cases read : Parse.expression last ts with
  | error failed =>
    rw [read] at h
    cases h
    exact (ParserCites.all last _).expression _ read
  | ok inner =>
    obtain ⟨terms, rest, fewer⟩ := inner
    rw [read] at h
    obtain ⟨us, rfl, _⟩ := (ParsesSoundly.all last _).expression _ _ ⟨fewer, read⟩
    cases rest with
    | nil => cases h
    | cons t rest =>
      cases h
      show Fault.Cites (TextOf _)
        (if t.kind == .closing then Fault.unmatchedClosing else .unexpectedToken t.text)
      split
      · trivial
      · exact ⟨t, List.mem_append_right _ List.mem_cons_self, rfl⟩

/-- **A message cites a part of the text** that is refused, if it cites anything. -/
theorem Group.cites_of_ofText {s : String} {f : Failure} (h : ofText s = .error (.failure f)) :
    f.fault.Cites (· <:+: s.toList) := by
  rcases ofText_error h with ⟨_, same⟩ | ⟨f', failed, same⟩ | ⟨ts, scanned, failed⟩
  · cases same
    trivial
  · cases same
    exact Token.cites_of_scan failed
  · have cites : f.fault.Cites (TextOf ts) := citesToken_of_whole failed
    refine cites.mono ?_
    rintro part ⟨t, ht, text⟩
    exact text ▸ Token.text_of_scan scanned t ht

end Statecraft.Guard
