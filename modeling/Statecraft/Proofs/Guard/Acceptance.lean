import Statecraft.Proofs.Guard.Cutting
import Statecraft.Proofs.Guard.Refusal

/-!
# Which texts are guards

The grammar settles which texts are guards and what they mean, where no integer is too long; what
is no sentence is refused (`Group.ofText_accepts`).
-/

namespace Statecraft.Guard

open Token (spelling)

namespace Token

variable {s : List Char} {position : Nat}

/-- Blanks are no tokens. -/
theorem scan_of_blank (h : ∀ c ∈ s, Text.isBlank c = true) (position : Nat) :
    scan position s = .ok [] := by
  obtain ⟨ts, scanned, none⟩ := Scans.blanks s h (by simp) .nil position
  rw [List.append_nil] at scanned
  rw [scanned, List.map_eq_nil_iff.mp none]

end Token

section Sentences

variable {last : Nat} {ts : List Token} {f : Formula} {g : Group}

theorem derives_of_whole (h : Parse.whole last ts = .ok g) :
    ∃ f, Derives .expression (ts.map spelling) f := by
  obtain ⟨l, items, _, reads⟩ := reads_of_whole h
  obtain ⟨f, d⟩ := reads.derives.1
  exact ⟨f, .expression d⟩

/-- The parser reads every sentence, as what it says. -/
theorem whole_of_derives (h : Derives .expression (ts.map spelling) f)
    (values : HaveValues (ts.map spelling)) (last : Nat) :
    ∃ g, Parse.whole last ts = .ok g ∧ ∀ v, g.holds v = f.holds v := by
  obtain ⟨l, items, reads, same⟩ := h.isRead values
  refine ⟨_, whole_of_reads reads last, fun v => ?_⟩
  rw [Terms.holds_toGroup, Terms.holds_joined, same]

theorem Derives.ne_nil {p : Part} {ks : List Spelling} (h : Derives p ks f) : ks ≠ [] := by
  obtain ⟨k, s, r, rfl, _⟩ := h.starts
  exact List.cons_ne_nil _ _

end Sentences

namespace Group

variable {s : String} {ts : List Token} {g : Group}

theorem ofText_of_scan (scanned : Token.scan 0 s.toList = .ok ts) (some_token : ts ≠ []) :
    ofText s = Parse.whole s.toList.length ts := by
  have visible : s.toList.all Text.isBlank = false := by
    by_contra blank
    rw [Bool.not_eq_false, List.all_eq_true] at blank
    rw [Token.scan_of_blank blank] at scanned
    exact some_token (Except.ok.inj scanned).symm
  simp [ofText, visible, scanned]

/-- A text that is neither a guard nor refused has tokens, and is stopped at one without a value. -/
theorem stops_of_ofText {l : Decimal.LimitError} (h : ofText s = .error (.limit l)) :
    ∃ ts, Token.scan 0 s.toList = .ok ts ∧ StopsWithin .expression ts := by
  rcases ofText_error h with ⟨_, same⟩ | ⟨f, _, same⟩ | ⟨ts, scanned, failed⟩
  · cases same
  · cases same
  · exact ⟨ts, scanned, stops_of_whole failed⟩

/-- Where no integer is too long, a text that is no guard is refused. -/
theorem refusal_of_ofText
    (values : ∀ ts, Token.scan 0 s.toList = .ok ts → HaveValues (ts.map spelling))
    {e : ReadError} (h : ofText s = .error e) : ∃ f, e = .failure f := by
  cases e with
  | failure f => exact ⟨f, rfl⟩
  | limit l =>
    obtain ⟨ts, scanned, stops⟩ := stops_of_ofText h
    exact (stops.not_haveValues (values ts scanned)).elim

end Group

/-- No token of the text is an integer that is too long. -/
def HasShortIntegers (s : String) : Prop :=
  ∀ ts, Token.scan 0 s.toList = .ok ts → ∀ t ∈ ts, t.isLongInteger = false

instance (s : String) : Decidable (HasShortIntegers s) :=
  match scanned : Token.scan 0 s.toList with
  | .ok ts =>
    decidable_of_iff (∀ t ∈ ts, t.isLongInteger = false) (by simp [HasShortIntegers, scanned])
  | .error _ => .isTrue (by simp [HasShortIntegers, scanned])

namespace HasShortIntegers

variable {s : String}

theorem haveValues (h : HasShortIntegers s) {ts : List Token}
    (scanned : Token.scan 0 s.toList = .ok ts) : HaveValues (ts.map spelling) := by
  intro k hk
  obtain ⟨t, ht, rfl⟩ := List.mem_map.mp hk
  exact valueOf?_of_not_long (h ts scanned t ht)

theorem refusal (h : HasShortIntegers s) {e : ReadError} (failed : Group.ofText s = .error e) :
    ∃ f, e = .failure f :=
  Group.refusal_of_ofText (fun _ scanned => h.haveValues scanned) failed

end HasShortIntegers

namespace Group

/-- **Which texts are guards and what they mean.** A text without integers that are too long is a
guard exactly if it has tokens and these are an expression of the grammar; else it is refused. The
guard has the truth of the formula of any derivation. -/
theorem ofText_accepts (s : String)
    (short : ∀ ts, Token.scan 0 s.toList = .ok ts → ∀ t ∈ ts, t.isLongInteger = false) :
    ((∃ g, ofText s = .ok g) ↔
      ∃ ts f, Token.scan 0 s.toList = .ok ts ∧ Derives .expression (ts.map spelling) f) ∧
    ((∀ g, ofText s ≠ .ok g) → ∃ failure, ofText s = .error (.failure failure)) ∧
    ∀ g ts f, ofText s = .ok g → Token.scan 0 s.toList = .ok ts →
      Derives .expression (ts.map spelling) f → ∀ v, g.holds v = f.holds v := by
  have values : ∀ ts, Token.scan 0 s.toList = .ok ts → HaveValues (ts.map spelling) := by
    intro ts scanned k hk
    obtain ⟨t, ht, rfl⟩ := List.mem_map.mp hk
    exact valueOf?_of_not_long (short ts scanned t ht)
  refine ⟨⟨?_, ?_⟩, ?_, ?_⟩
  · rintro ⟨g, read⟩
    obtain ⟨ts, scanned, whole⟩ := ofText_ok read
    obtain ⟨f, sentence⟩ := derives_of_whole whole
    exact ⟨ts, f, scanned, sentence⟩
  · rintro ⟨ts, f, scanned, sentence⟩
    have some_token : ts ≠ [] := fun none => sentence.ne_nil (congrArg (List.map spelling) none)
    obtain ⟨g, whole, _⟩ := whole_of_derives sentence (values ts scanned) s.toList.length
    exact ⟨g, (ofText_of_scan scanned some_token).trans whole⟩
  · intro no_guard
    cases read : ofText s with
    | ok g => exact absurd read (no_guard g)
    | error e =>
      obtain ⟨failure, rfl⟩ := refusal_of_ofText values read
      exact ⟨failure, rfl⟩
  · intro g ts f read scanned sentence v
    obtain ⟨ts', scanned', whole⟩ := ofText_ok read
    obtain rfl : ts = ts' := Except.ok.inj (scanned.symm.trans scanned')
    obtain ⟨g', whole', same⟩ := whole_of_derives sentence (values ts scanned) s.toList.length
    obtain rfl : g = g' := Except.ok.inj (whole.symm.trans whole')
    exact same v

/-- Both kinds of negation, a negation of a negation and numbers, one of them too small to be long
and one among the fields. -/
theorem ofText_accepts_nested :
    let s := "!ctx.a && !(ctx.b.c >= 10 || !(!(ctx.d))) && (ctx.e == 'x' || ctx.2 < ctx.f)"
    (∀ ts, Token.scan 0 s.toList = .ok ts → ∀ t ∈ ts, t.isLongInteger = false) ∧
    ((∃ g, ofText s = .ok g) ↔
      ∃ ts f, Token.scan 0 s.toList = .ok ts ∧ Derives .expression (ts.map spelling) f) ∧
    ((∀ g, ofText s ≠ .ok g) → ∃ failure, ofText s = .error (.failure failure)) ∧
    ∀ g ts f, ofText s = .ok g → Token.scan 0 s.toList = .ok ts →
      Derives .expression (ts.map spelling) f → ∀ v, g.holds v = f.holds v := by
  intro s
  have check : (match Token.scan 0 s.toList with
      | .ok ts => ts.all fun t => !t.isLongInteger
      | .error _ => false) = true := by decide +kernel
  have short : ∀ ts, Token.scan 0 s.toList = .ok ts → ∀ t ∈ ts, t.isLongInteger = false := by
    intro ts scanned t ht
    rw [scanned] at check
    simpa using List.all_eq_true.mp check t ht
  exact ⟨short, ofText_accepts s short⟩

end Group

end Statecraft.Guard
