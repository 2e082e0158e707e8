import Mathlib.Data.List.Induction
import Mathlib.Data.List.Nodup
import Statecraft.Graph.Convert

/-!
# Lists with one entry for each key

Edges, transitions and edges in the names of states are all merged in one way:
a new entry joins the first one with its key, or goes to the end. `put` is that
step, and the three merges are instances of it:

* `mem_put`, `mem_put_of_nodup`, `keys_put`: which entries and which keys there are after a step;
* `nodup_keys_put`: no key comes twice;
* `put_new`, `foldl_put_new`: entries with new keys go to the end and change nothing else, as under
  any step that puts them there (`foldl_new`);
* `foldl_put_eq_groups`: a whole run makes an entry for each key, in order of first occurrence, of
  all that have the key. So two merges are compared group by group (`mem_groups`, `groups_map`).

The members of an entry are kept without repetition by `eraseDups`, about which the
first section has what is needed.
-/

namespace Statecraft

/-- A list whose items stay as they are stays as it is. -/
theorem map_eq_self {α : Type} {f : α → α} {l : List α} (h : ∀ a ∈ l, f a = a) : l.map f = l := by
  rw [List.map_congr_left h, List.map_id']

section
variable {σ : Type} [BEq σ] [LawfulBEq σ]

theorem nodup_eraseDups (l : List σ) : l.eraseDups.Nodup := by
  induction h : l.length using Nat.strongRecOn generalizing l with
  | ind n ih =>
    cases l with
    | nil => exact List.nodup_nil
    | cons a r =>
      rw [List.eraseDups_cons, List.nodup_cons]
      constructor
      · simp [List.mem_eraseDups]
      · have shorter := List.length_filter_le (fun b => !b == a) r
        exact ih _ (by rw [← h, List.length_cons]; omega) _ rfl

theorem eraseDups_of_nodup {l : List σ} (h : l.Nodup) : l.eraseDups = l := by
  induction l with
  | nil => rfl
  | cons a r ih =>
    obtain ⟨ha, hr⟩ := List.nodup_cons.mp h
    have kept : r.filter (fun b => !b == a) = r := by
      apply List.filter_eq_self.mpr
      intro b hb
      have : b ≠ a := fun e => ha (e ▸ hb)
      simp [this]
    rw [List.eraseDups_cons, kept, ih hr]

omit [LawfulBEq σ] in
theorem eraseDups_eq_nil {l : List σ} : l.eraseDups = [] ↔ l = [] := by
  cases l <;> simp [List.eraseDups_cons]

theorem eraseDups_concat_of_mem {l : List σ} {a : σ} (h : a ∈ l) :
    (l ++ [a]).eraseDups = l.eraseDups := by
  simp [List.eraseDups_append, List.removeAll, h]

theorem eraseDups_concat_of_notMem {l : List σ} {a : σ} (h : a ∉ l) :
    (l ++ [a]).eraseDups = l.eraseDups ++ [a] := by
  simp [List.eraseDups_append, List.removeAll, h, List.eraseDups_cons]

/-- Repetitions that are dropped early make no difference. -/
theorem eraseDups_eraseDups_append (l r : List σ) :
    (l.eraseDups ++ r).eraseDups = (l ++ r).eraseDups := by
  have same : r.removeAll l.eraseDups = r.removeAll l := by
    simp [List.removeAll, List.mem_eraseDups]
  rw [List.eraseDups_append, List.eraseDups_append, same, eraseDups_of_nodup (nodup_eraseDups l)]

/-- Repetitions that are dropped before the last part make no difference either. -/
theorem eraseDups_append_eraseDups (l r : List σ) :
    (l ++ r.eraseDups).eraseDups = (l ++ r).eraseDups := by
  induction r using List.reverseRecOn with
  | nil => rfl
  | append_singleton r a ih =>
    by_cases old : a ∈ r
    · rw [eraseDups_concat_of_mem old, ih, ← List.append_assoc,
        eraseDups_concat_of_mem (List.mem_append_right l old)]
    · rw [eraseDups_concat_of_notMem old, ← List.append_assoc, ← eraseDups_eraseDups_append, ih,
        eraseDups_eraseDups_append, List.append_assoc]

/-- Repetitions that are dropped under other names make no difference. -/
theorem eraseDups_map_eraseDups {τ : Type} [BEq τ] [LawfulBEq τ] (f : σ → τ) (l : List σ) :
    (l.eraseDups.map f).eraseDups = (l.map f).eraseDups := by
  induction l using List.reverseRecOn with
  | nil => rfl
  | append_singleton l a ih =>
    by_cases old : a ∈ l
    · rw [eraseDups_concat_of_mem old, ih, List.map_append]
      exact (eraseDups_concat_of_mem (List.mem_map_of_mem old)).symm
    · rw [eraseDups_concat_of_notMem old, List.map_append, List.map_append,
        ← eraseDups_eraseDups_append, ih, eraseDups_eraseDups_append]

/-- Distinct members stay distinct under `f`, so it does not matter when repetitions are dropped. -/
theorem eraseDups_map_of_inj {τ : Type} [BEq τ] [LawfulBEq τ] {f : σ → τ} {l : List σ}
    (inj : ∀ a ∈ l, ∀ b ∈ l, f a = f b → a = b) :
    (l.map f).eraseDups = l.eraseDups.map f := by
  induction l using List.reverseRecOn with
  | nil => rfl
  | append_singleton l a ih =>
    have before := ih fun b hb c hc =>
      inj b (List.mem_append_left _ hb) c (List.mem_append_left _ hc)
    rw [List.map_append, List.map_singleton]
    by_cases old : a ∈ l
    · rw [eraseDups_concat_of_mem old, eraseDups_concat_of_mem (List.mem_map_of_mem old), before]
    · have new : f a ∉ l.map f := by
        rintro again
        obtain ⟨b, hb, same⟩ := List.mem_map.mp again
        have := inj b (List.mem_append_left _ hb) a (by simp) same
        exact old (this ▸ hb)
      rw [eraseDups_concat_of_notMem old, eraseDups_concat_of_notMem new, before, List.map_append]
      rfl

end

namespace Keyed

section
variable {α κ σ : Type} [DecidableEq κ] (key : α → κ)

/-- `fresh` put among entries: the first one with the key `k` is joined with it, or
it goes to the end. -/
def put (k : κ) (fresh : α) (join : α → α) : List α → List α
  | [] => [fresh]
  | a :: r => if key a = k then join a :: r else a :: put k fresh join r

/-- `s` is a member of the entry with the key `k`. -/
def Holds (members : α → List σ) (l : List α) (k : κ) (s : σ) : Prop :=
  ∃ a ∈ l, key a = k ∧ s ∈ members a

variable {key} {k : κ} {fresh : α} {join : α → α}

theorem put_new {l : List α} (h : k ∉ l.map key) : put key k fresh join l = l ++ [fresh] := by
  induction l with
  | nil => rfl
  | cons a r ih =>
    simp only [List.map_cons, List.mem_cons, not_or] at h
    simp only [put, if_neg (Ne.symm h.1), ih h.2, List.cons_append]

theorem mem_put {l : List α} {x : α} (h : x ∈ put key k fresh join l) :
    (x = fresh ∧ k ∉ l.map key) ∨ x ∈ l ∨ ∃ a ∈ l, key a = k ∧ x = join a := by
  induction l with
  | nil => exact Or.inl ⟨List.mem_singleton.mp h, List.not_mem_nil⟩
  | cons a r ih =>
    simp only [put] at h
    split at h
    · rename_i ha
      rcases List.mem_cons.mp h with rfl | hx
      · exact Or.inr (Or.inr ⟨a, List.mem_cons_self, ha, rfl⟩)
      · exact Or.inr (Or.inl (List.mem_cons_of_mem _ hx))
    · rename_i ha
      rcases List.mem_cons.mp h with rfl | hx
      · exact Or.inr (Or.inl List.mem_cons_self)
      · rcases ih hx with ⟨hf, hn⟩ | hm | ⟨b, hb, hk, he⟩
        · exact Or.inl ⟨hf, by simpa [Ne.symm ha] using hn⟩
        · exact Or.inr (Or.inl (List.mem_cons_of_mem _ hm))
        · exact Or.inr (Or.inr ⟨b, List.mem_cons_of_mem _ hb, hk, he⟩)

/-- Where no key comes twice, the entry with the key is joined and no other. -/
theorem mem_put_of_nodup {l : List α} {x : α} (distinct : (l.map key).Nodup)
    (h : x ∈ put key k fresh join l) :
    (x = fresh ∧ k ∉ l.map key) ∨ (x ∈ l ∧ key x ≠ k) ∨ ∃ a ∈ l, key a = k ∧ x = join a := by
  induction l with
  | nil => exact Or.inl ⟨List.mem_singleton.mp h, List.not_mem_nil⟩
  | cons a r ih =>
    obtain ⟨ha, hr⟩ := List.nodup_cons.mp distinct
    simp only [put] at h
    split at h
    · rename_i here
      rcases List.mem_cons.mp h with rfl | hx
      · exact Or.inr (Or.inr ⟨a, List.mem_cons_self, here, rfl⟩)
      · refine Or.inr (Or.inl ⟨List.mem_cons_of_mem _ hx, fun same => ha ?_⟩)
        exact List.mem_map.mpr ⟨x, hx, same.trans here.symm⟩
    · rename_i elsewhere
      rcases List.mem_cons.mp h with rfl | hx
      · exact Or.inr (Or.inl ⟨List.mem_cons_self, elsewhere⟩)
      · rcases ih hr hx with ⟨hf, hn⟩ | ⟨hm, hk⟩ | ⟨b, hb, hk, he⟩
        · exact Or.inl ⟨hf, by simpa [Ne.symm elsewhere] using hn⟩
        · exact Or.inr (Or.inl ⟨List.mem_cons_of_mem _ hm, hk⟩)
        · exact Or.inr (Or.inr ⟨b, List.mem_cons_of_mem _ hb, hk, he⟩)

/-- What holds of the new entry and of all others, and survives joining, holds of all
entries after a step. -/
theorem forall_mem_put {P : α → Prop} {l : List α} (hf : P fresh) (hl : ∀ a ∈ l, P a)
    (hj : ∀ a ∈ l, key a = k → P a → P (join a)) : ∀ a ∈ put key k fresh join l, P a := by
  intro x hx
  rcases mem_put hx with ⟨rfl, _⟩ | hm | ⟨a, ha, hk, rfl⟩
  · exact hf
  · exact hl x hm
  · exact hj a ha hk (hl a ha)

theorem keys_put (hf : key fresh = k) (hj : ∀ a, key (join a) = key a) (l : List α) :
    (put key k fresh join l).map key =
      if k ∈ l.map key then l.map key else l.map key ++ [k] := by
  induction l with
  | nil => simp [put, hf]
  | cons a r ih =>
    by_cases ha : key a = k
    · simp [put, ha, hj]
    · simp only [put, ha, if_false, List.map_cons, ih, List.mem_cons, Ne.symm ha, false_or]
      split <;> rfl

theorem nodup_keys_put (hf : key fresh = k) (hj : ∀ a, key (join a) = key a) {l : List α}
    (h : (l.map key).Nodup) : ((put key k fresh join l).map key).Nodup := by
  rw [keys_put hf hj]
  split
  · exact h
  · rename_i hk
    exact h.append (List.nodup_singleton k) (by simpa using hk)

omit [DecidableEq κ] in
/-- Steps that put an entry with a new key at the end put entries with different keys there in their
order. -/
theorem foldl_new {β : Type} {step : List α → β → List α} {keyOf : β → κ} {fresh : β → α}
    (hs : ∀ l b, keyOf b ∉ l.map key → step l b = l ++ [fresh b])
    (hf : ∀ b, key (fresh b) = keyOf b) (bs : List β) (l : List α)
    (h : (l.map key ++ bs.map keyOf).Nodup) : bs.foldl step l = l ++ bs.map fresh := by
  induction bs generalizing l with
  | nil => simp
  | cons b r ih =>
    have new : keyOf b ∉ l.map key := by
      intro hb
      exact (List.nodup_append.mp h).2.2 _ hb _ (by simp) rfl
    rw [List.foldl_cons, hs l b new, ih _ (by simpa [hf] using h)]
    simp

theorem foldl_put_new {β : Type} {keyOf : β → κ} {fresh : β → α} {join : β → α → α}
    (hf : ∀ b, key (fresh b) = keyOf b) (bs : List β) (l : List α)
    (h : (l.map key ++ bs.map keyOf).Nodup) :
    bs.foldl (fun acc b => put key (keyOf b) (fresh b) (join b) acc) l = l ++ bs.map fresh :=
  foldl_new (fun _ _ new => put_new new) hf bs l h

end

section Groups
variable {α β κ : Type}

/-- The entry that a group makes: the first of it alone, joined by the others. -/
def merged? (fresh : β → α) (join : β → α → α) : List β → Option α
  | [] => none
  | b :: r => some (r.foldl (fun a c => join c a) (fresh b))

/-- An entry for each key, in order of first occurrence, made of all that have the key. -/
def groups [BEq κ] (keyOf : β → κ) (fresh : β → α) (join : β → α → α) (bs : List β) : List α :=
  (bs.map keyOf).eraseDups.filterMap fun k => merged? fresh join (bs.filter (keyOf · == k))

variable {key : α → κ} {keyOf : β → κ} {fresh : β → α} {join : β → α → α}

theorem merged?_concat (bs : List β) (b : β) :
    merged? fresh join (bs ++ [b]) =
      some (((merged? fresh join bs).map (join b)).getD (fresh b)) := by
  cases bs with
  | nil => rfl
  | cons c r => simp [merged?]

theorem key_foldl_join (hj : ∀ b a, key (join b a) = key a) (bs : List β) (a : α) :
    key (bs.foldl (fun a c => join c a) a) = key a := by
  induction bs generalizing a with
  | nil => rfl
  | cons b r ih => rw [List.foldl_cons, ih, hj]

/-- What holds of each entry alone and survives joining holds of all entries. -/
theorem forall_mem_groups [BEq κ] {P : α → Prop} {bs : List β} (hf : ∀ b ∈ bs, P (fresh b))
    (hj : ∀ b ∈ bs, ∀ a, P a → P (join b a)) : ∀ a ∈ groups keyOf fresh join bs, P a := by
  intro a ha
  obtain ⟨k, _, made⟩ := List.mem_filterMap.mp ha
  cases group : bs.filter (keyOf · == k) with
  | nil =>
    rw [group] at made
    cases made
  | cons b r =>
    have own : ∀ c ∈ b :: r, c ∈ bs := fun c hc => (List.mem_filter.mp (group ▸ hc)).1
    rw [group] at made
    obtain rfl := Option.some.inj made
    exact List.foldlRecOn r _ (hf b (own b List.mem_cons_self)) fun a ha c hc =>
      hj c (own c (List.mem_cons_of_mem b hc)) a ha

variable [BEq κ] [LawfulBEq κ] {bs : List β} {k : κ} {a : α}

theorem isSome_merged? (fresh : β → α) (join : β → α → α) :
    (merged? fresh join (bs.filter (keyOf · == k))).isSome ↔ k ∈ bs.map keyOf := by
  have none_iff : bs.filter (keyOf · == k) = [] ↔ k ∉ bs.map keyOf := by simp
  cases group : bs.filter (keyOf · == k) with
  | nil => simpa [merged?] using none_iff.mp group
  | cons b r =>
    have some_member := mt none_iff.mpr (by simp [group])
    simpa [merged?] using some_member

theorem key_merged? (hf : ∀ b, key (fresh b) = keyOf b) (hj : ∀ b a, key (join b a) = key a)
    (h : merged? fresh join (bs.filter (keyOf · == k)) = some a) : key a = k := by
  cases group : bs.filter (keyOf · == k) with
  | nil =>
    rw [group] at h
    cases h
  | cons b r =>
    rw [group] at h
    obtain rfl := Option.some.inj h
    have own : b ∈ bs.filter (keyOf · == k) := group ▸ List.mem_cons_self
    rw [key_foldl_join hj, hf]
    simpa using (List.mem_filter.mp own).2

/-- An entry of the groups is the one that all with its key make. -/
theorem mem_groups (hf : ∀ b, key (fresh b) = keyOf b) (hj : ∀ b a, key (join b a) = key a) :
    a ∈ groups keyOf fresh join bs ↔ ∃ b r, bs.filter (keyOf · == key a) = b :: r ∧
      r.foldl (fun a c => join c a) (fresh b) = a := by
  rw [groups, List.mem_filterMap]
  constructor
  · rintro ⟨k, _, made⟩
    rw [← key_merged? hf hj made] at made
    cases group : bs.filter (keyOf · == key a) with
    | nil =>
      rw [group] at made
      cases made
    | cons b r =>
      rw [group] at made
      exact ⟨b, r, rfl, Option.some.inj made⟩
  · rintro ⟨b, r, group, same⟩
    have own : b ∈ bs.filter (keyOf · == key a) := group ▸ List.mem_cons_self
    obtain ⟨hb, k⟩ := List.mem_filter.mp own
    refine ⟨key a, List.mem_eraseDups.mpr (List.mem_map.mpr ⟨b, hb, beq_iff_eq.mp k⟩), ?_⟩
    rw [group]
    exact congrArg some same

/-- Where no key comes twice, an entry is alone with its key. -/
theorem filter_key_eq {b : β} (distinct : (bs.map keyOf).Nodup) (hb : b ∈ bs) :
    bs.filter (keyOf · == keyOf b) = [b] := by
  induction bs with
  | nil => cases hb
  | cons c r ih =>
    obtain ⟨new, rest⟩ := List.nodup_cons.mp distinct
    rcases List.mem_cons.mp hb with rfl | later
    · have others : ∀ c ∈ r, ¬ (keyOf c == keyOf b) = true := by
        intro c hc same
        exact new (List.mem_map.mpr ⟨c, hc, beq_iff_eq.mp same⟩)
      rw [List.filter_cons, if_pos (beq_self_eq_true _), List.filter_eq_nil_iff.mpr others]
    · have apart : ¬ (keyOf c == keyOf b) = true := by
        intro same
        exact new (List.mem_map.mpr ⟨b, later, (beq_iff_eq.mp same).symm⟩)
      rw [List.filter_cons, if_neg apart, ih rest later]

/-- The keys of the groups, in order of first occurrence. -/
theorem keys_groups (hf : ∀ b, key (fresh b) = keyOf b) (hj : ∀ b a, key (join b a) = key a)
    (bs : List β) : (groups keyOf fresh join bs).map key = (bs.map keyOf).eraseDups := by
  rw [groups, List.map_filterMap]
  conv_rhs => rw [← List.filterMap_some (l := (bs.map keyOf).eraseDups)]
  refine List.filterMap_congr fun k hk => ?_
  have made := (isSome_merged? fresh join).mpr (List.mem_eraseDups.mp hk)
  obtain ⟨a, ha⟩ := Option.isSome_iff_exists.mp made
  rw [ha, Option.map_some, key_merged? hf hj ha]

/-- Groups under other names: the entries are in the same order, if no two keys come to be one. -/
theorem groups_map {γ κ' : Type} [BEq κ'] [LawfulBEq κ'] {keyOf' : γ → κ'} {fresh' : γ → α}
    {join' : γ → α → α} {f : β → γ} {g : κ → κ'} (named : ∀ b, keyOf' (f b) = g (keyOf b))
    (inj : ∀ b ∈ bs, ∀ c ∈ bs, g (keyOf b) = g (keyOf c) → keyOf b = keyOf c) :
    groups keyOf' fresh' join' (bs.map f) = (bs.map keyOf).eraseDups.filterMap fun k =>
      merged? fresh' join' ((bs.filter (keyOf · == k)).map f) := by
  have apart : ∀ k ∈ bs.map keyOf, ∀ l ∈ bs.map keyOf, g k = g l → k = l := by
    simpa using inj
  have keys : (bs.map f).map keyOf' = (bs.map keyOf).map g := by
    simp [named]
  rw [groups, keys, eraseDups_map_of_inj apart, List.filterMap_map]
  refine List.filterMap_congr fun k hk => ?_
  have group : (bs.map f).filter (keyOf' · == g k) = (bs.filter (keyOf · == k)).map f := by
    rw [List.filter_map]
    congr 1
    refine List.filter_congr fun b hb => ?_
    have := apart (keyOf b) (List.mem_map_of_mem hb) k (List.mem_eraseDups.mp hk)
    rw [Bool.eq_iff_iff]
    simp only [Function.comp_apply, named, beq_iff_eq]
    exact ⟨this, congrArg g⟩
  simp only [Function.comp_apply, group]

variable [DecidableEq κ]

omit [BEq κ] [LawfulBEq κ] in
/-- What is put under a key changes the entry of that key and no other. -/
theorem put_filterMap {e : κ → Option α} {b : α} {f : α → α}
    (own : ∀ l a, e l = some a → key a = l) (here : e k = some a) {ks : List κ}
    (distinct : ks.Nodup) (mem : k ∈ ks) :
    put key k b f (ks.filterMap e) = ks.filterMap fun l => if l = k then some (f a) else e l := by
  induction ks with
  | nil => cases mem
  | cons l r ih =>
    obtain ⟨new, rest⟩ := List.nodup_cons.mp distinct
    by_cases first : l = k
    · subst first
      have others : r.filterMap e = r.filterMap fun m => if m = l then some (f a) else e m := by
        refine List.filterMap_congr fun m hm => ?_
        rw [if_neg]
        rintro rfl
        exact new hm
      rw [List.filterMap_cons, List.filterMap_cons, here, if_pos rfl, ← others]
      exact if_pos (own l a here)
    · have later : k ∈ r := (List.mem_cons.mp mem).resolve_left (Ne.symm first)
      rw [List.filterMap_cons, List.filterMap_cons, if_neg first, ← ih rest later]
      cases made : e l with
      | none => rfl
      | some c => exact if_neg (own l c made ▸ first)

/-- **Merging one by one is merging group by group.** -/
theorem foldl_put_eq_groups (hf : ∀ b, key (fresh b) = keyOf b)
    (hj : ∀ b a, key (join b a) = key a) (bs : List β) :
    bs.foldl (fun acc b => put key (keyOf b) (fresh b) (join b) acc) [] =
      groups keyOf fresh join bs := by
  induction bs using List.reverseRecOn with
  | nil => rfl
  | append_singleton bs b ih =>
    rw [List.foldl_append, ih, List.foldl_cons, List.foldl_nil, groups, groups, List.map_append,
      List.map_singleton]
    have other : ∀ k, k ≠ keyOf b →
        (bs ++ [b]).filter (keyOf · == k) = bs.filter (keyOf · == k) := by
      intro k hk
      simp [Ne.symm hk]
    have same : (bs ++ [b]).filter (keyOf · == keyOf b) =
        bs.filter (keyOf · == keyOf b) ++ [b] := by simp
    by_cases old : keyOf b ∈ bs.map keyOf
    · obtain ⟨a, made⟩ := Option.isSome_iff_exists.mp
        ((isSome_merged? fresh join).mpr old)
      rw [eraseDups_concat_of_mem old, put_filterMap (fun _ _ => key_merged? hf hj) made
        (nodup_eraseDups _) (List.mem_eraseDups.mpr old)]
      refine List.filterMap_congr fun k _ => ?_
      split
      · rename_i here
        rw [here, same, merged?_concat, made]
        rfl
      · rename_i elsewhere
        rw [other k elsewhere]
    · have none_yet : bs.filter (keyOf · == keyOf b) = [] := by simpa using old
      have new : keyOf b ∉ (groups keyOf fresh join bs).map key := by
        rwa [keys_groups hf hj, List.mem_eraseDups]
      rw [eraseDups_concat_of_notMem old, List.filterMap_append, ← groups, put_new new]
      congr 1
      · refine List.filterMap_congr fun k hk => ?_
        rw [other k]
        rintro rfl
        exact old (List.mem_eraseDups.mp hk)
      · simp [none_yet, merged?]

end Groups

end Keyed

end Statecraft
