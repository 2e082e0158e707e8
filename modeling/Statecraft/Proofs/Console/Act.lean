import Statecraft.Command.Source
import Statecraft.Console.Message

/-!
# Runs of acts

A run that comes to its end went through each of its parts (`run_bind_ok`). Showing, warning and
loading settings leave the folder alone however they end (`KeepsFolder`); reading a definition
leaves the whole terminal as it was, and storing one changes the folder only.
-/

namespace Statecraft

namespace Console

variable {α β : Type} {t t' : Terminal}

/-- The second act starts at the terminal that the first leaves, unless that one stops. -/
theorem run_bind (x : Act α) (f : α → Act β) (t : Terminal) : (x >>= f).run.run t =
    match x.run.run t with
    | (.ok a, u) => (f a).run.run u
    | (.error stop, u) => (.error stop, u) := by
  rw [ExceptT.run_bind, StateT.run_bind]
  rcases x.run.run t with ⟨_ | _, _⟩ <;> rfl

theorem run_bind_ok {x : Act α} {f : α → Act β} {b : β} (h : (x >>= f).run.run t = (.ok b, t')) :
    ∃ a u, x.run.run t = (.ok a, u) ∧ (f a).run.run u = (.ok b, t') := by
  rw [run_bind] at h
  split at h
  · rename_i a u first
    exact ⟨a, u, first, h⟩
  · cases h

theorem run_orCrash_ok {ε : Type} {result : Except ε α} {fault : ε → Fault} {a : α}
    (h : (orCrash result fault).run.run t = (.ok a, t')) : result = .ok a ∧ t' = t := by
  cases result with
  | error e => cases h
  | ok b =>
    cases h
    exact ⟨rfl, rfl⟩

/-- However the act ends, the folder is as it was. -/
def KeepsFolder (x : Act α) : Prop := ∀ t, (x.run.run t).2.folder = t.folder

theorem KeepsFolder.folder_eq {x : Act α} (h : KeepsFolder x) {result : Except Stop α}
    (run : x.run.run t = (result, t')) : t'.folder = t.folder := by
  have kept := h t
  rw [run] at kept
  exact kept

theorem keepsFolder_bind {x : Act α} {f : α → Act β} (hx : KeepsFolder x)
    (hf : ∀ a, KeepsFolder (f a)) : KeepsFolder (x >>= f) := by
  intro t
  rw [run_bind]
  split
  · rename_i a u first
    exact (hf a u).trans (hx.folder_eq first)
  · rename_i stop u first
    exact hx.folder_eq first

theorem keepsFolder_forM {f : α → Act Unit} (h : ∀ a, KeepsFolder (f a)) (as : List α) :
    KeepsFolder (as.forM f) := by
  induction as with
  | nil => exact fun _ => rfl
  | cons a r ih => exact keepsFolder_bind (h a) fun _ => ih

theorem keepsFolder_orCrash {ε : Type} (result : Except ε α) (fault : ε → Fault) :
    KeepsFolder (orCrash result fault) := by
  cases result <;> exact fun _ => rfl

theorem keepsFolder_line (markup : String) : KeepsFolder (line markup) :=
  keepsFolder_bind (keepsFolder_orCrash _ _) fun _ _ => rfl

theorem keepsFolder_warn (message : String) : KeepsFolder (warn message) := by
  intro t
  show (if t.showsWarnings then _ else t : Terminal).folder = t.folder
  split <;> rfl

/-- Settings that are loaded are those of the terminal's folder and variables. -/
theorem run_loadSettings_ok {config : Option Path} {settings : Settings}
    (h : (loadSettings config).run.run t = (.ok settings, t')) :
    (Settings.load ⟨t.folder, t.environment⟩ (config.map Path.text) []).result = .ok settings ∧
      t'.folder = t.folder := by
  obtain ⟨_, _, got, h⟩ := run_bind_ok h
  cases got
  obtain ⟨_, u, warned, loaded⟩ := run_bind_ok h
  have kept := keepsFolder_forM fun w : Settings.Warning => keepsFolder_warn w.message
  obtain ⟨result, rfl⟩ := run_orCrash_ok loaded
  exact ⟨result, (kept _).folder_eq warned⟩

end Console

namespace Command

open Console

variable {t t' : Terminal} {path : Path} {d : Definition}

theorem keepsFolder_warnLost (divergences : List Bundle.Divergence) :
    KeepsFolder (warnLost divergences) :=
  keepsFolder_forM (fun d : Bundle.Divergence => keepsFolder_warn d.message) divergences

theorem run_refuse {α : Type} (message : String) (a : α) :
    (refuse message : Act α).run.run t ≠ (.ok a, t') := by
  intro h
  obtain ⟨_, _, _, left⟩ := run_bind_ok h
  cases left

theorem run_readMapping_ok {data : Document}
    (h : (readMapping path).run.run t = (.ok data, t')) :
    t.folder.readSource path = .ok data ∧ t' = t := by
  obtain ⟨_, _, got, h⟩ := run_bind_ok h
  cases got
  unfold expecting at h
  split at h
  · rename_i read
    cases h
    exact ⟨read, rfl⟩
  · split at h
    · exact absurd h (run_refuse _ _)
    · split at h
      · exact absurd h (run_refuse _ _)
      · cases h

/-- A definition that is read is that of the file, and nothing happens beside that. -/
theorem run_readDefinition_ok (h : (readDefinition path).run.run t = (.ok d, t')) :
    (∃ data, t.folder.readSource path = .ok data ∧ Definition.ofDocument data = .ok d) ∧
      t' = t := by
  obtain ⟨data, u, mapping, rest⟩ := run_bind_ok h
  obtain ⟨read, rfl⟩ := run_readMapping_ok mapping
  split at rest
  · rename_i loaded
    cases rest
    exact ⟨⟨data, read, loaded⟩, rfl⟩
  · obtain ⟨_, _, _, rest⟩ := run_bind_ok rest
    obtain ⟨_, _, _, left⟩ := run_bind_ok rest
    cases left

theorem run_storeDefinition_ok {hint : Option String}
    (h : (storeDefinition path d hint).run.run t = (.ok (), t')) :
    t.folder.store path d = .ok t'.folder := by
  obtain ⟨_, _, got, h⟩ := run_bind_ok h
  cases got
  split at h
  · rename_i stored
    cases h
    exact stored
  · split at h
    · obtain ⟨_, _, _, left⟩ := run_bind_ok h
      cases left
    · cases h

end Command

end Statecraft
