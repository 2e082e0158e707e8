import Statecraft.Proofs.Definition.ReadBack
import Statecraft.Proofs.Folder
import Statecraft.Proofs.Json.Printed
import Statecraft.Proofs.Yaml.Printed

/-!
# Definitions in files

A definition that is stored is in the file of that path, as its text in the format of the path's
suffix, and nothing else in the folder has changed (`Folder.stores_of_store`). Both formats write
printed texts only (`Definition.printed_write`), so the text is what is read from the file.
-/

namespace Statecraft

namespace Definition

variable {d : Definition} {format : Format} {text : String}

theorem printed_write (h : d.write format = .ok text) : Text.AllPrinted text.toList := by
  unfold write at h
  cases format with
  | yaml =>
    dsimp only at h
    split at h
    · rename_i written
      cases h
      exact Yaml.printed_write written
    · cases h
  | json =>
    dsimp only at h
    split at h
    · rename_i s written
      cases h
      have line : Text.AllPrinted "\n".toList := by decide
      rw [String.toList_append]
      exact Text.allPrinted_append.mpr ⟨Json.prints_file.write written, line⟩
    · cases h

end Definition

namespace Folder

variable {f f' : Folder} {p : Path} {d : Definition}

/-- What a definition's storing under a path has left: a file with its text, and all else as it was.
If the text of its document is read as this document, the definition is read back from the file,
but for which of its values are shared. -/
structure Stores (f : Folder) (p : Path) (d : Definition) (f' : Folder) : Prop where
  text_written : ∃ format text, Format.ofSuffix? p.suffix = some format ∧
    d.write format = .ok text ∧ f.Wrote p (Text.encode text) f' ∧ f'.readText p = .ok text
  read_back : ∀ format, Format.ofSuffix? p.suffix = some format → format.Inverts d.toDocument →
    ∃ source back, f'.readSource p = .ok source ∧ Definition.ofDocument source = .ok back ∧
      back.plain = d.plain

theorem readSource_of_readText {text : String} {format : Format} {bytes : List UInt8}
    (there : f.find? p = .ok (some (.file bytes))) (read : f.readText p = .ok text)
    (suffix : Format.ofSuffix? p.suffix = some format) : f.readSource p = format.read text := by
  have contained : f.contains p = .ok true := by
    rw [contains, there]
    rfl
  simp only [readSource, contained, read, suffix]

/-- **A definition that is stored is in the file, and no other file has changed.** -/
theorem stores_of_store (distinct : (d.annotations.map Prod.fst).Nodup)
    (h : f.store p d = .ok f') : f.Stores p d f' := by
  unfold store at h
  split at h
  · cases h
  rename_i format suffix
  split at h
  · cases h
  rename_i text written
  split at h
  · rename_i g stored
    cases h
    have wrote := wrote_of_writeText stored
    have read := readText_of_find? wrote.written (Definition.printed_write written)
    refine ⟨⟨format, text, suffix, written, wrote, read⟩, fun format' suffix' inverts => ?_⟩
    obtain rfl := Option.some.inj (suffix.symm.trans suffix')
    obtain ⟨text', source, back, written', mapping, loaded, plain⟩ :=
      Definition.exists_read_back distinct inverts
    obtain rfl := Except.ok.inj (written.symm.trans written')
    exact ⟨source, back, (readSource_of_readText wrote.written read suffix).trans mapping, loaded,
      plain⟩
  · cases h

end Folder

end Statecraft
