import Statecraft.Document.Basic

/-!
# Overlaying documents

Entries laid over others: they win where both have a value, except that mappings
on both sides are overlaid in turn. So each leaf comes from the uppermost layer
that has it.
-/

namespace Statecraft.Document

/-- The entry of an equal key. -/
def Entries.at? (entries : Entries) (key : Document) : Option Document :=
  (entries.find? (·.1.same key)).map (·.2)

mutual

/-- A value over what is below it. -/
def onTop (below : Option Document) : Document → Document
  | .map entries =>
    match below with
    | some (.map lower) => .map (overEntries lower entries)
    | _ => .map entries
  | d => d

def overEntries (lower : Entries) : Entries → Entries
  | [] => lower
  | (k, v) :: r => overEntries (lower.insert k (onTop (lower.at? k) v)) r

end

/-- The first entries over the second. -/
def Entries.overlay (upper lower : Entries) : Entries := overEntries lower upper

end Statecraft.Document
