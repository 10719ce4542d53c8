import Tabletop.Amount

/-!
Stat sheets: names with values in the order in which they were declared. A name occurs once; a new
value takes the place of the old one.
-/
namespace Tabletop

structure StatSheet where
  entries : List (Text × Amount)
  distinct : (entries.map (·.1)).Nodup

namespace StatSheet

def empty : StatSheet := ⟨[], List.nodup_nil⟩

def get? (sheet : StatSheet) (name : Text) : Option Amount := sheet.entries.lookup name

def replaced (name : Text) (value : Amount) (entries : List (Text × Amount)) :
    List (Text × Amount) :=
  entries.map fun (other, old) => (other, if other = name then value else old)

theorem names_replaced (name : Text) (value : Amount) (entries : List (Text × Amount)) :
    (replaced name value entries).map (·.1) = entries.map (·.1) := by
  simp [replaced, Function.comp_def]

def insert (sheet : StatSheet) (name : Text) (value : Amount) : StatSheet :=
  if known : name ∈ sheet.entries.map (·.1) then
    ⟨replaced name value sheet.entries, by
      rw [names_replaced]
      exact sheet.distinct⟩
  else
    ⟨sheet.entries ++ [(name, value)], by
      simp only [List.map_append, List.map_cons, List.map_nil]
      refine List.nodup_append.2 ⟨sheet.distinct, by simp, fun a ha b hb same => ?_⟩
      rw [List.mem_singleton.1 hb] at same
      exact known (same ▸ ha)⟩

/-- The sheet with given stats; of a repeated name the first place and the last value count. -/
def ofList (stats : List (Text × Amount)) : StatSheet :=
  stats.foldl (fun sheet (name, value) => sheet.insert name value) empty

end StatSheet
end Tabletop
