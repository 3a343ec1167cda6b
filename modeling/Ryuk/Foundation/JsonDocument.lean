import Ryuk.Foundation.JsonHooks

/-!
# Documents with sorted keys

The printer that sorts keys and allows infinities.  What it prints is read back in
canonical form, so two values with one text have one canonical form.
-/

namespace Ryuk
namespace Foundation
namespace Json

/-- `json.dumps(value, sort_keys=True, separators=(",", ":"))`; `none` where it raises. -/
def dumpsSorted (value : Json) : Option String :=
  if encodable (canon value) then some (String.ofList (render (canon value))) else none

mutual

/-- The keys of a canonical value are in order, so none is there twice. -/
theorem distinctKeys_of_canonical : ∀ value, Canonical value → DistinctKeys value
  | .null, _ | .bool _, _ | .int _, _ | .float _, _ | .str _, _ => trivial
  | .arr items, h => by
      rw [Canonical] at h
      rw [DistinctKeys]
      exact distinctItems_of_canonical items h
  | .obj fields, h => by
      rw [Canonical] at h
      rw [DistinctKeys]
      exact ⟨h.1.keys_nodup, distinctFields_of_canonical fields h.2⟩

theorem distinctItems_of_canonical : ∀ items, CanonicalItems items → DistinctItems items
  | [], _ => trivial
  | item :: rest, h => ⟨distinctKeys_of_canonical item h.1, distinctItems_of_canonical rest h.2⟩

theorem distinctFields_of_canonical : ∀ fields, CanonicalFields fields → DistinctFields fields
  | [], _ => trivial
  | (_, value) :: rest, h =>
      ⟨distinctKeys_of_canonical value h.1, distinctFields_of_canonical rest h.2⟩

end

/-- **Round trip.** -/
theorem loads_dumpsSorted {value : Json} {text : String} (h : dumpsSorted value = some text) :
    loads text = some (canon value) := by
  unfold dumpsSorted at h
  split_ifs at h with hencodable
  obtain rfl := Option.some.inj h
  have hdistinct := distinctKeys_of_canonical _ (canon_canonical value)
  rw [← renderWith_nil]
  exact loads_of_loadsWith (loadsWith_renderWith (fun c hc => (List.not_mem_nil hc).elim)
    (readable_default _ hdistinct hencodable))

/-- The text of an object with a field starts with a brace and the key. -/
theorem dumpsSorted_head {value : Json} {text key : String} {field : Json}
    {fields : List (String × Json)} (h : dumpsSorted value = some text)
    (hvalue : canon value = .obj ((key, field) :: fields)) :
    ∃ rest, text.toList = '\x7b' :: '"' :: rest := by
  unfold dumpsSorted at h
  split_ifs at h with hencodable
  obtain rfl := Option.some.inj h
  rw [String.toList_ofList, hvalue, render]
  exact ⟨_, rfl⟩

end Json
end Foundation
end Ryuk
