import Criteria.Proofs.Keyed
import Criteria.Sort

/-!
# Sort orders in normal form

A normal sort names the identity by the store's name and gives each key, once, one
of the two directions.
-/

namespace Criteria.Sort

theorem outputName_outputName (name : String) :
    outputName (outputName name) = outputName name := by
  have different : identityField ≠ identityAlias := by decide
  unfold outputName
  by_cases general : name = identityAlias
  · rw [if_pos general, if_neg different]
  · rw [if_neg general, if_neg general]

theorem direction_direction (indicator : Value) :
    direction (direction indicator) = direction indicator := by
  unfold direction
  cases isDescending indicator <;> rfl

theorem normal_of_mem_normalize {fields : Document} {entry : String × Value}
    (member : entry ∈ normalize fields) : (outputName entry.1, direction entry.2) = entry := by
  obtain ⟨original, -, rfl⟩ := List.mem_map.1 (Keyed.mem_of_mem_ofList member)
  rw [outputName_outputName, direction_direction]

theorem normalize_normalize (fields : Document) :
    normalize (normalize fields) = normalize fields := by
  have kept : (normalize fields).map (fun entry => (outputName entry.1, direction entry.2)) =
      normalize fields := by
    rw [List.map_congr_left fun _ member => normal_of_mem_normalize member]
    exact List.map_id _
  have nodup : (Keyed.keys (normalize fields)).Nodup := Keyed.nodup_keys_ofList _
  rw [normalize, kept]
  exact Keyed.ofList_of_nodup nodup

end Criteria.Sort
