import Courier.Http.Token
import Courier.Request

/-!
# Values of headers

Headers are read by name, where the case of letters does not matter. A name may have several values,
and their order counts.
-/

namespace Courier.Http

/-- The values of a name in order. Names that differ in the case of letters are the same. -/
def valuesOf (name : String) (headers : Headers) : List String :=
  (headers.filter fun h => lowerName h.1 = lowerName name).map (·.2)

theorem toLower_toLower (c : Char) : c.toLower.toLower = c.toLower := by
  by_cases h : c.val ≥ 'A'.val ∧ c.val ≤ 'Z'.val
  · -- a small letter is none of the capital ones
    have hletter : c.toLower = _ := dif_pos h
    have hval : c.toLower.val = c.val + 32 := congrArg Char.val hletter
    have hsmall : ¬ (c.toLower.val ≥ 'A'.val ∧ c.toLower.val ≤ 'Z'.val) := by
      rw [hval]
      simp only [ge_iff_le, UInt32.le_iff_toNat_le, UInt32.toNat_add] at h ⊢
      simp only [Char.reduceVal, UInt32.reduceToNat] at h ⊢
      omega
    exact dif_neg hsmall
  · have hsame : c.toLower = c := dif_neg h
    rw [hsame, hsame]

theorem lowerName_lowerName (name : String) : lowerName (lowerName name) = lowerName name := by
  simp only [lowerName, String.toList_ofList, List.map_map]
  congr 2
  exact funext toLower_toLower

theorem valuesOf_append (name : String) (a b : Headers) :
    valuesOf name (a ++ b) = valuesOf name a ++ valuesOf name b := by
  simp only [valuesOf, List.filter_append, List.map_append]

theorem valuesOf_flatten (name : String) (layers : List Headers) :
    valuesOf name layers.flatten = layers.flatMap (valuesOf name) := by
  induction layers with
  | nil => rfl
  | cons layer rest ih => rw [List.flatten_cons, valuesOf_append, ih, List.flatMap_cons]

theorem valuesOf_singleton (name : String) (header : String × String) :
    valuesOf name [header] = if lowerName header.1 = lowerName name then [header.2] else [] := by
  unfold valuesOf
  split <;> simp_all

theorem valuesOf_congr {a b : String} (h : lowerName a = lowerName b) :
    valuesOf a = valuesOf b := by
  funext headers
  rw [valuesOf, valuesOf, h]

end Courier.Http
