import SvgDrawing.Proofs.Double.Projection
import SvgDrawing.Proofs.Swift.NumberValue

/-!
# Numbers that are written again

A coordinate that was written and read back is the rounded one, up to the sign of zero.  So writing
coordinates keeps their order, and writing what was read back gives the same text.
-/
namespace SvgDrawing.Swift

-- powers are those of natural numbers, whatever other powers are in scope
attribute [local instance (high)] instPowNat

open PathData

variable {x y v : Double} {precision : ℤ} {text : String}

theorem units_eq_of_same (h : x.Same y) : x.units = y.units := by
  rcases h with heq | ⟨hx, hy⟩
  · rw [heq]
  · obtain ⟨s, rfl⟩ := Double.eq_zero_of_isZero hx
    obtain ⟨t, rfl⟩ := Double.eq_zero_of_isZero hy
    simp [Double.zero, Double.units]

/-- What a rounded coordinate is read back as is rounded to the same number. -/
theorem number?_of_same (h : x.roundTo? precision = some y) (hv : v.Same y) :
    number? precision v = some (number y) := by
  rcases hv with heq | ⟨hv, hy⟩
  · rw [number?, heq, Double.roundTo?_of_roundTo? h, Option.map_some]
  · obtain ⟨s, rfl⟩ := Double.eq_zero_of_isZero hv
    obtain ⟨t, rfl⟩ := Double.eq_zero_of_isZero hy
    rw [number?, Double.roundTo?_zero, Option.map_some]
    rfl

/-- A written coordinate is read back as the rounded one, up to the sign of zero. -/
theorem exists_parseNumber_of_number? (hx : x.isFinite) (h : number? precision x = some text) :
    ∃ y v, x.roundTo? precision = some y ∧ text = number y ∧ parseNumber text = .ok v ∧
      v.isFinite ∧ v.Same y := by
  obtain ⟨y, hy, htext⟩ := Option.map_eq_some_iff.mp h
  have hfinite : y.isFinite := by
    rw [Double.isFinite_roundTo? hy, hx]
  obtain ⟨v, hparse, hsame⟩ := parseNumber_number hfinite
  rw [htext] at hparse
  exact ⟨y, v, hy, htext.symm, hparse, by rw [hsame.isFinite_eq, hfinite], hsame⟩

/-- Writing coordinates is a monotone projection: whatever number of places they are rounded to, of
two finite coordinates that can be written the larger one is not read back as a smaller number, and
a coordinate that is read back is written as the same text again. -/
theorem number?_projection {s t : String} (hx : x.isFinite) (hy : y.isFinite)
    (hle : x.units ≤ y.units) (hs : number? precision x = some s)
    (ht : number? precision y = some t) :
    ∃ v w, parseNumber s = .ok v ∧ parseNumber t = .ok w ∧ v.isFinite ∧ w.isFinite ∧
      v.units ≤ w.units ∧ number? precision v = some s := by
  obtain ⟨x', v, hx', hsx, hv, hvfinite, hvx⟩ := exists_parseNumber_of_number? hx hs
  obtain ⟨y', w, hy', -, hw, hwfinite, hwy⟩ := exists_parseNumber_of_number? hy ht
  have hmono : x'.units ≤ y'.units := Double.units_le_units_of_roundTo? hx hy hle hx' hy'
  refine ⟨v, w, hv, hw, hvfinite, hwfinite, ?_, ?_⟩
  · rw [units_eq_of_same hvx, units_eq_of_same hwy]
    exact hmono
  · rw [hsx]
    exact number?_of_same hx' hvx

/-- The neighbours of `2 ^ -29`, of which the smaller one is only half as far away, are rounded to
the same decimal with 24 places, and this is read back as the power of two. -/
theorem number?_projection_of_neighbours :
    ∃ x y v w, x = Double.ofDecimal false ⟨18626451492309568, -25⟩ ∧
      y = Double.ofDecimal false ⟨18626451492309574, -25⟩ ∧ x.units < y.units ∧
      number? 24 x = some "1.862645149230957e-09" ∧ number? 24 y = some "1.862645149230957e-09" ∧
      parseNumber "1.862645149230957e-09" = .ok v ∧ parseNumber "1.862645149230957e-09" = .ok w ∧
      v.units ≤ w.units ∧ number? 24 v = some "1.862645149230957e-09" := by
  have hx : (Double.ofDecimal false ⟨18626451492309568, -25⟩).isFinite := by decide +kernel
  have hy : (Double.ofDecimal false ⟨18626451492309574, -25⟩).isFinite := by decide +kernel
  have hlt : (Double.ofDecimal false ⟨18626451492309568, -25⟩).units <
      (Double.ofDecimal false ⟨18626451492309574, -25⟩).units := by
    decide +kernel
  have hs : number? 24 (.ofDecimal false ⟨18626451492309568, -25⟩) =
      some "1.862645149230957e-09" := by
    decide +kernel
  have ht : number? 24 (.ofDecimal false ⟨18626451492309574, -25⟩) =
      some "1.862645149230957e-09" := by
    decide +kernel
  obtain ⟨v, w, hv, hw, -, -, hle, hagain⟩ := number?_projection hx hy (Int.le_of_lt hlt) hs ht
  exact ⟨_, _, v, w, rfl, rfl, hlt, hs, ht, hv, hw, hle, hagain⟩

end SvgDrawing.Swift
