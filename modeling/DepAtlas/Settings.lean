/-!
# Settings of an analysis and of its map

Three limits bound the rankings of an analysis and are at least one.  Three preview
lengths bound the listings of a map and may be any integer.
-/

namespace DepAtlas

/-- The usual limit is a limit. -/
theorem one_le_ten : (1 : Int) ≤ 10 := by decide

/-- The settings of an analysis and of its map. -/
structure Settings where
  mostConnected : Int := 10
  hotspots : Int := 10
  complexFiles : Int := 10
  orderPreview : Int := 10
  edgePreview : Int := 10
  keyComponents : Int := 5
  one_le_mostConnected : 1 ≤ mostConnected := by exact one_le_ten
  one_le_hotspots : 1 ≤ hotspots := by exact one_le_ten
  one_le_complexFiles : 1 ≤ complexFiles := by exact one_le_ten
  deriving DecidableEq, Repr

/-- A ranking limit below one. -/
structure LimitTooSmall where
  limit : String
  value : Int
  deriving DecidableEq, Repr

/-- The message for a ranking limit below one. -/
def LimitTooSmall.message (fault : LimitTooSmall) : String :=
  s!"{fault.limit} must be at least 1, got {fault.value}"

namespace Settings

/-- The settings with the given values; the first limit below one is reported. -/
def ofValues (mostConnected hotspots complexFiles orderPreview edgePreview
    keyComponents : Int) : Except LimitTooSmall Settings :=
  if h₁ : 1 ≤ mostConnected then
    if h₂ : 1 ≤ hotspots then
      if h₃ : 1 ≤ complexFiles then
        .ok ⟨mostConnected, hotspots, complexFiles, orderPreview, edgePreview, keyComponents,
          h₁, h₂, h₃⟩
      else .error ⟨"complex_files_limit", complexFiles⟩
    else .error ⟨"hotspot_limit", hotspots⟩
  else .error ⟨"most_connected_limit", mostConnected⟩

/-- One limit for all rankings, and the usual previews. -/
def ofLimit (limit : Int) (h : 1 ≤ limit) : Settings where
  mostConnected := limit
  hotspots := limit
  complexFiles := limit
  one_le_mostConnected := h
  one_le_hotspots := h
  one_le_complexFiles := h

end Settings

end DepAtlas
