/-!
Pages of lists.

A position below zero counts from the end of a list, and a position outside the list stands for the
nearer one of its ends.
-/

namespace ClassAtlas

/-- The number of items before a position. -/
def placeIn (length : Nat) (position : Int) : Nat :=
  if position < 0 then (length + position).toNat else min position.toNat length

/-- The items from one position up to another. -/
def slice {α : Type} (items : List α) (start stop : Int) : List α :=
  (items.take (placeIn items.length stop)).drop (placeIn items.length start)

/-- The items from an offset on, at most as many as the limit; without a positive limit all of them. -/
def page {α : Type} (items : List α) (offset limit : Int) : List α :=
  if limit > 0 then slice items offset (offset + limit)
  else items.drop (placeIn items.length offset)

/-- A page of a section, which is only cut if the offset or the limit is positive. -/
def sectionPage {α : Type} (items : List α) (offset limit : Int) : List α :=
  if offset > 0 || limit > 0 then page items offset limit else items

theorem placeIn_ofNat (length position : Nat) : placeIn length position = min position length := by
  simp only [placeIn]
  split <;> omega

/-- A page without a limit holds all that is left after the offset. -/
theorem page_unlimited {α : Type} (items : List α) (offset : Nat) :
    page items offset 0 = items.drop offset := by
  rw [page, if_neg (by decide), placeIn_ofNat]
  rcases Nat.le_total offset items.length with inside | outside
  · rw [Nat.min_eq_left inside]
  · rw [Nat.min_eq_right outside, List.drop_length, List.drop_eq_nil_of_le outside]

/-- A page with a limit holds what is left after the offset, up to the limit. -/
theorem page_ofNat {α : Type} (items : List α) (offset limit : Nat) (positive : 0 < limit) :
    page items offset limit = (items.drop offset).take limit := by
  have stopPlace :
      placeIn items.length ((offset : Int) + limit) = min (offset + limit) items.length :=
    placeIn_ofNat items.length (offset + limit)
  have hasLimit : (limit : Int) > 0 := by omega
  simp only [page, hasLimit, if_true, slice, placeIn_ofNat, stopPlace]
  apply List.ext_getElem?
  intro index
  grind

end ClassAtlas
