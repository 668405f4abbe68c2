import ImageRequest.Proofs.Token

/-!
# Placing again and again

A gravity that several placements are made on has the anchor of the last one, and along each axis
the last offset that was given. Each placement was checked for its own anchor only, so that an
offset and an anchor of different placements can come together.

`legal_placeAll_iff` says exactly when the two do not fit: when the offset was given at the center,
where it may be negative, is not zero or greater, and the last anchor is another one.
-/

namespace ImageRequest

/-- The two directions of an offset. -/
inductive Axis where
  | x
  | y
deriving Repr, DecidableEq

namespace Gravity

/-- The offset along an axis. -/
def along (gravity : Gravity) : Axis → Float
  | .x => gravity.x
  | .y => gravity.y

/-- The anchor accepts both of the offsets. -/
def Legal (gravity : Gravity) : Prop :=
  gravity.anchor.acceptsOffset gravity.x = true ∧ gravity.anchor.acceptsOffset gravity.y = true

instance (gravity : Gravity) : Decidable gravity.Legal :=
  inferInstanceAs (Decidable (_ ∧ _))

/-- Make several placements, one after the other. -/
def placeAll (gravity : Gravity) (placements : List Placement) : Gravity :=
  placements.foldl place gravity

theorem placeAll_append (gravity : Gravity) (first second : List Placement) :
    gravity.placeAll (first ++ second) = (gravity.placeAll first).placeAll second :=
  List.foldl_append

theorem legal_iff (gravity : Gravity) :
    gravity.Legal ↔ ∀ axis, gravity.anchor.acceptsOffset (gravity.along axis) = true := by
  constructor
  · rintro ⟨first, second⟩ axis
    cases axis with
    | x => exact first
    | y => exact second
  · exact fun all => ⟨all .x, all .y⟩

end Gravity

namespace Placement

/-- The offset that a placement gives along an axis, if any, and the anchor that it is given at. -/
def given? (axis : Axis) (placement : Placement) : Option (Anchor × Float) :=
  let offset? :=
    match axis with
    | .x => placement.x?
    | .y => placement.y?
  offset?.map fun offset => (placement.anchor, offset)

/-- The last offset that is given along an axis, and the anchor that it is given at. -/
def lastGiven? (axis : Axis) (placements : List Placement) : Option (Anchor × Float) :=
  (placements.filterMap (given? axis)).getLast?

/-- The anchor after some placements; before the first it is the center. -/
def lastAnchor (placements : List Placement) : Anchor :=
  (placements.getLast?.map Placement.anchor).getD .center

/-- Along an axis the last offset is negative, as only the center allows, and was left behind when
the anchor moved away from the center. -/
def Strays (axis : Axis) (placements : List Placement) : Prop :=
  ∃ offset, lastGiven? axis placements = some (.center, offset) ∧ ¬ 0.0 ≤ offset ∧
    lastAnchor placements ≠ .center

theorem Sound.accepts {placement : Placement} (sound : placement.Sound) {axis : Axis}
    {anchor : Anchor} {offset : Float} (given : placement.given? axis = some (anchor, offset)) :
    anchor.acceptsOffset offset = true := by
  obtain ⟨value, stated, same⟩ := Option.map_eq_some_iff.1 given
  obtain ⟨rfl, rfl⟩ := Prod.mk.inj same
  cases axis with
  | x => exact (sound.x value stated).2
  | y => exact (sound.y value stated).2

theorem Sound.given?_of_focusPoint {placement : Placement} (sound : placement.Sound)
    (focus : placement.anchor = .focusPoint) (axis : Axis) :
    ∃ offset, placement.given? axis = some (.focusPoint, offset) := by
  obtain ⟨x, y⟩ := sound.focus focus
  cases axis with
  | x =>
      obtain ⟨offset, stated⟩ := Option.isSome_iff_exists.1 x
      exact ⟨offset, by simp [given?, stated, focus]⟩
  | y =>
      obtain ⟨offset, stated⟩ := Option.isSome_iff_exists.1 y
      exact ⟨offset, by simp [given?, stated, focus]⟩

/-- The last offset that is given was accepted by the anchor that it was given at. -/
theorem accepts_of_lastGiven? {placements : List Placement}
    (sound : ∀ placement ∈ placements, placement.Sound) {axis : Axis} {anchor : Anchor}
    {offset : Float} (last : lastGiven? axis placements = some (anchor, offset)) :
    anchor.acceptsOffset offset = true := by
  have mem := List.mem_of_getLast? last
  obtain ⟨placement, among, given⟩ := List.mem_filterMap.1 mem
  exact (sound placement among).accepts given

/-- Where the last placement is at the focus point, it gives the last offsets. -/
theorem lastGiven?_of_focusPoint {placements : List Placement}
    (sound : ∀ placement ∈ placements, placement.Sound)
    (focus : lastAnchor placements = .focusPoint) (axis : Axis) :
    ∃ offset, lastGiven? axis placements = some (.focusPoint, offset) := by
  cases ends : placements.getLast? with
  | none => simp [lastAnchor, ends] at focus
  | some last =>
      obtain ⟨earlier, rfl⟩ := List.getLast?_eq_some_iff.1 ends
      have anchored : last.anchor = .focusPoint := by simpa [lastAnchor] using focus
      have lastSound : last.Sound := sound last (by simp)
      obtain ⟨offset, given⟩ := lastSound.given?_of_focusPoint anchored axis
      exact ⟨offset, by simp [lastGiven?, given]⟩

end Placement

namespace Anchor

theorem acceptsOffset_zero (anchor : Anchor) : anchor.acceptsOffset 0.0 = true := by
  cases anchor <;> decide

/-- Apart from the center and the focus point, anchors accept the offsets that are zero or
greater. -/
theorem acceptsOffset_iff {anchor : Anchor} (center : anchor ≠ .center)
    (focus : anchor ≠ .focusPoint) (offset : Float) :
    anchor.acceptsOffset offset = true ↔ 0.0 ≤ offset := by
  cases anchor with
  | center => exact absurd rfl center
  | focusPoint => exact absurd rfl focus
  | _ => exact decide_eq_true_iff

theorem nonneg_of_acceptsOffset {anchor : Anchor} (center : anchor ≠ .center) {offset : Float}
    (accepted : anchor.acceptsOffset offset = true) : 0.0 ≤ offset := by
  by_cases focus : anchor = .focusPoint
  · subst focus
    simp only [acceptsOffset, Bool.and_eq_true] at accepted
    exact of_decide_eq_true accepted.1
  · exact (acceptsOffset_iff center focus offset).1 accepted

end Anchor

namespace Gravity

open Placement

theorem anchor_placeAll (gravity : Gravity) (placements : List Placement) :
    (gravity.placeAll placements).anchor =
      (placements.getLast?.map Placement.anchor).getD gravity.anchor := by
  induction placements generalizing gravity with
  | nil => rfl
  | cons placement placements ih =>
      rw [placeAll, List.foldl_cons, ← placeAll, ih, List.getLast?_cons]
      cases placements.getLast? <;> rfl

theorem along_placeAll (gravity : Gravity) (placements : List Placement) (axis : Axis) :
    (gravity.placeAll placements).along axis =
      ((lastGiven? axis placements).map Prod.snd).getD (gravity.along axis) := by
  induction placements generalizing gravity with
  | nil => rfl
  | cons placement placements ih =>
      have placed : (gravity.place placement).along axis =
          ((placement.given? axis).map Prod.snd).getD (gravity.along axis) := by
        cases axis with
        | x => cases stated : placement.x? <;> simp [place, along, given?, stated]
        | y => cases stated : placement.y? <;> simp [place, along, given?, stated]
      rw [placeAll, List.foldl_cons, ← placeAll, ih, placed, lastGiven?, lastGiven?]
      cases given : placement.given? axis with
      | none => simp [given]
      | some offset =>
          rw [List.filterMap_cons_some given, List.getLast?_cons]
          cases (placements.filterMap (Placement.given? axis)).getLast? <;> rfl

/-- Along one axis, the last offset and the last anchor fit exactly if the offset does not stray. -/
theorem accepts_along_placeAll_iff {placements : List Placement}
    (sound : ∀ placement ∈ placements, placement.Sound) (axis : Axis) :
    ((Gravity.at .center).placeAll placements).anchor.acceptsOffset
        (((Gravity.at .center).placeAll placements).along axis) = true ↔
      ¬ Strays axis placements := by
  -- the center accepts everything, the focus point only what it was given itself, and the other
  -- anchors accept what any anchor but the center accepts
  have anchored : ((Gravity.at .center).placeAll placements).anchor = lastAnchor placements :=
    anchor_placeAll _ _
  rw [anchored, along_placeAll]
  cases last : lastGiven? axis placements with
  | none =>
      have zero : (Gravity.at .center).along axis = 0.0 := by cases axis <;> rfl
      have fits := (lastAnchor placements).acceptsOffset_zero
      simp [Strays, last, zero, fits]
  | some given =>
      obtain ⟨anchor, offset⟩ := given
      have accepted := accepts_of_lastGiven? sound last
      simp only [Strays, last, Option.map_some, Option.getD_some, Option.some.injEq,
        Prod.mk.injEq]
      by_cases center : lastAnchor placements = .center
      · simp [center, Anchor.acceptsOffset]
      · by_cases focus : lastAnchor placements = .focusPoint
        · -- the last placement gave the offset itself
          obtain ⟨other, same⟩ := lastGiven?_of_focusPoint sound focus axis
          rw [last, Option.some.injEq, Prod.mk.injEq] at same
          obtain ⟨rfl, rfl⟩ := same
          simp [focus, accepted]
        · rw [Anchor.acceptsOffset_iff center focus]
          constructor
          · rintro nonneg ⟨_, ⟨_, rfl⟩, negative, _⟩
            exact negative nonneg
          · intro stays
            by_cases origin : anchor = .center
            · refine Decidable.byContradiction fun negative => ?_
              exact stays ⟨offset, ⟨origin, rfl⟩, negative, center⟩
            · exact Anchor.nonneg_of_acceptsOffset origin accepted

/-- The offsets that several placements leave are legal exactly if none of them strays. -/
theorem legal_placeAll_iff {placements : List Placement}
    (sound : ∀ placement ∈ placements, placement.Sound) :
    ((Gravity.at .center).placeAll placements).Legal ↔ ∀ axis, ¬ Strays axis placements := by
  rw [legal_iff]
  exact forall_congr' fun axis => accepts_along_placeAll_iff sound axis

end Gravity

end ImageRequest
