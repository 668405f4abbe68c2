import ImageRequest.Gravity

/-!
# What tokens are read as

A token that is read has a value within the bounds of its reader, and doubles that are read are
finite. A placement that is read has offsets that its own anchor accepts, and both of them where
the anchor is the focus point.
-/

namespace ImageRequest

/-- A double that is finite and not negative. -/
def IsAmount (x : Float) : Prop :=
  x.isFinite = true ∧ 0.0 ≤ x

/-- The anchor that is read from a token is the one with that token. -/
theorem Anchor.ofToken?_eq_some_iff {token : String} {anchor : Anchor} :
    ofToken? token = some anchor ↔ anchor.token = token := by
  constructor
  · intro named
    simpa using List.find?_some named
  · rintro rfl
    exact anchor.ofToken?_token

namespace Token

@[simp] theorem require_eq_ok {α : Type} {field token : String} {value? : Option α} {value : α} :
    require field token value? = .ok value ↔ value? = some value := by
  cases value? <;> simp [require]

theorem require_eq_error_iff {α : Type} {field token : String} {value? : Option α}
    {rejection : Rejection} :
    require field token value? = .error rejection ↔
      rejection = .invalidValue field token ∧ value? = none := by
  cases value? <;> simp [require, eq_comm]

theorem require_eq_error {α : Type} {field token : String} {value? : Option α}
    {rejection : Rejection} (refused : require field token value? = .error rejection) :
    rejection = .invalidValue field token :=
  (require_eq_error_iff.1 refused).1

/-- A double that is read is finite and satisfies the condition of its reader. -/
theorem floatWith_eq_ok {condition : Float → Bool} {field token : String} {x : Float}
    (read : floatWith condition field token = .ok x) :
    x.isFinite = true ∧ condition x = true := by
  rw [floatWith, require_eq_ok, Option.filter_eq_some_iff] at read
  exact ⟨Numeral.isFinite_of_float? read.1, read.2⟩

theorem positiveFloat_eq_ok {field token : String} {x : Float}
    (read : positiveFloat field token = .ok x) : x.isFinite = true ∧ 0.0 < x := by
  obtain ⟨finite, positive⟩ := floatWith_eq_ok read
  exact ⟨finite, of_decide_eq_true positive⟩

theorem nonNegativeFloat_eq_ok {field token : String} {x : Float}
    (read : nonNegativeFloat field token = .ok x) : IsAmount x := by
  obtain ⟨finite, nonNegative⟩ := floatWith_eq_ok read
  exact ⟨finite, of_decide_eq_true nonNegative⟩

theorem unitFloat_eq_ok {field token : String} {x : Float}
    (read : unitFloat field token = .ok x) : IsAmount x ∧ x ≤ 1.0 := by
  obtain ⟨finite, within⟩ := floatWith_eq_ok read
  rw [Bool.and_eq_true] at within
  exact ⟨⟨finite, of_decide_eq_true within.1⟩, of_decide_eq_true within.2⟩

theorem integer_eq_ok {field token : String} {n : Int} (read : integer field token = .ok n) :
    -9223372036854775808 ≤ n ∧ n ≤ 9223372036854775807 := by
  rw [integer, require_eq_ok, Numeral.intBetween?, Option.filter_eq_some_iff] at read
  simpa using read.2

theorem rotation_eq_ok {token : String} {angle : Int} (read : rotation token = .ok angle) :
    90 ∣ angle := by
  rw [rotation, require_eq_ok, Option.filter_eq_some_iff] at read
  exact Int.dvd_of_emod_eq_zero (of_decide_eq_true read.2)

theorem quality_eq_ok {token : String} {n : Nat} (read : quality token = .ok n) : n ≤ 100 := by
  rw [quality, require_eq_ok] at read
  exact Numeral.natUpTo?_le read

end Token

namespace Placement

/-- The offset of a placement along one of the axes is finite and accepted by its anchor. -/
def OffsetSound (placement : Placement) (offset? : Option Float) : Prop :=
  ∀ offset, offset? = some offset →
    offset.isFinite = true ∧ placement.anchor.acceptsOffset offset = true

/-- What holds of every placement that is read. -/
structure Sound (placement : Placement) : Prop where
  x : placement.OffsetSound placement.x?
  y : placement.OffsetSound placement.y?
  /-- The focus point comes with both of its coordinates. -/
  focus : placement.anchor = .focusPoint → placement.x?.isSome ∧ placement.y?.isSome

/-- An offset that may be missing is read as one that is finite and accepted. -/
theorem offset?_eq_ok {anchor : Anchor} {field : String} {token? : Option String}
    {offset? : Option Float} (read : Placement.offset? anchor field token? = .ok offset?) :
    (∀ offset, offset? = some offset →
      offset.isFinite = true ∧ anchor.acceptsOffset offset = true) ∧
    offset?.isSome = token?.isSome := by
  cases token? with
  | none =>
      cases read
      simp
  | some token =>
      cases value : Placement.offset anchor field token with
      | error rejection => simp [Placement.offset?, value, Except.map] at read
      | ok offset =>
          simp only [Placement.offset?, value, Except.map, Except.ok.injEq] at read
          subst read
          refine ⟨?_, rfl⟩
          rintro other same
          cases same
          exact Token.floatWith_eq_ok value

/-- What a placement is read from: the word of its anchor, and as many offsets as the anchor takes.
-/
theorem exists_of_ofTokens {tokens : List String} {placement : Placement}
    (read : ofTokens tokens = .ok placement) :
    ∃ word offsets, tokens = word :: offsets ∧
      placement.anchor.acceptsOffsetCount offsets.length = true ∧
      Placement.offset? placement.anchor "gravity X" offsets[0]? = .ok placement.x? ∧
      Placement.offset? placement.anchor "gravity Y" offsets[1]? = .ok placement.y? := by
  cases tokens with
  | nil => simp [ofTokens] at read
  | cons word offsets =>
      simp only [ofTokens] at read
      split at read
      · cases read
      · cases named : Token.anchor word with
        | error rejection => simp [named, bind, Except.bind] at read
        | ok anchor =>
            simp only [named, bind, Except.bind] at read
            split at read
            · rename_i counted
              cases readX : Placement.offset? anchor "gravity X" offsets[0]? with
              | error rejection => simp [readX] at read
              | ok x? =>
                  cases readY : Placement.offset? anchor "gravity Y" offsets[1]? with
                  | error rejection => simp [readX, readY] at read
                  | ok y? =>
                      simp only [readX, readY, pure, Except.pure, Except.ok.injEq] at read
                      subst read
                      exact ⟨word, offsets, rfl, counted, readX, readY⟩
            · cases read

theorem sound_of_ofTokens {tokens : List String} {placement : Placement}
    (read : ofTokens tokens = .ok placement) : placement.Sound := by
  obtain ⟨word, offsets, -, counted, readX, readY⟩ := exists_of_ofTokens read
  obtain ⟨soundX, givenX⟩ := offset?_eq_ok readX
  obtain ⟨soundY, givenY⟩ := offset?_eq_ok readY
  refine ⟨soundX, soundY, fun focus => ?_⟩
  have both : offsets.length = 2 := by
    simpa [Anchor.acceptsOffsetCount, focus] using counted
  simp [givenX, givenY, both]

end Placement

end ImageRequest
