import ImageRequest.Proofs.Token

/-!
# How gravities are written

A gravity is written as the token of an anchor, followed by at most two offsets. There are as many
of them as the anchor takes, and it accepts each one. A list of tokens that is not of this form has
a fault, and the faults come in an order: the number of the tokens, the anchor, the number of
offsets for that anchor, the first offset, the second offset. Every list is placed or rejected for
its first fault (`map_place_eq_iff`).
-/

namespace ImageRequest

namespace Anchor

/-- How many offsets come with an anchor: the smart anchor has none, the focus point has both. -/
structure Takes (anchor : Anchor) (count : Nat) : Prop where
  smart : anchor = .smart → count = 0
  focusPoint : anchor = .focusPoint → count = 2

/-- A token writes an offset that the anchor accepts. -/
structure Reads (anchor : Anchor) (token : String) (offset : Float) : Prop where
  read : Numeral.float? token = some offset
  finite : offset.isFinite = true
  accepted : anchor.acceptsOffset offset = true

variable {anchor : Anchor}

theorem acceptsOffsetCount_iff {count : Nat} (few : count ≤ 2) :
    anchor.acceptsOffsetCount count = true ↔ anchor.Takes count := by
  constructor
  · intro counted
    refine ⟨?_, ?_⟩ <;> rintro rfl <;> simpa [acceptsOffsetCount] using counted
  · rintro ⟨smart, focusPoint⟩
    cases anchor with
    | smart => simpa [acceptsOffsetCount] using smart
    | focusPoint => simpa [acceptsOffsetCount] using focusPoint
    | _ => exact decide_eq_true few

end Anchor

namespace Gravity

/-- The offset along an axis after a placement at an anchor: what its token writes or, without a
token, the one that was there before. -/
inductive OffsetAfter (anchor : Anchor) (before : Float) : Option String → Float → Prop where
  | omitted : OffsetAfter anchor before none before
  | given {token : String} {offset : Float} (read : anchor.Reads token offset) :
      OffsetAfter anchor before (some token) offset

/-- Some tokens place a gravity. -/
structure Placed (before : Gravity) (tokens : List String) (after : Gravity) : Prop where
  length : 1 ≤ tokens.length ∧ tokens.length ≤ 3
  anchor : tokens.head? = some after.anchor.token
  smart : after.anchor = .smart → tokens.length = 1
  focusPoint : after.anchor = .focusPoint → tokens.length = 3
  x : OffsetAfter after.anchor before.x tokens[1]? after.x
  y : OffsetAfter after.anchor before.y tokens[2]? after.y

end Gravity

namespace Placement

/-- The first fault of some tokens, and what is reported for it. Of the tokens behind the fault
nothing is asked. -/
inductive Fault : List String → Rejection → Prop where
  | count {tokens : List String} (wrong : ¬ (1 ≤ tokens.length ∧ tokens.length ≤ 3)) :
      Fault tokens (.invalidArguments "gravity" tokens)
  | anchor {word : String} {offsets : List String} (few : offsets.length ≤ 2)
      (unknown : ∀ anchor : Anchor, anchor.token ≠ word) :
      Fault (word :: offsets) (.invalidValue "gravity" word)
  | arity {anchor : Anchor} {offsets : List String} (few : offsets.length ≤ 2)
      (wrong : ¬ anchor.Takes offsets.length) :
      Fault (anchor.token :: offsets) (.invalidArguments "gravity" (anchor.token :: offsets))
  | x {anchor : Anchor} {x : String} {rest : List String} (few : rest.length ≤ 1)
      (taken : anchor.Takes (rest.length + 1)) (unreadable : ∀ offset, ¬ anchor.Reads x offset) :
      Fault (anchor.token :: x :: rest) (.invalidValue "gravity X" x)
  | y {anchor : Anchor} {x y : String} {offset : Float} (taken : anchor.Takes 2)
      (read : anchor.Reads x offset) (unreadable : ∀ offset, ¬ anchor.Reads y offset) :
      Fault [anchor.token, x, y] (.invalidValue "gravity Y" y)

variable {anchor : Anchor} {field token : String} {tokens offsets : List String}
  {rejection : Rejection}

theorem offset_eq_ok_iff {x : Float} :
    Placement.offset anchor field token = .ok x ↔ anchor.Reads token x := by
  rw [Placement.offset, Token.floatWith, Token.require_eq_ok, Option.filter_eq_some_iff]
  constructor
  · rintro ⟨read, accepted⟩
    exact ⟨read, Numeral.isFinite_of_float? read, accepted⟩
  · rintro ⟨read, -, accepted⟩
    exact ⟨read, accepted⟩

theorem offset?_of_reads {x : Float} (read : anchor.Reads token x) :
    Placement.offset? anchor field (some token) = .ok (some x) := by
  rw [Placement.offset?, offset_eq_ok_iff.2 read]
  rfl

theorem offset?_of_unreadable (unreadable : ∀ x, ¬ anchor.Reads token x) :
    Placement.offset? anchor field (some token) = .error (.invalidValue field token) := by
  cases value : Placement.offset anchor field token with
  | ok x => exact absurd (offset_eq_ok_iff.1 value) (unreadable x)
  | error rejection =>
      rw [Placement.offset?, value, Token.require_eq_error value]
      rfl

/-- Without a token, the earlier offset is the one after the placement. -/
theorem exists_offset?_of_offsetAfter (field : String) {token? : Option String}
    {before after : Float} (settled : Gravity.OffsetAfter anchor before token? after) :
    ∃ offset?, Placement.offset? anchor field token? = .ok offset? ∧
      offset?.getD before = after := by
  cases settled with
  | omitted => exact ⟨none, rfl, rfl⟩
  | given read => exact ⟨some after, offset?_of_reads read, rfl⟩

/-- Behind an anchor with as many offsets as it takes, all that is left is to read these. -/
theorem ofTokens_token (few : offsets.length ≤ 2) (taken : anchor.Takes offsets.length) :
    ofTokens (anchor.token :: offsets) =
      (Placement.offset? anchor "gravity X" offsets[0]?).bind fun x? =>
        (Placement.offset? anchor "gravity Y" offsets[1]?).map fun y? => { anchor, x?, y? } := by
  have counted := (Anchor.acceptsOffsetCount_iff few).2 taken
  rw [ofTokens, if_neg (Nat.not_lt.2 few), Token.anchor, anchor.ofToken?_token]
  simp only [Token.require, bind, Except.bind, if_pos counted]
  rfl

theorem ofTokens_of_fault (fault : Fault tokens rejection) : ofTokens tokens = .error rejection := by
  cases fault with
  | count wrong =>
      cases tokens with
      | nil => rfl
      | cons word offsets =>
          have many : 2 < offsets.length := by
            rw [List.length_cons] at wrong
            omega
          rw [ofTokens, if_pos many]
  | @anchor word offsets few unknown =>
      have unnamed : Anchor.ofToken? word = none :=
        Option.eq_none_iff_forall_ne_some.2 fun anchor named =>
          unknown anchor (Anchor.ofToken?_eq_some_iff.1 named)
      rw [ofTokens, if_neg (Nat.not_lt.2 few), Token.anchor, unnamed]
      rfl
  | @arity anchor offsets few wrong =>
      have counted := mt (Anchor.acceptsOffsetCount_iff few).1 wrong
      rw [ofTokens, if_neg (Nat.not_lt.2 few), Token.anchor, anchor.ofToken?_token]
      simp only [Token.require, bind, Except.bind, if_neg counted]
  | @x anchor x rest few taken unreadable =>
      have most : (x :: rest).length ≤ 2 := Nat.succ_le_succ few
      rw [ofTokens_token most taken, List.getElem?_cons_zero, offset?_of_unreadable unreadable]
      rfl
  | @y anchor x y offset taken read unreadable =>
      have most : [x, y].length ≤ 2 := Nat.le_refl 2
      rw [ofTokens_token most taken, List.getElem?_cons_zero, List.getElem?_cons_succ,
        List.getElem?_cons_zero, offset?_of_reads read, offset?_of_unreadable unreadable]
      rfl

theorem map_place_of_placed {before after : Gravity} (placed : before.Placed tokens after) :
    (ofTokens tokens).map before.place = .ok after := by
  obtain ⟨⟨-, most⟩, named, smart, focusPoint, settledX, settledY⟩ := placed
  obtain ⟨offsets, rfl⟩ := List.head?_eq_some_iff.1 named
  rw [List.length_cons] at most smart focusPoint
  have taken : after.anchor.Takes offsets.length :=
    ⟨fun same => Nat.succ.inj (smart same), fun same => Nat.succ.inj (focusPoint same)⟩
  rw [List.getElem?_cons_succ] at settledX settledY
  obtain ⟨x?, readX, x⟩ := exists_offset?_of_offsetAfter "gravity X" settledX
  obtain ⟨y?, readY, y⟩ := exists_offset?_of_offsetAfter "gravity Y" settledY
  rw [ofTokens_token (Nat.le_of_succ_le_succ most) taken, readX, readY]
  simp only [Except.bind, Except.map, Gravity.place, x, y]

theorem placed_of_takes {before : Gravity} (few : offsets.length ≤ 2)
    (taken : anchor.Takes offsets.length) {x y : Float}
    (settledX : Gravity.OffsetAfter anchor before.x offsets[0]? x)
    (settledY : Gravity.OffsetAfter anchor before.y offsets[1]? y) :
    before.Placed (anchor.token :: offsets) { anchor, x, y } where
  length := ⟨Nat.succ_pos _, Nat.succ_le_succ few⟩
  anchor := rfl
  smart same := congrArg Nat.succ (taken.smart same)
  focusPoint same := congrArg Nat.succ (taken.focusPoint same)
  x := settledX
  y := settledY

/-- Behind an anchor with as many offsets as it takes, only the offsets can be at fault. -/
theorem placed_or_fault_of_takes (before : Gravity) (few : offsets.length ≤ 2)
    (taken : anchor.Takes offsets.length) :
    (∃ after, before.Placed (anchor.token :: offsets) after) ∨
      ∃ rejection, Fault (anchor.token :: offsets) rejection := by
  cases offsets with
  | nil => exact .inl ⟨_, placed_of_takes few taken .omitted .omitted⟩
  | cons x rest =>
      by_cases readX : ∃ offset, anchor.Reads x offset
      · obtain ⟨offsetX, readX⟩ := readX
        cases rest with
        | nil => exact .inl ⟨_, placed_of_takes few taken (.given readX) .omitted⟩
        | cons y more =>
            obtain rfl : more = [] := by
              rw [List.length_cons, List.length_cons] at few
              exact List.length_eq_zero_iff.1 (by omega)
            by_cases readY : ∃ offset, anchor.Reads y offset
            · obtain ⟨offsetY, readY⟩ := readY
              exact .inl ⟨_, placed_of_takes few taken (.given readX) (.given readY)⟩
            · exact .inr ⟨_, .y taken readX (not_exists.1 readY)⟩
      · exact .inr ⟨_, .x (Nat.le_of_succ_le_succ few) taken (not_exists.1 readX)⟩

/-- Every list of tokens places the gravity or has a fault. -/
theorem placed_or_fault (before : Gravity) (tokens : List String) :
    (∃ after, before.Placed tokens after) ∨ ∃ rejection, Fault tokens rejection := by
  by_cases count : 1 ≤ tokens.length ∧ tokens.length ≤ 3
  · obtain ⟨word, offsets, rfl⟩ := List.exists_cons_of_length_pos count.1
    have few : offsets.length ≤ 2 := Nat.le_of_succ_le_succ count.2
    by_cases known : ∃ anchor : Anchor, anchor.token = word
    · obtain ⟨anchor, rfl⟩ := known
      by_cases taken : anchor.Takes offsets.length
      · exact placed_or_fault_of_takes before few taken
      · exact .inr ⟨_, .arity few taken⟩
    · exact .inr ⟨_, .anchor few (not_exists.1 known)⟩
  · exact .inr ⟨_, .count count⟩

/-- Tokens are rejected for their first fault. -/
theorem ofTokens_eq_error_iff : ofTokens tokens = .error rejection ↔ Fault tokens rejection := by
  refine ⟨fun rejected => ?_, ofTokens_of_fault⟩
  rcases placed_or_fault (.at .center) tokens with ⟨after, placed⟩ | ⟨first, fault⟩
  · cases rejected ▸ map_place_of_placed placed
  · cases rejected.symm.trans (ofTokens_of_fault fault)
    exact fault

theorem map_place_eq_ok_iff {before after : Gravity} :
    (ofTokens tokens).map before.place = .ok after ↔ before.Placed tokens after := by
  refine ⟨fun read => ?_, map_place_of_placed⟩
  rcases placed_or_fault before tokens with ⟨other, placed⟩ | ⟨first, fault⟩
  · cases read.symm.trans (map_place_of_placed placed)
    exact placed
  · cases ofTokens_of_fault fault ▸ read

end Placement

/-- Some tokens place a gravity exactly if they are written in the form of a placement, and the
gravity is then the one that they write. Of all other tokens the first fault is reported. -/
theorem Gravity.map_place_eq_iff (before : Gravity) (tokens : List String) :
    (∀ after : Gravity, (Placement.ofTokens tokens).map before.place = .ok after ↔
      before.Placed tokens after) ∧
    ∀ rejection : Rejection, (Placement.ofTokens tokens).map before.place = .error rejection ↔
      Placement.Fault tokens rejection := by
  refine ⟨fun after => Placement.map_place_eq_ok_iff, fun rejection => ?_⟩
  rw [← Placement.ofTokens_eq_error_iff]
  cases Placement.ofTokens tokens <;> simp [Except.map]

/-- The smart anchor comes without offsets, so that it makes no difference that this one is none. -/
example : Placement.ofTokens ["sm", "?"] = .error (.invalidArguments "gravity" ["sm", "?"]) := rfl

end ImageRequest
